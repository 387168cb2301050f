import KernelGen.Word

/-!
# Skeletons and their instantiations

A skeleton is a parallel pattern; an instantiation asks for one over a user function with a given
shape. The shape says how many of the function's elementwise parameters run along the vertical and
how many along the horizontal side of the cross product.
-/

namespace KernelGen

/-- The parallel patterns. -/
inductive Skeleton where
  | map
  | reduce1D
  | reduce2D
  | mapReduce
  | scan
  | mapOverlap1D
  | mapOverlap2D
  | mapOverlap3D
  | mapOverlap4D
  | mapPairs
  | mapPairsReduce
  | call
  deriving DecidableEq, Repr

namespace Skeleton

/-- Every skeleton, in the order of declaration. -/
def all : List Skeleton :=
  [map, reduce1D, reduce2D, mapReduce, scan, mapOverlap1D, mapOverlap2D, mapOverlap3D,
    mapOverlap4D, mapPairs, mapPairsReduce, call]

/-- The name by which manifests and messages know a skeleton. -/
def name : Skeleton → String
  | map => "Map"
  | reduce1D => "Reduce1D"
  | reduce2D => "Reduce2D"
  | mapReduce => "MapReduce"
  | scan => "Scan"
  | mapOverlap1D => "MapOverlap1D"
  | mapOverlap2D => "MapOverlap2D"
  | mapOverlap3D => "MapOverlap3D"
  | mapOverlap4D => "MapOverlap4D"
  | mapPairs => "MapPairs"
  | mapPairsReduce => "MapPairsReduce"
  | call => "Call"

/-- The part of a kernel's name that stands for the skeleton. -/
def kernelTag (s : Skeleton) : String :=
  s.name ++ "Kernel"

/-- The skeleton with a given name. -/
def ofName? (name : String) : Option Skeleton :=
  all.find? (·.name == name)

/-- The position of a skeleton in `all`. -/
def ordinal (s : Skeleton) : Nat :=
  all.idxOf s

/-- Whether a skeleton combines a vertical with a horizontal side. -/
def isPaired : Skeleton → Bool
  | mapPairs | mapPairsReduce => true
  | _ => false

end Skeleton

/-- How many elementwise parameters run along each side. -/
structure Shape where
  /-- The number of vertical parameters. -/
  varity : UInt64
  /-- The number of horizontal parameters. -/
  harity : UInt64
  deriving DecidableEq, Repr

/-- The number of elementwise parameters in all. -/
def Shape.arity (s : Shape) : Except Abort UInt64 :=
  Word.add s.varity s.harity

/-- A request for one kernel: a skeleton over a user function. -/
structure Instantiation where
  /-- The pattern. -/
  skeleton : Skeleton
  /-- The unique name of the user function. -/
  function : String
  /-- The number of vertical parameters. -/
  varity : UInt64 := 1
  /-- The number of horizontal parameters. -/
  harity : UInt64 := 1
  deriving DecidableEq, Repr

/-- The shape that an instantiation asks for. -/
def Instantiation.shape (i : Instantiation) : Shape :=
  ⟨i.varity, i.harity⟩

/-- A short description of an instantiation, for messages. -/
def Instantiation.describe (i : Instantiation) : String :=
  i.skeleton.name ++ " " ++ i.function ++ " (" ++ Word.numeral i.varity ++ "x" ++
    Word.numeral i.harity ++ ")"

end KernelGen
