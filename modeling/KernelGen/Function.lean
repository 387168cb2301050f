/-!
# User functions, types and constants

What the front-end found in the annotated source: plain values that describe each user function,
its parameters, and the types and constants it may use.
-/

namespace KernelGen

/-- What a user function learns about the element it computes. -/
inductive Indexing where
  /-- Nothing. -/
  | none
  /-- Its position as one number. -/
  | linear
  /-- Its row and column. -/
  | rowCol
  deriving DecidableEq, Repr

namespace Indexing

/-- Every mode, in the order of declaration. -/
def all : List Indexing := [none, linear, rowCol]

/-- The name of a mode in manifests. -/
def name : Indexing → String
  | none => "none"
  | linear => "linear"
  | rowCol => "row_col"

end Indexing

/-- The side of the cross product along which an elementwise parameter runs. -/
inductive Side where
  | vertical
  | horizontal
  deriving DecidableEq, Repr

/-- The name of a side. -/
def Side.name : Side → String
  | .vertical => "vertical"
  | .horizontal => "horizontal"

/-- The kinds of containers that a user function may read at random. -/
inductive ContainerKind where
  | vector
  | matrix
  | sparseMatrix
  | matrixRow
  | tensor3
  | tensor4
  deriving DecidableEq, Repr

namespace ContainerKind

/-- Every kind, in the order of declaration. -/
def all : List ContainerKind :=
  [vector, matrix, sparseMatrix, matrixRow, tensor3, tensor4]

/-- The name of a kind in manifests and in generated names. -/
def name : ContainerKind → String
  | vector => "vector"
  | matrix => "matrix"
  | sparseMatrix => "sparse_matrix"
  | matrixRow => "matrix_row"
  | tensor3 => "tensor3"
  | tensor4 => "tensor4"

/-- The position of a kind in `all`. -/
def ordinal : ContainerKind → Nat
  | vector => 0
  | matrix => 1
  | sparseMatrix => 2
  | matrixRow => 3
  | tensor3 => 4
  | tensor4 => 5

/-- Whether the accessor of a container changes from one element to the next. -/
def isPerIteration (k : ContainerKind) : Bool :=
  k == matrixRow

end ContainerKind

/-- A parameter that takes one element of an input sequence. -/
structure ElementParam where
  /-- The name of the parameter. -/
  name : String
  /-- Its type in the kernel. -/
  type : String
  /-- The side along which it runs. -/
  side : Side := .vertical
  deriving DecidableEq, Repr

/-- A parameter that takes a whole container. -/
structure ContainerParam where
  /-- The name of the parameter. -/
  name : String
  /-- The type of the elements. -/
  type : String
  /-- The kind of the container. -/
  kind : ContainerKind
  deriving DecidableEq, Repr

/-- A parameter that takes one value for the whole launch. -/
structure ScalarParam where
  /-- The name of the parameter. -/
  name : String
  /-- Its type. -/
  type : String
  deriving DecidableEq, Repr

/-- A line of the annotated source. -/
structure SourceLocation where
  /-- The file. -/
  file : String
  /-- The line number. -/
  line : UInt32
  deriving DecidableEq, Repr

/-- A type that user functions refer to. -/
structure UserType where
  /-- The name of the type. -/
  name : String
  /-- The text that defines it. -/
  definition : String
  /-- The types whose definitions must come first. -/
  dependsOn : List String := []
  deriving DecidableEq, Repr

/-- A constant that is visible to every user function. -/
structure UserConstant where
  /-- The name of the constant. -/
  name : String
  /-- The name of its type. -/
  typeName : String
  /-- The text of its value. -/
  definition : String
  deriving DecidableEq, Repr

/-- A user function. -/
structure UserFunction where
  /-- The name in the annotated source. -/
  name : String
  /-- The name that tells it apart from every other function. -/
  uniqueName : String
  /-- The type of its result. -/
  returnType : String
  /-- What it learns about its position. -/
  indexing : Indexing := .none
  /-- The name of the parameter that receives the position. -/
  indexParam : String := "index"
  /-- Whether it computes in double precision. -/
  requiresDouble : Bool := false
  /-- The elementwise parameters. -/
  elementwise : List ElementParam := []
  /-- The container parameters. -/
  containers : List ContainerParam := []
  /-- The scalar parameters. -/
  scalars : List ScalarParam := []
  /-- The user types that its text mentions. -/
  referencedTypes : List String := []
  /-- The functions it calls, by unique or plain name. -/
  calls : List String := []
  /-- The statements of its body. -/
  body : String
  /-- Where it was declared. -/
  location : Option SourceLocation := .none
  deriving DecidableEq, Repr

namespace UserFunction

/-- Whether a function has an index parameter. -/
def isIndexed (f : UserFunction) : Bool :=
  f.indexing != .none

/-- The number of vertical parameters. -/
def varity (f : UserFunction) : Nat :=
  (f.elementwise.filter (·.side == .vertical)).length

/-- The names of the parameters in declaration order: index, elementwise, containers, scalars. -/
def paramNames (f : UserFunction) : List String :=
  (if f.isIndexed then [f.indexParam] else []) ++ f.elementwise.map (·.name) ++
    f.containers.map (·.name) ++ f.scalars.map (·.name)

end UserFunction

end KernelGen
