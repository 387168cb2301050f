/-!
# Argument slots and signatures

The arguments of a generated kernel, in order: those of the user function, then the output buffer
and the five sizes of the launch.
-/

namespace KernelGen

/-- One argument of a kernel. -/
inductive Slot where
  /-- A device buffer with elements of a type. -/
  | buffer (name elemType : String)
  /-- A size. -/
  | size (name : String)
  /-- A value of a type. -/
  | scalar (name type : String)
  deriving DecidableEq, Repr

namespace Slot

/-- The name of an argument. -/
def name : Slot → String
  | buffer name _ => name
  | size name => name
  | scalar name _ => name

/-- The text that describes an argument. -/
def describe : Slot → String
  | buffer name elemType => "buffer<" ++ elemType ++ "> " ++ name
  | size name => "size_t " ++ name
  | scalar name type => type ++ " " ++ name

end Slot

/-- The sizes that every launch passes last. -/
def launchTrailer : List String := ["w", "n", "Vsize", "Hsize", "base"]

/-- The arguments of a kernel. -/
structure Signature where
  /-- The arguments that come from the user function. -/
  userSlots : List Slot
  /-- The element type of the output. -/
  resultType : String
  deriving DecidableEq, Repr

/-- All arguments in order. -/
def Signature.slots (s : Signature) : List Slot :=
  s.userSlots ++ Slot.buffer "output" s.resultType :: launchTrailer.map Slot.size

end KernelGen
