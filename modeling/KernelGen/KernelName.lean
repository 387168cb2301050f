import KernelGen.Identifier
import KernelGen.Error

/-!
# Kernel names

The name of a kernel is a function of the output name, the skeleton, the user function and the
shape, so that generating the same program again gives the same names. The registry hands out the
names of one run and finds out when two instantiations would share one.
-/

namespace KernelGen

/-- The name of a kernel. -/
def kernelName (base : String) (skeleton : Skeleton) (function : String) (shape : Shape) : String :=
  Identifier.sanitize base ++ "_" ++ skeleton.kernelTag ++ "_" ++ function ++ "_Varity_" ++
    Word.numeral shape.varity ++ "_Harity_" ++ Word.numeral shape.harity

/-- The name of the host class that launches a kernel. -/
def wrapperName (kernel : String) : String :=
  "Wrapper_" ++ kernel

/-- The two names that belong to one instantiation. -/
structure KernelNames where
  /-- The kernel. -/
  kernel : String
  /-- Its host class. -/
  wrapper : String
  deriving DecidableEq, Repr

/-- The names of an instantiation under an output name. -/
def KernelNames.of (base : String) (i : Instantiation) : KernelNames :=
  let kernel := kernelName base i.skeleton i.function i.shape
  ⟨kernel, wrapperName kernel⟩

/-- The outcome of a registration. -/
inductive Registration where
  /-- The instantiation was not known. -/
  | new (names : KernelNames)
  /-- The instantiation was registered before. -/
  | existing (names : KernelNames)
  deriving DecidableEq, Repr

/-- The names handed out in one run. -/
structure NameRegistry where
  /-- The output name. -/
  base : String
  /-- Each kernel name with the instantiation that owns it. -/
  assigned : List (String × Instantiation) := []
  deriving DecidableEq, Repr

namespace NameRegistry

/-- The owner of a kernel name. -/
def owner? (r : NameRegistry) (kernel : String) : Option Instantiation :=
  r.assigned.lookup kernel

/-- Registers an instantiation: the outcome, and the registry after it. -/
def register (r : NameRegistry) (i : Instantiation) :
    Except GenError (Registration × NameRegistry) :=
  let names := KernelNames.of r.base i
  match r.owner? names.kernel with
  | none => .ok (.new names, { r with assigned := r.assigned ++ [(names.kernel, i)] })
  | some owner =>
    if owner = i then .ok (.existing names, r)
    else .error (.nameCollision names.kernel owner.describe i.describe)

/-- The number of names handed out. -/
def size (r : NameRegistry) : Nat :=
  r.assigned.length

end NameRegistry

end KernelGen
