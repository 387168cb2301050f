import KernelGen.Kernel.Slot
import KernelGen.Launch.Argument

/-!
# Checking arguments

Whether the arguments of a launch fit the signature of a kernel: as many as there are slots, and
each of the slot's kind.
-/

namespace KernelGen

/-- Whether a slot takes an argument. -/
def Slot.accepts : Slot → Argument → Bool
  | buffer _ _, .buffer _ => true
  | size _, .size _ => true
  | scalar _ _, .scalar _ => true
  | _, _ => false

/-- How arguments fail to fit. -/
inductive Mismatch where
  /-- There are too many or too few. -/
  | count (expected got : Nat)
  /-- One is of the wrong kind. -/
  | kind (place : Nat) (slot : Slot) (arg : Argument)

/-- The text of a mismatch. -/
def Mismatch.message : Mismatch → String
  | count expected got =>
    "expected " ++ Decimal.numeral expected ++ " arguments, got " ++ Decimal.numeral got
  | kind place slot arg =>
    "argument " ++ Decimal.numeral place ++ " (" ++ slot.describe ++ ") cannot take " ++ arg.text

/-- The first argument that its slot does not take, counting from `place`. -/
def firstMismatch? (place : Nat) : List Slot → List Argument → Option Mismatch
  | slot :: slots, arg :: args =>
    if slot.accepts arg then firstMismatch? (place + 1) slots args
    else some (.kind place slot arg)
  | _, _ => none

/-- How some arguments fail to fit a signature, if they do. -/
def Signature.mismatch? (s : Signature) (args : List Argument) : Option Mismatch :=
  if args.length = s.slots.length then firstMismatch? 0 s.slots args
  else some (.count s.slots.length args.length)

end KernelGen
