import KernelGen.Decimal.Layout
import KernelGen.Word

/-!
# Launch arguments

The values that a host passes to a kernel, and the text that shows them in messages.
-/

namespace KernelGen

/-- A single value. -/
inductive Scalar where
  | i32 (n : Int32)
  | i64 (n : Int64)
  | u32 (n : UInt32)
  | u64 (n : UInt64)
  | f32 (v : Decimal.Value)
  | f64 (v : Decimal.Value)
  deriving DecidableEq

/-- Numbers in messages are positional down to four places after the point and up to sixteen digits
before it, and of two equally near decimals the greater one is taken. -/
def Scalar.floatLayout : Decimal.Layout := ⟨-4, 15, false, .up⟩

/-- The text of a value. -/
def Scalar.text : Scalar → String
  | i32 n => "I32(" ++ Decimal.signedNumeral n.toInt ++ ")"
  | i64 n => "I64(" ++ Decimal.signedNumeral n.toInt ++ ")"
  | u32 n => "U32(" ++ Decimal.numeral n.toNat ++ ")"
  | u64 n => "U64(" ++ Decimal.numeral n.toNat ++ ")"
  | f32 v => "F32(" ++ floatLayout.text Decimal.single v ++ ")"
  | f64 v => "F64(" ++ floatLayout.text Decimal.double v ++ ")"

/-- An argument of a launch. -/
inductive Argument where
  /-- A device buffer, by its handle. -/
  | buffer (handle : UInt64)
  /-- A size. -/
  | size (n : UInt64)
  /-- A value. -/
  | scalar (s : Scalar)
  deriving DecidableEq

/-- The text of an argument. -/
def Argument.text : Argument → String
  | buffer handle => "Buffer(BufferHandle(" ++ Word.numeral handle ++ "))"
  | size n => "Size(" ++ Word.numeral n ++ ")"
  | scalar s => "Scalar(" ++ s.text ++ ")"

/-- The sizes of a launch. -/
structure LaunchShape where
  /-- The width of a row. -/
  w : UInt64
  /-- The number of elements. -/
  n : UInt64
  /-- The length of the vertical side. -/
  vsize : UInt64
  /-- The length of the horizontal side. -/
  hsize : UInt64
  /-- The position of the first element. -/
  base : UInt64
  deriving DecidableEq, Repr

namespace LaunchShape

/-- The shape of a whole cross product. -/
def pairs (vsize hsize : UInt64) : Except Abort LaunchShape :=
  (Word.mul vsize hsize).map fun n => ⟨hsize, n, vsize, hsize, 0⟩

/-- The arguments that pass a shape to a kernel. -/
def args (s : LaunchShape) : List Argument :=
  [.size s.w, .size s.n, .size s.vsize, .size s.hsize, .size s.base]

end LaunchShape

end KernelGen
