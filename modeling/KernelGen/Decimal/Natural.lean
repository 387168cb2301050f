/-!
# Decimal numerals of natural numbers

`digits n` is the numeral of `n` without leading zeros, and `value` reads a run of digits back.
-/

namespace KernelGen.Decimal

/-- The character of a digit. -/
def digit (d : Nat) : Char :=
  Char.ofNat (48 + d)

/-- The numeral of a number, the most significant digit first. -/
def digits (n : Nat) : List Char :=
  if n < 10 then [digit n] else digits (n / 10) ++ [digit (n % 10)]

/-- The value of a digit. -/
def digitValue (c : Char) : Nat :=
  c.toNat - 48

/-- The number that a run of digits denotes. -/
def value (cs : List Char) : Nat :=
  cs.foldl (fun n c => n * 10 + digitValue c) 0

/-- The numeral of a number, as a string. -/
def numeral (n : Nat) : String :=
  String.ofList (digits n)

/-- The numeral of an integer: a minus sign, if it is negative, then its absolute value. -/
def signedNumeral (z : Int) : String :=
  if z < 0 then "-" ++ numeral z.natAbs else numeral z.natAbs

end KernelGen.Decimal
