import KernelGen.Decimal.Shortest

/-!
# The text of floating-point numbers

A number is written with its shortest decimal, positionally if its leading digit has one of certain
exponents, and otherwise with an exponent. A `Layout` holds what a format of numbers may decide.
-/

namespace KernelGen.Decimal

/-- How numbers are written. -/
structure Layout where
  /-- The least exponent of a leading digit in positional notation. -/
  lowest : Int
  /-- The greatest exponent of a leading digit in positional notation. -/
  highest : Int
  /-- Whether positive exponents have a sign. -/
  plus : Bool
  /-- Which of two equally near decimals is taken. -/
  tie : Tie
  deriving DecidableEq, Repr

/-- Digits around a decimal point, at least one on each side. -/
def positional (ds : List Char) (lead : Int) : List Char :=
  if lead < 0 then
    ['0', '.'] ++ List.replicate ((-lead).toNat - 1) '0' ++ ds
  else
    let n := lead.toNat + 1
    let whole := ds.take n ++ List.replicate (n - ds.length) '0'
    let rest := ds.drop n
    whole ++ '.' :: (if rest.isEmpty then ['0'] else rest)

/-- Digits with a point after the first, and an exponent. -/
def exponential (plus : Bool) (ds : List Char) (lead : Int) : List Char :=
  let mantissa :=
    match ds with
    | [] => []
    | [d] => [d]
    | d :: rest => d :: '.' :: rest
  let sign := if lead < 0 then ['-'] else if plus then ['+'] else []
  mantissa ++ 'e' :: sign ++ digits lead.natAbs

/-- The text of a magnitude. -/
def Layout.magnitude (l : Layout) (f : Format) (m : Magnitude) : List Char :=
  if m.significand = 0 then ['0', '.', '0']
  else
    let s := shortest f l.tie m
    let ds := digits s.digits
    let lead := s.exponent + ds.length - 1
    if l.lowest ≤ lead ∧ lead ≤ l.highest then positional ds lead
    else exponential l.plus ds lead

/-- The text of a value. -/
def Layout.text (l : Layout) (f : Format) : Value → String
  | .nan => "NaN"
  | .infinite negative => if negative then "-inf" else "inf"
  | .finite negative m => String.ofList ((if negative then ['-'] else []) ++ l.magnitude f m)

end KernelGen.Decimal
