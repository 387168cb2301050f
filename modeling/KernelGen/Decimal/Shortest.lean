import KernelGen.Decimal.Binary
import KernelGen.Decimal.Natural

/-!
# Shortest decimals

The decimal with the fewest digits that reads back as a given floating-point number. For each
number of digits in turn, the two decimals on either side of the number are tested against the
interval of all reals that round to it; of two that lie in it the nearer is taken.
-/

namespace KernelGen.Decimal

/-- The number `digits * 10 ^ exponent`. -/
structure Scientific where
  /-- The digits as one number. -/
  digits : Nat
  /-- The power of ten. -/
  exponent : Int
  deriving DecidableEq, Repr

/-- What is done when two decimals are equally near. -/
inductive Tie where
  /-- The greater one is taken. -/
  | up
  /-- The one with an even last digit is taken. -/
  | even
  deriving DecidableEq, Repr

/-- The greatest `e` with `10 ^ e ≤ num / den`, for a positive quotient. -/
def log10Div (num den : Nat) : Int :=
  if den ≤ num then (digits (num / den)).length - 1
  else
    let k := (digits (den / num)).length
    if den ≤ num * Nat.pow 10 (k - 1) then -((k : Int) - 1) else -(k : Int)

/-- The reals that round to a magnitude: its value and the ends of the interval, in units of a
quarter of its last place, and whether the ends belong to it. -/
structure Interval where
  low : Nat
  mid : Nat
  high : Nat
  closed : Bool

/-- The interval of a magnitude. Below a power of two numbers lie twice as close. -/
def Interval.of (f : Format) (m : Magnitude) : Interval where
  low := 4 * m.significand -
    (if m.significand = Nat.pow 2 (f.precision - 1) ∧ f.minExponent < m.exponent then 1 else 2)
  mid := 4 * m.significand
  high := 4 * m.significand + 2
  closed := m.significand % 2 == 0

/-- The decimal with the exponent `k` that reads back as the number, if there is one: the number
lies at `scaled / unit` on the grid of such decimals, and `factor` takes the interval there. -/
def onGrid? (i : Interval) (factor unit : Nat) (tie : Tie) : Option Nat :=
  let x := i.mid * factor
  let below := x / unit
  let hits (c : Nat) : Bool :=
    if i.closed then i.low * factor ≤ c * unit && c * unit ≤ i.high * factor
    else i.low * factor < c * unit && c * unit < i.high * factor
  let gap := 2 * (x - below * unit)
  let upper := below + 1
  match hits below, hits upper with
  | false, false => none
  | true, false => some below
  | false, true => some upper
  | true, true =>
    if gap < unit then some below
    else if unit < gap then some upper
    else
      match tie with
      | .up => some upper
      | .even => if below % 2 = 0 then some below else some upper

/-- The first decimal that reads back, going from the exponent `k` downwards at most `fuel`
steps. -/
def searchGrid (i : Interval) (num den : Nat) (tie : Tie) : Nat → Int → Scientific
  | 0, k => ⟨0, k⟩
  | fuel + 1, k =>
    let (factor, unit) := scale 10 num den k
    match onGrid? i factor unit tie with
    | some c => ⟨c, k⟩
    | none => searchGrid i num den tie fuel (k - 1)

/-- A decimal without zeros at the end of its digits; `fuel` bounds their number. -/
def dropZeros : Nat → Scientific → Scientific
  | 0, s => s
  | fuel + 1, s =>
    if s.digits % 10 = 0 ∧ s.digits ≠ 0 then dropZeros fuel ⟨s.digits / 10, s.exponent + 1⟩ else s

/-- The most digits that a number of either format needs. -/
def maxDigits : Nat := 17

/-- The shortest decimal that reads back as a positive magnitude. -/
def shortest (f : Format) (tie : Tie) (m : Magnitude) : Scientific :=
  let (num, den) := m.toQuotient
  let quarter : Magnitude := ⟨1, m.exponent - 2⟩
  let (n, d) := quarter.toQuotient
  dropZeros (maxDigits + 1) (searchGrid (Interval.of f m) n d tie maxDigits (log10Div num den))

end KernelGen.Decimal
