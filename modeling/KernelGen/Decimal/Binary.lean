/-!
# Binary floating-point numbers

Numbers with a significand of a bounded number of bits, in exact arithmetic on natural numbers. A
magnitude is `significand * 2 ^ exponent`; `round` gives the magnitude of a format that is nearest
to a quotient, the even one of two, and none if the quotient is too great.
-/

namespace KernelGen.Decimal

/-- A floating-point format. -/
structure Format where
  /-- The number of bits of a significand. -/
  precision : Nat
  /-- The least exponent. -/
  minExponent : Int
  /-- The greatest exponent. -/
  maxExponent : Int
  deriving DecidableEq, Repr

/-- The format of 32 bits. -/
def single : Format := ⟨24, -149, 104⟩

/-- The format of 64 bits. -/
def double : Format := ⟨53, -1074, 971⟩

/-- The number `significand * 2 ^ exponent`. -/
structure Magnitude where
  /-- The significand. -/
  significand : Nat
  /-- The exponent. -/
  exponent : Int
  deriving DecidableEq, Repr

/-- A floating-point value. -/
inductive Value where
  /-- No number. -/
  | nan
  /-- Beyond every number, on one side. -/
  | infinite (negative : Bool)
  /-- A number with a sign; zero has one too. -/
  | finite (negative : Bool) (magnitude : Magnitude)
  deriving DecidableEq, Repr

/-- The quotient rounded to the nearest natural number, the even one of two. -/
def roundDiv (num den : Nat) : Nat :=
  let k := num / den
  let r := 2 * (num % den)
  if r < den then k
  else if den < r then k + 1
  else if k % 2 = 0 then k else k + 1

/-- The pair of numbers whose quotient is `num / den / base ^ e`. -/
def scale (base num den : Nat) (e : Int) : Nat × Nat :=
  if 0 ≤ e then (num, den * Nat.pow base e.toNat) else (num * Nat.pow base (-e).toNat, den)

/-- The greatest `e` with `2 ^ e ≤ num / den`, for a positive quotient. -/
def log2Div (num den : Nat) : Int :=
  let d : Int := (Nat.log2 num : Int) - Nat.log2 den
  let (n, m) := scale 2 num den d
  if n < m then d - 1 else d

/-- The magnitude nearest to a quotient, or none beyond the greatest. -/
def round (f : Format) (num den : Nat) : Option Magnitude :=
  if num = 0 then some ⟨0, f.minExponent⟩
  else
    let e := max f.minExponent (log2Div num den - (f.precision - 1))
    let (n, m) := scale 2 num den e
    let s := roundDiv n m
    let r : Magnitude :=
      if s = Nat.pow 2 f.precision then ⟨Nat.pow 2 (f.precision - 1), e + 1⟩ else ⟨s, e⟩
    if f.maxExponent < r.exponent then none else some r

namespace Magnitude

/-- A magnitude as a quotient. -/
def toQuotient (a : Magnitude) : Nat × Nat :=
  if 0 ≤ a.exponent then (a.significand * Nat.pow 2 a.exponent.toNat, 1)
  else (a.significand, Nat.pow 2 (-a.exponent).toNat)

/-- The product of two magnitudes, rounded. -/
def mul (f : Format) (a b : Magnitude) : Option Magnitude :=
  let (n, m) := a.toQuotient
  let (k, l) := b.toQuotient
  round f (n * k) (m * l)

/-- The quotient of two magnitudes, rounded. -/
def div (f : Format) (a b : Magnitude) : Option Magnitude :=
  let (n, m) := a.toQuotient
  let (k, l) := b.toQuotient
  round f (n * l) (m * k)

end Magnitude

namespace Value

/-- The value nearest to a signed quotient. -/
def ofQuotient (f : Format) (negative : Bool) (num den : Nat) : Value :=
  match round f num den with
  | none => .infinite negative
  | some m => .finite negative m

/-- A value in another format. -/
def convert (f : Format) : Value → Value
  | .finite negative m =>
    let (num, den) := m.toQuotient
    ofQuotient f negative num den
  | v => v

end Value

end KernelGen.Decimal
