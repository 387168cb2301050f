import KernelGen.Manifest.Fault

/-!
# Numbers in a manifest

An integer of 64 bits stays an integer; every other number is a floating-point number, made from
the first digits that fit in a word and a power of ten.
-/

namespace KernelGen.Manifest

/-- A number as it is written. -/
inductive Number where
  /-- A number without a sign that fits in a word. -/
  | natural (n : Nat)
  /-- A negative integer that fits in a signed word. -/
  | negative (n : Nat)
  /-- Any other number. -/
  | float (v : Decimal.Value)
  deriving DecidableEq, Repr

/-- The description of a number. -/
def Number.found : Number → Found
  | natural n => .integer n
  | negative n => .integer (-(n : Int))
  | float v => .float v

/-- The greatest number that fits in a word. -/
def maxWord : Nat := 18446744073709551615

/-- The greatest power of ten that is a double. -/
def maxPower : Nat := 308

/-- Takes digits as long as the number that they make, after `n`, fits in a word: that number, how
many they were, and the rest. -/
def takeDigits (n count : Nat) : List Char → Nat × Nat × List Char
  | [] => (n, count, [])
  | c :: cs =>
    if c.isDigit then
      let m := n * 10 + (c.toNat - 48)
      if m ≤ maxWord then takeDigits m (count + 1) cs else (n, count, c :: cs)
    else (n, count, c :: cs)

/-- Power of ten as a double. -/
def powerOfTen (k : Nat) : Decimal.Magnitude :=
  (Decimal.round Decimal.double (Nat.pow 10 k) 1).getD ⟨0, 0⟩

/-- A double divided by a power of ten, in steps of at most the greatest one. -/
def divPower (m : Decimal.Magnitude) (k : Nat) : Decimal.Magnitude :=
  if k ≤ maxPower then (m.div Decimal.double (powerOfTen k)).getD m
  else if m.significand = 0 then m
  else divPower ((m.div Decimal.double (powerOfTen maxPower)).getD m) (k - maxPower)
termination_by k
decreasing_by
  simp only [maxPower] at *
  omega

/-- The double for `n * 10 ^ e`, none if it is too great. -/
def ofParts (n : Nat) (e : Int) : Option Decimal.Magnitude :=
  match Decimal.round Decimal.double n 1 with
  | none => none
  | some m =>
    if e < 0 then some (divPower m (-e).toNat)
    else if e ≤ maxPower then m.mul Decimal.double (powerOfTen e.toNat)
    else if n = 0 then some m
    else none

/-- The floating-point number `n * 10 ^ e`, in front of `rest`. -/
def floatNumber (negative : Bool) (n : Nat) (e : Int) (rest : List Char) :
    Except Fault (Number × List Char) :=
  match ofParts n e with
  | some m => .ok (.float (.finite negative m), rest)
  | none => .error (.before .numberOutOfRange rest)

/-- The greatest exponent that is taken at its word. -/
def maxExponent : Nat := 2147483647

/-- Reads the digits of an exponent as long as they are within bounds: the exponent and the rest, or
the rest after the digit that leads beyond them. -/
def exponentDigits (n : Nat) : List Char → Except (List Char) (Nat × List Char)
  | [] => .ok (n, [])
  | c :: cs =>
    if c.isDigit then
      let m := n * 10 + (c.toNat - 48)
      if m ≤ maxExponent then exponentDigits m cs else .error cs
    else .ok (n, c :: cs)

/-- Reads an exponent, after its letter, and makes the number `n * 10 ^ (e + exponent)`. -/
def readExponent (negative : Bool) (n : Nat) (e : Int) (cs : List Char) :
    Except Fault (Number × List Char) :=
  let (down, cs) : Bool × List Char :=
    match cs with
    | '+' :: cs => (false, cs)
    | '-' :: cs => (true, cs)
    | cs => (false, cs)
  match cs with
  | [] => .error (.before .endInValue [])
  | c :: tail =>
    if c.isDigit then
      match exponentDigits (c.toNat - 48) tail with
      | .ok (k, rest) => floatNumber negative n (if down then e - k else e + k) rest
      | .error rest =>
        if n ≠ 0 ∧ !down then .error (.before .numberOutOfRange rest)
        else
          .ok (.float (.finite negative ⟨0, Decimal.double.minExponent⟩),
            rest.dropWhile Char.isDigit)
    else .error (.within .invalidNumber cs)

/-- Reads the digits after a decimal point, and what follows them. -/
def readFraction (negative : Bool) (n : Nat) (e : Int) (cs : List Char) :
    Except Fault (Number × List Char) :=
  let (m, count, more) := takeDigits n 0 cs
  let rest := more.dropWhile Char.isDigit
  if count = 0 ∧ rest.length = more.length then
    match rest with
    | [] => .error (.within .endInValue [])
    | _ => .error (.within .invalidNumber rest)
  else
    match rest with
    | 'e' :: rest | 'E' :: rest => readExponent negative m (e - count) rest
    | _ => floatNumber negative m (e - count) rest

/-- The integer `n` with a sign. Negative zero and integers that do not fit are doubles. -/
def integerNumber (negative : Bool) (n : Nat) : Number :=
  if !negative then .natural n
  else if 0 < n ∧ n ≤ 9223372036854775808 then .negative n
  else .float (Decimal.Value.ofQuotient Decimal.double true n 1)

/-- Reads a number, after its sign. -/
def readNumber (negative : Bool) : Reader Number := fun cs =>
  match cs with
  | [] => .error (.before .endInValue [])
  | c :: tail =>
    if !c.isDigit then .error (.within .invalidNumber cs)
    else if c = '0' ∧ tail.head?.any Char.isDigit then .error (.within .invalidNumber tail)
    else
      let (n, _, more) := takeDigits (c.toNat - 48) 0 tail
      let rest := more.dropWhile Char.isDigit
      let e : Int := more.length - rest.length
      match rest with
      | '.' :: rest => readFraction negative n e rest
      | 'e' :: rest | 'E' :: rest => readExponent negative n e rest
      | rest =>
        if e = 0 then .ok (integerNumber negative n, rest) else floatNumber negative n e rest

end KernelGen.Manifest
