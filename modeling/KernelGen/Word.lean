import KernelGen.Decimal.Natural

/-!
# Machine words

Sizes and counts are 64-bit words. Sums and products are checked: one that does not fit in a word
stops the computation with an `Abort`, which is no error of the data but the end of the operation.
-/

namespace KernelGen

/-- Why an operation was broken off. -/
inductive Abort where
  /-- A sum did not fit in a word. -/
  | addOverflow
  /-- A product did not fit in a word. -/
  | mulOverflow
  /-- A marked range of a source text ends before it starts. -/
  | reversedLabel
  deriving DecidableEq, Repr

/-- The text that names the reason. -/
def Abort.message : Abort → String
  | .addOverflow => "attempt to add with overflow"
  | .mulOverflow => "attempt to multiply with overflow"
  | .reversedLabel => "Label start is after its end"

namespace Word

/-- The number of values of a word. -/
abbrev bound : Nat := 18446744073709551616

/-- The sum of two words, if it is a word. -/
def add (a b : UInt64) : Except Abort UInt64 :=
  if a.toNat + b.toNat < bound then .ok (a + b) else .error .addOverflow

/-- A sum below the bound is a word. -/
theorem exists_add {a b : UInt64} (h : a.toNat + b.toNat < bound) :
    ∃ c, add a b = .ok c ∧ c.toNat = a.toNat + b.toNat := by
  have hsum : (a + b).toNat = a.toNat + b.toNat := by
    rw [UInt64.toNat_add, Nat.mod_eq_of_lt h]
  exact ⟨a + b, if_pos h, hsum⟩

/-- The sum of two words is a word exactly if the sum of their numbers is below the bound. -/
theorem add_eq_ok_iff {a b c : UInt64} :
    add a b = .ok c ↔ a.toNat + b.toNat < bound ∧ c.toNat = a.toNat + b.toNat := by
  by_cases h : a.toNat + b.toNat < bound
  · obtain ⟨s, hadd, hs⟩ := exists_add h
    rw [hadd, Except.ok.injEq, ← UInt64.toNat_inj, hs]
    exact ⟨fun hc => ⟨h, hc.symm⟩, fun hc => hc.2.symm⟩
  · simp [add, h]

/-- The sum of two words is broken off exactly if it reaches the bound. -/
theorem add_eq_error_iff {a b : UInt64} {r : Abort} :
    add a b = .error r ↔ r = .addOverflow ∧ bound ≤ a.toNat + b.toNat := by
  unfold add
  by_cases h : a.toNat + b.toNat < bound
  · simp [h]
  · simp [h, Nat.le_of_not_lt h, eq_comm]

/-- The product of two words, if it is a word. -/
def mul (a b : UInt64) : Except Abort UInt64 :=
  if a.toNat * b.toNat < bound then .ok (a * b) else .error .mulOverflow

/-- The sum of two words, or the greatest word if the sum is beyond it. -/
def saturatingAdd (a b : UInt64) : UInt64 :=
  if a.toNat + b.toNat < bound then a + b else UInt64.ofNat (bound - 1)

/-- The difference of two words, or zero if the second is the greater one. -/
def saturatingSub (a b : UInt64) : UInt64 :=
  if a < b then 0 else a - b

/-- The difference that stops at zero is that of the numbers. -/
theorem toNat_saturatingSub (a b : UInt64) : (saturatingSub a b).toNat = a.toNat - b.toNat := by
  unfold saturatingSub
  split
  · next h =>
    rw [UInt64.lt_iff_toNat_lt] at h
    rw [Nat.sub_eq_zero_of_le (Nat.le_of_lt h)]
    rfl
  · next h =>
    rw [UInt64.lt_iff_toNat_lt] at h
    exact UInt64.toNat_sub_of_le _ _ (UInt64.le_iff_toNat_le.2 (Nat.le_of_not_lt h))

/-- The lesser one of two words is that of their numbers. -/
theorem toNat_min (a b : UInt64) : (min a b).toNat = min a.toNat b.toNat := by
  change (if a ≤ b then a else b).toNat = _
  rw [Nat.min_def, apply_ite UInt64.toNat]
  rfl

/-- The greater one of two words is that of their numbers. -/
theorem toNat_max (a b : UInt64) : (max a b).toNat = max a.toNat b.toNat := by
  change (if a ≤ b then b else a).toNat = _
  rw [Nat.max_def, apply_ite UInt64.toNat]
  rfl

/-- The decimal numeral of a word. -/
def numeral (a : UInt64) : String :=
  Decimal.numeral a.toNat

end Word

end KernelGen
