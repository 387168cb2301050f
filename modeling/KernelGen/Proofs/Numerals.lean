import KernelGen.Word
import Mathlib

/-!
# Reading numerals back

A numeral consists of digits only and denotes its number (`Decimal.value_digits`), so different
numbers have different numerals.
-/

namespace KernelGen

namespace Decimal

/-- A digit has the value that it was written for. -/
theorem digitValue_digit : ∀ d < 10, digitValue (digit d) = d := by
  decide

/-- Every value below ten is written as a digit. -/
theorem isDigit_digit : ∀ d < 10, (digit d).isDigit = true := by
  decide

/-- A further digit multiplies the value by ten and adds its own. -/
theorem value_append_singleton (cs : List Char) (c : Char) :
    value (cs ++ [c]) = value cs * 10 + digitValue c := by
  simp [value]

/-- A numeral denotes its number. -/
theorem value_digits (n : Nat) : value (digits n) = n := by
  fun_induction digits n with
  | case1 n h =>
    have hd := digitValue_digit n h
    simpa [value] using hd
  | case2 n h ih =>
    rw [value_append_singleton, ih, digitValue_digit (n % 10) (Nat.mod_lt n (by omega))]
    omega

/-- Different numbers have different digits. -/
theorem digits_injective : Function.Injective digits := by
  intro n m h
  rw [← value_digits n, h, value_digits]

/-- A numeral consists of digits. -/
theorem isDigit_of_mem_digits {n : Nat} {c : Char} (h : c ∈ digits n) : c.isDigit = true := by
  fun_induction digits n with
  | case1 n hn =>
    obtain rfl := List.mem_singleton.1 h
    exact isDigit_digit n hn
  | case2 n hn ih =>
    rcases List.mem_append.1 h with h | h
    · exact ih h
    · obtain rfl := List.mem_singleton.1 h
      exact isDigit_digit (n % 10) (Nat.mod_lt n (by omega))

/-- No other character stands in a numeral. -/
theorem notMem_digits {n : Nat} {c : Char} (h : c.isDigit = false) : c ∉ digits n := by
  intro hmem
  simp [isDigit_of_mem_digits hmem] at h

/-- A numeral has at most `k + 1` digits if its number is below the power of ten with `k + 1`
zeros. -/
theorem length_digits_le_iff {n k : Nat} : (digits n).length ≤ k + 1 ↔ n < 10 ^ (k + 1) := by
  induction k generalizing n with
  | zero =>
    rw [digits]
    split_ifs with h
    · simp [h]
    · have hpos : 0 < (digits (n / 10)).length := by
        rw [digits]
        split_ifs <;> simp
      simp only [List.length_append, List.length_singleton]
      omega
  | succ k ih =>
    rw [digits]
    split_ifs with h
    · have hpow : 10 ≤ 10 ^ (k + 1 + 1) := Nat.le_self_pow (by omega) 10
      simp only [List.length_singleton]
      omega
    · -- One digit more is one power of ten more.
      rw [List.length_append, List.length_singleton, Nat.add_le_add_iff_right, ih,
        Nat.div_lt_iff_lt_mul (by omega), ← Nat.pow_succ]

end Decimal

namespace Word

/-- The numeral of a word is that of its number. -/
@[simp]
theorem toList_numeral (a : UInt64) : (numeral a).toList = Decimal.digits a.toNat :=
  String.toList_ofList

end Word

end KernelGen
