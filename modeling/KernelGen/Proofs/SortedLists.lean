import KernelGen.Text.Sorted
import Mathlib

/-!
# Sorted lists as sets

For a strict total order, sorting without repetition gives the one increasing list that has the
members of the given one.

* `mem_sortDistinct`, `pairwise_sortDistinct`: the members stay, and they increase strictly.
* `sortDistinct_congr`: so neither the order of a list nor what it repeats makes a difference.
* `Text.least?_eq_some_iff`: the head of the sorted list is the least member.
-/

namespace KernelGen

variable {α : Type} {lt : α → α → Bool} [IsStrictTotalOrder α (fun a b => lt a b = true)]

/-- An insertion adds one element and drops none. -/
theorem mem_insertSorted {a x : α} {l : List α} : x ∈ insertSorted lt a l ↔ x = a ∨ x ∈ l := by
  induction l with
  | nil => simp [insertSorted]
  | cons b bs ih =>
    rw [insertSorted]
    split_ifs with hab hba
    · rw [List.mem_cons]
    · rw [List.mem_cons, ih, List.mem_cons, or_left_comm]
    · -- Neither is below the other, so the member is there already.
      have heq : a = b := Std.Trichotomous.trichotomous (r := fun a b => lt a b = true) a b hab hba
      rw [heq, List.mem_cons, or_self_left]

/-- Sorting neither adds nor loses an element. -/
theorem mem_sortDistinct {x : α} {l : List α} : x ∈ sortDistinct lt l ↔ x ∈ l := by
  induction l with
  | nil => rfl
  | cons a l ih =>
    rw [List.mem_cons, ← ih]
    exact mem_insertSorted

/-- A list stays sorted and without repetitions under an insertion. -/
theorem pairwise_insertSorted (a : α) {l : List α} (h : l.Pairwise fun x y => lt x y = true) :
    (insertSorted lt a l).Pairwise fun x y => lt x y = true := by
  induction l with
  | nil => exact List.pairwise_singleton _ a
  | cons b bs ih =>
    obtain ⟨hb, hbs⟩ := List.pairwise_cons.1 h
    rw [insertSorted]
    split_ifs with hab hba
    · refine List.pairwise_cons.2 ⟨fun x hx => ?_, h⟩
      rcases List.mem_cons.1 hx with rfl | hx
      · exact hab
      · exact IsTrans.trans (r := fun a b => lt a b = true) a b x hab (hb x hx)
    · refine List.pairwise_cons.2 ⟨fun x hx => ?_, ih hbs⟩
      rcases mem_insertSorted.1 hx with rfl | hx
      · exact hba
      · exact hb x hx
    · exact h

/-- A sorted list increases strictly. -/
theorem pairwise_sortDistinct (l : List α) :
    (sortDistinct lt l).Pairwise fun x y => lt x y = true := by
  induction l with
  | nil => exact .nil
  | cons a l ih => exact pairwise_insertSorted a ih

/-- Lists with the same members are sorted alike. -/
theorem sortDistinct_congr {l m : List α} (h : ∀ x, x ∈ l ↔ x ∈ m) :
    sortDistinct lt l = sortDistinct lt m := by
  have hasymm : Std.Antisymm fun a b : α => lt a b = true :=
    ⟨fun a b hab hba => absurd (IsTrans.trans (r := fun a b => lt a b = true) a b a hab hba)
      (Std.Irrefl.irrefl (r := fun a b => lt a b = true) a)⟩
  refine (pairwise_sortDistinct l).eq_of_mem_iff (pairwise_sortDistinct m) fun x => ?_
  rw [mem_sortDistinct, mem_sortDistinct, h]

/-- Strings are totally ordered. -/
instance : IsStrictTotalOrder String (fun a b => Text.before a b = true) where
  irrefl a h := lt_irrefl a (of_decide_eq_true h)
  trans a b c hab hbc := decide_eq_true ((of_decide_eq_true hab).trans (of_decide_eq_true hbc))
  trichotomous a b hab hba := by
    refine le_antisymm (le_of_not_gt fun h => hba ?_) (le_of_not_gt fun h => hab ?_)
    · exact decide_eq_true h
    · exact decide_eq_true h

namespace Text

/-- Every list but the empty one has a least text. -/
theorem least?_eq_none_iff {l : List String} : least? l = none ↔ l = [] := by
  rw [least?, List.head?_eq_none_iff, List.eq_nil_iff_forall_not_mem,
    List.eq_nil_iff_forall_not_mem]
  simp only [mem_sortDistinct]

/-- The least of some strings is the one that is below all. -/
theorem least?_eq_some_iff {l : List String} {a : String} :
    least? l = some a ↔ a ∈ l ∧ ∀ x ∈ l, a ≤ x := by
  have hfirst : ∀ b, least? l = some b → b ∈ l ∧ ∀ x ∈ l, b ≤ x := by
    intro b hb
    obtain ⟨rest, hrest⟩ := List.head?_eq_some_iff.1 hb
    have hsorted : (sortDistinct before l).Pairwise fun x y => before x y = true :=
      pairwise_sortDistinct l
    rw [hrest] at hsorted
    refine ⟨mem_sortDistinct.1 (by rw [hrest]; exact List.mem_cons_self), fun x hx => ?_⟩
    have hmem : x ∈ sortDistinct before l := mem_sortDistinct.2 hx
    rw [hrest] at hmem
    rcases List.mem_cons.1 hmem with rfl | hmem
    · exact le_refl x
    · exact (of_decide_eq_true ((List.pairwise_cons.1 hsorted).1 x hmem)).le
  refine ⟨hfirst a, fun ⟨hmem, hle⟩ => ?_⟩
  cases h : least? l with
  | none =>
    rw [least?_eq_none_iff.1 h] at hmem
    cases hmem
  | some b =>
    obtain ⟨hb, hleb⟩ := hfirst b h
    rw [le_antisymm (hleb a hmem) (hle b hb)]

end Text

end KernelGen
