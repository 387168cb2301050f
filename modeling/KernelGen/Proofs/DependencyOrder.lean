import Mathlib

/-!
# Lists in order of dependency

Functions, types and the vertices of a graph are all listed so that every item comes after those
that it needs. This module has what follows from that for any relation.

* `DependenciesFirst`: every item comes after all that it needs.
* `DependenciesFirst.mem_of_transGen`: then it comes after all that it needs in some steps.
* `DependenciesFirst.no_return`: so nothing that is listed leads back to its own kind.
-/

namespace KernelGen

open Relation (TransGen ReflTransGen)

variable {α : Type} {needs : α → α → Prop}

/-- Every item of a list comes after all that it needs. -/
def DependenciesFirst (needs : α → α → Prop) (l : List α) : Prop :=
  ∀ front x back, l = front ++ x :: back → ∀ y, needs x y → y ∈ front

namespace DependenciesFirst

/-- Nothing is out of order in an empty list. -/
theorem nil : DependenciesFirst needs [] := by
  intro front x back h
  simp at h

/-- An item may come last if all that it needs is there. -/
theorem snoc {l : List α} {x : α} (h : DependenciesFirst needs l)
    (hx : ∀ y, needs x y → y ∈ l) : DependenciesFirst needs (l ++ [x]) := by
  intro front z back hsplit y hy
  rcases List.eq_nil_or_concat back with rfl | ⟨back, last, rfl⟩
  · obtain ⟨rfl, hz⟩ := List.append_inj' hsplit rfl
    obtain rfl := List.singleton_inj.1 hz
    exact hx y hy
  · rw [List.concat_eq_append, ← List.cons_append, ← List.append_assoc] at hsplit
    exact h front z back (List.append_inj' hsplit rfl).1 y hy

/-- A list may go on with others if each finds what it needs in front of it. -/
theorem append {l m : List α} (h : DependenciesFirst needs l)
    (hm : ∀ front x back, m = front ++ x :: back → ∀ y, needs x y → y ∈ l ++ front) :
    DependenciesFirst needs (l ++ m) := by
  induction m using List.reverseRecOn with
  | nil => rwa [List.append_nil]
  | append_singleton m x ih =>
    rw [← List.append_assoc]
    refine (ih fun front z back hsplit => ?_).snoc (hm m x [] rfl)
    refine hm front z (back ++ [x]) ?_
    rw [hsplit, List.append_assoc, List.cons_append]

/-- An item comes after all that it needs in some steps. -/
theorem mem_of_transGen {l front back : List α} {x y : α} (h : DependenciesFirst needs l)
    (hsplit : l = front ++ x :: back) (hxy : TransGen needs x y) : y ∈ front := by
  induction hxy with
  | single hy => exact h front x back hsplit _ hy
  | tail _ hyz ih =>
    obtain ⟨before, after, rfl⟩ := List.append_of_mem ih
    have hz := h before _ (after ++ x :: back)
      (by rw [hsplit, List.append_assoc, List.cons_append]) _ hyz
    exact List.mem_append_left _ hz

/-- All that a listed item needs in some steps is listed. -/
theorem mem_of_mem {l : List α} {x y : α} (h : DependenciesFirst needs l) (hx : x ∈ l)
    (hxy : ReflTransGen needs x y) : y ∈ l := by
  rcases Relation.reflTransGen_iff_eq_or_transGen.1 hxy with rfl | hxy
  · exact hx
  · obtain ⟨front, back, hsplit⟩ := List.append_of_mem hx
    rw [hsplit]
    exact List.mem_append_left _ (h.mem_of_transGen hsplit hxy)

/-- If every listed item of a kind led to another of that kind, there would be none: each would
have one in front of it. -/
theorem no_return {l : List α} {P : α → Prop} (h : DependenciesFirst needs l)
    (hP : ∀ x, P x → ∃ y, TransGen needs x y ∧ P y) {x : α} (hx : x ∈ l) : ¬ P x := by
  obtain ⟨front, back, hsplit⟩ := List.append_of_mem hx
  -- The induction is on what stands in front of the item.
  induction hlen : front.length using Nat.strongRecOn generalizing front x back with
  | ind k ih =>
    intro hPx
    obtain ⟨y, hxy, hPy⟩ := hP x hPx
    have hy : y ∈ front := h.mem_of_transGen hsplit hxy
    obtain ⟨before, after, rfl⟩ := List.append_of_mem hy
    refine ih before.length ?_ ?_ before (after ++ x :: back) ?_ rfl hPy
    · rw [← hlen, List.length_append, List.length_cons]
      omega
    · rw [hsplit]
      simp
    · rw [hsplit, List.append_assoc, List.cons_append]

end DependenciesFirst

end KernelGen
