/-!
# Searching a text

Occurrences of one text in another. `after? t s` is the rest of `s` behind a leading `t`, and
`cut? t s` cuts `s` at its leftmost occurrence of `t`.
-/

namespace KernelGen.Text

/-- What follows `t` in a text that begins with it. -/
def after? : List Char → List Char → Option (List Char)
  | [], s => some s
  | _ :: _, [] => none
  | c :: t, d :: s => if c = d then after? t s else none

/-- The parts of a text before and after the leftmost occurrence of `t`. -/
def cut? (t : List Char) : List Char → Option (List Char × List Char)
  | [] => (after? t []).map fun rest => ([], rest)
  | c :: s =>
    match after? t (c :: s) with
    | some rest => some ([], rest)
    | none => (cut? t s).map fun (before, rest) => (c :: before, rest)

/-- A text begins with `t` exactly if it is `t` and a rest. -/
theorem after?_eq_some_iff {t s rest : List Char} : after? t s = some rest ↔ s = t ++ rest := by
  induction t generalizing s with
  | nil => simp [after?]
  | cons c t ih =>
    cases s with
    | nil => simp [after?]
    | cons d s =>
      by_cases hcd : c = d
      · simp [after?, hcd, ih]
      · have hdc : ¬ d = c := fun e => hcd e.symm
        simp [after?, hcd, hdc]

/-- A text is cut at the leftmost occurrence of another. -/
theorem cut?_eq_some_iff {t s front back : List Char} :
    cut? t s = some (front, back) ↔
      s = front ++ t ++ back ∧
        ∀ front' back', s = front' ++ t ++ back' → front.length ≤ front'.length := by
  induction s generalizing front with
  | nil =>
    -- Only the empty text occurs in the empty text.
    cases t with
    | nil => cases front <;> simp [cut?, after?, eq_comm]
    | cons c t => simp [cut?, after?]
  | cons c s ih =>
    rw [cut?]
    split
    · next rest hrest =>
      rw [after?_eq_some_iff] at hrest
      constructor
      · intro h
        obtain ⟨rfl, rfl⟩ := Prod.mk.inj (Option.some.inj h)
        exact ⟨hrest, fun _ _ _ => Nat.zero_le _⟩
      · rintro ⟨hs, hleast⟩
        -- The text begins with an occurrence, so nothing stands before the leftmost one.
        obtain rfl : front = [] := List.length_eq_zero_iff.1 (Nat.le_zero.1 (hleast [] rest hrest))
        rw [hrest] at hs
        rw [List.append_cancel_left hs]
    · next hnone =>
      have hfirst : ∀ rest, c :: s ≠ t ++ rest := by
        intro rest hrest
        rw [after?_eq_some_iff.2 hrest] at hnone
        cases hnone
      constructor
      · intro h
        obtain ⟨⟨front₁, back₁⟩, hcut, heq⟩ := Option.map_eq_some_iff.1 h
        obtain ⟨rfl, rfl⟩ := Prod.mk.inj heq
        obtain ⟨rfl, hleast⟩ := ih.1 hcut
        refine ⟨rfl, fun front' back' hs => ?_⟩
        cases front' with
        | nil => exact absurd hs (hfirst back')
        | cons d front' => exact Nat.succ_le_succ (hleast front' back' (List.cons.inj hs).2)
      · rintro ⟨hs, hleast⟩
        cases front with
        | nil => exact absurd hs (hfirst back)
        | cons d front =>
          obtain ⟨rfl, htail⟩ := List.cons.inj hs
          have hcut : cut? t s = some (front, back) := by
            refine ih.2 ⟨htail, fun front' back' hs' => Nat.le_of_succ_le_succ ?_⟩
            exact hleast (c :: front') back' (by rw [hs', List.cons_append, List.cons_append])
          rw [hcut]
          rfl

/-- The parts of a text and what was searched for have the length of the text. -/
theorem length_of_cut? {t s front back : List Char} (h : cut? t s = some (front, back)) :
    front.length + t.length + back.length = s.length := by
  rw [(cut?_eq_some_iff.1 h).1, List.length_append, List.length_append]

/-- Whether `t` occurs in a text. -/
def occurs (t s : List Char) : Bool :=
  (cut? t s).isSome

/-- The parts of a text before and after the first occurrence of a character. -/
def cutAt? (sep : Char) : List Char → Option (List Char × List Char)
  | [] => none
  | c :: s =>
    if c = sep then some ([], s)
    else (cutAt? sep s).map fun (before, rest) => (c :: before, rest)

end KernelGen.Text
