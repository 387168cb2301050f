import KernelGen.Template
import Mathlib

/-!
# Searching for markers

A text is cut at its markers by a search for opening braces. The theory of markers goes through a
text character by character and asks at each of them whether a marker begins there. Both ways lead
to the same segments and to the same first marker, since no marker begins before the first opening
braces, and a brace before braces that open no marker is plain text.

* `slotAt?_eq_some_iff`: the name of a marker ends at the next closing braces.
* `segmentsOf`, `findMarker?`: the segments and the first marker, character by character.
* `segments_parse`, `findMarker_eq`: what the search finds.
-/

namespace KernelGen.Template

/-! ## Names -/

/-- A literal is a name if its characters are one. -/
theorem isName_ofList {cs : List Char} (h : isName cs = true) :
    isName (String.ofList cs).toList = true := by
  rwa [String.toList_ofList]

/-- A character that may begin a name may also stand inside one. -/
theorem isNameTail_of_isNameHead {c : Char} (h : isNameHead c = true) : isNameTail c = true := by
  unfold isNameHead at h
  unfold isNameTail
  cases hu : c.isUpper <;> simp_all

/-- All characters of a name may stand inside a name. -/
theorem isNameTail_of_mem {name : List Char} (h : isName name = true) :
    ∀ c ∈ name, isNameTail c = true := by
  cases name with
  | nil => simp
  | cons d ds =>
    rw [isName, Bool.and_eq_true, List.all_eq_true] at h
    intro c hc
    rcases List.mem_cons.1 hc with rfl | hc
    · exact isNameTail_of_isNameHead h.1
    · exact h.2 c hc

/-- The name of a marker ends at the next closing braces, since no name has a brace in it. -/
theorem slotAt?_eq_some_iff {cs name rest : List Char} :
    slotAt? cs = some (name, rest) ↔
      isName name = true ∧ cs = name ++ '\x7d' :: '\x7d' :: rest := by
  constructor
  · intro h
    unfold slotAt? at h
    split at h
    · cases h
    · next hcut =>
      split at h
      · next hname =>
        obtain ⟨rfl, rfl⟩ := Prod.mk.inj (Option.some.inj h)
        exact ⟨hname, by simpa using (Text.cut?_eq_some_iff.1 hcut).1⟩
      · cases h
  · rintro ⟨hname, rfl⟩
    have hcut : Text.cut? ['\x7d', '\x7d'] (name ++ '\x7d' :: '\x7d' :: rest) =
        some (name, rest) := by
      refine Text.cut?_eq_some_iff.2 ⟨by simp, fun front back heq => ?_⟩
      by_contra hshort
      -- Closing braces further left would be characters of the name.
      have hmem : '\x7d' ∈ name := by
        have hget := congrArg (·[front.length]?) heq
        simp only [List.append_assoc] at hget
        rw [List.getElem?_append_left (by omega),
          List.getElem?_append_right (Nat.le_refl _)] at hget
        exact List.mem_of_getElem? (by simpa using hget)
      exact absurd (isNameTail_of_mem hname _ hmem) (by decide)
    rw [slotAt?, hcut]
    exact if_pos hname

/-! ## Character by character -/

/-- The name of the marker with which a text begins, and what follows the marker. -/
def marker? : List Char → Option (List Char × List Char)
  | '\x7b' :: '\x7b' :: cs => slotAt? cs
  | _ => none

/-- What follows a marker is shorter than the text that begins with it. -/
theorem length_of_marker? {cs name rest : List Char} (h : marker? cs = some (name, rest)) :
    rest.length < cs.length := by
  unfold marker? at h
  split at h
  · have := length_of_slotAt? h
    simp only [List.length_cons]
    omega
  · cases h

/-- A marker at the front of a text is found, with what follows it. -/
theorem marker?_of_isName {name : List Char} (h : isName name = true) (rest : List Char) :
    marker? ('\x7b' :: '\x7b' :: (name ++ '\x7d' :: '\x7d' :: rest)) = some (name, rest) :=
  slotAt?_eq_some_iff.2 ⟨h, rfl⟩

/-- Puts a character of plain text in front of some segments. -/
def consText (c : Char) : List Segment → List Segment
  | .text cs :: segments => .text (c :: cs) :: segments
  | segments => .text [c] :: segments

/-- The segments of a text: its markers, and the text between them. -/
def segmentsOf (cs : List Char) : List Segment :=
  match cs with
  | [] => []
  | c :: tail =>
    match _h : marker? (c :: tail) with
    | some (name, rest) => .slot name :: segmentsOf rest
    | none => consText c (segmentsOf tail)
termination_by cs.length
decreasing_by
  · exact length_of_marker? _h
  · exact Nat.lt_succ_self _

/-- The name of the leftmost marker of a text. -/
def findMarker? : List Char → Option (List Char)
  | [] => none
  | c :: tail =>
    match marker? (c :: tail) with
    | some (name, _) => some name
    | none => findMarker? tail

/-- A marker at the front becomes a slot. -/
theorem segmentsOf_of_marker? {cs name rest : List Char} (h : marker? cs = some (name, rest)) :
    segmentsOf cs = .slot name :: segmentsOf rest := by
  cases cs with
  | nil => cases h
  | cons c tail =>
    rw [segmentsOf]
    split
    · next heq =>
      rw [h] at heq
      obtain ⟨rfl, rfl⟩ := Prod.mk.inj (Option.some.inj heq)
      rfl
    · next heq => simp [h] at heq

/-- A character at which no marker begins is plain text. -/
theorem segmentsOf_of_marker?_eq_none {c : Char} {cs : List Char} (h : marker? (c :: cs) = none) :
    segmentsOf (c :: cs) = consText c (segmentsOf cs) := by
  rw [segmentsOf]
  split
  · next heq => simp [h] at heq
  · rfl

/-- No marker begins where no opening braces stand. -/
theorem marker?_eq_none_of_after? {cs : List Char}
    (h : Text.after? ['\x7b', '\x7b'] cs = none) : marker? cs = none := by
  unfold marker?
  split
  · simp [Text.after?] at h
  · rfl

/-- Text before the first opening braces is plain. -/
theorem segmentsOf_of_cut? {cs front back : List Char}
    (h : Text.cut? ['\x7b', '\x7b'] cs = some (front, back)) :
    segmentsOf cs = front.foldr consText (segmentsOf ('\x7b' :: '\x7b' :: back)) ∧
      findMarker? cs = findMarker? ('\x7b' :: '\x7b' :: back) := by
  induction cs generalizing front with
  | nil => simp [Text.cut?, Text.after?] at h
  | cons c cs ih =>
    rw [Text.cut?] at h
    split at h
    · next rest hrest =>
      obtain ⟨rfl, rfl⟩ := Prod.mk.inj (Option.some.inj h)
      rw [Text.after?_eq_some_iff.1 hrest]
      exact ⟨rfl, rfl⟩
    · next hnone =>
      obtain ⟨⟨front', back'⟩, hcut, heq⟩ := Option.map_eq_some_iff.1 h
      obtain ⟨rfl, rfl⟩ := Prod.mk.inj heq
      have hmarker := marker?_eq_none_of_after? hnone
      rw [segmentsOf_of_marker?_eq_none hmarker, findMarker?, hmarker, List.foldr_cons]
      exact ⟨congrArg _ (ih hcut).1, (ih hcut).2⟩

/-- Text without opening braces is plain. -/
theorem segmentsOf_of_cut?_eq_none {cs : List Char}
    (h : Text.cut? ['\x7b', '\x7b'] cs = none) :
    segmentsOf cs = cs.foldr consText [] ∧ findMarker? cs = none := by
  induction cs with
  | nil => exact ⟨by rw [segmentsOf]; rfl, rfl⟩
  | cons c cs ih =>
    rw [Text.cut?] at h
    split at h
    · cases h
    · next hnone =>
      obtain ⟨hsegments, hfind⟩ := ih (Option.map_eq_none_iff.1 h)
      have hmarker := marker?_eq_none_of_after? hnone
      rw [segmentsOf_of_marker?_eq_none hmarker, findMarker?, hmarker, List.foldr_cons]
      exact ⟨congrArg _ hsegments, hfind⟩

/-! ## The search -/

/-- Plain text in front of a slot, or of nothing, is a segment of its own. -/
theorem foldr_consText_eq (cs : List Char) {segments : List Segment}
    (h : ∀ ds, segments.head? ≠ some (.text ds)) :
    cs.foldr consText segments = textSegment cs ++ segments := by
  induction cs with
  | nil => rfl
  | cons c cs ih =>
    rw [List.foldr_cons, ih]
    cases cs with
    | nil =>
      cases segments with
      | nil => rfl
      | cons s segments =>
        cases s with
        | text ds => exact absurd rfl (h ds)
        | slot name => rfl
    | cons d cs => rfl

/-- The search gives the segments of the rest, with the plain text that has been read in front. -/
theorem splitFrom_eq (literal rest : List Char) :
    splitFrom literal rest = literal.foldr consText (segmentsOf rest) := by
  fun_induction splitFrom literal rest with
  | case1 literal rest hcut =>
    rw [(segmentsOf_of_cut?_eq_none hcut).1, ← List.foldr_append, foldr_consText_eq _ (by simp),
      List.append_nil]
  | case2 literal rest before after hcut name rest' hslot ih =>
    have hmarker : marker? ('\x7b' :: '\x7b' :: after) = some (name, rest') := hslot
    rw [(segmentsOf_of_cut? hcut).1, segmentsOf_of_marker? hmarker, ← List.foldr_append,
      foldr_consText_eq _ (by simp), ih]
    rfl
  | case3 literal rest before after hcut hslot ih =>
    have hmarker : marker? ('\x7b' :: '\x7b' :: after) = none := hslot
    rw [(segmentsOf_of_cut? hcut).1, segmentsOf_of_marker?_eq_none hmarker, ih]
    simp only [List.foldr_append, List.foldr_cons, List.foldr_nil]

/-- The search finds the leftmost marker. -/
theorem firstMarker?_eq (rest : List Char) : firstMarker? rest = findMarker? rest := by
  fun_induction firstMarker? rest with
  | case1 rest hcut => rw [(segmentsOf_of_cut?_eq_none hcut).2]
  | case2 rest before after hcut name rest' hslot =>
    have hmarker : marker? ('\x7b' :: '\x7b' :: after) = some (name, rest') := hslot
    rw [(segmentsOf_of_cut? hcut).2, findMarker?, hmarker]
  | case3 rest before after hcut hslot ih =>
    have hmarker : marker? ('\x7b' :: '\x7b' :: after) = none := hslot
    rw [(segmentsOf_of_cut? hcut).2, findMarker?, hmarker, ih]

/-- The segments of a template are those of its text. -/
theorem segments_parse (t text : String) : (parse t text).segments = segmentsOf text.toList :=
  splitFrom_eq [] text.toList

/-- The first marker of a text is its leftmost one. -/
theorem findMarker_eq (text : String) :
    findMarker text = (findMarker? text.toList).map String.ofList := by
  rw [findMarker, firstMarker?_eq]

end KernelGen.Template
