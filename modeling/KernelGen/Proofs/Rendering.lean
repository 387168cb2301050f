import KernelGen.Proofs.MarkerSearch

/-!
# What a template renders to

A template is usually written as pieces of plain text with markers between them. This file follows
such a text piece by piece, through the cut at its markers and through the filling of its slots.

* `isClosed`: a piece of plain text in which no marker begins, whatever follows it.
* `Filled`: the text that comes out when the markers of a text are replaced by their values.
* `render_of_filled`: rendering gives that text if every value has a marker.
-/

namespace KernelGen.Template

/-- No marker begins inside the text, whatever follows it: an opening brace is always followed by
some other character. -/
def isClosed : List Char → Bool
  | [] => true
  | c :: cs => (c != '\x7b' || cs.head?.any (· != '\x7b')) && isClosed cs

/-- A literal is closed if its characters are. -/
theorem isClosed_ofList {cs : List Char} (h : isClosed cs = true) :
    isClosed (String.ofList cs).toList = true := by
  rwa [String.toList_ofList]

/-- No marker begins at the front of a closed text. -/
theorem marker?_eq_none_of_isClosed {c : Char} {cs : List Char} (h : isClosed (c :: cs) = true)
    (rest : List Char) : marker? (c :: (cs ++ rest)) = none := by
  rw [isClosed, Bool.and_eq_true, Bool.or_eq_true, bne_iff_ne] at h
  unfold marker?
  split
  · next d ds heq =>
    -- The text begins with two braces, so the second one is the head of `cs`.
    obtain ⟨rfl, htail⟩ := List.cons.inj heq
    rcases h.1 with hc | hd
    · exact absurd rfl hc
    · cases cs with
      | nil => simp at hd
      | cons e es =>
        obtain ⟨rfl, -⟩ := List.cons.inj htail
        simp at hd
  · rfl

/-! ## The segments of a text -/

/-- Closed text is copied in front of the segments of what follows it. -/
theorem segmentsOf_append {cs : List Char} (h : isClosed cs = true) (rest : List Char) :
    segmentsOf (cs ++ rest) = cs.foldr consText (segmentsOf rest) := by
  induction cs with
  | nil => rfl
  | cons c cs ih =>
    have htail : isClosed cs = true := by
      rw [isClosed, Bool.and_eq_true] at h
      exact h.2
    rw [List.cons_append, segmentsOf_of_marker?_eq_none (marker?_eq_none_of_isClosed h rest),
      ih htail, List.foldr_cons]

/-- A marker becomes a slot in front of the segments of what follows it. -/
theorem segmentsOf_marker {name : String} (h : isName name.toList = true) (rest : List Char) :
    segmentsOf ((marker name).toList ++ rest) = .slot name.toList :: segmentsOf rest := by
  have htext : (marker name).toList ++ rest =
      '\x7b' :: '\x7b' :: (name.toList ++ '\x7d' :: '\x7d' :: rest) := by
    simp [marker]
  rw [htext, segmentsOf_of_marker? (marker?_of_isName h rest)]

/-- The names of the slots among some segments. -/
def namesOf (segments : List Segment) : List String :=
  segments.filterMap fun
    | .slot name => some (String.ofList name)
    | .text _ => none

/-- Plain text has no slots. -/
theorem namesOf_consText (c : Char) (segments : List Segment) :
    namesOf (consText c segments) = namesOf segments := by
  match segments with
  | [] | .text _ :: _ | .slot _ :: _ => rfl

/-- Plain text in front of some segments adds no slots. -/
theorem namesOf_foldr_consText (cs : List Char) (segments : List Segment) :
    namesOf (cs.foldr consText segments) = namesOf segments := by
  induction cs with
  | nil => rfl
  | cons c cs ih => rw [List.foldr_cons, namesOf_consText, ih]

/-- Filling copies plain text. -/
theorem fill_consText (t : String) (b : Bindings) (c : Char) (segments : List Segment) :
    fill t b (consText c segments) = (fill t b segments).map (c :: ·) := by
  match segments with
  | [] | .slot _ :: _ => rfl
  | .text cs :: rest =>
    simp only [consText, fill]
    cases fill t b rest <;> rfl

/-- Filling copies plain text in front of some segments. -/
theorem fill_foldr_consText (t : String) (b : Bindings) (cs : List Char)
    (segments : List Segment) :
    fill t b (cs.foldr consText segments) = (fill t b segments).map (cs ++ ·) := by
  induction cs with
  | nil => cases h : fill t b segments <;> simp [Except.map, h]
  | cons c cs ih =>
    rw [List.foldr_cons, fill_consText, ih]
    cases fill t b segments <;> rfl

/-! ## Replacing markers by values -/

/-- `Filled b text names out`: `text` consists of closed pieces and of markers, the markers are
`names` in order, and `out` has the value of each marker in its place. -/
inductive Filled (b : Bindings) : String → List String → String → Prop
  /-- A closed text is kept. -/
  | last {s : String} (h : isClosed s.toList = true) : Filled b s [] s
  /-- A closed piece of text is kept in front. -/
  | text {s rest out : String} {names : List String} (h : isClosed s.toList = true)
      (hrest : Filled b rest names out) : Filled b (s ++ rest) names (s ++ out)
  /-- A marker in front is replaced. -/
  | slot {name value rest out : String} {names : List String} (h : isName name.toList = true)
      (hvalue : b.lookup name = some value) (hrest : Filled b rest names out) :
      Filled b (marker name ++ rest) (name :: names) (value ++ out)

/-- The slots of a text are its markers. -/
theorem Filled.namesOf_eq {b : Bindings} {text out : String} {names : List String}
    (h : Filled b text names out) : namesOf (segmentsOf text.toList) = names := by
  induction h with
  | last h =>
    rw [← List.append_nil (String.toList _), segmentsOf_append h, namesOf_foldr_consText,
      segmentsOf]
    rfl
  | text h _ ih => rw [String.toList_append, segmentsOf_append h, namesOf_foldr_consText, ih]
  | slot h _ _ ih =>
    rw [String.toList_append, segmentsOf_marker h, ← ih]
    simp [namesOf]

/-- Filling the slots of a text replaces its markers. -/
theorem Filled.fill_eq {b : Bindings} {text out : String} {names : List String}
    (h : Filled b text names out) (t : String) :
    fill t b (segmentsOf text.toList) = .ok out.toList := by
  induction h with
  | last h =>
    rw [← List.append_nil (String.toList _), segmentsOf_append h, fill_foldr_consText, segmentsOf]
    rfl
  | text h _ ih =>
    rw [String.toList_append, segmentsOf_append h, fill_foldr_consText, ih, String.toList_append]
    rfl
  | slot h hvalue _ ih =>
    rw [String.toList_append, segmentsOf_marker h, fill, String.ofList_toList, hvalue, ih,
      String.toList_append]
    rfl

/-- A template whose markers all have values, and without a value that has no marker, renders to
its text with the values in place of the markers. -/
theorem render_of_filled {b : Bindings} {text out : String} {names : List String}
    (h : Filled b text names out) (hb : ∀ p ∈ b, p.1 ∈ names) (t : String) :
    (parse t text).render b = .ok out := by
  have hslots : (parse t text).slotNames = names := by
    rw [slotNames, segments_parse]
    exact h.namesOf_eq
  have hunused :
      (b.map (·.1)).filter (fun name => !(parse t text).slotNames.contains name) = [] := by
    rw [List.filter_eq_nil_iff, hslots]
    intro name hname
    obtain ⟨p, hp, rfl⟩ := List.mem_map.1 hname
    simpa using hb p hp
  rw [render, hunused]
  simp only [Text.least?, sortDistinct, List.foldr_nil, List.head?_nil]
  rw [segments_parse, h.fill_eq]
  exact congrArg Except.ok String.ofList_toList

end KernelGen.Template
