import KernelGen.Proofs.Rendering
import KernelGen.Proofs.SortedLists

/-!
# The markers of a text

A marker may occur anywhere in a text. Two different occurrences never overlap, since a brace opens
a marker only in front of a name and a name has no braces. So there is one way to cut a text at its
markers, and both scanners find it.

* `MarkerAt`, `MarkerFree`: where a marker stands, and that there is none.
* `findMarker?_eq_some_iff`: searching a text finds its leftmost marker.
* `IsCut`, `segmentsOf_eq_iff`: the segments of a text are the one cut at its markers.
* `segmentsOf_of_markerAt`: every marker of a text is a slot, with the segments of the text before
  it in front and those of the text after it behind.
* `Replaced`: a text with a value in the place of each of its markers. Filling the slots of a text
  comes to this (`fill_eq_ok_iff`), and it stops at the leftmost marker without a value
  (`fill_eq_error_iff`).
-/

namespace KernelGen.Template

/-! ## Where markers stand -/

/-- The characters of the marker with a name. -/
def markerChars (name : List Char) : List Char :=
  '\x7b' :: '\x7b' :: (name ++ ['\x7d', '\x7d'])

/-- The marker with a name stands between two parts of a text. -/
def MarkerAt (cs front name back : List Char) : Prop :=
  isName name = true ∧ cs = front ++ markerChars name ++ back

/-- No marker stands in a text. -/
def MarkerFree (cs : List Char) : Prop :=
  ∀ front name back, ¬ MarkerAt cs front name back

/-- A marker is read off exactly if one stands at the front. -/
theorem marker?_eq_some_iff {cs name rest : List Char} :
    marker? cs = some (name, rest) ↔ MarkerAt cs [] name rest := by
  constructor
  · intro h
    unfold marker? at h
    split at h
    · obtain ⟨hname, rfl⟩ := slotAt?_eq_some_iff.1 h
      exact ⟨hname, by simp [markerChars]⟩
    · cases h
  · rintro ⟨hname, rfl⟩
    simpa [markerChars] using marker?_of_isName hname rest

theorem markerAt_cons_iff {c d : Char} {cs front name back : List Char} :
    MarkerAt (c :: cs) (d :: front) name back ↔ c = d ∧ MarkerAt cs front name back := by
  simp only [MarkerAt, List.cons_append, List.cons.injEq]
  tauto

/-- A marker stays one in a longer text. -/
theorem MarkerAt.append {cs front name back : List Char} (h : MarkerAt cs front name back)
    (before after : List Char) :
    MarkerAt (before ++ cs ++ after) (before ++ front) name (back ++ after) := by
  obtain ⟨hname, rfl⟩ := h
  exact ⟨hname, by simp only [List.append_assoc]⟩

/-- A text is free of markers if no marker begins at its front and the rest is free of them. -/
theorem markerFree_cons_iff {c : Char} {cs : List Char} :
    MarkerFree (c :: cs) ↔ marker? (c :: cs) = none ∧ MarkerFree cs := by
  constructor
  · intro h
    refine ⟨?_, fun front name back hat => h (c :: front) name back ?_⟩
    · cases hm : marker? (c :: cs) with
      | none => rfl
      | some found => exact absurd (marker?_eq_some_iff.1 hm) (h [] found.1 found.2)
    · exact markerAt_cons_iff.2 ⟨rfl, hat⟩
  · rintro ⟨hfirst, hrest⟩ front name back hat
    cases front with
    | nil =>
      rw [marker?_eq_some_iff.2 hat] at hfirst
      cases hfirst
    | cons d front => exact hrest front name back (markerAt_cons_iff.1 hat).2

theorem markerFree_nil : MarkerFree [] := by
  rintro front name back ⟨-, h⟩
  simp [markerChars] at h

/-- Searching a text finds no marker if there is none. -/
theorem findMarker?_eq_none_iff {cs : List Char} : findMarker? cs = none ↔ MarkerFree cs := by
  induction cs with
  | nil => exact iff_of_true rfl markerFree_nil
  | cons c cs ih =>
    rw [findMarker?, markerFree_cons_iff]
    split
    · next hm => simp [hm]
    · next hm => simp [hm, ih]

/-- Searching a text finds its leftmost marker. -/
theorem findMarker?_eq_some_iff {cs name : List Char} :
    findMarker? cs = some name ↔
      ∃ front back, MarkerAt cs front name back ∧
        ∀ front' name' back', MarkerAt cs front' name' back' → front.length ≤ front'.length := by
  induction cs with
  | nil =>
    refine iff_of_false (by simp [findMarker?]) ?_
    rintro ⟨front, back, hat, -⟩
    exact markerFree_nil front name back hat
  | cons c cs ih =>
    rw [findMarker?]
    split
    · next name' rest hm =>
      have hfirst := marker?_eq_some_iff.1 hm
      constructor
      · intro h
        obtain rfl := Option.some.inj h
        exact ⟨[], rest, hfirst, fun _ _ _ _ => Nat.zero_le _⟩
      · rintro ⟨front, back, hat, hleast⟩
        have hnil : front = [] := by
          have hlength := hleast [] name' rest hfirst
          rw [List.length_nil, Nat.le_zero] at hlength
          exact List.length_eq_zero_iff.1 hlength
        rw [hnil, ← marker?_eq_some_iff, hm] at hat
        rw [(Prod.mk.inj (Option.some.inj hat)).1]
    · next hm =>
      -- No marker begins here, so the markers are those of the rest, one character further on.
      rw [ih]
      constructor
      · rintro ⟨front, back, hat, hleast⟩
        refine ⟨c :: front, back, markerAt_cons_iff.2 ⟨rfl, hat⟩, fun front' name' back' hat' => ?_⟩
        cases front' with
        | nil => simp [marker?_eq_some_iff.2 hat'] at hm
        | cons d front' =>
          exact Nat.succ_le_succ (hleast front' name' back' (markerAt_cons_iff.1 hat').2)
      · rintro ⟨front, back, hat, hleast⟩
        cases front with
        | nil => simp [marker?_eq_some_iff.2 hat] at hm
        | cons d front =>
          refine ⟨front, back, (markerAt_cons_iff.1 hat).2, fun front' name' back' hat' => ?_⟩
          have hlength := hleast (c :: front') name' back' (markerAt_cons_iff.2 ⟨rfl, hat'⟩)
          exact Nat.le_of_succ_le_succ hlength

/-- No marker is found exactly if there is none. -/
theorem findMarker_eq_none_iff {text : String} :
    findMarker text = none ↔ MarkerFree text.toList := by
  rw [findMarker_eq, Option.map_eq_none_iff, findMarker?_eq_none_iff]

/-! ## Markers do not overlap -/

/-- Behind its opening braces, a marker has no opening brace. -/
theorem notMem_name {name : List Char} (h : isName name = true) :
    '\x7b' ∉ name ++ ['\x7d', '\x7d'] := by
  intro hmem
  rcases List.mem_append.1 hmem with hmem | hmem
  · have htail := isNameTail_of_mem h _ hmem
    exact absurd htail (by decide)
  · exact absurd hmem (by decide)

/-- Behind the front of a marker, an opening brace is followed by some other character. -/
theorem exists_of_markerChars_eq {name front back : List Char} (h : isName name = true)
    (hfront : front ≠ []) (hsplit : markerChars name = front ++ '\x7b' :: back) :
    ∃ c cs, back = c :: cs ∧ c ≠ '\x7b' := by
  have hinside := notMem_name h
  cases front with
  | nil => exact absurd rfl hfront
  | cons a front =>
    have htail : '\x7b' :: (name ++ ['\x7d', '\x7d']) = front ++ '\x7b' :: back :=
      (List.cons.inj hsplit).2
    cases front with
    | nil =>
      -- The brace is the second one of the marker, and the name follows.
      have hback : name ++ ['\x7d', '\x7d'] = back := (List.cons.inj htail).2
      rw [← hback]
      cases name with
      | nil => exact ⟨'\x7d', ['\x7d'], rfl, by decide⟩
      | cons c cs => exact ⟨c, cs ++ ['\x7d', '\x7d'], rfl, by rintro rfl; simp at hinside⟩
    | cons b front =>
      have hname : name ++ ['\x7d', '\x7d'] = front ++ '\x7b' :: back := (List.cons.inj htail).2
      rw [hname] at hinside
      simp at hinside

/-- Of two markers of a text, the one that begins later begins behind the other. -/
theorem MarkerAt.behind {cs front name back front' name' back' : List Char}
    (h : MarkerAt cs front name back) (h' : MarkerAt cs front' name' back')
    (hlt : front.length < front'.length) :
    ∃ mid, front' = front ++ markerChars name ++ mid ∧ MarkerAt back mid name' back' := by
  obtain ⟨hname, rfl⟩ := h
  obtain ⟨hname', heq⟩ := h'
  rw [List.append_assoc, List.append_assoc] at heq
  -- The later marker begins some characters behind the beginning of the earlier one.
  obtain ⟨more, rfl, hmore⟩ : ∃ more, front' = front ++ more ∧
      markerChars name ++ back = more ++ (markerChars name' ++ back') := by
    rcases List.append_eq_append_iff.1 heq with hmore | ⟨more, rfl, -⟩
    · exact hmore
    · rw [List.length_append] at hlt
      omega
  have hne : more ≠ [] := by
    rintro rfl
    simp at hlt
  rcases List.append_eq_append_iff.1 hmore with ⟨mid, rfl, hback⟩ | ⟨rest, hrest, hback⟩
  · exact ⟨mid, by rw [List.append_assoc], hname', by rw [hback, List.append_assoc]⟩
  · cases rest with
    | nil =>
      rw [List.append_nil] at hrest
      exact ⟨[], by rw [hrest, List.append_nil], hname', by simpa using hback.symm⟩
    | cons c rest =>
      -- Otherwise two opening braces would stand inside the earlier marker.
      obtain ⟨rfl, htail⟩ := List.cons.inj hback
      obtain ⟨d, ds, rfl, hd⟩ := exists_of_markerChars_eq hname hne hrest
      exact absurd (List.cons.inj htail).1.symm hd

/-- A text without markers stays so in front of a marker or at the end: no marker begins in it. -/
theorem MarkerFree.length_le {cs rest front name back : List Char} (h : MarkerFree cs)
    (hrest : rest = [] ∨ ∃ name back, MarkerAt rest [] name back)
    (hat : MarkerAt (cs ++ rest) front name back) : cs.length ≤ front.length := by
  by_contra hlt
  rcases hrest with rfl | ⟨name', back', hat'⟩
  · rw [List.append_nil] at hat
    exact h front name back hat
  · have hnext : MarkerAt (cs ++ rest) cs name' back' := by
      simpa using hat'.append cs []
    obtain ⟨mid, rfl, -⟩ := hat.behind hnext (by omega)
    exact h front name mid ⟨hat.1, rfl⟩

/-! ## Cutting a text at its markers -/

/-- The characters for which a segment stands. -/
def Segment.chars : Segment → List Char
  | text cs => cs
  | slot name => markerChars name

/-- Whether a segment is plain text. -/
def Segment.isText : Segment → Bool
  | text _ => true
  | slot _ => false

/-- The text of which some segments are the pieces. -/
def written (segments : List Segment) : List Char :=
  segments.flatMap Segment.chars

/-- Segments that can come from cutting a text at all its markers. -/
structure IsCut (segments : List Segment) : Prop where
  /-- Slots have names. -/
  names : ∀ name, .slot name ∈ segments → isName name = true
  /-- Texts are not empty, and no marker is left in them. -/
  texts : ∀ cs, .text cs ∈ segments → cs ≠ [] ∧ MarkerFree cs
  /-- There is a slot between any two texts. -/
  apart : segments.IsChain fun s s' => s.isText = true → s'.isText = false

theorem written_append (l m : List Segment) : written (l ++ m) = written l ++ written m :=
  List.flatMap_append

theorem written_cons (s : Segment) (l : List Segment) : written (s :: l) = s.chars ++ written l :=
  rfl

namespace IsCut

variable {segments : List Segment}

theorem nil : IsCut [] :=
  ⟨by simp, by simp, .nil⟩

theorem tail {s : Segment} (h : IsCut (s :: segments)) : IsCut segments :=
  ⟨fun name hname => h.names name (.tail s hname), fun cs hcs => h.texts cs (.tail s hcs),
    h.apart.tail⟩

theorem slot {name : List Char} (hname : isName name = true) (h : IsCut segments) :
    IsCut (.slot name :: segments) where
  names := by simpa [hname] using h.names
  texts := by simpa using h.texts
  apart := List.isChain_cons.2 ⟨by simp [Segment.isText], h.apart⟩

theorem text {cs : List Char} (hne : cs ≠ []) (hfree : MarkerFree cs) (h : IsCut segments)
    (hhead : ∀ s ∈ segments.head?, s.isText = false) : IsCut (.text cs :: segments) where
  names := by simpa using h.names
  texts := by
    intro cs' hmem
    rcases List.mem_cons.1 hmem with heq | hmem
    · obtain rfl := Segment.text.inj heq
      exact ⟨hne, hfree⟩
    · exact h.texts cs' hmem
  apart := List.isChain_cons.2 ⟨fun s hs _ => hhead s hs, h.apart⟩

/-- Behind a text there is nothing, or a marker. -/
theorem head_written {cs : List Char} (h : IsCut (.text cs :: segments)) :
    written segments = [] ∨ ∃ name back, MarkerAt (written segments) [] name back := by
  match segments with
  | [] => exact .inl rfl
  | .text _ :: _ =>
    exact absurd ((List.isChain_cons.1 h.apart).1 _ rfl rfl) (by simp [Segment.isText])
  | .slot name :: rest =>
    exact .inr ⟨name, written rest, h.names name (by simp), rfl⟩

/-- One more character in front of a cut, if no marker begins there. -/
theorem consText {c : Char} (h : IsCut segments) (hm : marker? (c :: written segments) = none) :
    IsCut (Template.consText c segments) := by
  have hsingle : MarkerFree [c] := markerFree_cons_iff.2 ⟨by simp [marker?], markerFree_nil⟩
  rcases segments with _ | ⟨cs | name, rest⟩
  · exact .text (by simp) hsingle h (by simp)
  · have hfree : MarkerFree (c :: cs) := by
      refine markerFree_cons_iff.2 ⟨?_, (h.texts cs (by simp)).2⟩
      cases hfound : marker? (c :: cs) with
      | none => rfl
      | some found =>
        -- A marker at the front of the text would be one of the whole.
        have hat : MarkerAt (c :: cs) [] found.1 found.2 := marker?_eq_some_iff.1 hfound
        have hwhole : marker? (c :: written (.text cs :: rest)) =
            some (found.1, found.2 ++ written rest) :=
          marker?_eq_some_iff.2 (hat.append [] (written rest))
        rw [hwhole] at hm
        cases hm
    refine .text (by simp) hfree h.tail fun s hs => ?_
    exact (List.isChain_cons.1 h.apart).1 s hs rfl
  · exact .text (by simp) hsingle h (by simp [Segment.isText])

end IsCut

/-- One character in front of the first segment is one character in front of the text. -/
theorem written_consText (c : Char) (segments : List Segment) :
    written (consText c segments) = c :: written segments := by
  match segments with
  | [] | .text _ :: _ | .slot _ :: _ => rfl

/-- The segments of a text are a cut of it. -/
theorem isCut_segmentsOf (cs : List Char) :
    IsCut (segmentsOf cs) ∧ written (segmentsOf cs) = cs := by
  fun_induction segmentsOf cs with
  | case1 => exact ⟨.nil, rfl⟩
  | case2 c cs name rest hm ih =>
    obtain ⟨hname, heq⟩ := marker?_eq_some_iff.1 hm
    exact ⟨ih.1.slot hname, by rw [written_cons, ih.2, heq]; rfl⟩
  | case3 c cs hm ih =>
    refine ⟨ih.1.consText (by rw [ih.2, hm]), ?_⟩
    rw [written_consText, ih.2]

/-- Text in which no marker begins is copied in front of the segments of what follows it. -/
theorem segmentsOf_append_of_le {cs rest : List Char}
    (h : ∀ front name back, MarkerAt (cs ++ rest) front name back → cs.length ≤ front.length) :
    segmentsOf (cs ++ rest) = cs.foldr consText (segmentsOf rest) := by
  induction cs with
  | nil => rfl
  | cons c cs ih =>
    rw [List.cons_append, segmentsOf]
    split
    · next hm =>
      have hlength := h [] _ _ (marker?_eq_some_iff.1 hm)
      simp at hlength
    · rw [List.foldr_cons, ih]
      intro front name back hat
      have hlength := h (c :: front) name back (markerAt_cons_iff.2 ⟨rfl, hat⟩)
      exact Nat.le_of_succ_le_succ hlength

/-- Characters in front of a slot, or of nothing, make up one piece of plain text. -/
theorem foldr_consText {cs : List Char} (hne : cs ≠ []) {segments : List Segment}
    (hhead : ∀ s ∈ segments.head?, s.isText = false) :
    cs.foldr consText segments = .text cs :: segments := by
  induction cs with
  | nil => exact absurd rfl hne
  | cons c cs ih =>
    rw [List.foldr_cons]
    cases cs with
    | nil =>
      match segments with
      | [] | .slot _ :: _ => rfl
      | .text _ :: _ => exact absurd (hhead _ rfl) (by simp [Segment.isText])
    | cons d cs => rw [ih (List.cons_ne_nil d cs), consText]

/-- Writing a cut down and cutting it again gives the same segments. -/
theorem segmentsOf_written {segments : List Segment} (h : IsCut segments) :
    segmentsOf (written segments) = segments := by
  induction segments with
  | nil => rw [written, List.flatMap_nil, segmentsOf]
  | cons s segments ih =>
    rw [written_cons]
    cases s with
    | slot name =>
      have hname : isName (String.ofList name).toList = true := by
        rw [String.toList_ofList]
        exact h.names name (by simp)
      have hmarker := segmentsOf_marker hname (written segments)
      rw [ih h.tail, String.toList_ofList] at hmarker
      rw [← hmarker]
      simp [Segment.chars, marker, markerChars]
    | text cs =>
      obtain ⟨hne, hfree⟩ := h.texts cs (by simp)
      -- What follows the text is a marker or nothing, so no marker begins in the text.
      have hcopied := segmentsOf_append_of_le fun front name back hat =>
        hfree.length_le h.head_written hat
      rw [Segment.chars, hcopied, ih h.tail, foldr_consText hne]
      exact fun s hs => (List.isChain_cons.1 h.apart).1 s hs rfl

/-- There is one way to cut a text at its markers, and its segments are that. -/
theorem segmentsOf_eq_iff {cs : List Char} {segments : List Segment} :
    segmentsOf cs = segments ↔ IsCut segments ∧ written segments = cs := by
  constructor
  · rintro rfl
    exact isCut_segmentsOf cs
  · rintro ⟨h, rfl⟩
    exact segmentsOf_written h

/-- Every marker of a text is a slot, with the segments of the two parts around it. -/
theorem segmentsOf_of_markerAt {cs front name back : List Char} (h : MarkerAt cs front name back) :
    segmentsOf cs = segmentsOf front ++ .slot name :: segmentsOf back := by
  obtain ⟨hname, rfl⟩ := h
  obtain ⟨hfront, hwritten⟩ := isCut_segmentsOf front
  obtain ⟨hback, hwritten'⟩ := isCut_segmentsOf back
  have hslot := hback.slot hname
  refine segmentsOf_eq_iff.2 ⟨⟨?_, ?_, ?_⟩, ?_⟩
  · intro name' hmem
    exact (List.mem_append.1 hmem).elim (hfront.names name') (hslot.names name')
  · intro cs hmem
    exact (List.mem_append.1 hmem).elim (hfront.texts cs) (hslot.texts cs)
  · refine List.isChain_append.2 ⟨hfront.apart, hslot.apart, ?_⟩
    simp [Segment.isText]
  · rw [written_append, written_cons, hwritten, hwritten', Segment.chars, List.append_assoc]

/-- The slots of a text are its markers. -/
theorem markerAt_iff {cs front name back : List Char} :
    MarkerAt cs front name back ↔
      ∃ before after, segmentsOf cs = before ++ .slot name :: after ∧ written before = front ∧
        written after = back := by
  constructor
  · intro h
    exact ⟨segmentsOf front, segmentsOf back, segmentsOf_of_markerAt h,
      (isCut_segmentsOf front).2, (isCut_segmentsOf back).2⟩
  · rintro ⟨before, after, hsplit, rfl, rfl⟩
    obtain ⟨hcut, hwritten⟩ := isCut_segmentsOf cs
    rw [hsplit] at hcut hwritten
    refine ⟨hcut.names name (by simp), ?_⟩
    rw [← hwritten, written_append, written_cons, Segment.chars, List.append_assoc]

/-! ## Values in the place of markers -/

/-- `Replaced b cs out`: the second text is the first with the value of each marker in its place.
The values are copied as they are. -/
inductive Replaced (b : Bindings) : List Char → List Char → Prop
  /-- A text without markers is kept. -/
  | last {cs : List Char} (h : MarkerFree cs) : Replaced b cs cs
  /-- The first marker is replaced, and so are those behind it. -/
  | marker {front name rest out : List Char} {value : String} (hfront : MarkerFree front)
      (hname : isName name = true) (hvalue : b.lookup (String.ofList name) = some value)
      (hrest : Replaced b rest out) :
      Replaced b (front ++ markerChars name ++ rest) (front ++ value.toList ++ out)

theorem map_eq_ok_iff {α β : Type} {x : Except GenError α} {f : α → β} {y : β} :
    x.map f = .ok y ↔ ∃ a, x = .ok a ∧ f a = y := by
  cases x <;> simp [Except.map]

theorem exists_map_eq_ok_iff {α β : Type} {x : Except GenError α} {f : α → β} :
    (∃ y, x.map f = .ok y) ↔ ∃ a, x = .ok a := by
  cases x <;> simp [Except.map]

/-- A name has no value. -/
def Unbound (b : Bindings) (name : List Char) : Prop :=
  b.lookup (String.ofList name) = none

/-- A name has no value exactly if it is not among the names that are bound. -/
theorem unbound_iff {b : Bindings} {name : List Char} :
    Unbound b name ↔ String.ofList name ∉ b.map (·.1) := by
  rw [Unbound, List.lookup_eq_none_iff]
  simp only [List.mem_map, not_exists, not_and, bne_iff_ne]
  exact forall₂_congr fun p _ => ne_comm

/-- Filling goes from the front to the back. -/
theorem fill_append {t : String} {b : Bindings} {l : List Segment} {out : List Char}
    (h : fill t b l = .ok out) (m : List Segment) :
    fill t b (l ++ m) = (fill t b m).map (out ++ ·) := by
  induction l generalizing out with
  | nil =>
    obtain rfl := Except.ok.inj h
    cases hm : fill t b m <;> simp [Except.map, hm]
  | cons s l ih =>
    cases s with
    | text cs =>
      obtain ⟨rest, hrest, rfl⟩ := map_eq_ok_iff.1 h
      rw [List.cons_append, fill, ih hrest]
      cases fill t b m <;> simp [Except.map]
    | slot name =>
      rw [fill] at h
      split at h
      · cases h
      · next value hvalue =>
        obtain ⟨rest, hrest, rfl⟩ := map_eq_ok_iff.1 h
        rw [List.cons_append, fill, hvalue, ih hrest]
        cases fill t b m <;> simp [Except.map]

/-- Segments can be filled if all their slots have values. -/
theorem exists_fill_iff {t : String} {b : Bindings} {segments : List Segment} :
    (∃ out, fill t b segments = .ok out) ↔ ∀ name, .slot name ∈ segments → ¬ Unbound b name := by
  induction segments with
  | nil => simp [fill]
  | cons s segments ih =>
    cases s with
    | text cs =>
      rw [fill, exists_map_eq_ok_iff, ih]
      simp
    | slot name =>
      rw [fill]
      split
      · next hnone =>
        refine iff_of_false (by simp) fun h => ?_
        exact h name List.mem_cons_self hnone
      · next value hvalue =>
        have hbound : ¬ Unbound b name := by
          rw [Unbound, hvalue]
          exact Option.some_ne_none value
        rw [exists_map_eq_ok_iff, ih]
        simp [hbound]

/-- Filling some segments replaces the markers of their text. -/
theorem replaced_of_fill {t : String} {b : Bindings} {segments : List Segment}
    (hcut : IsCut segments) {out : List Char} (h : fill t b segments = .ok out) :
    Replaced b (written segments) out := by
  -- The text in front of a slot is filled in together with the slot, so it is carried along.
  suffices hcarry : ∀ front : List Char, MarkerFree front →
      (front = [] ∨ ∀ s ∈ segments.head?, s.isText = false) →
      Replaced b (front ++ written segments) (front ++ out) from
    hcarry [] markerFree_nil (.inl rfl)
  induction segments generalizing out with
  | nil =>
    intro front hfront _
    obtain rfl := Except.ok.inj h
    simpa [written] using Replaced.last hfront
  | cons s segments ih =>
    intro front hfront hhead
    cases s with
    | slot name =>
      rw [fill] at h
      split at h
      · cases h
      · next value hvalue =>
        obtain ⟨out, hout, rfl⟩ := map_eq_ok_iff.1 h
        have hrest : Replaced b (written segments) out :=
          ih hcut.tail hout [] markerFree_nil (.inl rfl)
        have hmarker := Replaced.marker hfront (hcut.names name (by simp)) hvalue hrest
        rw [written_cons, Segment.chars]
        simpa only [List.append_assoc] using hmarker
    | text cs =>
      obtain rfl : front = [] := hhead.resolve_right (by simp [Segment.isText])
      obtain ⟨out, hout, rfl⟩ := map_eq_ok_iff.1 h
      refine ih hcut.tail hout cs (hcut.texts cs (by simp)).2 (.inr fun s hs => ?_)
      exact (List.isChain_cons.1 hcut.apart).1 s hs rfl

/-- A text without markers is filled as it is. -/
theorem fill_of_markerFree {cs : List Char} (h : MarkerFree cs) (t : String) (b : Bindings) :
    fill t b (segmentsOf cs) = .ok cs := by
  have hcopied := segmentsOf_append_of_le fun front name back hat =>
    h.length_le (.inl rfl) hat
  rw [List.append_nil] at hcopied
  rw [hcopied, fill_foldr_consText, segmentsOf]
  simp [fill, Except.map]

/-- Filling the slots of a text comes to replacing its markers. -/
theorem fill_eq_ok_iff {t : String} {b : Bindings} {cs out : List Char} :
    fill t b (segmentsOf cs) = .ok out ↔ Replaced b cs out := by
  constructor
  · intro h
    obtain ⟨hcut, hwritten⟩ := isCut_segmentsOf cs
    rw [← hwritten]
    exact replaced_of_fill hcut h
  · intro h
    induction h with
    | last h => exact fill_of_markerFree h t b
    | marker hfront hname hvalue _ ih =>
      rw [segmentsOf_of_markerAt ⟨hname, rfl⟩, fill_append (fill_of_markerFree hfront t b), fill,
        hvalue, ih]
      simp [Except.map]

/-- The slots of a text are its markers. -/
theorem slot_mem_segmentsOf_iff {cs name : List Char} :
    .slot name ∈ segmentsOf cs ↔ ∃ front back, MarkerAt cs front name back := by
  constructor
  · intro h
    obtain ⟨before, after, hsplit⟩ := List.append_of_mem h
    exact ⟨written before, written after, markerAt_iff.2 ⟨before, after, hsplit, rfl, rfl⟩⟩
  · rintro ⟨front, back, hat⟩
    rw [segmentsOf_of_markerAt hat]
    simp

/-- The marker that stands leftmost among those without a value. -/
structure FirstUnbound (b : Bindings) (cs front name back : List Char) : Prop where
  /-- It is a marker of the text. -/
  markerAt : MarkerAt cs front name back
  /-- It has no value. -/
  unbound : Unbound b name
  /-- No marker to the left of it lacks a value. -/
  first : ∀ front' name' back', MarkerAt cs front' name' back' → Unbound b name' →
    front.length ≤ front'.length

/-- Filling fails at the leftmost marker without a value. -/
theorem FirstUnbound.fill_eq {b : Bindings} {cs front name back : List Char}
    (h : FirstUnbound b cs front name back) (t : String) :
    fill t b (segmentsOf cs) = .error (.unresolvedSlot t (String.ofList name)) := by
  have hbound : ∀ name', .slot name' ∈ segmentsOf front → ¬ Unbound b name' := by
    intro name' hmem hunbound
    obtain ⟨front', back', hat⟩ := slot_mem_segmentsOf_iff.1 hmem
    -- A marker of the text in front is a marker of the whole, further to the left.
    have hwhole : MarkerAt cs front' name' (back' ++ (markerChars name ++ back)) := by
      simpa [h.markerAt.2] using hat.append [] (markerChars name ++ back)
    have hle := h.first _ _ _ hwhole hunbound
    rw [hat.2] at hle
    simp [markerChars] at hle
  obtain ⟨out, hout⟩ := exists_fill_iff (t := t).2 hbound
  rw [segmentsOf_of_markerAt h.markerAt, fill_append hout, fill, h.unbound]
  rfl

/-- If some marker has no value, one of these is the leftmost. -/
theorem exists_firstUnbound {b : Bindings} {cs front name back : List Char}
    (hat : MarkerAt cs front name back) (h : Unbound b name) :
    ∃ front name back, FirstUnbound b cs front name back := by
  classical
  let place : Nat → Prop := fun n => ∃ front name back,
    MarkerAt cs front name back ∧ Unbound b name ∧ front.length = n
  have hplace : ∃ n, place n := ⟨front.length, front, name, back, hat, h, rfl⟩
  obtain ⟨front₀, name₀, back₀, hat₀, h₀, hlength⟩ := Nat.find_spec hplace
  refine ⟨front₀, name₀, back₀, hat₀, h₀, fun front' name' back' hat' h' => ?_⟩
  rw [hlength]
  exact Nat.find_min' hplace ⟨front', name', back', hat', h', rfl⟩

/-- Filling fails only at the leftmost marker without a value. -/
theorem fill_eq_error_iff {t : String} {b : Bindings} {cs : List Char} {e : GenError} :
    fill t b (segmentsOf cs) = .error e ↔
      ∃ front name back, FirstUnbound b cs front name back ∧
        e = .unresolvedSlot t (String.ofList name) := by
  constructor
  · intro h
    have hnot : ¬ ∀ name, .slot name ∈ segmentsOf cs → ¬ Unbound b name := by
      intro hbound
      obtain ⟨out, hout⟩ := exists_fill_iff (t := t).2 hbound
      rw [h] at hout
      cases hout
    push Not at hnot
    obtain ⟨name, hmem, hunbound⟩ := hnot
    obtain ⟨front, back, hat⟩ := slot_mem_segmentsOf_iff.1 hmem
    obtain ⟨front, name, back, hfirst⟩ := exists_firstUnbound hat hunbound
    exact ⟨front, name, back, hfirst, Except.error.inj (h.symm.trans (hfirst.fill_eq t))⟩
  · rintro ⟨front, name, back, hfirst, rfl⟩
    exact hfirst.fill_eq t

/-! ## Rendering -/

/-- The marker with a name stands somewhere in a text. -/
def Marks (text name : String) : Prop :=
  ∃ front back, MarkerAt text.toList front name.toList back

/-- The least name among the values for which a text has no marker. -/
structure LeastUnused (b : Bindings) (text name : String) : Prop where
  /-- There is a value with this name. -/
  mem : name ∈ b.map (·.1)
  /-- There is no marker for it. -/
  unused : ¬ Marks text name
  /-- The names of other such values are not below it. -/
  least : ∀ other ∈ b.map (·.1), ¬ Marks text other → name ≤ other

/-- The names of the slots are those of the markers. -/
theorem mem_slotNames_iff {t text name : String} :
    name ∈ (parse t text).slotNames ↔ Marks text name := by
  rw [Marks, ← slot_mem_segmentsOf_iff, slotNames, List.mem_filterMap, segments_parse]
  constructor
  · rintro ⟨s, hs, hname⟩
    cases s with
    | text cs => cases hname
    | slot cs =>
      obtain rfl := Option.some.inj hname
      rwa [String.toList_ofList]
  · intro h
    exact ⟨.slot name.toList, h, congrArg some String.ofList_toList⟩

/-- What rendering finds to be unused. -/
theorem least?_eq_some_iff_leastUnused {t text name : String} {b : Bindings} :
    Text.least? ((b.map (·.1)).filter fun name => !(parse t text).slotNames.contains name) =
      some name ↔ LeastUnused b text name := by
  have hmem : ∀ x, x ∈ (b.map (·.1)).filter (fun name => !(parse t text).slotNames.contains name) ↔
      x ∈ b.map (·.1) ∧ ¬ Marks text x := by
    intro x
    rw [List.mem_filter, ← mem_slotNames_iff (t := t)]
    simp
  rw [Text.least?_eq_some_iff, hmem]
  constructor
  · rintro ⟨⟨hkey, hunused⟩, hle⟩
    exact ⟨hkey, hunused, fun other h h' => hle other ((hmem other).2 ⟨h, h'⟩)⟩
  · rintro ⟨hkey, hunused, hle⟩
    exact ⟨⟨hkey, hunused⟩, fun other h => hle other ((hmem other).1 h).1 ((hmem other).1 h).2⟩

/-- A value for which there is no marker is an error, the least of these first. -/
theorem render_of_leastUnused {t text name : String} {b : Bindings} (h : LeastUnused b text name) :
    render (parse t text) b = .error (.unusedBinding t name) := by
  rw [render, least?_eq_some_iff_leastUnused.2 h]
  rfl

/-- If there is a marker for every value, the template is filled. -/
theorem render_of_forall_marks {t text : String} {b : Bindings}
    (h : ∀ name ∈ b.map (·.1), Marks text name) :
    render (parse t text) b = (fill t b (segmentsOf text.toList)).map String.ofList := by
  rw [render]
  split
  · next name hname =>
    obtain ⟨hmem, hunused, -⟩ := least?_eq_some_iff_leastUnused.1 hname
    exact absurd (h name hmem) hunused
  · rw [segments_parse]
    rfl

/-- There is a marker for every value, or a least one without. -/
theorem forall_marks_or_exists_leastUnused (b : Bindings) (text : String) :
    (∀ name ∈ b.map (·.1), Marks text name) ∨ ∃ name, LeastUnused b text name := by
  by_contra hneither
  push Not at hneither
  obtain ⟨⟨name, hmem, hunused⟩, hnone⟩ := hneither
  cases hleast : Text.least?
      ((b.map (·.1)).filter fun name => !(parse "" text).slotNames.contains name) with
  | some least => exact hnone least (least?_eq_some_iff_leastUnused.1 hleast)
  | none =>
    have hempty := Text.least?_eq_none_iff.1 hleast
    rw [List.filter_eq_nil_iff] at hempty
    have hslot := hempty name hmem
    rw [← mem_slotNames_iff (t := "")] at hunused
    simp [hunused] at hslot

/-- Rendering a text succeeds if all values have markers and the markers can be replaced. -/
theorem render_eq_ok_iff {t text out : String} {b : Bindings} :
    render (parse t text) b = .ok out ↔
      (∀ name ∈ b.map (·.1), Marks text name) ∧ Replaced b text.toList out.toList := by
  rcases forall_marks_or_exists_leastUnused b text with h | ⟨name, h⟩
  · rw [render_of_forall_marks h, map_eq_ok_iff, and_iff_right h, ← fill_eq_ok_iff (t := t)]
    constructor
    · rintro ⟨cs, hcs, rfl⟩
      rwa [String.toList_ofList]
    · intro hout
      exact ⟨out.toList, hout, String.ofList_toList⟩
  · rw [render_of_leastUnused h]
    exact iff_of_false (by simp) fun hout => h.unused (hout.1 name h.mem)

/-- Rendering fails for a value without a marker, and else for a marker without a value. -/
theorem render_eq_error_iff {t text : String} {b : Bindings} {e : GenError} :
    render (parse t text) b = .error e ↔
      (∃ name, LeastUnused b text name ∧ e = .unusedBinding t name) ∨
      (∀ name ∈ b.map (·.1), Marks text name) ∧
        ∃ front name back, FirstUnbound b text.toList front name back ∧
          e = .unresolvedSlot t (String.ofList name) := by
  rcases forall_marks_or_exists_leastUnused b text with h | ⟨name, h⟩
  · rw [render_of_forall_marks h, and_iff_right h, ← fill_eq_error_iff, or_iff_right]
    · cases fill t b (segmentsOf text.toList) <;> simp [Except.map]
    · rintro ⟨name, hleast, -⟩
      exact hleast.unused (h name hleast.mem)
  · rw [render_of_leastUnused h, or_iff_left fun hall => h.unused (hall.1 name h.mem)]
    constructor
    · intro he
      exact ⟨name, h, (Except.error.inj he).symm⟩
    · rintro ⟨name', h', rfl⟩
      rw [le_antisymm (h.least name' h'.mem h'.unused) (h'.least name h.mem h.unused)]

/-- Rendering succeeds if the values are named like the markers. -/
theorem exists_render_iff {t text : String} {b : Bindings} :
    (∃ out, render (parse t text) b = .ok out) ↔
      ∀ name, name ∈ b.map (·.1) ↔ Marks text name := by
  rcases forall_marks_or_exists_leastUnused b text with h | ⟨name, h⟩
  · rw [render_of_forall_marks h, exists_map_eq_ok_iff, exists_fill_iff]
    constructor
    · intro hbound name
      refine ⟨h name, fun hmarks => ?_⟩
      have hnot := hbound name.toList (slot_mem_segmentsOf_iff.2 hmarks)
      rwa [unbound_iff, not_not, String.ofList_toList] at hnot
    · intro hsame name hslot
      rw [unbound_iff, not_not, hsame, Marks, String.toList_ofList]
      exact slot_mem_segmentsOf_iff.1 hslot
  · rw [render_of_leastUnused h]
    exact iff_of_false (by simp) fun hsame => h.unused ((hsame name).1 h.mem)

/-- Cutting, searching and rendering by the markers of a text. The segments of a text are those
between which its markers stand, the search finds the leftmost marker, and rendering succeeds if the
values are named like the markers. It then replaces the markers of the given text, and no others.
It fails for the least value without a marker, and else for the leftmost marker without a value. -/
theorem parse_findMarker_render (t text : String) (b : Bindings) :
    (IsCut (parse t text).segments ∧ written (parse t text).segments = text.toList ∧
      ∀ front name back, MarkerAt text.toList front name back ↔
        ∃ before after, (parse t text).segments = before ++ .slot name :: after ∧
          written before = front ∧ written after = back) ∧
    ((∀ name, findMarker text = some name ↔
        ∃ front back, MarkerAt text.toList front name.toList back ∧
          ∀ front' name' back', MarkerAt text.toList front' name' back' →
            front.length ≤ front'.length) ∧
      (findMarker text = none ↔ ∀ name, ¬ Marks text name)) ∧
    ((∃ out, render (parse t text) b = .ok out) ↔ ∀ name, name ∈ b.map (·.1) ↔ Marks text name) ∧
    (∀ out, render (parse t text) b = .ok out → Replaced b text.toList out.toList) ∧
    ∀ e, render (parse t text) b = .error e ↔
      (∃ name, LeastUnused b text name ∧ e = .unusedBinding t name) ∨
      (∀ name ∈ b.map (·.1), Marks text name) ∧
        ∃ front name back, FirstUnbound b text.toList front name back ∧
          e = .unresolvedSlot t (String.ofList name) := by
  refine ⟨segments_parse t text ▸ ⟨(isCut_segmentsOf _).1, (isCut_segmentsOf _).2,
    fun _ _ _ => markerAt_iff⟩, ⟨?_, ?_⟩, exists_render_iff,
    fun out h => (render_eq_ok_iff.1 h).2, fun e => render_eq_error_iff⟩
  · intro name
    rw [← findMarker?_eq_some_iff, findMarker_eq, Option.map_eq_some_iff]
    constructor
    · rintro ⟨cs, hcs, rfl⟩
      rwa [String.toList_ofList]
    · intro h
      exact ⟨name.toList, h, String.ofList_toList⟩
  · rw [findMarker_eq_none_iff]
    constructor
    · rintro h name ⟨front, back, hat⟩
      exact h front name.toList back hat
    · intro h front name back hat
      exact h (String.ofList name) ⟨front, back, by rwa [String.toList_ofList]⟩

example :
    render (parse "t" "\x7b\x7b\x7bA\x7d\x7d\x7d \x7b\x7bB\x7d") [("A", "\x7b\x7bA\x7d\x7d")] =
      .ok "\x7b\x7b\x7bA\x7d\x7d\x7d \x7b\x7bB\x7d" := by
  cbv

end KernelGen.Template
