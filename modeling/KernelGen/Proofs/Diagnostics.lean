import KernelGen.Proofs.LiteralDecoding
import KernelGen.Proofs.TextPositions
import KernelGen.Report

/-!
# Where diagnostics point

A diagnostic marks a range of bytes of the manifest. A text that a reader refuses is marked at the
place that the reader reports, clipped to the text; a generation error is marked at the name that it
blames, where this name first stands in quotes. For texts whose length fits into the ends of a span,
every range that is marked lies in the text.

* `Span.Within`: a span is a range of a text.
* `Diagnostic.exists_placeSpan`, `Diagnostic.within_of_placeSpan`: the span of a reported place.
* `parseManifestWith_ofText`: the places that are reported for manifests always have spans.
* `QuotedIn`, `Diagnostic.locate?_eq_none_iff`, `Diagnostic.marksFirst_of_locate?`: a name is
  located exactly if it stands in quotes, and then at the first such place.
* `GenError.Blames`, `Diagnostic.culprit?_eq_some_iff`: the name that an error blames.
* `Wrapper`, `GenError.exists_wrappers`: an error is its root in some wrappers.
-/

namespace KernelGen

/-! ## Spans in a text -/

namespace Span

/-- A span is a range of bytes of a text. -/
def Within (s : Span) (source : String) : Prop :=
  s.start.toNat ≤ s.stop.toNat ∧ s.stop.toNat ≤ source.utf8ByteSize

/-- The bytes of a text that a span marks. -/
def bytes (s : Span) (source : String) : ByteArray :=
  source.toByteArray.extract s.start.toNat s.stop.toNat

/-- The dummy span lies in every text, at its start. -/
theorem within_dummy (source : String) : dummy.Within source :=
  ⟨Nat.le_refl 0, Nat.zero_le _⟩

/-- The ends of a span are not cut off if they fit. -/
theorem toNat_starting {start length : Nat} (h : start + length < 2 ^ 32) :
    (starting start length).start.toNat = start ∧
      (starting start length).stop.toNat = start + length := by
  have hstart : start < 2 ^ 32 := by omega
  exact ⟨UInt32.toNat_ofNat_of_lt' hstart, UInt32.toNat_ofNat_of_lt' h⟩

end Span

/-- A way to show diagnostics that is broken off, for a label that ends before it starts, over no
other label. -/
def Report.OnlyReversed (render : Diagnostic → String → String → Except Abort String) : Prop :=
  ∀ d file source, render d file source = .error .reversedLabel → d.span.stop < d.span.start

/-- The report with carets fails at reversed labels only. -/
theorem Report.onlyReversed_render : OnlyReversed render := by
  intro d file source h
  unfold render at h
  split at h
  · assumption
  · cases h

/-- A range of the text is not shown as a label that ends before it starts. -/
theorem Report.OnlyReversed.ne_of_within
    {render : Diagnostic → String → String → Except Abort String} (h : OnlyReversed render)
    {d : Diagnostic} {source : String} (hwithin : d.span.Within source) (file : String) :
    render d file source ≠ .error .reversedLabel := by
  intro hreversed
  have hlt := h d file source hreversed
  rw [UInt32.lt_iff_toNat_lt] at hlt
  exact absurd hwithin.1 (Nat.not_le.2 hlt)

/-! ## Names in quotes -/

/-- A name in double quotes. -/
def quote (name : String) : String :=
  "\"" ++ name ++ "\""

/-- A name stands in quotes somewhere in a text. -/
def QuotedIn (name source : String) : Prop :=
  ∃ before after : String, source = before ++ quote name ++ after

/-- A span marks a name between its quotes, at the first place where it has them. -/
def Span.MarksFirst (s : Span) (name source : String) : Prop :=
  ∃ before after : String, source = before ++ quote name ++ after ∧
    s.start.toNat = before.utf8ByteSize + 1 ∧
    s.stop.toNat = s.start.toNat + name.utf8ByteSize ∧
    ∀ before' after' : String, source = before' ++ quote name ++ after' →
      before.utf8ByteSize ≤ before'.utf8ByteSize

variable {source name : String} {s : Span}

/-- A quoted name, character by character. -/
theorem toList_quote (name : String) : (quote name).toList = '"' :: name.toList ++ ['"'] := by
  simp [quote]

/-- The quotes add two bytes. -/
theorem utf8ByteSize_quote (name : String) :
    (quote name).utf8ByteSize = name.utf8ByteSize + 2 := by
  have hmark : ("\"" : String).utf8ByteSize = 1 := by decide
  simp only [quote, String.utf8ByteSize_append, hmark]
  omega

/-- A text with a quoted name in it, character by character. -/
theorem eq_append_quote_iff {before after : String} :
    source = before ++ quote name ++ after ↔
      source.toList = before.toList ++ ('"' :: name.toList ++ ['"']) ++ after.toList := by
  rw [← String.toList_inj, String.toList_append, String.toList_append, toList_quote]

/-- A name is quoted in a text if its quoted characters stand there in a row. -/
theorem quotedIn_iff : QuotedIn name source ↔ '"' :: name.toList ++ ['"'] <:+: source.toList := by
  constructor
  · rintro ⟨before, after, h⟩
    exact ⟨before.toList, after.toList, (eq_append_quote_iff.1 h).symm⟩
  · rintro ⟨before, after, h⟩
    refine ⟨.ofList before, .ofList after, eq_append_quote_iff.2 ?_⟩
    rw [String.toList_ofList, String.toList_ofList, h]

namespace Span.MarksFirst

/-- A span that marks a name lies in the text. -/
theorem within (h : s.MarksFirst name source) : s.Within source := by
  obtain ⟨before, after, rfl, hstart, hstop, -⟩ := h
  unfold Within
  simp only [String.utf8ByteSize_append, utf8ByteSize_quote]
  omega

/-- The marked bytes are those of the name. -/
theorem bytes_eq (h : s.MarksFirst name source) : s.bytes source = name.toByteArray := by
  obtain ⟨before, after, rfl, hstart, hstop, -⟩ := h
  -- The text is cut right behind the opening quote and right before the closing one.
  have hcut : before ++ quote name ++ after = (before ++ "\"") ++ (name ++ ("\"" ++ after)) := by
    simp only [quote, String.append_assoc]
  have hfront : (before ++ "\"").toByteArray.size = before.utf8ByteSize + 1 := by
    rw [String.size_toByteArray, String.utf8ByteSize_append]
    rfl
  unfold bytes
  rw [hcut, hstop, hstart, String.toByteArray_append, ← hfront,
    ← Nat.add_zero (before ++ "\"").toByteArray.size, Nat.add_assoc, Nat.zero_add,
    ByteArray.extract_append_size_add, String.toByteArray_append]
  exact ByteArray.extract_append_eq_left String.size_toByteArray.symm

/-- A span that marks a name is not the dummy, since a quote stands before the name. -/
theorem ne_dummy (h : s.MarksFirst name source) : s ≠ dummy := by
  rintro rfl
  obtain ⟨before, after, -, hstart, -⟩ := h
  have hzero : dummy.start.toNat = 0 := rfl
  omega

end Span.MarksFirst

/-! ## Locating a place and a name -/

/-- The name that an error blames, for the nine kinds of errors that blame one. -/
inductive GenError.Blames : GenError → String → Prop where
  /-- A function that does not exist. -/
  | unknownFunction {name : String} : Blames (.unknownFunction name) name
  /-- A type that depends on itself. -/
  | typeCycle {name : String} : Blames (.typeCycle name) name
  /-- A function that calls itself. -/
  | recursiveCall {name : String} : Blames (.recursiveCall name) name
  /-- A function with the wrong number of parameters. -/
  | shapeMismatch {skeleton : Skeleton} {function : String}
      {varity harity expected found : UInt64} :
      Blames (.shapeMismatch skeleton function varity harity expected found) function
  /-- A function with a parameter whose name is kept for the generator. -/
  | reservedName {function param : String} : Blames (.reservedName function param) function
  /-- A function with two parameters of one name. -/
  | duplicateParam {function param : String} : Blames (.duplicateParam function param) function
  /-- A type that does not exist, and not its owner. -/
  | unknownUserType {owner name : String} : Blames (.unknownUserType owner name) name
  /-- A function that is called, and not the one that calls it. -/
  | disallowedCall {function callee : String} : Blames (.disallowedCall function callee) callee
  /-- A name that is no identifier. -/
  | invalidIdentifier {what name : String} : Blames (.invalidIdentifier what name) name

namespace Diagnostic

/-- The span of a place with an offset is the byte there, or the end of the text. -/
theorem exists_placeSpan (hsize : source.utf8ByteSize < 2 ^ 32) {p : Text.Place} {offset : UInt64}
    (h : Text.byteOffset source.toList p = .ok offset) :
    ∃ s, placeSpan source.toList p = .ok s ∧ s.start.toNat = offset.toNat ∧
      s.stop.toNat = min (offset.toNat + 1) source.utf8ByteSize ∧ s.Within source := by
  have hword : source.utf8ByteSize < Word.bound := Nat.lt_trans hsize (by decide)
  have hle : offset.toNat ≤ source.utf8ByteSize := by
    rw [← Text.byteLength_toList] at hword ⊢
    exact Text.byteOffset_le hword h
  have hnext : offset.toNat + 1 < Word.bound :=
    Nat.lt_of_le_of_lt (Nat.lt_of_le_of_lt hle hsize) (by decide)
  obtain ⟨next, hadd, hnat⟩ : ∃ next, Word.add offset 1 = .ok next ∧
      next.toNat = offset.toNat + 1 := Word.exists_add hnext
  have hstop : (max (min next (UInt64.ofNat (Text.byteLength source.toList))) offset).toNat =
      min (offset.toNat + 1) source.utf8ByteSize := by
    rw [Text.byteLength_toList, Word.toNat_max, Word.toNat_min, hnat,
      UInt64.toNat_ofNat_of_lt' hword]
    omega
  have hspan : placeSpan source.toList p = .ok ⟨0, offset.toUInt32,
      (max (min next (UInt64.ofNat (Text.byteLength source.toList))) offset).toUInt32⟩ := by
    rw [placeSpan, h]
    change (Word.add offset 1 >>= _) = _
    rw [hadd]
    rfl
  refine ⟨_, hspan, ?_⟩
  -- Both ends are at most the length of the text, so that they keep their values as words.
  unfold Span.Within
  simp only [UInt64.toNat_toUInt32, hstop]
  rw [Nat.mod_eq_of_lt (show offset.toNat < 2 ^ 32 by omega),
    Nat.mod_eq_of_lt (show min (offset.toNat + 1) source.utf8ByteSize < 2 ^ 32 by omega)]
  omega

/-- A place is marked unless the sum for its offset is no word. -/
theorem placeSpan_eq_error_iff (hsize : source.utf8ByteSize < 2 ^ 32) {p : Text.Place} {r : Abort} :
    placeSpan source.toList p = .error r ↔ r = .addOverflow ∧ p.Overflows source.toList := by
  have hword : Text.byteLength source.toList < Word.bound := by
    rw [Text.byteLength_toList]
    exact Nat.lt_trans hsize (by decide)
  rw [← Text.byteOffset_eq_error_iff hword]
  cases hoffset : Text.byteOffset source.toList p with
  | error r' =>
    rw [placeSpan, hoffset]
    constructor <;> rintro ⟨⟩ <;> rfl
  | ok offset =>
    -- Behind an offset nothing is broken off, since the offset lies in the text.
    obtain ⟨s, hs, -⟩ := exists_placeSpan hsize hoffset
    simp [hs]

/-- A place that is marked is marked at a range of the text. -/
theorem within_of_placeSpan (hsize : source.utf8ByteSize < 2 ^ 32) {p : Text.Place}
    (h : placeSpan source.toList p = .ok s) : s.Within source := by
  cases hoffset : Text.byteOffset source.toList p with
  | error r =>
    rw [placeSpan, hoffset] at h
    cases h
  | ok offset =>
    obtain ⟨s', hs, -, -, hwithin⟩ := exists_placeSpan hsize hoffset
    rw [hs] at h
    exact Except.ok.inj h ▸ hwithin

/-- A name is not located exactly if it has no quotes anywhere. -/
theorem locate?_eq_none_iff : locate? source name = none ↔ ¬ QuotedIn name source := by
  rw [quotedIn_iff, ← Text.occurs_iff, Text.occurs, locate?]
  split <;> simp_all

/-- A name is located at the first place where it has quotes. -/
theorem marksFirst_of_locate? (hsize : source.utf8ByteSize < 2 ^ 32)
    (h : locate? source name = some s) : s.MarksFirst name source := by
  unfold locate? at h
  split at h
  · cases h
  · next before after hcut =>
    obtain ⟨hsource, hleast⟩ := Text.cut?_eq_some_iff.1 hcut
    have hs : source = .ofList before ++ quote name ++ .ofList after := by
      rw [eq_append_quote_iff, String.toList_ofList, String.toList_ofList, hsource]
    have hbefore : (String.ofList before).utf8ByteSize = Text.byteLength before := by
      rw [← Text.byteLength_toList, String.toList_ofList]
    -- The quotes and the name fit into the text, so the ends of the span fit into words.
    have hlength : Text.byteLength before + (name.utf8ByteSize + 2) ≤ source.utf8ByteSize := by
      rw [hs, String.utf8ByteSize_append, String.utf8ByteSize_append, utf8ByteSize_quote, hbefore]
      omega
    obtain rfl := Option.some.inj h
    rw [Text.byteLength_toList]
    have hfits : Text.byteLength before + 1 + name.utf8ByteSize < 2 ^ 32 := by omega
    obtain ⟨hstart, hstop⟩ := Span.toNat_starting hfits
    refine ⟨.ofList before, .ofList after, hs, by rw [hstart, hbefore], by rw [hstart, hstop], ?_⟩
    intro before' after' hs'
    -- Of two parts before an occurrence, the shorter one begins the longer one.
    have hle := hleast _ _ (eq_append_quote_iff.1 hs')
    have hfirst : before <+: source.toList := ⟨_, by rw [hsource, List.append_assoc]⟩
    have hother : before'.toList <+: source.toList :=
      ⟨_, by rw [eq_append_quote_iff.1 hs', List.append_assoc]⟩
    obtain ⟨rest, hrest⟩ := List.prefix_of_prefix_length_le hfirst hother hle
    rw [hbefore, ← Text.byteLength_toList before', ← hrest, Text.byteLength_append]
    exact Nat.le_add_right _ _

/-- The name looked for is the one that the error blames. -/
theorem culprit?_eq_some_iff {e : GenError} : culprit? e = some name ↔ e.Blames name := by
  constructor
  · intro h
    cases e <;> cases h <;> constructor
  · rintro ⟨⟩ <;> rfl

/-- An error that blames a name is marked where the name is located. -/
theorem span_ofError {e : GenError} (h : e.root.Blames name) :
    (ofError e source).span = (locate? source name).getD .dummy := by
  rw [ofError, culprit?_eq_some_iff.2 h]
  rfl

/-- A generation error is marked at the name that it blames, if this name has quotes somewhere. -/
theorem marksFirst_ofError (hsize : source.utf8ByteSize < 2 ^ 32) {e : GenError}
    (hname : e.root.Blames name) (hquoted : QuotedIn name source) :
    (ofError e source).span.MarksFirst name source := by
  have hlocated : locate? source name ≠ none := fun hnone => locate?_eq_none_iff.1 hnone hquoted
  obtain ⟨span, hspan⟩ := Option.ne_none_iff_exists'.1 hlocated
  rw [span_ofError hname, hspan]
  exact marksFirst_of_locate? hsize hspan

/-- A generation error has the dummy span if there is no name to be marked. -/
theorem span_ofError_eq_dummy {e : GenError}
    (h : (∀ name, ¬ e.root.Blames name) ∨ ∃ name, e.root.Blames name ∧ ¬ QuotedIn name source) :
    (ofError e source).span = .dummy := by
  obtain hnone | ⟨name, hname, hunquoted⟩ := h
  · have hculprit : culprit? e.root = none :=
      Option.eq_none_iff_forall_ne_some.2 fun name h => hnone name (culprit?_eq_some_iff.1 h)
    rw [ofError, hculprit]
    rfl
  · rw [span_ofError hname, locate?_eq_none_iff.2 hunquoted]
    rfl

/-- Either the name that an error blames has quotes somewhere, or there is no name to be marked. -/
theorem marks_or_dummy (e : GenError) (source : String) :
    (∃ name, e.root.Blames name ∧ QuotedIn name source) ∨
      ((∀ name, ¬ e.root.Blames name) ∨ ∃ name, e.root.Blames name ∧ ¬ QuotedIn name source) := by
  by_cases hblames : ∃ name, e.root.Blames name
  · obtain ⟨name, hname⟩ := hblames
    by_cases hquoted : QuotedIn name source
    · exact .inl ⟨name, hname, hquoted⟩
    · exact .inr (.inr ⟨name, hname, hquoted⟩)
  · exact .inr (.inl fun name hname => hblames ⟨name, hname⟩)

/-- The span for a generation error lies in the text. -/
theorem within_ofError (hsize : source.utf8ByteSize < 2 ^ 32) (e : GenError) :
    (ofError e source).span.Within source := by
  obtain ⟨name, hname, hquoted⟩ | hdummy := marks_or_dummy e source
  · exact (marksFirst_ofError hsize hname hquoted).within
  · rw [span_ofError_eq_dummy hdummy]
    exact Span.within_dummy source

/-- The span for a generation error is the dummy exactly if no name is blamed, or one that the text
does not quote. -/
theorem span_ofError_eq_dummy_iff (hsize : source.utf8ByteSize < 2 ^ 32) (e : GenError) :
    (ofError e source).span = .dummy ↔
      (∀ name, ¬ e.root.Blames name) ∨ ∃ name, e.root.Blames name ∧ ¬ QuotedIn name source := by
  refine ⟨fun hspan => ?_, span_ofError_eq_dummy⟩
  obtain ⟨name, hname, hquoted⟩ | hdummy := marks_or_dummy e source
  · exact absurd hspan (marksFirst_ofError hsize hname hquoted).ne_dummy
  · exact hdummy

/-- There is advice for calls that are not allowed, and for no other error. -/
theorem isSome_advice?_iff {e : GenError} :
    (advice? e).isSome ↔ ∃ function callee, e = .disallowedCall function callee := by
  cases e <;> simp [advice?]

end Diagnostic

/-! ## Reading a manifest -/

section Reading

variable {read : String → Except Manifest.Refusal Manifest} {d : Diagnostic}

/-- What a reader refuses is told with the span of the place that it reports. -/
theorem exists_of_parseManifestWith_eq_error (h : parseManifestWith read source = .ok (.error d)) :
    ∃ refusal, read source = .error refusal ∧
      Diagnostic.placeSpan source.toList refusal.place = .ok d.span := by
  unfold parseManifestWith at h
  split at h
  · cases h
  · next refusal hread =>
    refine ⟨refusal, hread, ?_⟩
    cases hspan : Diagnostic.placeSpan source.toList refusal.place with
    | error r =>
      rw [Diagnostic.ofRefusal, hspan] at h
      cases h
    | ok s =>
      rw [Diagnostic.ofRefusal, hspan] at h
      obtain rfl := Except.error.inj (Except.ok.inj h)
      rfl

/-- Reading is broken off exactly if the place that is reported has no offset. -/
theorem parseManifestWith_eq_abort_iff (hsize : source.utf8ByteSize < 2 ^ 32) {r : Abort} :
    parseManifestWith read source = .error r ↔
      r = .addOverflow ∧ ∃ refusal, read source = .error refusal ∧
        refusal.place.Overflows source.toList := by
  unfold parseManifestWith
  cases hread : read source with
  | ok m => simp
  | error refusal =>
    have hspan := Diagnostic.placeSpan_eq_error_iff hsize (p := refusal.place) (r := r)
    simp only [Except.error.injEq, exists_eq_left', ← hspan, Diagnostic.ofRefusal]
    cases Diagnostic.placeSpan source.toList refusal.place with
    | error r' => constructor <;> rintro ⟨⟩ <;> rfl
    | ok s => exact iff_of_false nofun nofun

/-- The places that are reported for manifests lie in the text, so that nothing is broken off. -/
theorem parseManifestWith_ofText (hsize : source.utf8ByteSize < 2 ^ 32) :
    parseManifestWith Manifest.ofText source = .ok (parseManifest source) := by
  have hnone (r : Abort) : parseManifestWith Manifest.ofText source ≠ .error r := by
    rw [Ne, parseManifestWith_eq_abort_iff hsize]
    rintro ⟨-, refusal, hread, hover⟩
    unfold Manifest.ofText at hread
    split at hread
    · cases hread
    · next f _ =>
      obtain rfl := Except.error.inj hread
      have hword : Text.byteLength source.toList + 1 < Word.bound := by
        rw [Text.byteLength_toList]
        exact Nat.lt_of_le_of_lt hsize (by decide)
      have hoffset := Text.byteOffset_positionAt hword
        (Nat.sub_le (Text.byteLength source.toList) f.left)
      have herror := Text.byteOffset_of_overflows (Nat.lt_of_succ_lt hword) hover
      exact absurd (herror.symm.trans hoffset) nofun
  unfold parseManifest
  split
  · assumption
  · next r hr => exact absurd hr (hnone r)

end Reading

/-! ## Wrapped errors -/

/-- What a wrapper says about an error: which kernel was being generated. -/
structure Wrapper where
  /-- The backend. -/
  backend : String
  /-- The skeleton. -/
  skeleton : Skeleton
  /-- The user function. -/
  function : String
  /-- The number of vertical parameters. -/
  varity : UInt64
  /-- The number of horizontal parameters. -/
  harity : UInt64

namespace Wrapper

/-- An error in a wrapper. -/
def wrap (w : Wrapper) (e : GenError) : GenError :=
  .instantiation w.backend w.skeleton w.function w.varity w.harity e

/-- The note about a wrapper. -/
def note (w : Wrapper) : String :=
  "while generating " ++ w.backend ++ " " ++ w.skeleton.name ++ " for '" ++ w.function ++
    "' (Varity " ++ Word.numeral w.varity ++ ", Harity " ++ Word.numeral w.harity ++ ")"

end Wrapper

/-- An error is its root in some wrappers, and each of them has its note, from the outermost in. -/
theorem GenError.exists_wrappers (e : GenError) :
    ∃ ws : List Wrapper, e = ws.foldr Wrapper.wrap e.root ∧
      (∀ w e', e.root ≠ Wrapper.wrap w e') ∧ Diagnostic.wrapperNotes e = ws.map Wrapper.note := by
  induction e with
  | instantiation backend skeleton function varity harity e ih =>
    obtain ⟨ws, he, hroot, hnotes⟩ := ih
    refine ⟨⟨backend, skeleton, function, varity, harity⟩ :: ws, ?_, hroot, ?_⟩
    · exact congrArg (GenError.instantiation backend skeleton function varity harity) he
    · exact congrArg (_ :: ·) hnotes
  | _ => exact ⟨[], rfl, nofun, rfl⟩

/-- For a text whose length fits into a span: whatever a reader reports about it, what the user is
told is marked at a range of the text, unless the sum for the reported place is no word, when
nothing is told; for the places that are reported for manifests, that does not happen. Every
generation error, however often it is wrapped, is marked at a range of the text as well, so that no
way to show these diagnostics finds a label that ends before it starts. A generation error has the
dummy span exactly if it blames no name or one that has no quotes in the text; otherwise the bytes
of this name are marked between their first quotes. Its message is that of its root, its notes are
those of its wrappers from the outermost in, and there is advice exactly if its root is a call that
is not allowed. -/
theorem Diagnostic.spans_within_source {source : String} (hsize : source.utf8ByteSize < 2 ^ 32) :
    (∀ read, (∀ d, parseManifestWith read source = .ok (.error d) → d.span.Within source) ∧
      ∀ r, parseManifestWith read source = .error r ↔
        r = .addOverflow ∧ ∃ refusal, read source = .error refusal ∧
          refusal.place.Overflows source.toList) ∧
    (parseManifestWith Manifest.ofText source = .ok (parseManifest source) ∧
      ∀ d, parseManifest source = .error d → d.span.Within source) ∧
    (∀ render, Report.OnlyReversed render → ∀ file,
      (∀ d, parseManifest source = .error d → render d file source ≠ .error .reversedLabel) ∧
        ∀ e, render (ofError e source) file source ≠ .error .reversedLabel) ∧
    ∀ e, (ofError e source).span.Within source ∧
      ((ofError e source).span = .dummy ↔
        (∀ name, ¬ e.root.Blames name) ∨ ∃ name, e.root.Blames name ∧ ¬ QuotedIn name source) ∧
      (∀ name, e.root.Blames name → QuotedIn name source →
        (ofError e source).span.MarksFirst name source ∧
          (ofError e source).span.bytes source = name.toByteArray) ∧
      (ofError e source).message = e.root.message ∧
      (∃ ws : List Wrapper, e = ws.foldr Wrapper.wrap e.root ∧
        (∀ w e', e.root ≠ Wrapper.wrap w e') ∧ (ofError e source).notes = ws.map Wrapper.note) ∧
      ((ofError e source).help.isSome ↔
        ∃ function callee, e.root = .disallowedCall function callee) := by
  have hwith {read d} (h : parseManifestWith read source = .ok (.error d)) :
      d.span.Within source := by
    obtain ⟨refusal, -, hspan⟩ := exists_of_parseManifestWith_eq_error h
    exact within_of_placeSpan hsize hspan
  have hparse {d} (h : parseManifest source = .error d) : d.span.Within source :=
    hwith (by rw [parseManifestWith_ofText hsize, h])
  refine ⟨fun read => ⟨fun d => hwith, fun r => parseManifestWith_eq_abort_iff hsize⟩,
    ⟨parseManifestWith_ofText hsize, fun d => hparse⟩, fun render hrender file => ⟨?_, ?_⟩,
    fun e => ⟨within_ofError hsize e, span_ofError_eq_dummy_iff hsize e, ?_, rfl,
      e.exists_wrappers, isSome_advice?_iff⟩⟩
  · exact fun d hd => hrender.ne_of_within (hparse hd) file
  · exact fun e => hrender.ne_of_within (within_ofError hsize e) file
  · intro name hname hquoted
    have hmarks := marksFirst_ofError hsize hname hquoted
    exact ⟨hmarks, hmarks.bytes_eq⟩

/-- A name without quotes and a second one in quotes are passed over; and the last byte of a text is
marked for a reader that stops behind it. -/
theorem Diagnostic.spans_within_source_sample :
    let source := "[hypotf, \"hypotf\", \"hypotf\"]"
    let w : Wrapper := ⟨"OpenCL", .mapPairs, "scale", 1, 1⟩
    let e := w.wrap (w.wrap (.disallowedCall "scale" "hypotf"))
    source.utf8ByteSize < 2 ^ 32 ∧ e.root.Blames "hypotf" ∧ QuotedIn "hypotf" source ∧
      (ofError e source).span = ⟨0, 10, 16⟩ ∧
      (ofError e source).span.bytes source = "hypotf".toByteArray ∧
      (ofError e source).help.isSome ∧
      Report.OnlyReversed Report.render ∧
      Report.render (ofError e source) "m.json" source ≠ .error .reversedLabel := by
  intro source w e
  have hsize : source.utf8ByteSize < 2 ^ 32 := by decide
  have hquoted : QuotedIn "hypotf" source := ⟨"[hypotf, ", ", \"hypotf\"]", by decide⟩
  obtain ⟨-, -, hrender, herror⟩ := spans_within_source hsize
  obtain ⟨-, -, hmarks, -, -, hhelp⟩ := herror e
  exact ⟨hsize, .disallowedCall, hquoted, by decide,
    (hmarks "hypotf" .disallowedCall hquoted).2, hhelp.2 ⟨"scale", "hypotf", rfl⟩,
    Report.onlyReversed_render, (hrender _ Report.onlyReversed_render "m.json").2 e⟩

end KernelGen
