import KernelGen.Proofs.ArgumentLists

/-!
# Reading a raw string literal back

The host class holds the kernel source in a raw string literal. Here a literal is read the way a
compiler reads it: the delimiter stands between the quote and the first opening parenthesis, and the
content ends where a closing parenthesis, the delimiter and a quote first follow one another.

* `RawLiteral.cut?_closing`: a content in which its literal does not end is read as a whole. The end
  of the content and the end of the literal cannot make up an earlier end together, because the
  delimiter has no parenthesis.
* `RawLiteral.delimiter_eq_ok`, `RawLiteral.delimiter_eq_error`: the delimiter of a source is a
  candidate that does not collide with it, and there is none only if all candidates collide.
-/

namespace KernelGen

namespace Text

/-- A text is cut at the first occurrence of a character. -/
theorem cutAt?_append {sep : Char} {front : List Char} (h : sep ∉ front) (back : List Char) :
    cutAt? sep (front ++ sep :: back) = some (front, back) := by
  induction front with
  | nil => simp [cutAt?]
  | cons c front ih =>
    rw [List.mem_cons, not_or] at h
    rw [List.cons_append, cutAt?, if_neg (Ne.symm h.1), ih h.2]
    rfl

end Text

namespace RawLiteral

/-! ## A reader of literals -/

/-- A character that may stand in a delimiter. -/
def isDelimiterChar (c : Char) : Bool :=
  c != '(' && c != ')' && c != '\\' && c != '"' && !Text.isBlank c

/-- What may stand between the quote and the parenthesis of a literal. -/
def isDelimiter (d : List Char) : Bool :=
  decide (d.length ≤ maxLength) && d.all isDelimiterChar

/-- The content of the raw string literal with which a text begins, and what follows the literal. -/
def read? (cs : List Char) : Option (List Char × List Char) :=
  match Text.after? ['R', '"'] cs with
  | none => none
  | some rest =>
    match Text.cutAt? '(' rest with
    | none => none
    | some (delim, rest) => if isDelimiter delim then Text.cut? (closing delim) rest else none

/-- A literal whose content does not collide with its delimiter ends behind the content. -/
theorem cut?_closing {source delim : List Char} (hfree : collides source delim = false)
    (hparen : ')' ∉ delim) (back : List Char) :
    Text.cut? (closing delim) (source ++ closing delim ++ back) = some (source, back) := by
  have hinfix : ¬ closing delim <:+: source := by
    rw [← Text.occurs_iff]
    simpa [collides] using hfree
  refine Text.cut?_eq_some_iff.2 ⟨rfl, fun front back' hs => le_of_not_gt fun hlt => hinfix ?_⟩
  -- An earlier end begins inside the source, in front of some more of it.
  simp only [List.append_assoc] at hs
  rcases List.append_eq_append_iff.1 hs with ⟨more, rfl, -⟩ | ⟨more, rfl, hend⟩
  · rw [List.length_append] at hlt
    omega
  · cases more with
    | nil => simp at hlt
    | cons c more =>
      obtain ⟨rfl, htail⟩ := List.cons.inj hend
      -- It either ends inside the source too, or runs over the parenthesis behind the source.
      rcases List.append_eq_append_iff.1 htail with ⟨rest, rfl, -⟩ | ⟨rest, hrest, hback⟩
      · exact ⟨front, rest, by simp [closing]⟩
      · cases rest with
        | nil =>
          rw [List.append_nil] at hrest
          exact ⟨front, [], by simp [closing, ← hrest]⟩
        | cons c rest =>
          obtain ⟨rfl, -⟩ := List.cons.inj hback
          have hmem : ')' ∈ delim ++ ['"'] := by
            rw [show delim ++ ['"'] = more ++ ')' :: rest from hrest]
            simp
          simp [hparen] at hmem

/-- A delimiter holds none of the characters that it may not hold. -/
theorem notMem_of_isDelimiter {d : List Char} (h : isDelimiter d = true) {c : Char}
    (hc : isDelimiterChar c = false) : c ∉ d := by
  intro hmem
  rw [isDelimiter, Bool.and_eq_true, List.all_eq_true] at h
  rw [h.2 c hmem] at hc
  cases hc

/-- A literal with a delimiter that fits its content is read back. -/
theorem read?_of_not_collides {source delim : List Char} (hdelim : isDelimiter delim = true)
    (hfree : collides source delim = false) (back : List Char) :
    read? (['R', '"'] ++ delim ++ ['('] ++ source ++ closing delim ++ back) =
      some (source, back) := by
  have hquote : Text.after? ['R', '"'] (['R', '"'] ++ delim ++ ['('] ++ source ++ closing delim ++
      back) = some (delim ++ '(' :: (source ++ closing delim ++ back)) :=
    Text.after?_eq_some_iff.2 (by simp)
  have hopen : Text.cutAt? '(' (delim ++ '(' :: (source ++ closing delim ++ back)) =
      some (delim, source ++ closing delim ++ back) :=
    Text.cutAt?_append (notMem_of_isDelimiter hdelim (by decide)) _
  rw [read?, hquote]
  dsimp only
  rw [hopen]
  dsimp only
  rw [if_pos hdelim, cut?_closing hfree (notMem_of_isDelimiter hdelim (by decide))]

/-! ## The candidates -/

/-- A delimiter that is tried: three to sixteen number signs, or `skel` with a numeral, if it is not
too long. -/
def IsCandidate (d : List Char) : Prop :=
  (∃ n, 3 ≤ n ∧ n ≤ maxLength ∧ d = List.replicate n '#') ∨
    ∃ k, d = "skel".toList ++ Decimal.digits k ∧ d.length ≤ maxLength

/-- The delimiters that are tried first are rows of hashes. -/
theorem mem_hashes_iff {d : List Char} :
    d ∈ hashes ↔ ∃ n, 3 ≤ n ∧ n ≤ maxLength ∧ d = List.replicate n '#' := by
  simp only [hashes, List.mem_map, List.mem_range]
  constructor
  · rintro ⟨k, hk, rfl⟩
    exact ⟨k + 3, by omega, by omega, rfl⟩
  · rintro ⟨n, hlow, hhigh, rfl⟩
    exact ⟨n - 3, by omega, by rw [Nat.sub_add_cancel hlow]⟩

/-- The numbered candidates that are tried are those that are short enough. -/
theorem length_numbered_le_iff {k : Nat} : (numbered k).length ≤ maxLength ↔ k < numberedCount := by
  have hlength : (numbered k).length = 4 + (Decimal.digits k).length := by
    rw [numbered, List.length_append]
    rfl
  have hcount : numberedCount = 10 ^ (11 + 1) := by decide
  rw [hlength, hcount, ← Decimal.length_digits_le_iff, maxLength]
  omega

/-- A candidate of the second kind that is found does not collide. -/
theorem of_findNumbered {source d : List Char} {k : Nat} (h : findNumbered source k = some d) :
    ∃ j < numberedCount, d = numbered j ∧ collides source d = false := by
  fun_induction findNumbered source k with
  | case1 k _ _ ih => exact ih h
  | case2 k hlt hfree =>
    obtain rfl := Option.some.inj h
    exact ⟨k, hlt, rfl, by simpa using hfree⟩
  | case3 => cases h

/-- The delimiter of a source is a candidate that does not collide with it. -/
theorem delimiter_eq_ok {source delim : String} (h : delimiter source = .ok delim) :
    IsCandidate delim.toList ∧ collides source.toList delim.toList = false := by
  unfold delimiter at h
  dsimp only at h
  split at h
  · next d hd =>
    obtain rfl := Except.ok.inj h
    rw [String.toList_ofList]
    exact ⟨.inl (mem_hashes_iff.1 (List.mem_of_find?_eq_some hd)),
      by simpa using List.find?_some hd⟩
  · split at h
    · next d hd =>
      obtain rfl := Except.ok.inj h
      obtain ⟨k, hk, rfl, hfree⟩ := of_findNumbered hd
      rw [String.toList_ofList]
      exact ⟨.inr ⟨k, rfl, length_numbered_le_iff.2 hk⟩, hfree⟩
    · cases h

/-- If a source has no delimiter, all candidates collide with it. -/
theorem delimiter_eq_error {source : String} {e : GenError} (h : delimiter source = .error e)
    {d : List Char} (hd : IsCandidate d) : collides source.toList d = true := by
  unfold delimiter at h
  dsimp only at h
  split at h
  · cases h
  · next hhashes =>
    split at h
    · cases h
    · next hnumbered =>
      rcases hd with hd | ⟨k, rfl, hlength⟩
      · simpa using List.find?_eq_none.1 hhashes d (mem_hashes_iff.2 hd)
      · exact collides_of_findNumbered hnumbered (Nat.zero_le k) (length_numbered_le_iff.1 hlength)

/-- A digit may stand in a delimiter. -/
theorem isDelimiterChar_of_isDigit {c : Char} (h : c.isDigit = true) :
    isDelimiterChar c = true := by
  have hrange : 48 ≤ c.toNat ∧ c.toNat ≤ 57 := by
    simpa [Char.isDigit, Char.le_def, UInt32.le_iff_toNat_le] using h
  have hne {d : Char} (hd : d.isDigit = false) : c ≠ d := by
    rintro rfl
    rw [h] at hd
    cases hd
  have hblank : Text.isBlank c = false := by
    simp only [Text.isBlank]
    grind
  simp [isDelimiterChar, hblank, hne (d := '(') (by decide), hne (d := ')') (by decide),
    hne (d := '\\') (by decide), hne (d := '"') (by decide)]

/-- Every candidate may stand in a literal, and none is empty. -/
theorem isDelimiter_of_isCandidate {d : List Char} (h : IsCandidate d) :
    isDelimiter d = true ∧ d ≠ [] := by
  rcases h with ⟨n, hlow, hhigh, rfl⟩ | ⟨k, rfl, hlength⟩
  · refine ⟨?_, by simp; omega⟩
    rw [isDelimiter, Bool.and_eq_true, decide_eq_true_eq, List.length_replicate,
      List.all_replicate]
    exact ⟨hhigh, by rw [show isDelimiterChar '#' = true by decide, ite_self]⟩
  · refine ⟨?_, List.append_ne_nil_of_left_ne_nil (by decide) _⟩
    rw [isDelimiter, Bool.and_eq_true, decide_eq_true_eq]
    refine ⟨hlength, ?_⟩
    rw [List.all_append, Bool.and_eq_true]
    refine ⟨by decide, List.all_eq_true.2 fun c hc => ?_⟩
    exact isDelimiterChar_of_isDigit (Decimal.isDigit_of_mem_digits hc)

end RawLiteral

/-! ## The literal of the host class -/

namespace Artifact

/-- A text has a piece in it, with `n` quotes in front of it. -/
def HasPiece (n : Nat) (piece text : String) : Prop :=
  ∃ front back, text = front ++ piece ++ back ∧ front.toList.count '"' = n

theorem HasPiece.here (piece back : String) : HasPiece 0 piece (piece ++ back) :=
  ⟨"", back, by rw [String.empty_append], rfl⟩

/-- A piece moves behind the quotes of the text in front of it. -/
theorem HasPiece.append {n : Nat} {piece text : String} (h : HasPiece n piece text) (s : String) :
    HasPiece (s.toList.count '"' + n) piece (s ++ text) := by
  obtain ⟨front, back, rfl, hcount⟩ := h
  refine ⟨s ++ front, back, by simp only [String.append_assoc], ?_⟩
  rw [String.toList_append, List.count_append, hcount]

/-- Text without quotes in front of a piece makes no difference. -/
theorem HasPiece.text {n : Nat} {piece s text : String} (hs : s.toList.count '"' = 0)
    (h : HasPiece n piece text) : HasPiece n piece (s ++ text) := by
  have happend := h.append s
  rwa [hs, Nat.zero_add] at happend

theorem count_ofList {cs : List Char} (h : cs.count '"' = 0) :
    (String.ofList cs).toList.count '"' = 0 := by
  rwa [String.toList_ofList]

/-- The raw string literal with a content. -/
def literalText (delim source : String) : String :=
  "R\"" ++ delim ++ "(" ++ source ++ ")" ++ delim ++ "\""

/-- The host class has the kernel source in a literal, and in front of it no other quotes than those
of the class name. -/
theorem hasPiece_buildText (names : KernelNames) (delim source : String) :
    HasPiece (names.wrapper.toList.count '"') (literalText delim source)
      (buildText names delim source) := by
  have hopen : "\t\t\tstd::string source = skel::backend::cl_helpers::replaceSizeT(R\"" =
      "\t\t\tstd::string source = skel::backend::cl_helpers::replaceSizeT(" ++ "R\"" := by
    decide
  have hclose : "\");\n" = "\"" ++ ");\n" := by decide
  have hliteral (rest : String) : "R\"" ++ (delim ++ ("(" ++ (source ++ (")" ++ (delim ++ ("\"" ++
      rest)))))) = literalText delim source ++ rest := by
    simp only [literalText, String.append_assoc]
  unfold buildText
  rewrite [hopen, hclose, ← Nat.add_zero (names.wrapper.toList.count '"')]
  simp only [String.append_assoc, hliteral, -String.reduceAppend]
  repeat' first
    | with_reducible exact HasPiece.here _ _
    | with_reducible refine HasPiece.text (count_ofList (by decide)) ?_
    | with_reducible refine HasPiece.append ?_ _

end Artifact

/-- The literal of the host class reads back as the kernel source. It is the first literal of the
text, if the class name has no quotes; no end of it comes before the end of the kernel source; and
its delimiter has one to sixteen characters, none of them a parenthesis, a backslash, a quote or a
blank. A source has no delimiter only if the literal would end inside it for every candidate, so it
has one if it has fewer than `10 ^ 12` quotes. -/
theorem kernelSource_reads_back :
    (∀ {g : MetadataGraph} {r : LoweringRequest} {a : Artifact}, Artifact.lower g r = .ok a →
      ∃ delim front back : String, RawLiteral.delimiter a.kernelSource = .ok delim ∧
        a.sourceText = front ++ ("R\"" ++ delim ++ "(" ++ a.kernelSource ++ ")" ++ delim ++ "\"") ++
          back ∧
        front.toList.count '"' = r.names.wrapper.toList.count '"' ∧
        (∀ content rest : String, a.kernelSource ++ ")" ++ delim ++ "\"" ++ back =
          content ++ ")" ++ delim ++ "\"" ++ rest → a.kernelSource.length ≤ content.length) ∧
        RawLiteral.read? ("R\"" ++ delim ++ "(" ++ a.kernelSource ++ ")" ++ delim ++ "\"" ++
          back).toList = some (a.kernelSource.toList, back.toList) ∧
        1 ≤ delim.length ∧ delim.length ≤ 16 ∧
        ∀ c ∈ delim.toList, c ≠ '(' ∧ c ≠ ')' ∧ c ≠ '\\' ∧ c ≠ '"' ∧ Text.isBlank c = false) ∧
    ∀ source : String,
      (∀ e, RawLiteral.delimiter source = .error e → ∀ d, RawLiteral.IsCandidate d →
        [')'] ++ d ++ ['"'] <:+: source.toList) ∧
      (source.toList.count '"' < 10 ^ 12 → ∃ delim, RawLiteral.delimiter source = .ok delim) := by
  refine ⟨fun {g r a} h => ?_, fun source => ⟨fun e he d hd => ?_, fun hcount => ?_⟩⟩
  · obtain ⟨-, source, delim, -, hdelim, rfl⟩ := Artifact.lower_eq_ok_iff.1 h
    obtain ⟨hcandidate, hfree⟩ := RawLiteral.delimiter_eq_ok hdelim
    obtain ⟨hfits, hne⟩ := RawLiteral.isDelimiter_of_isCandidate hcandidate
    obtain ⟨front, back, hbuild, hcount⟩ := Artifact.hasPiece_buildText r.names delim source
    let rest := back ++ Artifact.launchText r.function r.names.kernel
    have hclosing (s t : String) : (s ++ ")" ++ delim ++ "\"" ++ t).toList =
        s.toList ++ RawLiteral.closing delim.toList ++ t.toList := by
      simp [RawLiteral.closing]
    refine ⟨delim, front, rest, hdelim, ?_, hcount, ?_, ?_, ?_⟩
    · rw [Artifact.sourceText_ofSource, hbuild, String.append_assoc]
      rfl
    · intro content rest' heq
      have hcut := RawLiteral.cut?_closing hfree
        (RawLiteral.notMem_of_isDelimiter hfits (by decide)) rest.toList
      have hlist := congrArg String.toList heq
      rw [hclosing, hclosing] at hlist
      exact (Text.cut?_eq_some_iff.1 hcut).2 _ _ hlist
    · have hread := RawLiteral.read?_of_not_collides hfits hfree rest.toList
      simpa [RawLiteral.closing] using hread
    · rw [RawLiteral.isDelimiter, Bool.and_eq_true, decide_eq_true_eq, List.all_eq_true] at hfits
      refine ⟨List.length_pos_iff.2 hne, hfits.1, fun c hc => ?_⟩
      have hchar := hfits.2 c hc
      simpa [RawLiteral.isDelimiterChar, and_assoc] using hchar
  · exact Text.occurs_iff.1 (RawLiteral.delimiter_eq_error he hd)
  · exact RawLiteral.exists_delimiter hcount

/-- A function whose body has the end of a literal with the shortest delimiter in it. -/
def sampleQuoting : LoweringRequest where
  skeleton := .mapPairs
  function := {
    name := "scale"
    uniqueName := "scale"
    returnType := "float"
    elementwise := [⟨"a", "float", .vertical⟩]
    body := "return f(a, \")###\");" }
  shape := ⟨1, 0⟩
  names := ⟨"k", "Wrapper_k"⟩
  outputDir := "out"
  preserveLines := false

/-- The body rules the shortest delimiter out, and the literal still reads back. -/
theorem kernelSource_reads_back_sample :
    ∃ a delim front back, Artifact.lower {} sampleQuoting = .ok a ∧
      RawLiteral.delimiter a.kernelSource = .ok delim ∧ delim ≠ "###" ∧
      a.sourceText = front ++ ("R\"" ++ delim ++ "(" ++ a.kernelSource ++ ")" ++ delim ++ "\"") ++
        back ∧
      RawLiteral.read? ("R\"" ++ delim ++ "(" ++ a.kernelSource ++ ")" ++ delim ++ "\"" ++
        back).toList = some (a.kernelSource.toList, back.toList) := by
  have hcallees : MetadataGraph.callees {} sampleQuoting.function = .ok [] := by cbv
  have htypes : MetadataGraph.typesFor {} sampleQuoting.function = .ok [] := by cbv
  have htext := KernelSource.text_of_lists hcallees htypes "k" false
  obtain ⟨delim, hdelim⟩ := RawLiteral.exists_delimiter_of_utf8ByteSize
    (show (KernelSource.definitionsText {} sampleQuoting.function [] [] false ++
      KernelSource.kernelText sampleQuoting.function "k").utf8ByteSize < RawLiteral.numberedCount
      by decide +kernel)
  have hlower := Artifact.lower_eq_ok_iff.2 ⟨rfl, _, _, htext, hdelim, rfl⟩
  obtain ⟨delim', front, back, hdelim', hsource, -, -, hread, -⟩ := kernelSource_reads_back.1 hlower
  refine ⟨_, delim', front, back, hlower, hdelim', ?_, hsource, hread⟩
  rintro rfl
  -- The body is a part of the kernel source, so the shortest delimiter would collide.
  have hbody : RawLiteral.closing "###".toList <:+:
      (Text.trimmedEnd sampleQuoting.function.body).toList := by decide
  have hfunction : (Text.trimmedEnd sampleQuoting.function.body).toList <:+:
      (KernelSource.functionText sampleQuoting.function "scale" false).toList := by
    unfold KernelSource.functionText
    simp only [String.toList_append]
    exact ⟨_, _, rfl⟩
  have hpart : (KernelSource.functionText sampleQuoting.function "scale" false).toList <:+:
      (KernelSource.definitionsText {} sampleQuoting.function [] [] false ++
        KernelSource.kernelText sampleQuoting.function "k").toList := by
    unfold KernelSource.definitionsText
    simp only [String.toList_append]
    exact ⟨_, _, rfl⟩
  have hfree := (RawLiteral.delimiter_eq_ok hdelim').2
  rw [Artifact.kernelSource_ofSource, RawLiteral.collides,
    Text.occurs_iff.2 ((hbody.trans hfunction).trans hpart)] at hfree
  cases hfree

end KernelGen
