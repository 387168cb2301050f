import KernelGen.Kernel.RawLiteral
import KernelGen.Proofs.Numerals

/-!
# Where a raw string literal ends

Searching a text finds an occurrence exactly if there is one (`Text.occurs_iff`). A literal ends at
a quote, so a source without quotes can be enclosed by the shortest delimiter
(`delimiter_of_no_quote`).

Each quote of a source can end a literal for one delimiter only, the text between it and the
parenthesis before it. So a source has at least as many quotes as delimiters that collide with it
(`card_le_count_of_collides`), and every source with fewer quotes than there are numbered candidates
has a delimiter (`exists_delimiter`).
-/

namespace KernelGen

namespace Text

/-- A search succeeds exactly if the text occurs. -/
theorem occurs_iff {t s : List Char} : occurs t s = true ↔ t <:+: s := by
  unfold occurs
  induction s with
  | nil =>
    cases t with
    | nil => simp [cut?, after?]
    | cons c t => simp [cut?, after?]
  | cons c s ih =>
    rw [cut?, List.infix_cons_iff]
    split
    · next rest h =>
      rw [after?_eq_some_iff] at h
      simp [h]
    · next h =>
      have hfront : ¬ t <+: c :: s := by
        rintro ⟨rest, hrest⟩
        simp [after?_eq_some_iff.2 hrest.symm] at h
      simp [hfront, ← ih]

end Text

namespace RawLiteral

/-- A literal can end only at a quote. -/
theorem mem_of_collides {source delim : List Char} (h : collides source delim = true) :
    '"' ∈ source := by
  have hquote : '"' ∈ closing delim := by simp [closing]
  exact (Text.occurs_iff.1 h).subset hquote

/-- A text without the byte of a quote has no quote. -/
theorem no_quote_of_bytes {source : String}
    (h : source.toByteArray.data.toList.contains 34 = false) : ¬ '"' ∈ source.toList := by
  intro hmem
  have hbyte : 34 ∈ source.toByteArray.data.toList := by
    rw [← String.utf8Encode_toList, List.utf8Encode]
    simp only [List.data_toByteArray, List.mem_flatMap]
    exact ⟨'"', hmem, by decide⟩
  simp [hbyte] at h

/-- A source without quotes gets the shortest delimiter. -/
theorem delimiter_of_no_quote {source : String} (h : ¬ '"' ∈ source.toList) :
    delimiter source = .ok "###" := by
  have hfree : ∀ delim, collides source.toList delim = false := by
    intro delim
    cases hc : collides source.toList delim with
    | false => rfl
    | true => exact absurd (mem_of_collides hc) h
  have hfirst : hashes.find? (fun d => !collides source.toList d) = some ['#', '#', '#'] := by
    rw [show hashes = ['#', '#', '#'] :: hashes.tail from rfl]
    exact List.find?_cons_of_pos (by simp [hfree])
  unfold delimiter
  simp only [hfirst]

/-! ## Counting the delimiters that collide -/

/-- Of two literal ends, the second without another parenthesis, one is the end of the other only if
they are equal. -/
theorem eq_of_closing_suffix_closing {d d' : List Char} (hd' : ')' ∉ d')
    (h : closing d <:+ closing d') : d = d' := by
  obtain ⟨front, hfront⟩ := h
  cases front with
  | nil => simpa [closing] using hfront
  | cons c front =>
    -- The parenthesis of the shorter end would stand inside the longer one.
    have hrest : front ++ ')' :: d ++ ['"'] = d' ++ ['"'] := by
      rw [List.append_assoc]
      exact (List.cons.inj hfront).2
    exact absurd (List.append_cancel_right hrest ▸ by simp) hd'

/-- A text ends a literal for one delimiter at most. -/
theorem eq_of_closing_suffix {t d d' : List Char} (hd : ')' ∉ d) (hd' : ')' ∉ d')
    (h : closing d <:+ t) (h' : closing d' <:+ t) : d = d' := by
  rcases List.suffix_or_suffix_of_suffix h h' with hs | hs
  · exact eq_of_closing_suffix_closing hd' hs
  · exact (eq_of_closing_suffix_closing hd hs).symm

/-- A literal collides with a text up to its last character, or is ended by that character. -/
theorem collides_append_singleton_iff {s d : List Char} {c : Char} :
    collides (s ++ [c]) d = true ↔ closing d <:+ s ++ [c] ∨ collides s d = true := by
  rw [collides, collides, Text.occurs_iff, Text.occurs_iff, List.infix_concat_iff]

/-- A source has at least as many quotes as delimiters that collide with it. -/
theorem card_le_count_of_collides {source : List Char} {delims : Finset (List Char)}
    (hparen : ∀ d ∈ delims, ')' ∉ d) (hcollides : ∀ d ∈ delims, collides source d = true) :
    delims.card ≤ source.count '"' := by
  induction source using List.reverseRecOn generalizing delims with
  | nil =>
    have hnone : delims = ∅ := by
      refine Finset.eq_empty_of_forall_notMem fun d hd => ?_
      simpa using mem_of_collides (hcollides d hd)
    simp [hnone]
  | append_singleton s c ih =>
    -- The last character ends a literal for the delimiters that did not collide before.
    have hearly : (delims.filter (collides s · = true)).card ≤ s.count '"' := by
      refine ih (fun d hd => hparen d (Finset.mem_filter.1 hd).1) fun d hd => ?_
      exact (Finset.mem_filter.1 hd).2
    have hlast : ∀ d ∈ delims.filter (¬ collides s · = true), closing d <:+ s ++ [c] := by
      intro d hd
      obtain ⟨hmem, hnew⟩ := Finset.mem_filter.1 hd
      exact (collides_append_singleton_iff.1 (hcollides d hmem)).resolve_right hnew
    have hone : (delims.filter (¬ collides s · = true)).card ≤ [c].count '"' := by
      by_cases hc : c = '"'
      · rw [hc, List.count_singleton_self, Finset.card_le_one]
        intro d hd d' hd'
        exact eq_of_closing_suffix (hparen d (Finset.mem_filter.1 hd).1)
          (hparen d' (Finset.mem_filter.1 hd').1) (hlast d hd) (hlast d' hd')
      · rw [Finset.card_eq_zero.2 (Finset.eq_empty_of_forall_notMem fun d hd => hc ?_)]
        · exact Nat.zero_le _
        · obtain ⟨front, hfront⟩ := hlast d hd
          rw [closing, ← List.append_assoc] at hfront
          exact (List.singleton_inj.1 (List.append_inj' hfront rfl).2).symm
    rw [← Finset.card_filter_add_card_filter_not (s := delims) (collides s · = true),
      List.count_append]
    omega

theorem numbered_injective : Function.Injective numbered := by
  intro k l h
  exact Decimal.digits_injective (List.append_cancel_left h)

theorem notMem_numbered (k : Nat) : ')' ∉ numbered k := by
  rw [numbered, List.mem_append, not_or]
  exact ⟨by decide, Decimal.notMem_digits (by decide)⟩

/-- If no numbered candidate is found, all of them collide. -/
theorem collides_of_findNumbered {source : List Char} {k j : Nat}
    (h : findNumbered source k = none) (hk : k ≤ j) (hj : j < numberedCount) :
    collides source (numbered j) = true := by
  fun_induction findNumbered source k with
  | case1 k hlt hcollides ih =>
    rcases Nat.eq_or_lt_of_le hk with rfl | hk
    · exact hcollides
    · exact ih h hk
  | case2 => cases h
  | case3 k hge => omega

/-- A source with fewer quotes than there are numbered candidates has a delimiter. -/
theorem exists_delimiter {source : String} (h : source.toList.count '"' < numberedCount) :
    ∃ delim, delimiter source = .ok delim := by
  unfold delimiter
  dsimp only
  cases hashes.find? (fun d => !collides source.toList d) with
  | some d => exact ⟨_, rfl⟩
  | none =>
    cases hnumbered : findNumbered source.toList 0 with
    | some d => exact ⟨_, rfl⟩
    | none =>
      have hcount : ((Finset.range numberedCount).image numbered).card ≤
          source.toList.count '"' := by
        apply card_le_count_of_collides
        · simpa using fun k _ => notMem_numbered k
        · simpa using fun k hk => collides_of_findNumbered hnumbered (Nat.zero_le k) hk
      rw [Finset.card_image_of_injective _ numbered_injective, Finset.card_range] at hcount
      omega

theorem length_le_utf8ByteSize (cs : List Char) : cs.length ≤ (String.ofList cs).utf8ByteSize := by
  induction cs with
  | nil => exact Nat.zero_le _
  | cons c cs ih =>
    have hc := c.utf8Size_pos
    rw [String.ofList_cons, String.utf8ByteSize_append, String.utf8ByteSize_singleton,
      List.length_cons]
    omega

/-- A source of fewer bytes than there are numbered candidates has a delimiter. -/
theorem exists_delimiter_of_utf8ByteSize {source : String}
    (h : source.utf8ByteSize < numberedCount) : ∃ delim, delimiter source = .ok delim := by
  apply exists_delimiter
  calc source.toList.count '"'
      ≤ source.toList.length := List.count_le_length
    _ ≤ (String.ofList source.toList).utf8ByteSize := length_le_utf8ByteSize _
    _ < numberedCount := by rwa [String.ofList_toList]

end RawLiteral

end KernelGen
