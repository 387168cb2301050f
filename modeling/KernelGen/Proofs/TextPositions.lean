import KernelGen.Text.Position
import Mathlib

/-!
# Byte indices and positions

A reader of bytes that stands at some index reports a line, one more than the number of line feeds
that it has passed, and a column, the number of bytes that it has passed since the last of them. The
offset of a reported place is the index of the byte that was read last, and at the start of a line
the index itself. For a place that nobody reports, the sum of the line's start and the column may
leave the machine word; then there is no offset, and otherwise it is clipped to the text.

* `Text.byteLength_toList`, `Text.linesLength_le`: lengths in bytes.
* `Text.Position.behind`: the position that is reported after some bytes.
* `Text.advance_behind`: `positionAt` computes it character by character.
* `Text.Position.Spans`, `Text.spans_advance`: the lines before a position and its column add up to
  the index.
* `Text.Place.Overflows`, `Text.byteOffset_eq_error_iff`, `Text.exists_byteOffset`: the offset of
  any place.
-/

namespace KernelGen.Text

/-! ## Lengths in bytes -/

@[simp]
theorem byteLength_append (cs ds : List Char) :
    byteLength (cs ++ ds) = byteLength cs + byteLength ds := by
  induction cs with
  | nil => simp [byteLength]
  | cons c cs ih => simp only [List.cons_append, byteLength, ih, Nat.add_assoc]

/-- The length of a text in bytes is the size of the string. -/
theorem byteLength_toList (s : String) : byteLength s.toList = s.utf8ByteSize := by
  have hchars (cs : List Char) : byteLength cs = (String.ofList cs).utf8ByteSize := by
    induction cs with
    | nil => rfl
    | cons c cs ih =>
      rw [byteLength, ih, String.ofList_cons, String.utf8ByteSize_append,
        String.utf8ByteSize_singleton]
  rw [hchars, String.ofList_toList]

/-- The first lines of a text are no longer than the text. -/
theorem linesLength_le (n : Nat) (cs : List Char) : linesLength n cs ≤ byteLength cs := by
  fun_induction linesLength n cs with
  | case1 => exact Nat.zero_le _
  | case2 => exact Nat.zero_le _
  | case3 n cs ih =>
    have hone : Char.utf8Size '\n' = 1 := by decide
    rw [byteLength]
    omega
  | case4 n c cs hc ih =>
    rw [byteLength]
    omega

/-! ## Reports and bytes -/

/-- The byte of a line feed. -/
def lineFeed : UInt8 := 10

/-- The position that a reader reports after some bytes. -/
def Position.behind (bs : List UInt8) : Position where
  line := 1 + bs.count lineFeed
  column := (bs.reverse.takeWhile (· != lineFeed)).length

/-- On the way from one position to another over the first bytes of a text, the lines that are
passed and the column at the end add up to the number of bytes; where no line is passed, the column
at the start comes on top. -/
def Position.Spans (p q : Position) (cs : List Char) (k : Nat) : Prop :=
  p.line ≤ q.line ∧
    linesLength (q.line - p.line) cs + q.column = k + if q.line = p.line then p.column else 0

namespace Position.Spans

variable {p q : Position} {cs : List Char} {k : Nat}

/-- A line feed ends the first of the lines that are passed. -/
theorem lineFeed (h : Spans ⟨p.line + 1, 0⟩ q cs k) : p.Spans q ('\n' :: cs) (1 + k) := by
  obtain ⟨hle, hsum⟩ := h
  dsimp only at hle hsum
  obtain ⟨n, hn⟩ := Nat.exists_eq_add_of_le hle
  have hlines : q.line - p.line = n + 1 := by omega
  have hrest : q.line - (p.line + 1) = n := by omega
  rw [hrest, ite_self, Nat.add_zero] at hsum
  refine ⟨by omega, ?_⟩
  rw [hlines, linesLength, if_pos rfl, if_neg (by omega)]
  omega

/-- Another character counts for the column on the first line, and for the first line otherwise. -/
theorem cons {c : Char} (hc : c ≠ '\n')
    (h : Spans { p with column := p.column + c.utf8Size } q cs k) :
    p.Spans q (c :: cs) (c.utf8Size + k) := by
  obtain ⟨hle, hsum⟩ := h
  dsimp only at hle hsum
  refine ⟨hle, ?_⟩
  cases hn : q.line - p.line with
  | zero =>
    have heq : q.line = p.line := by omega
    rw [hn, if_pos heq, linesLength] at hsum
    rw [if_pos heq, linesLength]
    omega
  | succ n =>
    have hne : ¬ q.line = p.line := by omega
    rw [hn, if_neg hne] at hsum
    rw [if_neg hne, linesLength, if_neg hc]
    omega

end Position.Spans

/-- Going some bytes ahead from a position spans them. -/
theorem spans_advance (p : Position) {cs : List Char} {k : Nat} (hk : k ≤ byteLength cs) :
    p.Spans (advance p cs k) cs k := by
  induction cs generalizing p k with
  | nil =>
    obtain rfl : k = 0 := Nat.le_zero.1 hk
    simp [Position.Spans, advance, linesLength]
  | cons c cs ih =>
    rw [byteLength] at hk
    rw [advance]
    split
    · simp [Position.Spans, linesLength, Nat.add_comm]
    · next hsize =>
      -- The first character is passed as a whole, and `j` bytes are left.
      obtain ⟨j, rfl⟩ := Nat.exists_eq_add_of_le (Nat.le_of_not_lt hsize)
      have hj : j ≤ byteLength cs := by omega
      split
      · next hc =>
        subst hc
        have hone : Char.utf8Size '\n' = 1 := by decide
        rw [hone, Nat.add_sub_cancel_left]
        exact .lineFeed (ih _ hj)
      · next hc =>
        rw [Nat.add_sub_cancel_left]
        exact .cons hc (ih _ hj)

/-- The lines before the position of an index and its column add up to the index. -/
theorem linesLength_positionAt {source : List Char} {index : Nat}
    (h : index ≤ byteLength source) :
    linesLength ((positionAt source index).line - 1) source + (positionAt source index).column =
      index := by
  have hsum := (spans_advance ⟨1, 0⟩ h).2
  simpa only [positionAt, ite_self, Nat.add_zero] using hsum

/-- As many lines are passed as there are bytes, at most. -/
theorem line_advance_le (p : Position) (cs : List Char) (k : Nat) :
    (advance p cs k).line ≤ p.line + byteLength cs := by
  fun_induction advance p cs k with
  | case1 => exact Nat.le_add_right _ _
  | case2 => exact Nat.le_add_right _ _
  | case3 p k cs hk ih =>
    have hone : Char.utf8Size '\n' = 1 := by decide
    rw [byteLength]
    dsimp only at ih
    omega
  | case4 p k c cs hk hc ih =>
    rw [byteLength]
    dsimp only at ih
    omega

variable {source : List Char}

/-- In a text whose lines can all be numbered, a position is handed over as it is. -/
theorem toNat_place_positionAt {index : Nat} (hsize : byteLength source + 1 < Word.bound)
    (h : index ≤ byteLength source) :
    (positionAt source index).place.line.toNat = (positionAt source index).line ∧
      (positionAt source index).place.column.toNat = (positionAt source index).column := by
  have hline : (positionAt source index).line ≤ 1 + byteLength source := line_advance_le _ _ _
  have hcolumn := linesLength_positionAt h
  exact ⟨UInt64.toNat_ofNat_of_lt' (show _ < Word.bound by omega),
    UInt64.toNat_ofNat_of_lt' (show _ < Word.bound by omega)⟩

/-- The start of the line of a place and its column do not add up to a word. -/
def Place.Overflows (p : Place) (source : List Char) : Prop :=
  p.line ≠ 0 ∧ Word.bound ≤ linesLength (p.line.toNat - 1) source + (p.column.toNat - 1)

instance (p : Place) (source : List Char) : Decidable (p.Overflows source) :=
  inferInstanceAs (Decidable (_ ∧ _))

/-- The numbers whose sum is taken for a place. -/
theorem toNat_summands (hsize : byteLength source < Word.bound) (p : Place) :
    (UInt64.ofNat (linesLength (p.line.toNat - 1) source)).toNat +
        (Word.saturatingSub p.column 1).toNat =
      linesLength (p.line.toNat - 1) source + (p.column.toNat - 1) := by
  have hstart := Nat.lt_of_le_of_lt (linesLength_le (p.line.toNat - 1) source) hsize
  rw [UInt64.toNat_ofNat_of_lt' hstart, Word.toNat_saturatingSub]
  rfl

/-- A place whose sum is no word has no offset. -/
theorem byteOffset_of_overflows (hsize : byteLength source < Word.bound) {p : Place}
    (h : p.Overflows source) : byteOffset source p = .error .addOverflow := by
  have hsum := h.2
  rw [← toNat_summands hsize] at hsum
  rw [byteOffset, if_neg h.1, Word.add_eq_error_iff.2 ⟨rfl, hsum⟩]
  rfl

/-- Any other place has an offset: its sum, clipped to the text. -/
theorem exists_byteOffset (hsize : byteLength source < Word.bound) {p : Place}
    (h : ¬ p.Overflows source) :
    ∃ offset, byteOffset source p = .ok offset ∧ offset.toNat = if p.line = 0 then 0 else
      min (linesLength (p.line.toNat - 1) source + (p.column.toNat - 1)) (byteLength source) := by
  unfold byteOffset
  by_cases hline : p.line = 0
  · rw [if_pos hline, if_pos hline]
    exact ⟨0, rfl, rfl⟩
  · have hword : linesLength (p.line.toNat - 1) source + (p.column.toNat - 1) < Word.bound :=
      Nat.lt_of_not_le fun hge => h ⟨hline, hge⟩
    rw [← toNat_summands hsize] at hword
    obtain ⟨sum, hsum, hnat⟩ := Word.exists_add hword
    rw [if_neg hline, if_neg hline, hsum]
    refine ⟨_, rfl, ?_⟩
    rw [Word.toNat_min, hnat, toNat_summands hsize, UInt64.toNat_ofNat_of_lt' hsize]

/-- The offset of a place is broken off exactly if its sum is no word. -/
theorem byteOffset_eq_error_iff (hsize : byteLength source < Word.bound) {p : Place} {r : Abort} :
    byteOffset source p = .error r ↔ r = .addOverflow ∧ p.Overflows source := by
  by_cases h : p.Overflows source
  · simp [byteOffset_of_overflows hsize h, h, eq_comm]
  · obtain ⟨offset, hoffset, -⟩ := exists_byteOffset hsize h
    simp [hoffset, h]

/-- An offset lies in the text. -/
theorem byteOffset_le (hsize : byteLength source < Word.bound) {p : Place} {offset : UInt64}
    (h : byteOffset source p = .ok offset) : offset.toNat ≤ byteLength source := by
  have hfits : ¬ p.Overflows source := by
    intro hover
    rw [byteOffset_of_overflows hsize hover] at h
    cases h
  obtain ⟨offset', hoffset, hnat⟩ := exists_byteOffset hsize hfits
  rw [hoffset] at h
  obtain rfl := Except.ok.inj h
  rw [hnat]
  split
  · exact Nat.zero_le _
  · exact Nat.min_le_right _ _

/-- The offset of the place of an index is the byte before the index, if that byte is on the same
line. -/
theorem byteOffset_positionAt {index : Nat} (hsize : byteLength source + 1 < Word.bound)
    (h : index ≤ byteLength source) :
    byteOffset source (positionAt source index).place =
      .ok (.ofNat (if (positionAt source index).column = 0 then index else index - 1)) := by
  have hline : 1 ≤ (positionAt source index).line := (spans_advance ⟨1, 0⟩ h).1
  have hsum := linesLength_positionAt h
  obtain ⟨hplace, hplace'⟩ := toNat_place_positionAt hsize h
  -- The sum for the place is at most the index, and so a word.
  have hfits : ¬ (positionAt source index).place.Overflows source := by
    rintro ⟨-, hover⟩
    rw [hplace, hplace'] at hover
    omega
  obtain ⟨offset, hoffset, hnat⟩ := exists_byteOffset (Nat.lt_of_succ_lt hsize) hfits
  have hnonzero : (positionAt source index).place.line ≠ 0 := by
    intro hzero
    rw [hzero] at hplace
    exact absurd hplace.symm (Nat.ne_of_gt hline)
  rw [if_neg hnonzero, hplace, hplace'] at hnat
  rw [hoffset]
  refine congrArg Except.ok (UInt64.toNat_inj.1 ?_)
  rw [hnat, UInt64.toNat_ofNat_of_lt' (show _ < Word.bound by split <;> omega)]
  split <;> omega

end KernelGen.Text
