import KernelGen.Manifest.Value
import KernelGen.Proofs.Numerals

/-!
# JSON documents

A JSON document as a tree, its text, and what the readers of a manifest make of the text. The text
has no white space. A value is read from the front of a text and the rest is left, whatever the rest
is, as long as it cannot continue a number.

An entry of an object knows whether it may be left out. The abridged forms of a document leave out
any of these entries, at any depth, and have the others in any order.

* `Json.text`: the text of a document.
* `Json.Abridged`: the abridged forms of a document.
* `Json.shortest`: the one without all that may be left out.
* `Manifest.Reads`: a reader takes the text of a document for a value.
* `Manifest.readChars_escape`, `Manifest.readNumber_digits`: strings and numbers are read back.
-/

namespace KernelGen

/-- A numeral begins with a digit, and with a zero only if it is the numeral of zero. -/
theorem Decimal.exists_digits_eq (n : Nat) :
    ∃ c tail, digits n = c :: tail ∧ c.isDigit = true ∧ (c = '0' → tail = []) := by
  fun_induction digits n with
  | case1 n h => exact ⟨digit n, [], rfl, isDigit_digit n h, fun _ => rfl⟩
  | case2 n h ih =>
    obtain ⟨c, tail, hdigits, hdigit, hzero⟩ := ih
    refine ⟨c, tail ++ [digit (n % 10)], by rw [hdigits, List.cons_append], hdigit, fun hc => ?_⟩
    -- The digits in front would denote zero.
    have hvalue := value_digits (n / 10)
    rw [hdigits, hzero hc, hc] at hvalue
    have hnone : value ['0'] = 0 := by decide
    omega

/-- An entry of an object. -/
structure JsonEntry (α : Type) where
  /-- The key. -/
  key : String
  /-- Whether the entry may be left out. -/
  omissible : Bool
  /-- The value. -/
  value : α

/-- A JSON document. -/
inductive Json where
  | null
  | boolean (b : Bool)
  | number (n : Nat)
  | string (s : String)
  | array (items : List Json)
  | object (entries : List (JsonEntry Json))

/-- An entry that must be there. -/
def JsonEntry.required (key : String) (value : Json) : JsonEntry Json :=
  ⟨key, false, value⟩

/-- An entry for the value `a`, which may be left out if that is the default. -/
def JsonEntry.defaulted {α : Type} [DecidableEq α] (key : String) (default a : α)
    (encode : α → Json) : JsonEntry Json :=
  ⟨key, decide (a = default), encode a⟩

namespace Json

/-- The document of a list. -/
def ofList {α : Type} (encode : α → Json) (as : List α) : Json :=
  .array (as.map encode)

/-- The document of a value that may be missing. -/
def ofOption {α : Type} (encode : α → Json) : Option α → Json
  | none => .null
  | some a => encode a

/-- The document of a word. -/
def ofWord (n : UInt64) : Json :=
  .number n.toNat

/-! ## The text of a document -/

/-- A character inside a string. -/
def escape (c : Char) : List Char :=
  if c = '"' then ['\\', '"']
  else if c = '\\' then ['\\', '\\']
  else if c = Char.ofNat 8 then ['\\', 'b']
  else if c = '\t' then ['\\', 't']
  else if c = '\n' then ['\\', 'n']
  else if c = Char.ofNat 12 then ['\\', 'f']
  else if c = '\r' then ['\\', 'r']
  else if c.toNat < 0x20 then
    ['\\', 'u', '0', '0', Text.hexDigit (c.toNat / 16), Text.hexDigit (c.toNat % 16)]
  else [c]

/-- A string in quotes. -/
def quoted (s : String) : List Char :=
  '"' :: s.toList.flatMap escape ++ ['"']

/-- Texts with commas between them, and one in front if `first` does not hold. -/
def separated : Bool → List (List Char) → List Char
  | _, [] => []
  | first, t :: ts => (if first then t else ',' :: t) ++ separated false ts

mutual

/-- The text of a document. -/
def text : Json → List Char
  | null => "null".toList
  | boolean true => "true".toList
  | boolean false => "false".toList
  | number n => Decimal.digits n
  | string s => quoted s
  | array items => '[' :: separated true (itemTexts items) ++ [']']
  | object entries => '\x7b' :: separated true (entryTexts entries) ++ ['\x7d']

/-- The texts of the items of an array. -/
def itemTexts : List Json → List (List Char)
  | [] => []
  | j :: js => text j :: itemTexts js

/-- The texts of the entries of an object. -/
def entryTexts : List (JsonEntry Json) → List (List Char)
  | [] => []
  | e :: es => entryText e :: entryTexts es

/-- The text of an entry. -/
def entryText : JsonEntry Json → List Char
  | ⟨key, _, value⟩ => quoted key ++ ':' :: text value

end

/-- `j.Abridged k` if `k` is `j` without some of the entries that may be left out, at any depth. The
entries of an object that stay may be in any order. -/
inductive Abridged : Json → Json → Prop
  | null : Abridged .null .null
  | boolean (b : Bool) : Abridged (.boolean b) (.boolean b)
  | number (n : Nat) : Abridged (.number n) (.number n)
  | string (s : String) : Abridged (.string s) (.string s)
  | array {items items' : List Json} (h : List.Forall₂ Abridged items items') :
    Abridged (.array items) (.array items')
  | object {entries out kept entries' : List (JsonEntry Json)} (hperm : entries.Perm (out ++ kept))
    (hout : ∀ e ∈ out, e.omissible = true) (hkeys : kept.map (·.key) = entries'.map (·.key))
    (hvalues : List.Forall₂ Abridged (kept.map (·.value)) (entries'.map (·.value))) :
    Abridged (.object entries) (.object entries')

mutual

/-- Nothing need be left out. -/
theorem Abridged.refl : ∀ j : Json, j.Abridged j
  | .null => .null
  | .boolean b => .boolean b
  | .number n => .number n
  | .string s => .string s
  | .array items => .array (Abridged.refl_items items)
  | .object entries =>
    .object (List.Perm.refl ([] ++ entries)) (List.forall_mem_nil _) rfl
      (Abridged.refl_entries entries)

theorem Abridged.refl_items : ∀ items : List Json, List.Forall₂ Abridged items items
  | [] => .nil
  | j :: js => .cons (Abridged.refl j) (Abridged.refl_items js)

theorem Abridged.refl_entries : ∀ entries : List (JsonEntry Json),
    List.Forall₂ Abridged (entries.map (·.value)) (entries.map (·.value))
  | [] => .nil
  | ⟨_, _, value⟩ :: es => .cons (Abridged.refl value) (Abridged.refl_entries es)

end

mutual

/-- A document without all the entries that may be left out. -/
def shortest : Json → Json
  | null => null
  | boolean b => boolean b
  | number n => number n
  | string s => string s
  | array items => array (shortestItems items)
  | object entries => object (shortestEntries entries)

/-- The items of an array without all that may be left out. -/
def shortestItems : List Json → List Json
  | [] => []
  | j :: js => shortest j :: shortestItems js

/-- The entries that must stay, without all that may be left out. -/
def shortestEntries : List (JsonEntry Json) → List (JsonEntry Json)
  | [] => []
  | ⟨_, true, _⟩ :: es => shortestEntries es
  | ⟨key, false, value⟩ :: es => ⟨key, false, shortest value⟩ :: shortestEntries es

end

/-- The shortest form keeps the keys of the entries that cannot be left out. -/
theorem map_key_shortestEntries : ∀ entries : List (JsonEntry Json),
    (entries.filter fun e => !e.omissible).map (·.key) = (shortestEntries entries).map (·.key)
  | [] => rfl
  | ⟨_, true, _⟩ :: es => map_key_shortestEntries es
  | ⟨key, false, _⟩ :: es => congrArg (key :: ·) (map_key_shortestEntries es)

mutual

/-- Everything that may be left out can be left out at once. -/
theorem abridged_shortest : ∀ j : Json, j.Abridged j.shortest
  | .null => .null
  | .boolean b => .boolean b
  | .number n => .number n
  | .string s => .string s
  | .array items => .array (abridged_shortestItems items)
  | .object entries =>
    .object (List.filter_append_perm (·.omissible) entries).symm
      (fun _ he => (List.mem_filter.1 he).2) (map_key_shortestEntries entries)
      (abridged_shortestEntries entries)

/-- Every item is abridged by its shortest form. -/
theorem abridged_shortestItems : ∀ items : List Json,
    List.Forall₂ Abridged items (shortestItems items)
  | [] => .nil
  | j :: js => .cons (abridged_shortest j) (abridged_shortestItems js)

/-- The entries that cannot be left out are abridged by their shortest forms. -/
theorem abridged_shortestEntries : ∀ entries : List (JsonEntry Json),
    List.Forall₂ Abridged ((entries.filter fun e => !e.omissible).map (·.value))
      ((shortestEntries entries).map (·.value))
  | [] => .nil
  | ⟨_, true, _⟩ :: es => abridged_shortestEntries es
  | ⟨_, false, value⟩ :: es => .cons (abridged_shortest value) (abridged_shortestEntries es)

end

theorem itemTexts_eq_map (items : List Json) : itemTexts items = items.map text := by
  induction items with
  | nil => rfl
  | cons j js ih => rw [itemTexts, List.map_cons, ih]

theorem entryTexts_eq_map (entries : List (JsonEntry Json)) :
    entryTexts entries = entries.map entryText := by
  induction entries with
  | nil => rfl
  | cons e es ih => rw [entryTexts, List.map_cons, ih]

/-- Texts that are not empty are at most as many as the characters of them all. -/
theorem length_le_separated {β : Type} {write : β → List Char} (h : ∀ b, write b ≠ [])
    (first : Bool) (bs : List β) : bs.length ≤ (separated first (bs.map write)).length := by
  induction bs generalizing first with
  | nil => exact Nat.zero_le _
  | cons b bs ih =>
    have hpos := List.length_pos_iff.2 (h b)
    have hrest := ih false
    rw [List.map_cons, separated, List.length_cons, List.length_append]
    cases first with
    | true =>
      rw [if_pos rfl]
      omega
    | false =>
      rw [if_neg Bool.false_ne_true, List.length_cons]
      omega

/-- No document begins with white space or with the end of a list. -/
theorem exists_text_eq (j : Json) :
    ∃ c tail, j.text = c :: tail ∧ Manifest.isSpace c = false ∧ c ≠ ']' := by
  cases j with
  | null => exact ⟨'n', _, rfl, by decide, by decide⟩
  | boolean b => cases b with
    | true => exact ⟨'t', _, rfl, by decide, by decide⟩
    | false => exact ⟨'f', _, rfl, by decide, by decide⟩
  | number n =>
    obtain ⟨c, tail, hdigits, hdigit, -⟩ := Decimal.exists_digits_eq n
    refine ⟨c, tail, hdigits, ?_, ?_⟩
    · rw [← Bool.not_eq_true]
      intro hspace
      simp only [Manifest.isSpace, Bool.or_eq_true, beq_iff_eq] at hspace
      rcases hspace with ((rfl | rfl) | rfl) | rfl <;> exact absurd hdigit (by decide)
    · rintro rfl
      exact absurd hdigit (by decide)
  | string s => exact ⟨'"', _, rfl, by decide, by decide⟩
  | array items => exact ⟨'[', _, rfl, by decide, by decide⟩
  | object entries => exact ⟨'\x7b', _, rfl, by decide, by decide⟩

/-- No value is written as nothing. -/
theorem text_ne_nil (j : Json) : j.text ≠ [] := by
  obtain ⟨c, tail, htext, -⟩ := j.exists_text_eq
  rw [htext]
  exact List.cons_ne_nil c tail

/-- An entry in front of more text: the key in quotes, a colon and the value. -/
theorem entryText_append (e : JsonEntry Json) (more : List Char) :
    entryText e ++ more =
      '"' :: (e.key.toList.flatMap escape ++ '"' :: ':' :: (e.value.text ++ more)) := by
  obtain ⟨key, omissible, value⟩ := e
  simp [entryText, quoted]

/-- No entry is written as nothing. -/
theorem entryText_ne_nil (e : JsonEntry Json) : entryText e ≠ [] := by
  rw [← List.append_nil (entryText e), entryText_append]
  exact List.cons_ne_nil _ _

end Json

namespace Manifest

/-! ## Reading strings -/

/-- An escape in a string is read as its character. -/
theorem readChars_of_readEscape {cs rest rest' s : List Char} {c : Char}
    (h : readEscape cs = .ok (c, rest)) (h' : readChars rest = .ok (s, rest')) :
    readChars ('\\' :: cs) = .ok (c :: s, rest') := by
  rw [readChars, if_neg (by decide), if_pos rfl]
  split
  · next hf => rw [h] at hf; cases hf
  · next hc =>
    rw [h] at hc
    cases hc
    rw [h']

/-- An escape by number denotes the control character. -/
theorem readEscape_control {c : Char} (h : c.toNat < 0x20) (cs : List Char) :
    readEscape ('u' :: '0' :: '0' :: Text.hexDigit (c.toNat / 16) ::
      Text.hexDigit (c.toNat % 16) :: cs) = .ok (c, cs) := by
  have hquad : ∀ n < 0x20,
      hexQuad? '0' '0' (Text.hexDigit (n / 16)) (Text.hexDigit (n % 16)) = some n := by decide
  have hlong : ¬ Text.byteLength ('0' :: '0' :: Text.hexDigit (c.toNat / 16) ::
      Text.hexDigit (c.toNat % 16) :: cs) < 4 := by
    have hsize := Char.utf8Size_pos (Text.hexDigit (c.toNat / 16))
    have hsize' := Char.utf8Size_pos (Text.hexDigit (c.toNat % 16))
    have hzero : '0'.utf8Size = 1 := by decide
    simp only [Text.byteLength, hzero]
    omega
  have hhex : readHex ('0' :: '0' :: Text.hexDigit (c.toNat / 16) ::
      Text.hexDigit (c.toNat % 16) :: cs) = .ok (c.toNat, cs) := by
    unfold readHex
    rw [if_neg hlong]
    dsimp only
    rw [hquad c.toNat h]
  have hshort : shortEscape? 'u' = none := by decide
  -- The number is too small for half of a surrogate pair.
  unfold readEscape
  dsimp only
  rw [hshort]
  dsimp only
  rw [if_pos rfl, readUnicode, hhex]
  dsimp only
  rw [if_neg (by omega), if_neg (by omega), Char.ofNat_toNat]

/-- A character is read back from the way it is written inside a string. -/
theorem readChars_escape (c : Char) {cs s rest : List Char} (h : readChars cs = .ok (s, rest)) :
    readChars (Json.escape c ++ cs) = .ok (c :: s, rest) := by
  have hshort {d : Char} (hd : shortEscape? d = some c) :
      readChars (['\\', d] ++ cs) = .ok (c :: s, rest) := by
    have hescape : readEscape (d :: cs) = .ok (c, cs) := by rw [readEscape, hd]
    exact readChars_of_readEscape hescape h
  -- Seven characters have an escape of one letter, the other control characters one by number.
  unfold Json.escape
  split_ifs with hquote hback h8 htab hline h12 hreturn hcontrol
  · subst hquote
    exact hshort (by decide)
  · subst hback
    exact hshort (by decide)
  · exact hshort (h8 ▸ by decide)
  · exact hshort (htab ▸ by decide)
  · exact hshort (hline ▸ by decide)
  · exact hshort (h12 ▸ by decide)
  · exact hshort (hreturn ▸ by decide)
  · exact readChars_of_readEscape (readEscape_control hcontrol cs) h
  · rw [List.singleton_append, readChars, if_neg hquote, if_neg hback, if_neg hcontrol, h]

/-- A string is read back up to its closing quote. -/
theorem readChars_flatMap_escape (s rest : List Char) :
    readChars (s.flatMap Json.escape ++ '"' :: rest) = .ok (s, rest) := by
  induction s with
  | nil =>
    rw [List.flatMap_nil, List.nil_append, readChars, if_pos rfl]
  | cons c s ih =>
    rw [List.flatMap_cons, List.append_assoc]
    exact readChars_escape c ih

/-! ## Reading numbers -/

/-- A text that cannot continue a number, and so can follow any value. -/
def Follows (rest : List Char) : Prop :=
  rest = [] ∨ ∃ c tail, rest = c :: tail ∧ (c = ',' ∨ c = ']' ∨ c = '\x7d')

/-- Reading more digits does not make a number smaller. -/
theorem le_foldl_digits (ds : List Char) (n : Nat) :
    n ≤ ds.foldl (fun n c => n * 10 + Decimal.digitValue c) n := by
  induction ds generalizing n with
  | nil => exact Nat.le_refl n
  | cons d ds ih => exact Nat.le_trans (by omega) (ih (n * 10 + Decimal.digitValue d))

/-- All digits of a number that fits in a word are taken. -/
theorem takeDigits_append {ds rest : List Char} {n : Nat} (count : Nat)
    (hds : ∀ c ∈ ds, c.isDigit = true)
    (hfits : ds.foldl (fun n c => n * 10 + Decimal.digitValue c) n ≤ maxWord)
    (hrest : ∀ c ∈ rest.head?, c.isDigit = false) :
    takeDigits n count (ds ++ rest) =
      (ds.foldl (fun n c => n * 10 + Decimal.digitValue c) n, count + ds.length, rest) := by
  induction ds generalizing n count with
  | nil =>
    cases rest with
    | nil => rfl
    | cons c rest =>
      rw [List.nil_append, takeDigits, hrest c rfl, if_neg Bool.false_ne_true]
      rfl
  | cons d ds ih =>
    -- The number so far is at most the whole one, so it fits as well.
    have hstep : n * 10 + (d.toNat - 48) ≤ maxWord :=
      Nat.le_trans (le_foldl_digits ds (n * 10 + Decimal.digitValue d)) hfits
    rw [List.cons_append, takeDigits, hds d List.mem_cons_self, if_pos rfl]
    dsimp only
    rw [if_pos hstep]
    exact (ih (count + 1) (fun c hc => hds c (List.mem_cons_of_mem _ hc)) hfits).trans
      (by rw [List.length_cons, Nat.add_right_comm, Nat.add_assoc]; rfl)

/-- What can follow a value does not prolong a number. -/
theorem Follows.isDigit_eq_false {rest : List Char} (h : Follows rest) :
    ∀ c ∈ rest.head?, c.isDigit = false := by
  rintro c hc
  obtain rfl | ⟨d, tail, rfl, hd⟩ := h
  · cases hc
  · obtain rfl := Option.some.inj hc
    rcases hd with rfl | rfl | rfl <;> decide

/-- A numeral of a number that fits in a word is read back. -/
theorem readNumber_digits {n : Nat} (hn : n ≤ maxWord) {rest : List Char} (h : Follows rest) :
    readNumber false (Decimal.digits n ++ rest) = .ok (.natural n, rest) := by
  obtain ⟨c, tail, hdigits, hdigit, hzero⟩ := Decimal.exists_digits_eq n
  have hvalue : tail.foldl (fun n c => n * 10 + Decimal.digitValue c) (c.toNat - 48) = n := by
    have hvalue := Decimal.value_digits n
    rwa [hdigits, Decimal.value, List.foldl_cons, Nat.zero_mul, Nat.zero_add] at hvalue
  have htail : ∀ d ∈ tail, d.isDigit = true := fun d hd =>
    Decimal.isDigit_of_mem_digits (hdigits ▸ List.mem_cons_of_mem _ hd)
  have htake := takeDigits_append 0 htail (hvalue ▸ hn) h.isDigit_eq_false
  have hleading : ¬ (c = '0' ∧ (tail ++ rest).head?.any Char.isDigit = true) := by
    rintro ⟨hc, hany⟩
    rw [hzero hc, List.nil_append, Option.any_eq_true] at hany
    obtain ⟨d, hd, hdigit⟩ := hany
    rw [h.isDigit_eq_false d hd] at hdigit
    cases hdigit
  have hdrop : rest.dropWhile Char.isDigit = rest := by
    cases rest with
    | nil => rfl
    | cons d rest => exact List.dropWhile_cons_of_neg (by rw [h.isDigit_eq_false d rfl]; decide)
  rw [hdigits, List.cons_append, readNumber, hdigit, Bool.not_true, if_neg Bool.false_ne_true,
    if_neg hleading, htake, hvalue]
  dsimp only
  rw [hdrop]
  -- Neither a point nor an exponent follows.
  obtain rfl | ⟨d, more, rfl, hd⟩ := h
  · rfl
  · rcases hd with rfl | rfl | rfl <;> simp [integerNumber]

end Manifest

end KernelGen
