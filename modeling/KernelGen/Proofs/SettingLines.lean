import KernelGen.Project
import KernelGen.Proofs.Diagnostics
import KernelGen.Proofs.PathComponents

/-!
# Lines of a project file

A setting is written as a line `key = value`. Every other line opens a section or says nothing about
the generator: it is blank, a comment, has an unknown key or no equals sign. What a line is, is said
here by how it is put together; the reader takes lines apart.

* `Text.Padded`, `Text.Tight`: a text in a margin of blanks or quotes, and one without a margin.
* `Project.Opens`, `Project.Idle`: headers, and lines that say nothing.
* `Project.Setting`, `Project.settings`: the settings of a project, one for each line.
* `Project.readLine_setting`, `Project.readLine_idle`, `Project.readLine_opens`,
  `Project.readLine_other`, `Project.readLine_outside`: what reading one line does.
-/

namespace KernelGen

/-! ## Margins -/

namespace Text

/-- A text in a margin of characters that satisfy `p`. -/
def Padded (p : Char → Bool) (core cs : List Char) : Prop :=
  ∃ front back : List Char, (∀ c ∈ front, p c = true) ∧ (∀ c ∈ back, p c = true) ∧
    cs = front ++ core ++ back

/-- A text that neither begins nor ends with a character that satisfies `p`. -/
def Tight (p : Char → Bool) (cs : List Char) : Prop :=
  (∀ c ∈ cs.head?, p c = false) ∧ ∀ c ∈ cs.getLast?, p c = false

-- Only the characters at the ends are tried, not all that there are.
instance (p : Char → Bool) (cs : List Char) : Decidable (Tight p cs) :=
  @instDecidableAnd _ _ (Option.decidableForallMem _) (Option.decidableForallMem _)

variable {p : Char → Bool} {core cs : List Char}

theorem Padded.refl (p : Char → Bool) (cs : List Char) : Padded p cs cs :=
  ⟨[], [], List.forall_mem_nil _, List.forall_mem_nil _, (List.append_nil cs).symm⟩

/-- A margin takes nothing away. -/
theorem Padded.subset (h : Padded p core cs) : core ⊆ cs := by
  obtain ⟨front, back, -, -, rfl⟩ := h
  exact fun c hc => List.mem_append_left _ (List.mem_append_right _ hc)

/-- What is left of a text without its margin stands in the margin. -/
theorem padded_dropEndWhile_dropWhile (p : Char → Bool) (cs : List Char) :
    Padded p (dropEndWhile p (cs.dropWhile p)) cs := by
  refine ⟨cs.takeWhile p, (cs.dropWhile p).rtakeWhile p, fun c => List.mem_takeWhile_imp,
    fun c => List.mem_rtakeWhile_imp, ?_⟩
  calc cs = cs.takeWhile p ++ cs.dropWhile p := List.takeWhile_append_dropWhile.symm
    _ = cs.takeWhile p ++ ((cs.dropWhile p).rdropWhile p ++ (cs.dropWhile p).rtakeWhile p) := by
      rw [List.rdropWhile_append_rtakeWhile]
    _ = _ := (List.append_assoc _ _ _).symm

/-- A margin is dropped up to a text that does not begin with more of it. -/
theorem dropWhile_append_of_head? {front : List Char} (hfront : ∀ c ∈ front, p c = true)
    (hhead : ∀ c ∈ cs.head?, p c = false) : (front ++ cs).dropWhile p = cs := by
  rw [List.dropWhile_append_of_pos hfront]
  cases cs with
  | nil => rfl
  | cons c cs => exact List.dropWhile_cons_of_neg (by simp [hhead c rfl])

/-- A text without a margin of its own is what is left of it in a margin. -/
theorem dropEndWhile_dropWhile_of_padded (h : Padded p core cs) (ht : Tight p core) :
    dropEndWhile p (cs.dropWhile p) = core := by
  obtain ⟨front, back, hfront, hback, rfl⟩ := h
  -- The front is dropped from the text, and the back in the same way from the reversed text.
  have hback' : ∀ c ∈ back.reverse, p c = true := fun c hc => hback c (List.mem_reverse.1 hc)
  unfold dropEndWhile
  cases core with
  | nil =>
    rw [List.append_nil, List.dropWhile_append_of_pos hfront, List.dropWhile_eq_nil_iff.2 hback]
    rfl
  | cons c core =>
    have hlast : ∀ d ∈ (c :: core).reverse.head?, p d = false := by
      rw [List.head?_reverse]
      exact ht.2
    have hhead : ∀ d ∈ (c :: core ++ back).head?, p d = false := ht.1
    rw [List.append_assoc, dropWhile_append_of_head? hfront hhead, List.reverse_append,
      dropWhile_append_of_head? hback' hlast, List.reverse_reverse]

/-- A text between two other characters is tight. -/
theorem tight_enclosed {a b : Char} (inner : List Char) (ha : p a = false) (hb : p b = false) :
    Tight p (a :: inner ++ [b]) := by
  constructor
  · rintro c ⟨⟩
    exact ha
  · rw [List.getLast?_append, List.getLast?_singleton, Option.some_or]
    rintro c ⟨⟩
    exact hb

/-- A margin of other characters adds none at the ends. -/
theorem Tight.of_padded {q : Char → Bool} (ht : Tight p core) (h : Padded q core cs)
    (hq : ∀ c, q c = true → p c = false) : Tight p cs := by
  obtain ⟨front, back, hfront, hback, rfl⟩ := h
  constructor
  · intro c hc
    rw [List.head?_append, List.head?_append, Option.mem_def, Option.or_eq_some_iff,
      Option.or_eq_some_iff] at hc
    obtain (hc | ⟨-, hc⟩) | ⟨-, hc⟩ := hc
    · exact hq c (hfront c (List.mem_of_head? hc))
    · exact ht.1 c hc
    · exact hq c (hback c (List.mem_of_head? hc))
  · intro c hc
    rw [List.getLast?_append, List.getLast?_append, Option.mem_def, Option.or_eq_some_iff,
      Option.or_eq_some_iff] at hc
    obtain hc | ⟨-, hc | ⟨-, hc⟩⟩ := hc
    · exact hq c (hback c (List.mem_of_getLast? hc))
    · exact ht.2 c hc
    · exact hq c (hfront c (List.mem_of_getLast? hc))

/-- Trimming takes the margin off a tight text. -/
theorem trim_of_padded (h : Padded isBlank core cs) (ht : Tight isBlank core) : trim cs = core :=
  dropEndWhile_dropWhile_of_padded h ht

/-- Trimming leaves a tight text as it is. -/
theorem trim_of_tight (ht : Tight isBlank cs) : trim cs = cs :=
  trim_of_padded (.refl _ cs) ht

theorem trim_cons_of_isBlank {c : Char} (hc : isBlank c = true) : trim (c :: cs) = trim cs := by
  unfold trim trimStart
  rw [List.dropWhile_cons_of_pos hc]

/-- Dropping stops at a character that is not dropped, whatever follows it. -/
theorem dropWhile_append_cons {c : Char} (hc : p c = false) (xs ys : List Char) :
    (xs ++ c :: ys).dropWhile p = xs.dropWhile p ++ c :: ys := by
  rw [List.dropWhile_append]
  split
  · next h => rw [List.isEmpty_iff.1 h, List.nil_append, List.dropWhile_cons_of_neg (by simp [hc])]
  · rfl

/-- A character that is not blank keeps what lies before it from what lies behind it. -/
theorem trim_append_cons {c : Char} (hc : isBlank c = false) (xs ys : List Char) :
    trim (xs ++ c :: ys) = trimStart xs ++ c :: trimEnd ys := by
  unfold trim trimStart trimEnd dropEndWhile
  rw [dropWhile_append_cons hc, List.reverse_append, List.reverse_cons, List.append_assoc,
    List.singleton_append, dropWhile_append_cons hc]
  simp

theorem padded_trim (cs : List Char) : Padded isBlank (trim cs) cs :=
  padded_dropEndWhile_dropWhile isBlank cs

/-- A character that is not in a text is not found there. -/
theorem cutAt?_of_notMem {sep : Char} (h : sep ∉ cs) : cutAt? sep cs = none := by
  induction cs with
  | nil => rfl
  | cons c cs ih =>
    rw [List.mem_cons, not_or] at h
    rw [cutAt?, if_neg (Ne.symm h.1), ih h.2]
    rfl

end Text

namespace Project

open Text (Padded Tight isBlank)

/-! ## Lines without settings -/

/-- The line opens the section with a name. -/
def Opens (name line : List Char) : Prop :=
  ∃ inner, Padded isBlank name inner ∧ Padded isBlank ('[' :: inner ++ [']']) line

/-- The line opens some section. -/
def IsHeader (line : List Char) : Prop :=
  ∃ name, Opens name line

/-- What stands before the equals sign of a line is a key, in blanks and within these in quotes. -/
def Spells (name : String) (key : List Char) : Prop :=
  ∃ quoted, Padded (· == '"') name.toList quoted ∧ Padded isBlank quoted key

/-- The keys of all settings. -/
def keys : List String :=
  ["dir", "name", "backends", "fnames", "preserve_lines"]

/-- A line that says nothing in any section. -/
inductive Idle : List Char → Prop where
  /-- A line of blanks. -/
  | blank {line : List Char} (h : Padded isBlank [] line) : Idle line
  /-- A line with a comment. -/
  | comment {line text : List Char} (h : Padded isBlank ('#' :: text) line) : Idle line
  /-- A line with a key that no setting has. In brackets it would be a header. -/
  | unknownKey {key value : List Char} (hkey : '=' ∉ key) (hname : ∀ name ∈ keys, ¬ Spells name key)
      (h : ¬ IsHeader (key ++ '=' :: value)) : Idle (key ++ '=' :: value)
  /-- A line without an equals sign. -/
  | noEquals {line : List Char} (hequals : '=' ∉ line) (h : ¬ IsHeader line) : Idle line

/-- What stands between brackets. -/
theorem bracketed?_eq_some_iff {cs inner : List Char} :
    bracketed? cs = some inner ↔ cs = '[' :: inner ++ [']'] := by
  unfold bracketed?
  split
  · next cs =>
    rw [List.cons_append, List.cons.injEq, eq_self, true_and]
    constructor
    · intro h
      split at h
      · next hlast =>
        obtain rfl := Option.some.inj h
        exact (List.dropLast_append_getLast? _ hlast).symm
      · cases h
    · rintro rfl
      simp
  · next hcs =>
    simp only [reduceCtorEq, false_iff]
    rintro rfl
    exact hcs _ rfl

/-- A line opens a section exactly if the brackets hold its name, blanks apart. -/
theorem opens_iff {name line : List Char} (hname : Tight isBlank name) :
    Opens name line ↔ (bracketed? (Text.trim line)).map Text.trim = some name := by
  rw [Option.map_eq_some_iff]
  constructor
  · rintro ⟨inner, hinner, hline⟩
    refine ⟨inner, bracketed?_eq_some_iff.2 ?_, Text.trim_of_padded hinner hname⟩
    exact Text.trim_of_padded hline (Text.tight_enclosed inner rfl rfl)
  · rintro ⟨inner, hline, rfl⟩
    refine ⟨inner, Text.padded_trim inner, ?_⟩
    rw [← bracketed?_eq_some_iff.1 hline]
    exact Text.padded_trim line

/-- A line opens some section exactly if it is in brackets, blanks apart. -/
theorem isHeader_iff {line : List Char} :
    IsHeader line ↔ (bracketed? (Text.trim line)).isSome = true := by
  rw [Option.isSome_iff_exists]
  constructor
  · rintro ⟨name, inner, -, hline⟩
    refine ⟨inner, bracketed?_eq_some_iff.2 ?_⟩
    exact Text.trim_of_padded hline (Text.tight_enclosed inner rfl rfl)
  · rintro ⟨inner, hline⟩
    refine ⟨inner, inner, .refl _ _, ?_⟩
    rw [← bracketed?_eq_some_iff.1 hline]
    exact Text.padded_trim line

instance (line : List Char) : Decidable (IsHeader line) :=
  decidable_of_iff _ isHeader_iff.symm

theorem tight_generator : Tight isBlank "generator".toList := by
  decide

instance (line : List Char) : Decidable (Opens "generator".toList line) :=
  decidable_of_iff _ (opens_iff tight_generator).symm

/-! ## Keys -/

/-- The keys begin and end with neither blanks nor quotes. -/
theorem tight_of_mem_keys :
    ∀ name ∈ keys, Tight isBlank name.toList ∧ Tight (· == '"') name.toList := by
  decide

/-- A key is read from a text exactly if the text spells it. -/
theorem ofList_unquote_trim_eq_iff {name : String} {key : List Char} (hname : name ∈ keys) :
    String.ofList (unquote (Text.trim key)) = name ↔ Spells name key := by
  obtain ⟨hblank, hquote⟩ := tight_of_mem_keys name hname
  constructor
  · rintro rfl
    refine ⟨Text.trim key, ?_, Text.padded_trim key⟩
    rw [String.toList_ofList]
    exact Text.padded_dropEndWhile_dropWhile (· == '"') (Text.trim key)
  · rintro ⟨quoted, hquoted, hkey⟩
    -- The blanks around the quotes are taken off first, and a quote is not blank.
    have htight : Tight isBlank quoted := by
      refine hblank.of_padded hquoted fun c hc => ?_
      rw [eq_of_beq hc]
      decide
    rw [Text.trim_of_padded hkey htight, unquote, Text.strip,
      Text.dropEndWhile_dropWhile_of_padded hquoted hquote, String.ofList_toList]

/-! ## Settings -/

/-- A list of strings, in brackets and with commas between them. -/
def listText (items : List String) : String :=
  "[" ++ ", ".intercalate (items.map quote) ++ "]"

/-- One of the generator's settings. -/
inductive Setting where
  | dir (text : String)
  | name (text : String)
  | backends (bs : List Backend)
  | fnames (names : List String)
  | preserveLines (value : Bool)
  deriving DecidableEq, Repr

namespace Setting

/-- The key of a setting. -/
def key : Setting → String
  | dir _ => "dir"
  | name _ => "name"
  | backends _ => "backends"
  | fnames _ => "fnames"
  | preserveLines _ => "preserve_lines"

/-- The key of a setting is one of the keys. -/
theorem key_mem (s : Setting) : s.key ∈ keys := by
  cases s <;> simp [key, keys]

/-- The value of a setting as it is written. -/
def value : Setting → String
  | dir text => quote text
  | name text => quote text
  | backends bs => listText (bs.map Backend.flag)
  | fnames names => listText names
  | preserveLines value => if value then "true" else "false"

/-- The line of a setting. -/
def line (s : Setting) : String :=
  s.key ++ " = " ++ s.value

/-- A project with one more setting. -/
def into (p : Project) : Setting → Project
  | dir text => { p with dir := some text }
  | name text => { p with name := some text }
  | backends bs => { p with backends := p.backends ++ bs }
  | fnames names => { p with fnames := names }
  | preserveLines value => { p with preserveLines := some value }

end Setting

/-- The settings of a project. -/
def settings (p : Project) : List Setting :=
  p.dir.toList.map Setting.dir ++ p.name.toList.map Setting.name ++
    [Setting.backends p.backends, Setting.fnames p.fnames] ++
    p.preserveLines.toList.map Setting.preserveLines

/-- A text that keeps its ends between quotes and fits on one line. -/
def Quotable (text : String) : Prop :=
  Tight (· == '"') text.toList ∧ '\n' ∉ text.toList

instance (text : String) : Decidable (Quotable text) :=
  inferInstanceAs (Decidable (_ ∧ _))

/-- A text that can be told from its neighbours in a list. -/
def Listable (text : String) : Prop :=
  Quotable text ∧ text ≠ "" ∧ ',' ∉ text.toList

instance (text : String) : Decidable (Listable text) :=
  inferInstanceAs (Decidable (_ ∧ _))

/-- The texts of a project can be written. -/
structure Writable (p : Project) : Prop where
  /-- The directory has no line break, and no quote at its ends. -/
  dir : ∀ text ∈ p.dir, Quotable text
  /-- So has the name. -/
  name : ∀ text ∈ p.name, Quotable text
  /-- The functions moreover have no comma, and are not empty. -/
  fnames : ∀ text ∈ p.fnames, Listable text

/-- The texts of a setting can be written. -/
def Setting.Writable : Setting → Prop
  | dir text => Quotable text
  | name text => Quotable text
  | fnames names => ∀ text ∈ names, Listable text
  | _ => True

/-- If the texts of a project can be written, so can those of its settings. -/
theorem Writable.setting {p : Project} (h : p.Writable) : ∀ s ∈ p.settings, s.Writable := by
  intro s hs
  simp only [settings, List.mem_append, List.mem_map, Option.mem_toList, List.mem_cons,
    List.not_mem_nil, or_false] at hs
  obtain ((⟨text, htext, rfl⟩ | ⟨text, htext, rfl⟩) | rfl | rfl) | ⟨value, -, rfl⟩ := hs
  · exact h.dir text htext
  · exact h.name text htext
  · exact trivial
  · exact h.fnames
  · exact trivial

/-! ### Values -/

/-- A text comes out of its quotes if it has none at its ends. -/
theorem unquote_quote {text : String} (h : Tight (· == '"') text.toList) :
    unquote (quote text).toList = text.toList := by
  refine Text.dropEndWhile_dropWhile_of_padded ⟨['"'], ['"'], ?_, ?_, ?_⟩ h
  · simp
  · simp
  · rw [toList_quote]
    rfl

/-- A list as it is written, character by character. -/
theorem toList_listText (items : List String) :
    (listText items).toList =
      '[' :: [',', ' '].intercalate (items.map fun item => (quote item).toList) ++ [']'] := by
  simp [listText, Function.comp_def]

/-- The blank behind a comma does not matter. -/
theorem map_trim_split_intercalate {pieces : List (List Char)} (hne : pieces ≠ [])
    (h : ∀ piece ∈ pieces, ',' ∉ piece) :
    (Text.split ',' ([',', ' '].intercalate pieces)).map Text.trim = pieces.map Text.trim := by
  induction pieces with
  | nil => exact absurd rfl hne
  | cons first rest ih =>
    have hfirst := Text.split_of_notMem (h first List.mem_cons_self)
    cases rest with
    | nil => rw [List.intercalate_singleton, hfirst]
    | cons second rest =>
      have hrest := ih (List.cons_ne_nil _ _) fun piece hpiece =>
        h piece (List.mem_cons_of_mem _ hpiece)
      -- Every piece but the first begins with the blank that stands behind the comma.
      have hblank (cs : List Char) :
          (Text.split ',' (' ' :: cs)).map Text.trim = (Text.split ',' cs).map Text.trim := by
        rw [Text.split, if_neg (by decide)]
        cases hcs : Text.split ',' cs with
        | nil => exact absurd hcs (Text.split_ne_nil ',' cs)
        | cons piece pieces =>
          rw [List.map_cons, Text.trim_cons_of_isBlank (by decide), List.map_cons]
      rw [List.intercalate_cons_cons, List.append_assoc, List.cons_append, List.singleton_append,
        Text.split_append_cons, hfirst, List.map_append, hblank, hrest]
      rfl

/-- A quoted text comes out of its quotes after trimming as well. -/
theorem unquote_trim_quote {text : String} (h : Tight (· == '"') text.toList) :
    unquote (Text.trim (quote text).toList) = text.toList := by
  have htight : Tight isBlank (quote text).toList := by
    rw [toList_quote]
    exact Text.tight_enclosed _ rfl rfl
  rw [Text.trim_of_tight htight, unquote_quote h]

/-- The pieces between the commas of a list are its items. -/
theorem map_split_items {items : List String} (hne : items ≠ [])
    (h : ∀ item ∈ items, Listable item) :
    ((Text.split ',' ([',', ' '].intercalate (items.map fun item => (quote item).toList))).map
      fun part => unquote (Text.trim part)) = items.map String.toList := by
  have hcomma : ∀ piece ∈ items.map fun item => (quote item).toList, ',' ∉ piece := by
    intro piece hpiece
    obtain ⟨text, htext, rfl⟩ := List.mem_map.1 hpiece
    rw [toList_quote]
    simp [(h text htext).2.2]
  have hpieces := map_trim_split_intercalate (mt List.map_eq_nil_iff.1 hne) hcomma
  rw [← Function.comp_def unquote, ← List.map_map, hpieces, List.map_map, List.map_map]
  refine List.map_congr_left fun text htext => ?_
  rw [Function.comp_apply, Function.comp_apply]
  exact unquote_trim_quote (h text htext).1.1

/-- A list of texts is read back. -/
theorem stringList_listText {items : List String} (h : ∀ item ∈ items, Listable item) :
    stringList (listText items).toList = items := by
  have htrim : Text.trim (listText items).toList = (listText items).toList := by
    rw [toList_listText]
    exact Text.trim_of_tight (Text.tight_enclosed _ rfl rfl)
  unfold stringList
  rw [htrim, bracketed?_eq_some_iff.2 (toList_listText items)]
  dsimp only
  by_cases hne : items = []
  · -- Between the brackets of an empty list stands one empty piece, and it does not count.
    subst hne
    rfl
  · have hfull : ∀ cs ∈ items.map String.toList, (!cs.isEmpty) = true := by
      intro cs hcs
      obtain ⟨text, htext, rfl⟩ := List.mem_map.1 hcs
      have hempty : text.toList ≠ [] := mt String.toList_eq_nil_iff.1 (h text htext).2.1
      simpa using hempty
    rw [map_split_items hne h, List.filter_eq_self.2 hfull, List.map_map]
    exact List.map_id'' (fun text => String.ofList_toList) items

/-- The flags of backends can be listed. -/
theorem listable_flags (bs : List Backend) : ∀ flag ∈ bs.map Backend.flag, Listable flag := by
  intro flag hflag
  obtain ⟨b, -, rfl⟩ := List.mem_map.1 hflag
  cases b <;> decide

/-- The flags are read back as the backends. -/
theorem backendsOf_map_flag (bs : List Backend) : backendsOf (bs.map Backend.flag) = .ok bs := by
  induction bs with
  | nil => rfl
  | cons b bs ih =>
    have hflag : Backend.ofFlag? b.flag = some b := by cases b <;> decide
    rw [List.map_cons, backendsOf, hflag, ih]
    rfl

/-! ## One line -/

variable {s : Setting} {p : Project} {line : List Char} {state : Progress}

/-- A value begins and ends with characters that are not blank. -/
theorem Setting.exists_value (s : Setting) :
    ∃ a inner b, s.value.toList = a :: inner ++ [b] ∧ isBlank a = false ∧ isBlank b = false := by
  cases s with
  | dir text => exact ⟨'"', text.toList, '"', toList_quote text, rfl, rfl⟩
  | name text => exact ⟨'"', text.toList, '"', toList_quote text, rfl, rfl⟩
  | backends bs => exact ⟨'[', _, ']', toList_listText (bs.map Backend.flag), rfl, rfl⟩
  | fnames names => exact ⟨'[', _, ']', toList_listText names, rfl, rfl⟩
  | preserveLines value =>
    cases value with
    | true => exact ⟨'t', ['r', 'u'], 'e', by decide, rfl, rfl⟩
    | false => exact ⟨'f', ['a', 'l', 's'], 'e', by decide, rfl, rfl⟩

/-- A setting as it is written, cut at the equals sign. -/
theorem Setting.toList_line (s : Setting) :
    s.line.toList = s.key.toList ++ [' '] ++ '=' :: ' ' :: s.value.toList := by
  simp [Setting.line]

/-- The key and the value of a setting are read back as the setting. -/
theorem assign_setting (p : Project) (hs : s.Writable) :
    p.assign (s.key.toList ++ [' ']) s.value.toList = .ok (s.into p) := by
  have hspells : Spells s.key (s.key.toList ++ [' ']) :=
    ⟨s.key.toList, .refl _ _, [], [' '], List.forall_mem_nil _, by simp; decide, rfl⟩
  unfold assign
  rw [(ofList_unquote_trim_eq_iff s.key_mem).2 hspells]
  -- Each kind of setting has a branch of its own, where its value is read back.
  cases s with
  | dir text =>
    dsimp only [Setting.key, Setting.value]
    rw [unquote_quote hs.1, String.ofList_toList]
    rfl
  | name text =>
    dsimp only [Setting.key, Setting.value]
    rw [unquote_quote hs.1, String.ofList_toList]
    rfl
  | backends bs =>
    dsimp only [Setting.key, Setting.value]
    rw [stringList_listText (listable_flags bs), backendsOf_map_flag]
    rfl
  | fnames names =>
    dsimp only [Setting.key, Setting.value]
    rw [stringList_listText hs]
    rfl
  | preserveLines value =>
    dsimp only [Setting.key, Setting.value]
    rw [String.ofList_toList]
    cases value <;> rfl

/-- A line begins and ends with characters that are not blank, and the first of them begins neither
a comment nor a section. -/
theorem Setting.exists_line (s : Setting) :
    ∃ a inner b, s.line.toList = a :: inner ++ [b] ∧ isBlank a = false ∧ isBlank b = false ∧
      a ≠ '#' ∧ a ≠ '[' := by
  have hkeys : ∀ name ∈ keys,
      name.toList.head?.any (fun a => !isBlank a && a != '#' && a != '[') = true := by
    decide
  obtain ⟨a, ha, hfirst⟩ := (Option.any_eq_true _ _).1 (hkeys s.key s.key_mem)
  obtain ⟨rest, hkey⟩ := List.head?_eq_some_iff.1 ha
  obtain ⟨c, inner, b, hvalue, -, hb⟩ := s.exists_value
  rw [Bool.and_eq_true, Bool.and_eq_true, Bool.not_eq_true', bne_iff_ne, bne_iff_ne] at hfirst
  refine ⟨a, rest ++ [' ', '=', ' ', c] ++ inner, b, ?_, hfirst.1.1, hb, hfirst.1.2, hfirst.2⟩
  rw [s.toList_line, hkey, hvalue]
  simp

/-- Blank lines and comments are passed over. -/
theorem readLine_skip (h : Text.trim line = [] ∨ (Text.trim line).head? = some '#') :
    readLine state line = .ok state := by
  unfold readLine
  dsimp only
  rw [if_pos]
  obtain h | h := h <;> simp [h]

/-- A header changes the section. -/
theorem readLine_bracketed {inner : List Char} (h : bracketed? (Text.trim line) = some inner) :
    readLine state line = .ok { state with area := Text.trim inner } := by
  have hline := bracketed?_eq_some_iff.1 h
  unfold readLine
  dsimp only
  rw [if_neg (by simp [hline]), h]

/-- Other sections are passed over. -/
theorem readLine_outside (h : ¬ IsHeader line) (harea : state.area ≠ "generator".toList) :
    readLine state line = .ok state := by
  rw [isHeader_iff, Option.not_isSome_iff_eq_none] at h
  unfold readLine
  dsimp only
  rw [h]
  dsimp only
  rw [if_pos (bne_iff_ne.2 harea), ite_self]

/-- Lines without an equals sign are passed over. -/
theorem readLine_noEquals (h : ¬ IsHeader line) (hequals : '=' ∉ line) :
    readLine state line = .ok state := by
  have hcut : Text.cutAt? '=' (Text.trim line) = none :=
    Text.cutAt?_of_notMem fun hmem => hequals ((Text.padded_trim line).subset hmem)
  rw [isHeader_iff, Option.not_isSome_iff_eq_none] at h
  unfold readLine
  dsimp only
  rw [h, hcut]
  dsimp only
  rw [ite_self, ite_self]

/-- A key and a value are assigned in the generator's section. -/
theorem readLine_assign {key value : List Char} (hstart : (Text.trim line).head? ≠ some '#')
    (h : ¬ IsHeader line) (harea : state.area = "generator".toList)
    (hline : Text.trim line = key ++ '=' :: value) (hkey : '=' ∉ key) :
    readLine state line =
      (state.settings.assign key (Text.trim value)).map fun p => { state with settings := p } := by
  have hcut : Text.cutAt? '=' (Text.trim line) = some (key, value) :=
    hline ▸ Text.cutAt?_append hkey value
  have hfull : ¬ ((Text.trim line).isEmpty || (Text.trim line).head? == some '#') = true := by
    rw [Bool.or_eq_true, beq_iff_eq, not_or]
    exact ⟨by simp [hline], hstart⟩
  rw [isHeader_iff, Option.not_isSome_iff_eq_none] at h
  unfold readLine
  dsimp only
  rw [if_neg hfull, h, hcut]
  dsimp only
  rw [if_neg (by simp [harea])]

/-- The line of a setting adds the setting. -/
theorem readLine_setting (hs : s.Writable) (hline : Padded isBlank s.line.toList line)
    (harea : state.area = "generator".toList) :
    readLine state line = .ok { state with settings := s.into state.settings } := by
  obtain ⟨a, inner, b, hends, ha, hb, hcomment, hbracket⟩ := s.exists_line
  have htrim : Text.trim line = s.line.toList :=
    Text.trim_of_padded hline (hends ▸ Text.tight_enclosed inner ha hb)
  have hstart : (Text.trim line).head? ≠ some '#' := by
    simpa [htrim, hends] using hcomment
  have hheader : ¬ IsHeader line := by
    rw [isHeader_iff, Option.isSome_iff_exists, htrim, hends]
    rintro ⟨name, hname⟩
    exact hbracket (List.cons.inj (bracketed?_eq_some_iff.1 hname)).1
  -- No key has an equals sign, so that the first one stands behind the key, whatever the value is.
  have hkey : '=' ∉ s.key.toList ++ [' '] := by
    have hkeys : ∀ name ∈ keys, '=' ∉ name.toList ++ [' '] := by decide
    exact hkeys s.key s.key_mem
  have hvalue : Text.trim (' ' :: s.value.toList) = s.value.toList := by
    obtain ⟨c, inner, b, hvalue, hc, hb⟩ := s.exists_value
    rw [Text.trim_cons_of_isBlank (by decide), hvalue]
    exact Text.trim_of_tight (Text.tight_enclosed inner hc hb)
  rw [readLine_assign hstart hheader harea (htrim.trans s.toList_line) hkey, hvalue,
    assign_setting state.settings hs]
  rfl

/-- A key that is none of a setting's changes nothing. -/
theorem assign_unknown {key : List Char} (h : ∀ name ∈ keys, ¬ Spells name key)
    (value : List Char) : p.assign key value = .ok p := by
  have hne : ∀ name ∈ keys, String.ofList (unquote (Text.trim key)) ≠ name :=
    fun name hname heq => h name hname ((ofList_unquote_trim_eq_iff hname).1 heq)
  simp only [keys, List.forall_mem_cons] at hne
  obtain ⟨hdir, hname, hbackends, hfnames, hpreserve, -⟩ := hne
  unfold assign
  split
  · next h => exact absurd h hdir
  · next h => exact absurd h hname
  · next h => exact absurd h hfnames
  · next h => exact absurd h hbackends
  · next h => exact absurd h hpreserve
  · rfl

theorem Spells.of_trimStart {name : String} {key : List Char}
    (h : Spells name (Text.trimStart key)) : Spells name key := by
  obtain ⟨quoted, hquoted, front, back, hfront, hback, hkey⟩ := h
  refine ⟨quoted, hquoted, key.takeWhile isBlank ++ front, back, ?_, hback, ?_⟩
  · rw [List.forall_mem_append]
    exact ⟨fun c => List.mem_takeWhile_imp, hfront⟩
  · rw [List.append_assoc, List.append_assoc, ← List.append_assoc front, ← hkey]
    exact List.takeWhile_append_dropWhile.symm

/-- A line that says nothing is passed over in every section. -/
theorem readLine_idle (h : Idle line) : readLine state line = .ok state := by
  cases h with
  | blank h => exact readLine_skip (.inl (Text.trim_of_padded h (by decide)))
  | @comment _ text h =>
    obtain ⟨front, back, hfront, -, rfl⟩ := h
    have htrim : Text.trim (front ++ '#' :: text ++ back) = '#' :: Text.trimEnd (text ++ back) := by
      rw [List.append_assoc, List.cons_append, Text.trim_append_cons (by decide), Text.trimStart,
        List.dropWhile_eq_nil_iff.2 hfront, List.nil_append]
    exact readLine_skip (.inr (by rw [htrim, List.head?_cons]))
  | @unknownKey key value hkey hname h =>
    have htrim : Text.trim (key ++ '=' :: value) =
        Text.trimStart key ++ '=' :: Text.trimEnd value :=
      Text.trim_append_cons (by decide) key value
    -- A key may also begin like a comment, or stand in a section where no key counts.
    by_cases hstart : (Text.trim (key ++ '=' :: value)).head? = some '#'
    · exact readLine_skip (.inr hstart)
    · by_cases harea : state.area = "generator".toList
      · have hkey' : '=' ∉ Text.trimStart key :=
          fun hmem => hkey ((List.dropWhile_sublist isBlank).subset hmem)
        have hname' : ∀ name ∈ keys, ¬ Spells name (Text.trimStart key) :=
          fun name hmem hspells => hname name hmem hspells.of_trimStart
        rw [readLine_assign hstart h harea htrim hkey', assign_unknown hname']
        rfl
      · exact readLine_outside h harea
  | noEquals hequals h => exact readLine_noEquals h hequals

/-- A header opens its section. -/
theorem readLine_opens {name : List Char} (hname : Tight isBlank name) (h : Opens name line) :
    readLine state line = .ok { state with area := name } := by
  obtain ⟨inner, hinner, rfl⟩ := Option.map_eq_some_iff.1 ((opens_iff hname).1 h)
  exact readLine_bracketed hinner

/-- A header of another section leaves the generator's section. -/
theorem readLine_other (h : IsHeader line) (hother : ¬ Opens "generator".toList line) :
    ∃ area, area ≠ "generator".toList ∧ readLine state line = .ok { state with area := area } := by
  obtain ⟨inner, hinner⟩ := Option.isSome_iff_exists.1 (isHeader_iff.1 h)
  refine ⟨Text.trim inner, fun hname => hother ?_, readLine_bracketed hinner⟩
  exact (opens_iff tight_generator).2 (Option.map_eq_some_iff.2 ⟨inner, hinner, hname⟩)

end Project

end KernelGen
