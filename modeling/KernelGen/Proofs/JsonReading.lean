import KernelGen.Proofs.DeclarationOrder
import KernelGen.Proofs.JsonText

/-!
# Reading documents back

What the typed readers of a manifest make of JSON documents: strings, truth values, words, names of
a fixed choice, lists, values that may be missing, and records.

A record is read entry by entry, and each entry puts one field into the record. Entries of
different fields do not meddle with one another, and an entry that may be left out would put the
default where the default is already. So the order of the entries is free and the entries that may
be left out need not be there (`Manifest.writes_record`).

* `Manifest.Reads`: a reader takes the text of a document for a value.
* `Manifest.Writes`: it does so for all abridged forms of the document.
* `Manifest.Member`: an entry of a document holds a field of a record.
-/

namespace KernelGen.Manifest

variable {α ρ : Type}

/-- A reader takes the text of a document for a value, whatever follows. -/
def Reads (item : Reader α) (a : α) (j : Json) : Prop :=
  ∀ rest, Follows rest → item (j.text ++ rest) = .ok (a, rest)

/-- A reader takes every abridged form of a document for a value. -/
def Writes (item : Reader α) (a : α) (j : Json) : Prop :=
  ∀ k, j.Abridged k → Reads item a k

/-- Nothing is skipped before a character that is no space. -/
theorem skipSpace_cons {c : Char} (h : isSpace c = false) (cs : List Char) :
    skipSpace (c :: cs) = c :: cs := by
  rw [skipSpace, List.dropWhile_cons_of_neg (by rw [h]; decide)]

/-! ## Simple values -/

/-- A quoted string, character by character, in front of a text. -/
theorem quoted_append (s : String) (rest : List Char) :
    Json.quoted s ++ rest = '"' :: (s.toList.flatMap Json.escape ++ '"' :: rest) := by
  simp [Json.quoted]

/-- A string is what stands between its quotes. -/
theorem string_of_readChars {cs s rest : List Char} (h : readChars cs = .ok (s, rest)) :
    string ('"' :: cs) = .ok (String.ofList s, rest) := by
  rw [string, skipSpace_cons (by decide)]
  split
  · next heq =>
    obtain ⟨-, rfl⟩ := List.cons.inj heq
    rw [h]
  · next hne => exact absurd rfl (hne cs)

/-- A choice is made by the string between the quotes. -/
theorem choice_of_readChars {choices : List (String × α)} {cs name rest : List Char} {a : α}
    (h : readChars cs = .ok (name, rest)) (ha : choices.lookup (String.ofList name) = some a) :
    choice choices ('"' :: cs) = .ok (a, rest) := by
  rw [choice, skipSpace_cons (by decide)]
  split
  · next heq => cases heq
  · next heq =>
    obtain ⟨-, rfl⟩ := List.cons.inj heq
    rw [h]
    dsimp only
    rw [choose, ha]
    rfl
  · next heq => exact absurd (List.cons.inj heq).1 (by decide)
  · next hne _ => exact absurd rfl (hne cs)

/-- A string is read back. -/
theorem writes_string (s : String) : Writes string s (.string s) := by
  rintro k hk rest -
  cases hk
  rw [Json.text, quoted_append, string_of_readChars (readChars_flatMap_escape _ _),
    String.ofList_toList]

/-- A name of a fixed choice is read as what it stands for. -/
theorem writes_choice {choices : List (String × α)} {name : String} {a : α}
    (h : choices.lookup name = some a) : Writes (choice choices) a (.string name) := by
  rintro k hk rest -
  cases hk
  rw [Json.text, quoted_append]
  exact choice_of_readChars (readChars_flatMap_escape _ _) (by rwa [String.ofList_toList])

/-- A truth value is read back. -/
theorem writes_boolean (b : Bool) : Writes boolean b (.boolean b) := by
  rintro k hk rest -
  cases hk
  cases b <;> rfl

/-- A number below the bound is read back. -/
theorem reads_natural {kind : String} {bound n : Nat} (hn : n < bound) (hword : n ≤ maxWord) :
    Reads (natural kind bound) n (.number n) := by
  intro rest hrest
  have hnumber := readNumber_digits hword hrest
  obtain ⟨c, tail, hdigits, hdigit, -⟩ := Decimal.exists_digits_eq n
  have hspace : isSpace c = false := by
    obtain ⟨c', tail', hdigits', hspace, -⟩ := (Json.number n).exists_text_eq
    obtain ⟨rfl, -⟩ := List.cons.inj (hdigits.symm.trans hdigits')
    exact hspace
  have hsign : c ≠ '-' := by
    rintro rfl
    exact absurd hdigit (by decide)
  rw [hdigits, List.cons_append] at hnumber
  rw [Json.text, hdigits, List.cons_append, natural, skipSpace_cons hspace]
  -- A digit is no sign, so the number is read as one without a sign.
  split
  · next heq => exact absurd (List.cons.inj heq).1 hsign
  · dsimp only
    rw [hdigit, if_pos rfl, hnumber]
    dsimp only
    rw [if_pos hn]

/-- A word is read back. -/
theorem writes_word64 (n : UInt64) : Writes word64 n (.ofWord n) := by
  rintro k hk rest hrest
  cases hk
  have hlt := n.toNat_lt
  rw [word64, reads_natural hlt (by unfold maxWord; omega) rest hrest]
  exact congrArg (fun m => Except.ok (m, rest)) UInt64.ofNat_toNat

/-- A half word is read back. -/
theorem writes_word32 (n : UInt32) : Writes word32 n (.number n.toNat) := by
  rintro k hk rest hrest
  cases hk
  have hlt := n.toNat_lt
  rw [word32, reads_natural hlt (by unfold maxWord; omega) rest hrest]
  exact congrArg (fun m => Except.ok (m, rest)) UInt32.ofNat_toNat

/-! ## Lists -/

/-- Behind an item stands a comma or the end of the list, and so nothing that goes on with it. -/
theorem follows_separated (ts : List (List Char)) {c : Char} (hc : c = ']' ∨ c = '\x7d')
    (rest : List Char) : Follows (Json.separated false ts ++ c :: rest) := by
  cases ts with
  | nil => exact .inr ⟨c, rest, rfl, .inr hc⟩
  | cons t ts => exact .inr ⟨',', _, rfl, .inl rfl⟩

/-- The next item of a list is found in front of its text. -/
theorem nextItem_text (first : Bool) (j : Json) (more : List Char) :
    nextItem first ((if first then j.text else ',' :: j.text) ++ more) =
      .ok (some (j.text ++ more)) := by
  obtain ⟨c, tail, htext, hspace, hend⟩ := j.exists_text_eq
  rw [htext]
  cases first with
  | true =>
    rw [if_pos rfl, List.cons_append, nextItem, skipSpace_cons hspace]
    dsimp only
    rw [if_neg hend, if_pos rfl]
  | false =>
    have hcomma (cs : List Char) : skipSpace (',' :: cs) = ',' :: cs := rfl
    rw [if_neg Bool.false_ne_true, List.cons_append, List.cons_append, nextItem, hcomma]
    dsimp only
    rw [if_neg (by decide), if_neg Bool.false_ne_true, if_pos rfl, skipSpace_cons hspace]
    split
    · next heq => cases heq
    · next heq => exact absurd (List.cons.inj heq).1 hend
    · rfl

/-- Items that are read one by one are read as a list. -/
theorem items_separated {item : Reader α} {as : List α} {js : List Json}
    (h : List.Forall₂ (Reads item) as js) {fuel : Nat} (hfuel : js.length < fuel) (first : Bool)
    (rest : List Char) :
    items item fuel first (Json.separated first (js.map Json.text) ++ ']' :: rest) =
      .ok (as, rest) := by
  -- There are more steps left than items, so the last step finds the end of the list.
  induction h generalizing fuel first with
  | nil =>
    obtain ⟨fuel, rfl⟩ := Nat.exists_eq_add_of_lt hfuel
    rfl
  | @cons a j as js ha _ ih =>
    obtain ⟨fuel, rfl⟩ : ∃ n, fuel = n + 1 := Nat.exists_eq_add_one_of_ne_zero (by omega)
    rw [List.length_cons, Nat.succ_lt_succ_iff] at hfuel
    rw [List.map_cons, Json.separated, List.append_assoc, items, nextItem_text]
    dsimp only
    rw [ha _ (follows_separated _ (.inl rfl) rest)]
    dsimp only
    rw [ih hfuel false]

/-- A list is read back if its items are. -/
theorem writes_list {item : Reader α} {encode : α → Json} (as : List α)
    (h : ∀ a ∈ as, Writes item a (encode a)) : Writes (list item) as (.ofList encode as) := by
  rintro k hk rest -
  obtain ⟨items', rfl, hitems⟩ : ∃ items', k = .array items' ∧
      List.Forall₂ Json.Abridged (as.map encode) items' := by
    cases hk with
    | array hitems => exact ⟨_, rfl, hitems⟩
  rw [List.forall₂_map_left_iff] at hitems
  have hreads : List.Forall₂ (Reads item) as items' :=
    ((List.forall₂_and_left _ _).2 ⟨h, hitems⟩).imp fun a j ⟨hwrites, hj⟩ => hwrites j hj
  have htext : (Json.array items').text ++ rest =
      '[' :: (Json.separated true (items'.map Json.text) ++ ']' :: rest) := by
    simp [Json.text, Json.itemTexts_eq_map]
  rw [htext]
  refine items_separated hreads ?_ true rest
  have hlength := Json.length_le_separated Json.text_ne_nil true items'
  rw [List.length_append]
  omega

/-! ## Values that may be missing -/

/-- The lack of a value is read back. -/
theorem writes_none (item : Reader α) : Writes (optional item) none .null := by
  rintro k hk rest -
  cases hk
  rfl

/-- An optional record is read back if the record is. -/
theorem writes_some {item : Reader α} {a : α} {entries : List (JsonEntry Json)}
    (h : Writes item a (.object entries)) : Writes (optional item) (some a) (.object entries) := by
  intro k hk rest hrest
  have hitem := h k hk rest hrest
  cases hk
  rw [Json.text, List.cons_append, List.cons_append] at hitem ⊢
  show (item _).map (fun x => (some x.1, x.2)) = _
  rw [hitem]
  rfl

/-! ## Records -/

/-- An entry of an object is read as `put`, which puts a field into a record. -/
def Fits (k : Record ρ) (e : JsonEntry Json) (put : ρ → ρ) : Prop :=
  ∃ f, k.fields.find? (·.key == e.key) = some f ∧ Reads f.read put e.value

/-- The next key of an object is found in front of the text of its entry. -/
theorem nextKey_entryText (first : Bool) (e : JsonEntry Json) (more : List Char) :
    nextKey first ((if first then Json.entryText e else ',' :: Json.entryText e) ++ more) =
      .ok (some (e.key.toList.flatMap Json.escape ++ '"' :: ':' :: (e.value.text ++ more))) := by
  cases first with
  | true =>
    rw [if_pos rfl, Json.entryText_append]
    rfl
  | false =>
    rw [if_neg Bool.false_ne_true, List.cons_append, Json.entryText_append]
    rfl

/-- The entries of an object are read one after the other, and each puts its field into the
record. -/
theorem readFields_separated {k : Record ρ} {entries : List (JsonEntry Json)} {puts : List (ρ → ρ)}
    (h : List.Forall₂ (Fits k) entries puts) (seen : List String)
    (hnodup : (entries.map (·.key)).Nodup) (hseen : ∀ e ∈ entries, e.key ∉ seen)
    (hrequired : ∀ f ∈ k.fields, f.required = true →
      f.key ∈ seen ∨ f.key ∈ entries.map (·.key))
    {fuel : Nat} (hfuel : entries.length < fuel) (r : ρ) (rest : List Char) :
    k.readFields fuel seen r
        (Json.separated seen.isEmpty (entries.map Json.entryText) ++ '\x7d' :: rest) =
      .ok (puts.foldl (fun r put => put r) r, rest) := by
  -- Every entry moves its key to those seen, so what is required has been seen at the end. Only the
  -- first entry has no comma in front, and it is the one before which nothing was seen.
  induction h generalizing seen fuel r with
  | nil =>
    obtain ⟨fuel, rfl⟩ : ∃ n, fuel = n + 1 := Nat.exists_eq_add_one_of_ne_zero (by omega)
    have hend : nextKey seen.isEmpty ('\x7d' :: rest) = .ok none := rfl
    have hmissing : k.missing? seen = none := by
      rw [Record.missing?, Option.map_eq_none_iff, List.find?_eq_none]
      intro f hf
      have hmem := hrequired f hf
      simp only [List.map_nil, List.not_mem_nil, or_false] at hmem
      simpa using hmem
    rw [List.map_nil, Json.separated, List.nil_append, Record.readFields, hend]
    dsimp only
    rw [hmissing]
    rfl
  | @cons e put entries puts he _ ih =>
    obtain ⟨fuel, rfl⟩ : ∃ n, fuel = n + 1 := Nat.exists_eq_add_one_of_ne_zero (by omega)
    obtain ⟨f, hfind, hread⟩ := he
    rw [List.length_cons, Nat.succ_lt_succ_iff] at hfuel
    rw [List.map_cons, List.nodup_cons] at hnodup
    have hfresh : seen.contains e.key = false := by
      rw [← Bool.not_eq_true, List.contains_iff_mem]
      exact hseen e List.mem_cons_self
    have hcolon (cs : List Char) : colon (':' :: cs) = .ok cs := rfl
    have hrest := ih (e.key :: seen) hnodup.2
      (fun e' he' hmem => by
        rcases List.mem_cons.1 hmem with heq | hmem
        · exact hnodup.1 (heq ▸ List.mem_map_of_mem he')
        · exact hseen e' (List.mem_cons_of_mem _ he') hmem)
      (fun f hf hreq => by
        have hmem := hrequired f hf hreq
        rw [List.map_cons, List.mem_cons] at hmem
        rw [List.mem_cons]
        tauto)
      hfuel (put r)
    rw [List.map_cons, Json.separated, List.append_assoc, Record.readFields, nextKey_entryText]
    dsimp only
    rw [readChars_flatMap_escape]
    dsimp only
    rw [String.ofList_toList, hfind]
    dsimp only
    rw [hfresh, if_neg Bool.false_ne_true, hcolon]
    dsimp only
    rw [hread _ (follows_separated _ (.inr rfl) rest)]
    exact hrest

/-- An entry of a document holds a field of a record, and `put` puts the field there. -/
structure Member (k : Record ρ) (f : Field ρ) (s : JsonEntry Json × (ρ → ρ)) : Prop where
  /-- The entry has the name of the field. -/
  key : s.1.key = f.key
  /-- It is there if it must be. -/
  required : f.required = true → s.1.omissible = false
  /-- It may be left out only if it holds the default. -/
  default : s.1.omissible = true → s.2 k.blank = k.blank
  /-- Its value is read as the field. -/
  writes : Writes f.read s.2 s.1.value

/-- The value of a field is read back as the change that it makes to a record. -/
theorem writes_field {item : Reader α} {a : α} {j : Json} (h : Writes item a j) (key : String)
    (required : Bool) (set : ρ → α → ρ) :
    Writes (field key required item set).read (fun r => set r a) j := by
  intro k hk rest hrest
  show (item _).map (fun x => ((fun r => set r x.1), x.2)) = _
  rw [h k hk rest hrest]
  rfl

/-- An entry that is always there is a member of its record. -/
theorem Member.of_required {k : Record ρ} {key : String} {item : Reader α} {set : ρ → α → ρ} {a : α}
    {j : Json} (h : Writes item a j) :
    Member k (field key true item set) (.required key j, fun r => set r a) where
  key := rfl
  required _ := rfl
  default hfalse := by cases hfalse
  writes := writes_field h key true set

/-- So is one that may be left out where the field holds the default of the blank record. -/
theorem Member.of_defaulted [DecidableEq α] {k : Record ρ} {key : String} {item : Reader α}
    {set : ρ → α → ρ} {a default : α} {encode : α → Json} (h : Writes item a (encode a))
    (hdefault : set k.blank default = k.blank) :
    Member k (field key false item set) (.defaulted key default a encode, fun r => set r a) where
  key := rfl
  required hfalse := by cases hfalse
  default heq := by
    rw [JsonEntry.defaulted, decide_eq_true_eq] at heq
    rw [heq]
    exact hdefault
  writes := writes_field h key false set

/-- The entries that stay in an abridged object are those of some of the fields. -/
theorem exists_kept {members : List (JsonEntry Json × (ρ → ρ))} {j : Json}
    (h : (Json.object (members.map (·.1))).Abridged j) :
    ∃ out kept entries, j = .object entries ∧ members.Perm (out ++ kept) ∧
      (∀ s ∈ out, s.1.omissible = true) ∧
      kept.map (·.1.key) = entries.map (·.key) ∧
      List.Forall₂ Json.Abridged (kept.map (·.1.value)) (entries.map (·.value)) := by
  cases h with
  | @object _ out kept entries hperm hout hkeys hvalues =>
    -- What is known of the entries is carried over to the fields that they belong to.
    have hmap : List.Forall₂ (fun e s => e = s.1) (members.map (·.1)) members := by
      rw [List.forall₂_map_left_iff, List.forall₂_same]
      exact fun _ _ => rfl
    obtain ⟨members', hforall, hperm'⟩ := List.perm_comp_forall₂ hperm.symm hmap
    have hmembers' : out ++ kept = members'.map (·.1) := by
      rw [← List.forall₂_eq_eq_eq, List.forall₂_map_right_iff]
      exact hforall
    obtain ⟨out', kept', rfl, rfl, rfl⟩ := List.append_eq_map_iff.1 hmembers'
    rw [List.map_map] at hkeys hvalues
    exact ⟨out', kept', entries, rfl, hperm'.symm,
      fun s hs => hout s.1 (List.mem_map_of_mem hs), hkeys, hvalues⟩

/-- Fields that hold their defaults change nothing, so the others make the record. -/
theorem foldl_kept {k : Record ρ} {members out kept : List (JsonEntry Json × (ρ → ρ))}
    (hperm : members.Perm (out ++ kept))
    (hcomm : members.Pairwise fun s t => ∀ r, s.2 (t.2 r) = t.2 (s.2 r))
    (hout : ∀ s ∈ out, s.2 k.blank = k.blank) :
    kept.foldl (fun r s => s.2 r) k.blank = members.foldl (fun r s => s.2 r) k.blank := by
  have hcomm' : ∀ s ∈ members, ∀ t ∈ members, ∀ r, t.2 (s.2 r) = s.2 (t.2 r) := by
    have : Std.Symm fun s t : JsonEntry Json × (ρ → ρ) => ∀ r, s.2 (t.2 r) = t.2 (s.2 r) :=
      ⟨fun _ _ h r => (h r).symm⟩
    exact fun s hs t ht r => (hcomm.forall_of_forall (fun _ _ _ => rfl) hs ht r).symm
  -- What is left out could as well be put first, where it meets the defaults.
  have hblank : out.foldl (fun r s => s.2 r) k.blank = k.blank := by
    clear hperm
    induction out with
    | nil => rfl
    | cons s out ih =>
      rw [List.foldl_cons, hout s List.mem_cons_self]
      exact ih fun t ht => hout t (List.mem_cons_of_mem _ ht)
  rw [hperm.foldl_eq' hcomm', List.foldl_append, hblank]

/-- Every entry of the second list is related to one of the first. -/
theorem exists_mem_of_forall₂ {β : Type} {R : α → β → Prop} {l : List α} {l' : List β}
    (h : List.Forall₂ R l l') : ∀ b ∈ l', ∃ a ∈ l, R a b := by
  induction h with
  | nil => exact List.forall_mem_nil _
  | cons hab _ ih =>
    intro b hb
    rcases List.mem_cons.1 hb with rfl | hb
    · exact ⟨_, List.mem_cons_self, hab⟩
    · obtain ⟨a, ha, hr⟩ := ih b hb
      exact ⟨a, List.mem_cons_of_mem _ ha, hr⟩

/-- Entries with the names of fields and with forms of their values are read as the fields. -/
theorem forall₂_fits {k : Record ρ} (hkeys : (k.fields.map (·.key)).Nodup)
    {kept : List (JsonEntry Json × (ρ → ρ))} {entries : List (JsonEntry Json)}
    (hkept : ∀ s ∈ kept, ∃ f ∈ k.fields, Member k f s)
    (hnames : kept.map (·.1.key) = entries.map (·.key))
    (hvalues : List.Forall₂ Json.Abridged (kept.map (·.1.value)) (entries.map (·.value))) :
    List.Forall₂ (Fits k) entries (kept.map (·.2)) := by
  induction kept generalizing entries with
  | nil =>
    obtain rfl := List.map_eq_nil_iff.1 hnames.symm
    exact .nil
  | cons s kept ih =>
    obtain ⟨e, entries, rfl, hkey, hnames'⟩ := List.map_eq_cons_iff.1 hnames.symm
    rw [List.map_cons, List.map_cons, List.forall₂_cons] at hvalues
    obtain ⟨f, hf, hmember⟩ := hkept s List.mem_cons_self
    refine .cons ⟨f, ?_, hmember.writes _ hvalues.1⟩
      (ih (fun t ht => hkept t (List.mem_cons_of_mem _ ht)) hnames'.symm hvalues.2)
    exact (find?_key_eq_some_iff hkeys).2 ⟨hf, hmember.key.symm.trans hkey.symm⟩

/-- The members of a record have the keys of its fields. -/
theorem map_key_members {k : Record ρ} {members : List (JsonEntry Json × (ρ → ρ))}
    (hmembers : List.Forall₂ (Member k) k.fields members) :
    members.map (·.1.key) = k.fields.map (·.key) := by
  rw [← List.forall₂_eq_eq_eq, List.forall₂_map_left_iff, List.forall₂_map_right_iff]
  exact (hmembers.imp fun _ _ hmember => hmember.key).flip

/-- What is required stays in every abridged form. -/
theorem mem_kept_of_required {k : Record ρ} {members out kept : List (JsonEntry Json × (ρ → ρ))}
    (hmembers : List.Forall₂ (Member k) k.fields members) (hperm : members.Perm (out ++ kept))
    (hout : ∀ s ∈ out, s.1.omissible = true) {f : Field ρ} (hf : f ∈ k.fields)
    (hrequired : f.required = true) : f.key ∈ kept.map (·.1.key) := by
  obtain ⟨s, hs, hmember⟩ := exists_mem_of_forall₂ hmembers.flip f hf
  have hkept : s ∈ kept := by
    refine (List.mem_append.1 (hperm.mem_iff.1 hs)).resolve_left fun hmem => ?_
    exact Bool.false_ne_true ((hmember.required hrequired).symm.trans (hout s hmem))
  rw [← hmember.key]
  exact List.mem_map_of_mem hkept

/-- A record is read back from the document with its fields. No two fields have one name, fields
may be put into a record in any order, and together they make the record. -/
theorem writes_record {k : Record ρ} {members : List (JsonEntry Json × (ρ → ρ))} {v : ρ}
    (hmembers : List.Forall₂ (Member k) k.fields members) (hkeys : (k.fields.map (·.key)).Nodup)
    (hcomm : members.Pairwise fun s t => ∀ r, s.2 (t.2 r) = t.2 (s.2 r))
    (hall : members.foldl (fun r s => s.2 r) k.blank = v) :
    Writes k.read v (.object (members.map (·.1))) := by
  rintro j hj rest -
  obtain ⟨out, kept, entries, rfl, hperm, hout, hnames, hvalues⟩ := exists_kept hj
  have hfield : ∀ s ∈ out ++ kept, ∃ f ∈ k.fields, Member k f s := fun s hs =>
    exists_mem_of_forall₂ hmembers s (hperm.mem_iff.2 hs)
  have hfits : List.Forall₂ (Fits k) entries (kept.map (·.2)) :=
    forall₂_fits hkeys (fun s hs => hfield s (List.mem_append_right _ hs)) hnames hvalues
  have hnodup : (entries.map (·.key)).Nodup := by
    have hboth := (hperm.map (·.1.key)).nodup_iff.1 (map_key_members hmembers ▸ hkeys)
    rw [List.map_append] at hboth
    rw [← hnames]
    exact hboth.of_append_right
  have hrequired : ∀ f ∈ k.fields, f.required = true →
      f.key ∈ ([] : List String) ∨ f.key ∈ entries.map (·.key) := fun f hf hreq =>
    .inr (hnames ▸ mem_kept_of_required hmembers hperm hout hf hreq)
  have hfold : (kept.map (·.2)).foldl (fun r put => put r) k.blank = v := by
    rw [List.foldl_map, foldl_kept hperm hcomm, hall]
    intro s hs
    obtain ⟨f, -, hmember⟩ := hfield s (List.mem_append_left _ hs)
    exact hmember.default (hout s hs)
  have htext : (Json.object entries).text ++ rest =
      '\x7b' :: (Json.separated true (entries.map Json.entryText) ++ '\x7d' :: rest) := by
    simp [Json.text, Json.entryTexts_eq_map]
  rw [htext, ← hfold]
  refine readFields_separated hfits [] hnodup (fun _ _ => List.not_mem_nil) hrequired ?_ k.blank
    rest
  have hlength := Json.length_le_separated Json.entryText_ne_nil true entries
  rw [List.length_append]
  omega

end KernelGen.Manifest
