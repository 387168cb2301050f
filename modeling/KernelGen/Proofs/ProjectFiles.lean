import KernelGen.Proofs.SettingLines

/-!
# Reading settings back from a project file

The lines of some settings stand in sections of the generator. Around them a project file may hold
lines that say nothing and whole sections of others, after which the generator's section is opened
again. Reading such a file gives exactly the settings that were written.

* `Project.Layout`: the lines of some settings with other lines and sections around them.
* `Project.readLines_layout`: reading such lines adds the settings one after the other;
  `Project.foldl_into_settings`: their order does not matter.
* `Project.settings_readLines_section`: a section of others can be left out.
-/

namespace KernelGen

namespace Project

open Text (Padded Tight isBlank)

/-! ## All lines -/

/-- The lines of some settings in their order, in sections of the generator, with other lines around
them. The flag tells whether the first line is inside a section of the generator. -/
inductive Layout : Bool → List Setting → List (List Char) → Prop where
  /-- The end of the file. -/
  | done (inside : Bool) : Layout inside [] []
  /-- The line of a setting. -/
  | setting {s : Setting} {ss : List Setting} {line : List Char} {lines : List (List Char)}
      (hline : Padded isBlank s.line.toList line) (rest : Layout true ss lines) :
      Layout true (s :: ss) (line :: lines)
  /-- A line that says nothing. -/
  | idle {inside : Bool} {ss : List Setting} {line : List Char} {lines : List (List Char)}
      (hline : Idle line) (rest : Layout inside ss lines) : Layout inside ss (line :: lines)
  /-- Any line of a section of others, or before the first section. -/
  | foreign {ss : List Setting} {line : List Char} {lines : List (List Char)}
      (hline : ¬ IsHeader line) (rest : Layout false ss lines) : Layout false ss (line :: lines)
  /-- The header of a section of the generator. -/
  | enter {inside : Bool} {ss : List Setting} {line : List Char} {lines : List (List Char)}
      (hline : Opens "generator".toList line) (rest : Layout true ss lines) :
      Layout inside ss (line :: lines)
  /-- The header of a section of others. -/
  | leave {inside : Bool} {ss : List Setting} {line : List Char} {lines : List (List Char)}
      (hline : IsHeader line) (hother : ¬ Opens "generator".toList line)
      (rest : Layout false ss lines) : Layout inside ss (line :: lines)

variable {p : Project} {s : Setting} {ss : List Setting} {line : List Char}
  {lines : List (List Char)} {state : Progress} {inside : Bool}

/-- A line that is accepted leads on to the rest. -/
theorem readLines_cons {next : Progress} (h : readLine state line = .ok next)
    (lines : List (List Char)) : readLines state (line :: lines) = readLines next lines := by
  rw [readLines, h]

/-- Reading a file adds its settings one after the other. -/
theorem readLines_layout (h : Layout inside ss lines) (hss : ∀ s ∈ ss, s.Writable)
    (state : Progress) (harea : inside = true ↔ state.area = "generator".toList) :
    ∃ area, readLines state lines = .ok ⟨area, ss.foldl Setting.into state.settings⟩ := by
  -- Along the layout, the flag tells whether the reader is in the generator's section.
  induction h generalizing state with
  | done inside => exact ⟨state.area, rfl⟩
  | @setting s ss line lines hline rest ih =>
    rw [List.forall_mem_cons] at hss
    rw [readLines_cons (readLine_setting hss.1 hline (harea.1 rfl))]
    exact ih hss.2 _ harea
  | idle hline rest ih =>
    rw [readLines_cons (readLine_idle hline)]
    exact ih hss state harea
  | foreign hline rest ih =>
    rw [readLines_cons (readLine_outside hline fun hgenerator =>
      Bool.false_ne_true (harea.2 hgenerator))]
    exact ih hss state harea
  | enter hline rest ih =>
    rw [readLines_cons (readLine_opens tight_generator hline)]
    exact ih hss _ (iff_of_true rfl rfl)
  | leave hline hother rest ih =>
    obtain ⟨area, hne, hread⟩ := readLine_other hline hother
    rw [readLines_cons hread]
    exact ih hss _ (iff_of_false Bool.false_ne_true hne)

/-! ### The order of the settings -/

/-- Settings with different keys can be taken over in any order. -/
theorem Setting.into_comm {s t : Setting} (h : s.key ≠ t.key) (p : Project) :
    Setting.into (Setting.into p s) t = Setting.into (Setting.into p t) s := by
  -- Settings of two kinds change two fields, and those of one kind have one key.
  cases s <;> cases t <;> try rfl
  all_goals exact absurd rfl h

/-- A project has at most one setting for each key. -/
theorem nodup_keys_settings (p : Project) : (p.settings.map Setting.key).Nodup := by
  cases hdir : p.dir <;> cases hname : p.name <;> cases hpreserve : p.preserveLines <;>
    simp [settings, hdir, hname, hpreserve, Setting.key]

/-- A project is what its settings make of the project without settings, in whichever order they
come. -/
theorem foldl_into_settings (h : ss.Perm p.settings) :
    ss.foldl Setting.into { rootDir := p.rootDir } = p := by
  have hcomm : ∀ s ∈ ss, ∀ t ∈ ss, ∀ q : Project,
      Setting.into (Setting.into q s) t = Setting.into (Setting.into q t) s := by
    intro s hs t ht q
    by_cases hkey : s.key = t.key
    · rw [List.inj_on_of_nodup_map p.nodup_keys_settings (h.mem_iff.1 hs) (h.mem_iff.1 ht) hkey]
    · exact Setting.into_comm hkey q
  -- In the order of `settings` each field is set at most once, and by its own value.
  rw [h.foldl_eq' hcomm]
  obtain ⟨rootDir, dir, name, backends, fnames, preserveLines⟩ := p
  cases dir <;> cases name <;> cases preserveLines <;> rfl

/-! ### Sections of others -/

/-- Lines are read one part after the other. -/
theorem readLines_append (state : Progress) (xs ys : List (List Char)) :
    readLines state (xs ++ ys) = (readLines state xs).bind fun next => readLines next ys := by
  induction xs generalizing state with
  | nil => rfl
  | cons line xs ih =>
    rw [List.cons_append, readLines, readLines]
    cases readLine state line with
    | error e => rfl
    | ok next => exact ih next

/-- Lines in another section change nothing. -/
theorem readLines_outside (h : ∀ line ∈ lines, ¬ IsHeader line)
    (harea : state.area ≠ "generator".toList) : readLines state lines = .ok state := by
  induction lines with
  | nil => rfl
  | cons line lines ih =>
    rw [List.forall_mem_cons] at h
    rw [readLines_cons (readLine_outside h.1 harea)]
    exact ih h.2

/-- The section before a header does not matter. -/
theorem settings_readLines_of_header (h : ∀ line ∈ lines.head?, IsHeader line) (area : List Char) :
    (readLines { state with area := area } lines).map (·.settings) =
      (readLines state lines).map (·.settings) := by
  cases lines with
  | nil => rfl
  | cons line lines =>
    obtain ⟨inner, hinner⟩ := Option.isSome_iff_exists.1 (isHeader_iff.1 (h line rfl))
    rw [readLines_cons (readLine_bracketed hinner), readLines_cons (readLine_bracketed hinner)]

/-- A whole section of others can be left out. -/
theorem settings_readLines_section {before body after : List (List Char)} {header : List Char}
    (hheader : IsHeader header) (hother : ¬ Opens "generator".toList header)
    (hbody : ∀ line ∈ body, ¬ IsHeader line) (hafter : ∀ line ∈ after.head?, IsHeader line) :
    (readLines state (before ++ (header :: body ++ after))).map (·.settings) =
      (readLines state (before ++ after)).map (·.settings) := by
  rw [readLines_append, readLines_append state before after]
  cases readLines state before with
  | error e => rfl
  | ok next =>
    -- The header leads into another section, its lines leave the state there, and the section that
    -- follows does not ask where it was.
    have hleave : ∃ area, area ≠ "generator".toList ∧
        readLine next header = .ok { next with area := area } := readLine_other hheader hother
    obtain ⟨area, hne, hread⟩ := hleave
    change (readLines next (header :: (body ++ after))).map _ = (readLines next after).map _
    rw [readLines_cons hread, readLines_append, readLines_outside hbody hne]
    exact settings_readLines_of_header hafter area

/-! ## Files -/

/-- The text of a file with some lines. If it ends with a line feed, the last line is empty. -/
def fileText (lines : List (List Char)) : String :=
  String.ofList (['\n'].intercalate lines)

/-- The lines of a file with the settings of a project and nothing else. -/
def plainLines (p : Project) : List (List Char) :=
  "[generator]".toList :: p.settings.map fun s => s.line.toList

/-- A file is read line by line. -/
theorem parse_fileText (h : ∀ line ∈ lines, '\n' ∉ line) (rootDir : String) :
    parse (fileText lines) rootDir =
      (readLines ⟨[], { rootDir := rootDir }⟩ lines).map (·.settings) := by
  unfold parse fileText
  rw [String.toList_ofList]
  cases lines with
  -- The empty text has one line, which is blank.
  | nil => rfl
  | cons line lines => rw [Text.split_intercalate (List.cons_ne_nil _ _) h]

/-- A character that is in no piece and not in the separator is not in the joined text. -/
theorem notMem_intercalate {sep : List Char} {pieces : List (List Char)} {c : Char} (hsep : c ∉ sep)
    (h : ∀ piece ∈ pieces, c ∉ piece) : c ∉ sep.intercalate pieces := by
  induction pieces with
  | nil => exact List.not_mem_nil
  | cons first rest ih =>
    rw [List.forall_mem_cons] at h
    cases rest with
    | nil => rw [List.intercalate_singleton]; exact h.1
    | cons second rest =>
      rw [List.intercalate_cons_cons, List.mem_append, List.mem_append, not_or, not_or]
      exact ⟨⟨h.1, hsep⟩, ih h.2⟩

/-- A quoted text stays on its line. -/
theorem newline_notMem_quote {text : String} (h : Quotable text) : '\n' ∉ (quote text).toList := by
  rw [toList_quote]
  simp [h.2]

/-- A list stays on its line. -/
theorem newline_notMem_listText {items : List String} (h : ∀ item ∈ items, Listable item) :
    '\n' ∉ (listText items).toList := by
  have hpieces : '\n' ∉ [',', ' '].intercalate (items.map fun item => (quote item).toList) := by
    refine notMem_intercalate (by decide) fun piece hpiece => ?_
    obtain ⟨text, htext, rfl⟩ := List.mem_map.1 hpiece
    exact newline_notMem_quote (h text htext).1
  rw [toList_listText]
  simp [hpieces]

/-- A setting stays on its line. -/
theorem newline_notMem_line (hs : s.Writable) : '\n' ∉ s.line.toList := by
  have hkey : '\n' ∉ s.key.toList := by
    have hkeys : ∀ name ∈ keys, '\n' ∉ name.toList := by decide
    exact hkeys s.key s.key_mem
  have hvalue : '\n' ∉ s.value.toList := by
    cases s with
    | dir text => exact newline_notMem_quote hs
    | name text => exact newline_notMem_quote hs
    | backends bs => exact newline_notMem_listText (listable_flags bs)
    | fnames names => exact newline_notMem_listText hs
    | preserveLines value => cases value <;> decide
  rw [s.toList_line]
  simp [hkey, hvalue]

/-- The plain lines of a project have its settings in order, without other lines between them. -/
theorem layout_plainLines (p : Project) : Layout false p.settings p.plainLines := by
  have hlines (ss : List Setting) : Layout true ss (ss.map fun s => s.line.toList) := by
    induction ss with
    | nil => exact .done true
    | cons s ss ih => exact .setting (.refl _ _) ih
  refine .enter ⟨"generator".toList, .refl _ _, ?_⟩ (hlines p.settings)
  rw [show "[generator]".toList = '[' :: "generator".toList ++ [']'] by decide]
  exact .refl _ _

/-- The plain lines of a project have no line feeds in them. -/
theorem newline_notMem_plainLines (h : p.Writable) : ∀ line ∈ p.plainLines, '\n' ∉ line := by
  rw [plainLines, List.forall_mem_cons]
  refine ⟨by decide, fun line hline => ?_⟩
  obtain ⟨s, hs, rfl⟩ := List.mem_map.1 hline
  exact newline_notMem_line (h.setting s hs)

/-- However the settings of a project are laid out in a file, they are read back. -/
theorem parse_layout (h : p.Writable) (hss : ss.Perm p.settings) (hlayout : Layout false ss lines)
    (hlines : ∀ line ∈ lines, '\n' ∉ line) : parse (fileText lines) p.rootDir = .ok p := by
  have hwritable : ∀ s ∈ ss, s.Writable := fun s hs => h.setting s (hss.mem_iff.1 hs)
  have hstart : ([] : List Char) ≠ "generator".toList := by decide
  obtain ⟨area, hread⟩ := readLines_layout hlayout hwritable ⟨[], { rootDir := p.rootDir }⟩
    (iff_of_false Bool.false_ne_true hstart)
  rw [parse_fileText hlines, hread]
  exact congrArg Except.ok (foldl_into_settings hss)

/-- The settings of a project are read back from the file that holds nothing else, and from every
file with the lines of the settings, in any order, in sections of the generator, and around them
blank lines, comments, unknown keys, lines without an equals sign and sections of others. Sections
of others can be left out of any file, whatever stands in them and in the rest of the file. -/
theorem parse_recovers_settings :
    (∀ p : Project, p.Writable →
      parse (fileText p.plainLines) p.rootDir = .ok p ∧
      ∀ ss lines, ss.Perm p.settings → Layout false ss lines →
        (∀ line ∈ lines, '\n' ∉ line) → parse (fileText lines) p.rootDir = .ok p) ∧
    ∀ before header body after rootDir, IsHeader header → ¬ Opens "generator".toList header →
      (∀ line ∈ body, ¬ IsHeader line) → (∀ line ∈ after.head?, IsHeader line) →
      (∀ line ∈ before ++ (header :: body ++ after), '\n' ∉ line) →
      parse (fileText (before ++ (header :: body ++ after))) rootDir =
        parse (fileText (before ++ after)) rootDir := by
  refine ⟨fun p hp => ⟨?_, ?_⟩, ?_⟩
  · exact parse_layout hp (.refl _) p.layout_plainLines (newline_notMem_plainLines hp)
  · intro ss lines hss hlayout hlines
    exact parse_layout hp hss hlayout hlines
  · intro before header body after rootDir hheader hother hbody hafter hlines
    have hkept : ∀ line ∈ before ++ after, '\n' ∉ line := by
      intro line hline
      refine hlines line ?_
      rw [List.mem_append] at hline ⊢
      exact hline.imp_right (List.mem_append_right _)
    rw [parse_fileText hlines, parse_fileText hkept]
    exact settings_readLines_section hheader hother hbody hafter

/-- A project with equals signs, brackets, quotes and blanks in its texts. -/
def sampleProject : Project where
  rootDir := "."
  dir := some " a = [b] # "
  name := some "so \"called\" x"
  backends := [.openCL, .openMP, .openCL]
  fnames := ["x]", " [y"]
  preserveLines := some false

/-- Its settings in another order. -/
def sampleSettings : List Setting :=
  [.fnames ["x]", " [y"], .dir " a = [b] # ", .preserveLines false,
    .backends [.openCL, .openMP, .openCL], .name "so \"called\" x"]

/-- Its settings in two sections, among lines that say nothing and sections of others. -/
def sampleLines : List (List Char) :=
  ["name = \"nobody\"", "[ generator ]", "# dir = \"out\"", "fnames = [\"x]\", \" [y\"]",
    "color = \"red\"", "", "dir = \" a = [b] # \"", "[project]", "backends = [\"vulkan\"]",
    "preserve_lines = maybe", "[generator]", "preserve_lines = false\r", "nothing",
    "backends = [\"opencl\", \"openmp\", \"opencl\"]", "name = \"so \"called\" x\""].map
    String.toList

/-- The lines of the example have its settings in them. -/
theorem layout_sampleLines : Layout false sampleSettings sampleLines := by
  have hcomment : Idle "# dir = \"out\"".toList :=
    @Idle.comment _ " dir = \"out\"".toList ⟨[], [], by simp, by simp, by decide⟩
  have hunknown : Idle "color = \"red\"".toList := by
    rw [show "color = \"red\"".toList = "color ".toList ++ '=' :: " \"red\"".toList by
      decide]
    refine .unknownKey (by decide) (fun name hname => ?_) (by decide)
    rw [← ofList_unquote_trim_eq_iff hname]
    revert name
    decide
  have hsetting {s : Setting} {line : String} (h : Text.trim line.toList = s.line.toList) :
      Padded isBlank s.line.toList line.toList :=
    h ▸ Text.padded_trim line.toList
  refine .foreign (by decide) (.enter (by decide) (.idle hcomment ?_))
  refine .setting (hsetting (by decide)) (.idle hunknown (.idle (.blank (.refl _ _)) ?_))
  refine .setting (hsetting (by decide)) (.leave (by decide) (by decide) ?_)
  refine .foreign (by decide) (.foreign (by decide) (.enter (by decide) ?_))
  refine .setting (hsetting (by decide)) (.idle ?_ (.setting (hsetting (by decide))
    (.setting (hsetting (by decide)) (.done true))))
  exact .noEquals (by decide) (by decide)

/-- The section `[project]` has a backend that there is not and a value that is not valid. -/
theorem parse_recovers_settings_sample :
    sampleProject.Writable ∧ sampleSettings.Perm sampleProject.settings ∧
      Layout false sampleSettings sampleLines ∧
      parse (fileText sampleProject.plainLines) "." = .ok sampleProject ∧
      parse (fileText sampleLines) "." = .ok sampleProject ∧
      parse (fileText (sampleLines.take 7 ++ sampleLines.drop 10)) "." = .ok sampleProject := by
  have hwritable : sampleProject.Writable := by
    refine ⟨?_, ?_, by decide⟩
    · rintro text ⟨⟩
      decide
    · rintro text ⟨⟩
      decide
  have hperm : sampleSettings.Perm sampleProject.settings := by decide
  obtain ⟨hplain, hlayout⟩ := parse_recovers_settings.1 sampleProject hwritable
  have hread := hlayout sampleSettings sampleLines hperm layout_sampleLines (by decide)
  have hsection := parse_recovers_settings.2 (sampleLines.take 7) "[project]".toList
    ["backends = [\"vulkan\"]".toList, "preserve_lines = maybe".toList] (sampleLines.drop 10) "."
    (by decide) (by decide) (by decide)
    (by rintro line ⟨⟩; decide) (by decide)
  exact ⟨hwritable, hperm, layout_sampleLines, hplain, hread, hsection.symm.trans hread⟩

end Project

end KernelGen
