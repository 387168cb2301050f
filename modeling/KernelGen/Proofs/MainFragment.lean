import KernelGen.Proofs.OutputFiles
import KernelGen.Proofs.PathComponents

/-!
# Includes of the main file

The main file includes the fragments by their names alone, and an include with a quoted name is
looked up in the directory of the file that has it. The fragments are written to the output
directory. So the includes lead to the fragments exactly if the main file stands there too, and an
output name with a slash in it can put the main file somewhere else.

* `includedFiles`: the files that a text includes, read off its lines.
* `Options.mainFile`: what names the main file, as seen from the output directory.
* `Options.StandsInDir`: the main file stands in the output directory.
* `Generation.mainFragment_finds_fragments_iff`: the includes of the main file, and when they lead
  to the fragments.
-/

namespace KernelGen

/-! ## Reading includes -/

/-- What begins a line that includes a file by a quoted name. -/
def includeOpening : List Char :=
  "#include \"".toList

/-- The file that a line includes by a quoted name. -/
def includedFile? (line : List Char) : Option String :=
  match includeOpening.isPrefixOf? line with
  | none => none
  | some rest =>
    if '"' ∈ rest then some (String.ofList (rest.takeWhile (· != '"'))) else none

/-- The files that a text includes by quoted names, line by line. -/
def includedFiles (text : String) : List String :=
  (Text.split '\n' text.toList).filterMap includedFile?

/-- A line that includes a file in quotes names it. -/
theorem includedFile?_quoted {file : String} (h : '"' ∉ file.toList) :
    includedFile? ("#include \"" ++ file ++ "\"").toList = some file := by
  have hrest : includeOpening.isPrefixOf? ("#include \"" ++ file ++ "\"").toList =
      some (file.toList ++ ['"']) := by
    rw [List.isPrefixOf?_eq_some_iff_append_eq, String.toList_append, String.toList_append,
      List.append_assoc]
    rfl
  have hfile : ∀ c ∈ file.toList, (c != '"') = true := fun c hc =>
    bne_iff_ne.2 fun heq => h (heq ▸ hc)
  unfold includedFile?
  rw [hrest]
  dsimp only
  rw [if_pos (by simp), List.takeWhile_append_of_pos hfile]
  simp

/-- A line that defines a name includes nothing. -/
theorem includedFile?_define (name : String) :
    includedFile? ("#define " ++ name).toList = none := by
  rw [String.toList_append]
  rfl

/-- A line is read before the ones behind it. -/
theorem includedFiles_line_append {line : String} (h : '\n' ∉ line.toList) (text : String) :
    includedFiles (line ++ "\n" ++ text) =
      (includedFile? line.toList).toList ++ includedFiles text := by
  have hlist : (line ++ "\n" ++ text).toList = line.toList ++ '\n' :: text.toList := by simp
  rw [includedFiles, hlist, Text.split_append_cons, Text.split_of_notMem h, List.filterMap_append,
    includedFiles]
  rw [List.filterMap_cons]
  cases includedFile? line.toList with
  | none => rfl
  | some file => rfl

/-- Every text of a list is one line that includes a file. -/
theorem includedFiles_join {files : List String} (hquote : ∀ f ∈ files, '"' ∉ f.toList)
    (hline : ∀ f ∈ files, '\n' ∉ f.toList) :
    includedFiles (String.join (files.map fun f => "#include \"" ++ f ++ "\"\n")) = files := by
  induction files with
  | nil => rfl
  | cons file files ih =>
    have hclean : '\n' ∉ ("#include \"" ++ file ++ "\"").toList := by
      simp [hline file List.mem_cons_self]
    have htext : "#include \"" ++ file ++ "\"\n" = "#include \"" ++ file ++ "\"" ++ "\n" :=
      String.toList_inj.1 (by simp)
    rw [List.map_cons, String.join_cons, htext, includedFiles_line_append hclean,
      includedFile?_quoted (hquote file List.mem_cons_self),
      ih (fun f hf => hquote f (List.mem_cons_of_mem _ hf))
        fun f hf => hline f (List.mem_cons_of_mem _ hf)]
    rfl

/-- The macros of the backends include nothing. -/
theorem includedFiles_defines (backends : List Backend) (text : String) :
    includedFiles (String.join (backends.map fun b => "#define " ++ b.define ++ " 1\n") ++ text) =
      includedFiles text := by
  induction backends with
  | nil => simp
  | cons b backends ih =>
    have hclean : '\n' ∉ ("#define " ++ (b.define ++ " 1")).toList := by
      cases b <;> decide
    have htext : "#define " ++ b.define ++ " 1\n" = "#define " ++ (b.define ++ " 1") ++ "\n" := by
      cases b <;> decide
    rw [List.map_cons, String.join_cons, String.append_assoc, htext,
      includedFiles_line_append hclean, includedFile?_define, ih]
    rfl

/-! ## The main file and its directory -/

/-- A file is called by its name wherever it stands. -/
theorem Path.fileName?_join {name : String} (h : IsPlain name) (hup : name ≠ "..") (dir : String) :
    fileName? (join dir name) = some name := by
  have hlast : ((components (join dir name)).getLast?).map (·.1) = some name.toList := by
    rw [← List.getLast?_map]
    exact (congrArg List.getLast? (h.names_join dir)).trans List.getLast?_concat
  obtain ⟨⟨piece, k⟩, hpiece, rfl⟩ := Option.map_eq_some_iff.1 hlast
  have hdots : (name.toList == ['.'] || name.toList == ['.', '.']) = false := by
    rw [Bool.or_eq_false_iff, beq_eq_false_iff_ne, beq_eq_false_iff_ne]
    exact ⟨fun heq => h.2.2 (String.toList_inj.1 heq), fun heq => hup (String.toList_inj.1 heq)⟩
  unfold fileName?
  rw [hpiece]
  dsimp only
  rw [hdots, if_neg Bool.false_ne_true, String.ofList_toList]

namespace Options

/-- What names the main file, as seen from the output directory. -/
def mainFile (o : Options) : String :=
  if o.overrideExtension then o.name
  else if o.isEnabled .cuda then o.name ++ ".cu"
  else o.name ++ ".cpp"

theorem mainOutput_eq (o : Options) : o.mainOutput = Path.join o.dir o.mainFile :=
  rfl

/-- The main file stands in the output directory. -/
def StandsInDir (o : Options) : Prop :=
  ∃ above, Path.parent? o.mainOutput = some above ∧ Path.Same above o.dir

/-- An include of the main file leads to a path. -/
def Includes (o : Options) (file path : String) : Prop :=
  ∃ above, Path.parent? o.mainOutput = some above ∧ Path.Same (Path.join above file) path

/-- A name with an extension, or a name that is kept and is one, is the name of a file. -/
theorem isPlain_mainFile {o : Options} (hslash : '/' ∉ o.name.toList)
    (hkept : o.overrideExtension = true → o.name ≠ "" ∧ o.name ≠ ".") :
    Path.IsPlain o.mainFile := by
  have hlength {ext : String} (hext : '/' ∉ ext.toList) (hlong : 1 < ext.length) :
      Path.IsPlain (o.name ++ ext) := by
    refine ⟨by simp [hslash, hext], fun heq => ?_, fun heq => ?_⟩
    · have hzero := congrArg String.length heq
      rw [String.length_append, String.length_empty] at hzero
      omega
    · have hone := congrArg String.length heq
      rw [String.length_append, show ".".length = 1 by decide] at hone
      omega
  unfold mainFile
  split_ifs with hoverride
  · exact ⟨hslash, hkept hoverride⟩
  · exact hlength (by decide) (by decide)
  · exact hlength (by decide) (by decide)

/-- The main file stands in the directory if its path has one name more. -/
theorem standsInDir_of_names {o : Options} {last : List Char}
    (hnames : Path.names o.mainOutput = Path.names o.dir ++ [last])
    (habsolute : Path.isAbsolute o.mainOutput = Path.isAbsolute o.dir) : o.StandsInDir := by
  obtain ⟨above, hparent⟩ := Path.exists_parent? (p := o.mainOutput) (by simp [hnames])
  obtain ⟨-, hdrop, hroot⟩ := Path.of_parent? hparent
  refine ⟨above, hparent, hroot.trans habsolute, ?_⟩
  rw [hdrop, hnames, List.dropLast_concat]

/-- A plain name stands in the directory. -/
theorem standsInDir_of_isPlain {o : Options} (h : Path.IsPlain o.mainFile) : o.StandsInDir :=
  standsInDir_of_names (h.names_join o.dir) (h.isAbsolute_join o.dir)

/-- A relative path leads to a file in the directory itself exactly if it has one component. -/
theorem standsInDir_iff {o : Options} (hdir : o.dir ≠ "")
    (hfile : Path.isAbsolute o.mainFile = false) :
    o.StandsInDir ↔ ((Path.pieces o.mainFile).filter Path.isStep).length = 1 := by
  have hnames := Path.names_join hdir hfile
  have habsolute := Path.isAbsolute_join hdir hfile
  rw [← mainOutput_eq] at hnames habsolute
  generalize (Path.pieces o.mainFile).filter Path.isStep = steps at hnames ⊢
  constructor
  · rintro ⟨above, hparent, -, hsame⟩
    obtain ⟨hne, hdrop, -⟩ := Path.of_parent? hparent
    -- One component is lost on the way up, so the file had one more than the directory.
    have hlength : (Path.names o.mainOutput).length = (Path.names o.dir).length + 1 := by
      have hpos := List.length_pos_iff.2 hne
      have hless := congrArg List.length (hdrop.symm.trans hsame)
      rw [List.length_dropLast] at hless
      omega
    rw [hnames, List.length_append] at hlength
    omega
  · intro hone
    obtain ⟨step, rfl⟩ := List.length_eq_one_iff.1 hone
    exact standsInDir_of_names hnames habsolute

/-- A file of the output directory is found under its name exactly if the main file stands there. -/
theorem includes_join_iff {o : Options} {file : String} (h : Path.IsPlain file) :
    o.Includes file (Path.join o.dir file) ↔ o.StandsInDir :=
  exists_congr fun _ => and_congr_right fun _ => Path.same_join_iff h

end Options

namespace Generation

variable {g : MetadataGraph} {o : Options} {artifacts : List Artifact}

/-! ## The includes of a run -/

/-- The name of a fragment is one that can be quoted, is the name of a file, and is where the
fragment is written. -/
theorem fileName_of_generateAll (h : generateAll g o = .ok artifacts) {a : Artifact}
    (ha : a ∈ artifacts) :
    a.fileName = a.names.kernel ++ Artifact.fragmentSuffix ∧ Path.IsPlain a.fileName ∧
      '"' ∉ a.fileName.toList ∧ '\n' ∉ a.fileName.toList ∧
      a.outputPath = Path.join o.dir a.fileName := by
  have hkernel := Identifier.all_isTail_of_isValid (isValid_names_of_generateAll h ha).1
  have hclean {c : Char} (hc : Identifier.isTail c = false)
      (hsuffix : c ∉ Artifact.fragmentSuffix.toList) :
      c ∉ (a.names.kernel ++ Artifact.fragmentSuffix).toList := by
    rw [String.toList_append, List.mem_append, not_or]
    refine ⟨fun hmem => ?_, hsuffix⟩
    rw [List.all_eq_true.1 hkernel c hmem] at hc
    cases hc
  have hlong : 14 ≤ (a.names.kernel ++ Artifact.fragmentSuffix).length := by
    rw [String.length_append, show Artifact.fragmentSuffix.length = 14 by decide]
    exact Nat.le_add_left _ _
  have hne {short : String} (hshort : short.length < 14) :
      a.names.kernel ++ Artifact.fragmentSuffix ≠ short := by
    rintro rfl
    omega
  have hplain : Path.IsPlain (a.names.kernel ++ Artifact.fragmentSuffix) :=
    ⟨hclean (by decide) (by decide), hne (by decide), hne (by decide)⟩
  have hpath : a.outputPath = Path.join o.dir (a.names.kernel ++ Artifact.fragmentSuffix) :=
    outputPath_of_generateAll h ha
  have hname : a.fileName = a.names.kernel ++ Artifact.fragmentSuffix := by
    rw [Artifact.fileName, hpath, Path.fileName?_join hplain (hne (by decide)), Option.getD_some]
  rw [hname]
  exact ⟨rfl, hplain, hclean (by decide) (by decide), hclean (by decide) (by decide), hpath⟩

/-- The main file includes the fragments in their order and nothing else. -/
theorem includedFiles_mainFragment (h : generateAll g o = .ok artifacts) :
    includedFiles (mainFragment o artifacts) = artifacts.map (·.fileName) := by
  have hfiles : includedFiles (String.join ((artifacts.map (·.fileName)).map fun f =>
      "#include \"" ++ f ++ "\"\n")) = artifacts.map (·.fileName) := by
    apply includedFiles_join
    · intro f hf
      obtain ⟨a, ha, rfl⟩ := List.mem_map.1 hf
      exact (fileName_of_generateAll h ha).2.2.1
    · intro f hf
      obtain ⟨a, ha, rfl⟩ := List.mem_map.1 hf
      exact (fileName_of_generateAll h ha).2.2.2.1
  rw [List.map_map] at hfiles
  have hhead : "// Generated by skelc. Do not edit.\n#define SKEL_PRECOMPILED 1\n" =
      "// Generated by skelc. Do not edit." ++ "\n" ++
        ("#define " ++ "SKEL_PRECOMPILED 1" ++ "\n") := by
    decide
  have hgap (text : String) :
      includedFiles ((if artifacts.isEmpty then "" else "\n") ++ text) = includedFiles text := by
    split
    · rw [String.empty_append]
    · have hblank : '\n' ∉ "".toList := by decide
      exact includedFiles_line_append hblank text
  calc includedFiles (mainFragment o artifacts)
      = includedFiles ("// Generated by skelc. Do not edit." ++ "\n" ++
          ("#define " ++ "SKEL_PRECOMPILED 1" ++ "\n" ++
            (String.join (o.backends.map fun b => "#define " ++ b.define ++ " 1\n") ++
              ((if artifacts.isEmpty then "" else "\n") ++
                String.join (artifacts.map fun a => "#include \"" ++ a.fileName ++ "\"\n"))))) := by
        unfold mainFragment
        rewrite [hhead]
        simp only [String.append_assoc, -String.reduceAppend]
    _ = includedFiles
          (String.join (artifacts.map fun a => "#include \"" ++ a.fileName ++ "\"\n")) := by
        rw [includedFiles_line_append (by decide), includedFiles_line_append (by decide),
          includedFile?_define, includedFiles_defines, hgap]
        rfl
    _ = artifacts.map (·.fileName) := hfiles

/-- The main file has one include for each fragment, in their order, and includes nothing else. What
it includes is the name of the file that is written to the output directory. It is looked up beside
the main file, so it leads to the fragment exactly if the main file stands in the output directory.
For a relative name in a directory that is so exactly if the name has one component, and it is
always so for a name without a slash that is the name of a file. -/
theorem mainFragment_finds_fragments_iff (h : generateAll g o = .ok artifacts) :
    includedFiles (mainFragment o artifacts) = artifacts.map (·.fileName) ∧
    (∀ a ∈ artifacts, a.fileName = a.names.kernel ++ Artifact.fragmentSuffix ∧
      a.outputPath = Path.join o.dir a.fileName ∧
      (o.Includes a.fileName a.outputPath ↔ o.StandsInDir)) ∧
    (o.dir ≠ "" → Path.isAbsolute o.mainFile = false →
      (o.StandsInDir ↔ ((Path.pieces o.mainFile).filter Path.isStep).length = 1)) ∧
    ('/' ∉ o.name.toList → (o.overrideExtension = true → o.name ≠ "" ∧ o.name ≠ ".") →
      o.StandsInDir) := by
  refine ⟨includedFiles_mainFragment h, fun a ha => ?_, Options.standsInDir_iff,
    fun hslash hkept => Options.standsInDir_of_isPlain (Options.isPlain_mainFile hslash hkept)⟩
  obtain ⟨hname, hplain, -, -, hpath⟩ := fileName_of_generateAll h ha
  refine ⟨hname, hpath, ?_⟩
  rw [hpath]
  exact Options.includes_join_iff hplain

/-- The fragment of the cross product is found beside the main file. -/
theorem mainFragment_finds_fragments_iff_sample :
    generateAll (sampleMetadata [samplePairs]) sampleOptions = .ok [sampleArtifact] ∧
    includedFiles (mainFragment sampleOptions [sampleArtifact]) =
      ["prog_MapPairsKernel_scale_1_Varity_1_Harity_1_cl_source.inl"] ∧
    sampleOptions.Includes sampleArtifact.fileName sampleArtifact.outputPath := by
  have hname : sampleArtifact.fileName =
      "prog_MapPairsKernel_scale_1_Varity_1_Harity_1_cl_source.inl" := by decide +kernel
  obtain ⟨hfiles, hfound, -, hplain⟩ := mainFragment_finds_fragments_iff generateAll_samplePairs
  refine ⟨generateAll_samplePairs, ?_, ?_⟩
  · rw [hfiles, List.map_singleton, hname]
  · exact (hfound sampleArtifact List.mem_cons_self).2.2.2
      (hplain (by decide) fun hoverride => absurd hoverride (by decide))

/-- Options whose output name has a directory in it. -/
def nestedOptions : Options :=
  { sampleOptions with name := "sub/prog" }

/-- The artifact of the cross product under such a name. -/
def nestedArtifact : Artifact :=
  let job := Job.of "sub/prog" samplePairs
  .ofSource (job.request nestedOptions sampleBound)
    (KernelSource.definitionsText (sampleMetadata [samplePairs]) sampleBound [] [] true ++
      KernelSource.kernelText sampleBound job.names.kernel) "###"

/-- An output name with a directory in it puts the main file into that directory, and the fragment
beside the directory. The main file includes the fragment as if it were in the directory too. -/
theorem nested_mainFragment_misses_fragment :
    generateAll (sampleMetadata [samplePairs]) nestedOptions = .ok [nestedArtifact] ∧
    nestedOptions.mainOutput = "./sub/prog.cpp" ∧
    nestedArtifact.outputPath =
      "./sub_prog_MapPairsKernel_scale_1_Varity_1_Harity_1_cl_source.inl" ∧
    includedFiles (mainFragment nestedOptions [nestedArtifact]) =
      ["sub_prog_MapPairsKernel_scale_1_Varity_1_Harity_1_cl_source.inl"] ∧
    ¬ nestedOptions.Includes nestedArtifact.fileName nestedArtifact.outputPath := by
  have hbind : (sampleMetadata [samplePairs]).bind samplePairs = .ok sampleBound := by cbv
  have hcallees : (sampleMetadata [samplePairs]).callees sampleBound = .ok [] := by cbv
  have htypes : (sampleMetadata [samplePairs]).typesFor sampleBound = .ok [] := by cbv
  have hlower : Artifact.lower (sampleMetadata [samplePairs])
      ((Job.of "sub/prog" samplePairs).request nestedOptions sampleBound) = .ok nestedArtifact :=
    Artifact.lower_of_no_quote rfl hcallees htypes (by decide +kernel)
  have hall : generateAll (sampleMetadata [samplePairs]) nestedOptions = .ok [nestedArtifact] :=
    generateAll_of_single (valid_sampleMetadata (by decide)) rfl rfl
      (lowerJob_of_lower hbind hlower .openCL)
  have hname : nestedArtifact.fileName =
      "sub_prog_MapPairsKernel_scale_1_Varity_1_Harity_1_cl_source.inl" := by decide +kernel
  refine ⟨hall, by decide +kernel, by decide +kernel, ?_, ?_⟩
  · rw [includedFiles_mainFragment hall, List.map_singleton, hname]
  rintro ⟨above, hparent, hsame⟩
  have hsub : Path.parent? nestedOptions.mainOutput = some "./sub" := by decide
  obtain rfl : "./sub" = above := Option.some.inj (hsub.symm.trans hparent)
  exact absurd hsame (by decide +kernel)

end Generation

end KernelGen
