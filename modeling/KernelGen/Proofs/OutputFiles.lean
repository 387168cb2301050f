import KernelGen.Output
import KernelGen.Proofs.ArtifactNames
import KernelGen.Proofs.FileTrees

/-!
# The files of a run

A run writes its outputs one after the other, and a later one must not fall on an earlier one. Paths
are not compared as texts here, since different paths may lead to one location. What tells outputs
apart is the last piece of their paths, which is the name of the file wherever the rest of the path
leads.

* `FileTree.Stored`: a text was put at a location, or a file with its digest was left there.
* `FileTree.of_writeIfChanged`, `FileTree.of_writeAll`: what one write does, and what a whole run
  of writes does up to its end or its first failure.
* `FileTree.writeAll_of_read`: texts that are there are not written again.
* `Generation.pairwise_lastPiece_outputs`: the last pieces of the outputs are different.
-/

namespace KernelGen

namespace FileTree

variable {t t' t'' : FileTree} {l : Location} {path text : String}

/-! ## Writing one file after the other -/

/-- A path leads to a file with a text, or to a file that was there and has the digest of the
text. -/
structure Stored (t t' : FileTree) (path text : String) (l : Location) : Prop where
  /-- The name of the file is the last piece of the path. -/
  last : ∃ dir, l = dir ++ [String.ofList (Path.lastPiece path)]
  /-- The path leads to it. -/
  resolve : t'.resolve path = .ok l
  /-- Its content is the text, or was there. -/
  content : ∃ c, t'.entry? l = some (.file c) ∧ (c = textBytes text ∨
    t.entry? l = some (.file c) ∧ Blake3.hash c = Blake3.hash (textBytes text))

/-- A file counts as being there if what is read has the right digest. -/
theorem holds_iff {c : List UInt8} :
    t.holds path c = true ↔ ∃ old, t.read path = .ok old ∧ Blake3.hash old = Blake3.hash c := by
  unfold holds
  cases t.read path <;> simp

/-- A write finds its text, or makes some directories and then fails or writes the file. -/
theorem writeIfChanged_cases {result : Except GenError WriteOutcome}
    (h : t.writeIfChanged path text = (result, t')) :
    result = .ok .unchanged ∧ t' = t ∧ t.holds path (textBytes text) = true ∨
      (∃ file message, result = .error (.io file message)) ∧ Writes [] t t' ∨
      ∃ t₁, result = .ok .written ∧ Writes [] t t₁ ∧ t₁.write path (textBytes text) = .ok t' := by
  unfold writeIfChanged at h
  dsimp only at h
  split_ifs at h with hholds
  · obtain ⟨rfl, rfl⟩ := Prod.mk.inj h
    exact .inl ⟨rfl, rfl, hholds⟩
  · have hmade := writes_makeAllDirectories t ((Path.parent? path).getD "")
    split at h
    · next t₁ hfail =>
      obtain ⟨rfl, rfl⟩ := Prod.mk.inj h
      rw [hfail] at hmade
      exact .inr (.inl ⟨⟨_, _, rfl⟩, hmade⟩)
    · next t₁ hok =>
      rw [hok] at hmade
      split at h
      · obtain ⟨rfl, rfl⟩ := Prod.mk.inj h
        exact .inr (.inl ⟨⟨_, _, rfl⟩, hmade⟩)
      · next t₂ hwrite =>
        obtain ⟨rfl, rfl⟩ := Prod.mk.inj h
        exact .inr (.inr ⟨t₁, rfl, hmade, hwrite⟩)

/-- A write that succeeds stores its text, and no other file changes. -/
theorem of_writeIfChanged (hwf : t.WellFormed) {outcome : WriteOutcome}
    (h : t.writeIfChanged path text = (.ok outcome, t')) :
    ∃ l, Stored t t' path text l ∧ Writes [l] t t' := by
  obtain ⟨-, rfl, hholds⟩ | ⟨⟨_, _, herror⟩, -⟩ | ⟨t₁, -, hmade, hwrite⟩ := writeIfChanged_cases h
  · obtain ⟨old, hread, hhash⟩ := holds_iff.1 hholds
    obtain ⟨l, hresolve, hentry⟩ := read_eq_ok_iff.1 hread
    exact ⟨l, ⟨eq_append_lastPiece hwf hresolve hentry, hresolve, old, hentry,
      .inr ⟨hentry, hhash⟩⟩, .keep hentry⟩
  · cases herror
  · obtain ⟨dir, hwrites, hresolve, hentry⟩ := of_write hwrite
    exact ⟨_, ⟨⟨dir, rfl⟩, hresolve, _, hentry, .inl rfl⟩, hmade.trans hwrites⟩

/-- A write that fails changes no file. -/
theorem writes_of_writeIfChanged_error {e : GenError}
    (h : t.writeIfChanged path text = (.error e, t')) : Writes [] t t' := by
  obtain ⟨hok, -⟩ | ⟨-, hmade⟩ | ⟨_, hok, -⟩ := writeIfChanged_cases h
  · cases hok
  · exact hmade
  · cases hok

/-- Outputs whose paths have different last pieces do not fall on each other. -/
theorem Stored.ne {path' text' : String} {l' : Location} {u u' : FileTree}
    (h : Stored t t' path text l) (h' : Stored u u' path' text' l')
    (hlast : Path.lastPiece path ≠ Path.lastPiece path') : l ≠ l' := by
  obtain ⟨dir, rfl⟩ := h.last
  obtain ⟨dir', rfl⟩ := h'.last
  intro heq
  have hname := (List.cons.inj (List.append_inj' heq rfl).2).1
  exact hlast (String.ofList_inj.1 hname)

/-- What is stored stays so while files are written at other locations. -/
theorem Stored.trans_writes {ls : List Location} (h : Stored t t' path text l)
    (hlater : Writes ls t' t'') (hl : l ∉ ls) : Stored t t'' path text l where
  last := h.last
  resolve := hlater.resolve h.resolve
  content := by
    obtain ⟨c, hc, hcontent⟩ := h.content
    exact ⟨c, (hlater.file l hl c).2 hc, hcontent⟩

/-- What is stored is so as well when looked at from before files were written at other
locations. -/
theorem Stored.of_writes {ls : List Location} (h : Stored t' t'' path text l)
    (hearlier : Writes ls t t') (hl : l ∉ ls) : Stored t t'' path text l where
  last := h.last
  resolve := h.resolve
  content := by
    obtain ⟨c, hc, hcontent⟩ := h.content
    refine ⟨c, hc, hcontent.imp_right ?_⟩
    rintro ⟨hold, hhash⟩
    exact ⟨(hearlier.file l hl c).1 hold, hhash⟩

/-- A run of writes stores the first outputs, all of them if it does not fail, and no other file
changes. -/
theorem of_writeAll {outputs : List (String × String)} (hwf : t.WellFormed)
    (hlast : outputs.Pairwise fun a b => Path.lastPiece a.1 ≠ Path.lastPiece b.1)
    {outcomes : List (String × WriteOutcome)} {failure : Option GenError}
    (h : t.writeAll outputs = (outcomes, failure, t')) :
    ∃ (placed : List ((String × String) × Location)) (rest : List (String × String)),
      outputs = placed.map (·.1) ++ rest ∧ outcomes.length = placed.length ∧
        (failure = none ↔ rest = []) ∧ Writes (placed.map (·.2)) t t' ∧
        ∀ p ∈ placed, Stored t t' p.1.1 p.1.2 p.2 := by
  induction outputs generalizing t outcomes with
  | nil =>
    rw [writeAll] at h
    obtain ⟨rfl, rfl, rfl⟩ : [] = outcomes ∧ none = failure ∧ t = t' := by simpa using h
    exact ⟨[], [], rfl, rfl, by simp, .refl t, by simp⟩
  | cons out outputs ih =>
    obtain ⟨path, text⟩ := out
    obtain ⟨hfirst, hlast⟩ := List.pairwise_cons.1 hlast
    rw [writeAll] at h
    split at h
    · next e t₁ hwrite =>
      obtain ⟨rfl, rfl, rfl⟩ : [] = outcomes ∧ some e = failure ∧ t₁ = t' := by simpa using h
      exact ⟨[], (path, text) :: outputs, rfl, rfl, by simp,
        writes_of_writeIfChanged_error hwrite, by simp⟩
    · next outcome t₁ hwrite =>
      obtain ⟨l, hstored, hwrites⟩ := of_writeIfChanged hwf hwrite
      cases hrun : t₁.writeAll outputs with
      | mk outcomes' result =>
        obtain ⟨failure', t₂⟩ := result
        rw [hrun] at h
        obtain ⟨rfl, rfl, rfl⟩ :
            (path, outcome) :: outcomes' = outcomes ∧ failure' = failure ∧ t₂ = t' := by
          simpa using h
        obtain ⟨placed, rest, rfl, hlength, hnone, hlater, hall⟩ :=
          ih (hwrites.wellFormed hwf) hlast hrun
        -- Neither does a later write fall on this file, nor did this one fall on a later file.
        have hne : ∀ p ∈ placed, l ≠ p.2 := fun p hp =>
          hstored.ne (hall p hp)
            (hfirst p.1 (List.mem_append_left rest (List.mem_map_of_mem hp)))
        refine ⟨((path, text), l) :: placed, rest, rfl, by simp [hlength], hnone,
          hwrites.trans hlater, List.forall_mem_cons.2 ⟨?_, fun p hp => ?_⟩⟩
        · refine hstored.trans_writes hlater fun hmem => ?_
          obtain ⟨p, hp, heq⟩ := List.mem_map.1 hmem
          exact hne p hp heq.symm
        · exact (hall p hp).of_writes hwrites fun hmem =>
            hne p hp (List.mem_singleton.1 hmem).symm

namespace Stored

variable {placed : List ((String × String) × Location)}

/-- What is stored is found, if a file that was there with the digest of the text has its
content. -/
theorem read (h : Stored t t' path text l)
    (hdigest : ∀ old, t.entry? l = some (.file old) →
      Blake3.hash old = Blake3.hash (textBytes text) → old = textBytes text) :
    t'.read path = .ok (textBytes text) := by
  obtain ⟨c, hc, hcontent⟩ := h.content
  have heq : c = textBytes text := by
    rcases hcontent with hnew | ⟨hold, hhash⟩
    · exact hnew
    · exact hdigest c hold hhash
  exact read_eq_ok_iff.2 ⟨l, h.resolve, heq ▸ hc⟩

/-- Outputs whose paths have different last pieces are stored at different locations. -/
theorem nodup_locations (hstored : ∀ p ∈ placed, Stored t t' p.1.1 p.1.2 p.2)
    (hlast : (placed.map (·.1)).Pairwise fun a b => Path.lastPiece a.1 ≠ Path.lastPiece b.1) :
    (placed.map (·.2)).Nodup := by
  rw [List.pairwise_map] at hlast
  refine List.pairwise_map.2 (hlast.imp_of_mem ?_)
  intro p q hp hq hne
  exact (hstored p hp).ne (hstored q hq) hne

/-- The paths of outputs lead to the locations at which they are stored. -/
theorem forall₂_resolve (hstored : ∀ p ∈ placed, Stored t t' p.1.1 p.1.2 p.2) :
    List.Forall₂ (fun out l => t'.resolve out.1 = .ok l) (placed.map (·.1))
      (placed.map (·.2)) := by
  rw [List.forall₂_map_left_iff, List.forall₂_map_right_iff, List.forall₂_same]
  exact fun p hp => (hstored p hp).resolve

end Stored

/-- A write in front of others. -/
theorem writeAll_cons {outputs : List (String × String)} {outcome : WriteOutcome}
    {outcomes : List (String × WriteOutcome)} {failure : Option GenError}
    (h : t.writeIfChanged path text = (.ok outcome, t'))
    (hrest : t'.writeAll outputs = (outcomes, failure, t'')) :
    t.writeAll ((path, text) :: outputs) = ((path, outcome) :: outcomes, failure, t'') := by
  rw [writeAll, h]
  dsimp only
  rw [hrest]

end FileTree

/-! ## The names of the outputs -/

/-- Replacing characters and putting one in front does not make a text shorter. -/
theorem Identifier.length_le_sanitize (s : String) : s.length ≤ (sanitize s).length := by
  rw [← String.length_toList, ← String.length_toList]
  unfold sanitize
  cases hs : s.toList with
  | nil => simp
  | cons c cs =>
    simp only [List.map_cons, String.toList_ofList]
    split_ifs <;> simp

namespace Generation

variable {g : MetadataGraph} {o : Options} {artifacts : List Artifact}

/-- The path of an artifact is made from the name of its kernel. -/
theorem outputPath_of_generateAll (h : generateAll g o = .ok artifacts) {a : Artifact}
    (ha : a ∈ artifacts) : a.outputPath = Artifact.pathOf o.dir a.names.kernel := by
  obtain ⟨hg, hbackends⟩ := valid_of_generateAll h
  rw [generateAll_of_valid hg hbackends] at h
  obtain ⟨⟨b, j⟩, -, hjob⟩ := exists_of_mem_of_mapM_eq_ok h ha
  dsimp only at hjob
  unfold lowerJob at hjob
  split at hjob
  · cases hjob
  · cases hjob
  · split at hjob
    · cases hjob
    · next hlower =>
      obtain rfl := Except.ok.inj hjob
      obtain ⟨-, source, delim, -, -, rfl⟩ := Artifact.lower_eq_ok_iff.1 hlower
      rfl

/-- Every instantiation is left once. -/
theorem nodup_eraseDups (is : List Instantiation) : is.eraseDups.Nodup := by
  match is with
  | [] => exact List.nodup_nil
  | i :: is =>
    rw [List.eraseDups_cons, List.nodup_cons]
    exact ⟨by simp [List.mem_eraseDups], nodup_eraseDups _⟩
termination_by is.length
decreasing_by exact Nat.lt_succ_of_le (List.length_filter_le _ _)

/-- The names of the artifacts are those of different instantiations. -/
theorem exists_map_names (h : generateAll g o = .ok artifacts) :
    ∃ is : List Instantiation, is.Nodup ∧
      artifacts.map (·.names) = is.map (KernelNames.of o.name) := by
  have hnames := congrArg (List.map (·.2.2.2)) (map_generateAll h)
  rw [List.map_map] at hnames
  split at hnames
  · refine ⟨g.instantiations.eraseDups, nodup_eraseDups _, ?_⟩
    rw [List.map_map] at hnames
    exact hnames
  · exact ⟨[], List.nodup_nil, hnames⟩

/-- The kernels of a run have different names. -/
theorem pairwise_kernel (h : generateAll g o = .ok artifacts) :
    artifacts.Pairwise fun a b => a.names.kernel ≠ b.names.kernel := by
  obtain ⟨is, hnodup, hnames⟩ := exists_map_names h
  have hkernels : (artifacts.map (·.names)).Pairwise fun n n' => n.kernel ≠ n'.kernel := by
    rw [hnames]
    refine List.pairwise_map.2 (hnodup.imp fun hne heq => hne (KernelNames.of_injective heq))
  rwa [List.pairwise_map] at hkernels

/-- The name of a kernel is no shorter than that of the program. -/
theorem length_name_le_kernel (h : generateAll g o = .ok artifacts) {a : Artifact}
    (ha : a ∈ artifacts) : o.name.length ≤ a.names.kernel.length := by
  obtain ⟨is, -, hnames⟩ := exists_map_names h
  have hmem := List.mem_map_of_mem (f := fun a : Artifact => a.names) ha
  rw [hnames] at hmem
  obtain ⟨i, -, hi⟩ := List.mem_map.1 hmem
  have hsanitize := Identifier.length_le_sanitize o.name
  have hkernel : (Identifier.sanitize o.name).length ≤ (KernelNames.of o.name i).kernel.length := by
    simp only [KernelNames.of, kernelName, String.length_append]
    omega
  rw [← hi]
  exact hsanitize.trans hkernel

/-- A fragment is called after its kernel. -/
theorem lastPiece_outputPath (h : generateAll g o = .ok artifacts) {a : Artifact}
    (ha : a ∈ artifacts) :
    Path.lastPiece a.outputPath = a.names.kernel.toList ++ Artifact.fragmentSuffix.toList := by
  have hkernel := Identifier.all_isTail_of_isValid (isValid_names_of_generateAll h ha).1
  have hslash : '/' ∉ a.names.kernel.toList := fun hmem =>
    absurd (List.all_eq_true.1 hkernel _ hmem) (by decide)
  rw [outputPath_of_generateAll h ha, Artifact.pathOf, Path.lastPiece_join,
    Path.lastPiece_of_notMem, String.toList_append]
  rw [String.toList_append, List.mem_append, not_or]
  exact ⟨hslash, by decide⟩

/-- The main file is called by at most the output name and an extension. -/
theorem length_lastPiece_mainOutput (o : Options) :
    (Path.lastPiece o.mainOutput).length ≤ o.name.length + 4 := by
  have hcu : ".cu".length = 3 := by decide
  have hcpp : ".cpp".length = 4 := by decide
  unfold Options.mainOutput
  dsimp only
  rw [Path.lastPiece_join]
  refine (Path.length_lastPiece_le _).trans ?_
  split_ifs
  · omega
  · rw [String.length_append]
    omega
  · rw [String.length_append, hcpp]

/-- The paths of the outputs have different last pieces. -/
theorem pairwise_lastPiece_outputs (h : generateAll g o = .ok artifacts) :
    (outputs o artifacts).Pairwise fun a b => Path.lastPiece a.1 ≠ Path.lastPiece b.1 := by
  refine List.pairwise_append.2 ⟨List.pairwise_map.2 ?_, List.pairwise_singleton _ _, ?_⟩
  · refine (pairwise_kernel h).imp_of_mem fun {a b} ha hb hne heq => hne ?_
    dsimp only at heq
    rw [lastPiece_outputPath h ha, lastPiece_outputPath h hb] at heq
    exact String.toList_inj.1 (List.append_cancel_right heq)
  · -- A kernel name is no shorter than the output name, and the suffix outweighs an extension.
    intro out hout main hmain heq
    obtain ⟨a, ha, rfl⟩ := List.mem_map.1 hout
    obtain rfl := List.mem_singleton.1 hmain
    dsimp only at heq
    have hmain := length_lastPiece_mainOutput o
    have hkernel := length_name_le_kernel h ha
    have hsuffix : Artifact.fragmentSuffix.toList.length = 14 := by decide
    rw [← heq, lastPiece_outputPath h ha, List.length_append, hsuffix,
      String.length_toList] at hmain
    omega

/-! ## Runs -/

/-- The function of the cross product with one parameter on either side. -/
def sampleBound : UserFunction where
  name := "scale"
  uniqueName := "scale_1"
  returnType := "float"
  elementwise := [⟨"a", "float", .vertical⟩, ⟨"b", "float", .horizontal⟩]
  body := "return a * b;"

/-- The artifact of the cross product. -/
def sampleArtifact : Artifact :=
  let job := Job.of "prog" samplePairs
  .ofSource (job.request sampleOptions sampleBound)
    (KernelSource.definitionsText (sampleMetadata [samplePairs]) sampleBound [] [] true ++
      KernelSource.kernelText sampleBound job.names.kernel) "###"

/-- The only artifact of the run is that of the cross product. -/
theorem generateAll_samplePairs :
    generateAll (sampleMetadata [samplePairs]) sampleOptions = .ok [sampleArtifact] := by
  have hbind : (sampleMetadata [samplePairs]).bind samplePairs = .ok sampleBound := by cbv
  have hcallees : (sampleMetadata [samplePairs]).callees sampleBound = .ok [] := by cbv
  have htypes : (sampleMetadata [samplePairs]).typesFor sampleBound = .ok [] := by cbv
  have hlower : Artifact.lower (sampleMetadata [samplePairs])
      ((Job.of "prog" samplePairs).request sampleOptions sampleBound) = .ok sampleArtifact :=
    Artifact.lower_of_no_quote rfl hcallees htypes (by decide +kernel)
  exact generateAll_of_single (valid_sampleMetadata (by decide)) rfl rfl
    (lowerJob_of_lower hbind hlower .openCL)

/-- The name of the artifact's file. -/
def sampleFragment : String := "prog_MapPairsKernel_scale_1_Varity_1_Harity_1_cl_source.inl"

/-- The artifact goes into the directory of the run. -/
theorem outputPath_sampleArtifact : sampleArtifact.outputPath = "./" ++ sampleFragment := by
  decide +kernel

/-- What is written for the artifact. -/
theorem outputs_sampleArtifact :
    outputs sampleOptions [sampleArtifact] =
      [("./" ++ sampleFragment, sampleArtifact.sourceText),
        (sampleOptions.mainOutput, mainFragment sampleOptions [sampleArtifact])] := by
  rw [outputs, List.map_singleton, List.singleton_append, outputPath_sampleArtifact]

end Generation

end KernelGen
