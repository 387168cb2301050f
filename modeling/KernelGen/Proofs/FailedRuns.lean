import KernelGen.Proofs.OutputFiles

/-!
# Runs that fail

A run fails before it touches the tree or at one of its writes. In the second case the outputs in
front of that write are done. The write itself and all that would have come after it leave every
file as it was, though some directories on the way may have been made.

* `FileTree.writeIfChanged_eq_error`: the error of a write names its path or the directory above it.
* `FileTree.writeAll_eq_error`: the write at which a run of writes stops.
* `FileTree.Stored.notMem_of_resolve`: a path does not lead to what was stored under another last
  piece.
* `FileTree.of_writeAll_stop`: what a run of writes that stops leaves behind.
* `Generation.run_eq_error`: why a run fails.
-/

namespace KernelGen

namespace FileTree

variable {t t₁ t' : FileTree} {l : Location} {path text : String}

/-- There is nothing to make above a path that has no parent. -/
theorem makeAllDirectories_empty (t : FileTree) : t.makeAllDirectories "" = (.ok (), t) := by
  have hnone : (Path.ancestors "").filter (!·.isEmpty) = [] := by decide
  rw [makeAllDirectories, hnone, makeDirectories]

/-- The error of a write names its path, or the directory above it that could not be made. -/
theorem writeIfChanged_eq_error {e : GenError} (h : t.writeIfChanged path text = (.error e, t')) :
    ∃ file reason, e = .io file reason ∧ (file = path ∨ Path.parent? path = some file) := by
  unfold writeIfChanged at h
  dsimp only at h
  split_ifs at h
  · cases h
  · split at h
    · next e' t₁ hfail =>
      obtain ⟨he, -⟩ := Prod.mk.inj h
      refine ⟨_, _, (Except.error.inj he).symm, .inr ?_⟩
      cases hparent : Path.parent? path with
      | some parent => rfl
      | none =>
        rw [hparent, Option.getD_none, makeAllDirectories_empty] at hfail
        cases hfail
    · split at h
      · obtain ⟨he, -⟩ := Prod.mk.inj h
        exact ⟨_, _, (Except.error.inj he).symm, .inl rfl⟩
      · cases h

/-- A run of writes that fails has done the first of them and stops at the next. -/
theorem writeAll_eq_error {outputs : List (String × String)}
    {outcomes : List (String × WriteOutcome)} {e : GenError}
    (h : t.writeAll outputs = (outcomes, some e, t')) :
    ∃ done out rest t₁, outputs = done ++ out :: rest ∧ t.writeAll done = (outcomes, none, t₁) ∧
      t₁.writeIfChanged out.1 out.2 = (.error e, t') := by
  induction outputs generalizing t outcomes with
  | nil => simp [writeAll] at h
  | cons out outputs ih =>
    obtain ⟨path, text⟩ := out
    rw [writeAll] at h
    split at h
    · next e' t₁ hwrite =>
      obtain ⟨rfl, rfl, rfl⟩ : [] = outcomes ∧ e' = e ∧ t₁ = t' := by simpa using h
      exact ⟨[], (path, text), outputs, t, rfl, rfl, hwrite⟩
    · next outcome t₁ hwrite =>
      cases hrun : t₁.writeAll outputs with
      | mk outcomes' result =>
        obtain ⟨failure, t₂⟩ := result
        rw [hrun] at h
        obtain ⟨rfl, rfl, rfl⟩ :
            (path, outcome) :: outcomes' = outcomes ∧ failure = some e ∧ t₂ = t' := by
          simpa using h
        obtain ⟨done, out, rest, t₃, rfl, hdone, hfail⟩ := ih hrun
        exact ⟨(path, text) :: done, out, rest, t₃, rfl, writeAll_cons hwrite hdone, hfail⟩

namespace Stored

/-- A path does not lead to what was stored under another last piece. -/
theorem notMem_of_resolve {placed : List ((String × String) × Location)} (hwf : t'.WellFormed)
    (hstored : ∀ p ∈ placed, Stored t t' p.1.1 p.1.2 p.2)
    (hlast : ∀ p ∈ placed, Path.lastPiece p.1.1 ≠ Path.lastPiece path)
    (hpath : t'.resolve path = .ok l) : l ∉ placed.map (·.2) := by
  intro hmem
  obtain ⟨p, hp, rfl⟩ := List.mem_map.1 hmem
  obtain ⟨c, hc, -⟩ := (hstored p hp).content
  -- What was stored is a file, and a path leads to a file only under its last piece.
  obtain ⟨dir, hdir⟩ := eq_append_lastPiece hwf hpath hc
  obtain ⟨dir', hdir'⟩ := (hstored p hp).last
  have hname := (List.cons.inj (List.append_inj' (hdir'.symm.trans hdir) rfl).2).1
  exact hlast p hp (String.ofList_inj.1 hname)

end Stored

section Stop

variable {done rest : List (String × String)} {out : String × String} {e : GenError}
  {outcomes : List (String × WriteOutcome)} (hwf : t.WellFormed)
  (hdone : t.writeAll done = (outcomes, none, t₁))
  (hstop : t₁.writeIfChanged out.1 out.2 = (.error e, t'))
include hwf hdone hstop

/-- A run of writes that stops has stored the outputs in front of the one at which it stops, and the
write that failed has changed no file. -/
theorem exists_stored_of_stop
    (hlast : done.Pairwise fun a b => Path.lastPiece a.1 ≠ Path.lastPiece b.1) :
    ∃ placed : List ((String × String) × Location), done = placed.map (·.1) ∧
      Writes (placed.map (·.2)) t t' ∧ ∀ p ∈ placed, Stored t t' p.1.1 p.1.2 p.2 := by
  -- The first outputs are a run of writes by themselves, which does not fail.
  obtain ⟨placed, left, hplaced, -, hnone, hchange, hstored⟩ := of_writeAll hwf hlast hdone
  obtain rfl := hnone.1 rfl
  have hlater := writes_of_writeIfChanged_error hstop
  have hwrites := hchange.trans hlater
  rw [List.append_nil] at hplaced hwrites
  exact ⟨placed, hplaced, hwrites, fun p hp => (hstored p hp).trans_writes hlater List.not_mem_nil⟩

/-- A run of writes that stops leaves the outputs in front of the stop at locations of their own.
There they are found, no other file has changed, and what was still to write does not lead there. -/
theorem of_writeAll_stop
    (hlast : (done ++ out :: rest).Pairwise fun a b => Path.lastPiece a.1 ≠ Path.lastPiece b.1)
    (hdigest : ∀ p ∈ done, ∀ l old, t'.resolve p.1 = .ok l → t.entry? l = some (.file old) →
      Blake3.hash old = Blake3.hash (textBytes p.2) → old = textBytes p.2) :
    (∀ p ∈ done, t'.read p.1 = .ok (textBytes p.2)) ∧
    ∃ ls : List Location, ls.Nodup ∧
      List.Forall₂ (fun p l => t'.resolve p.1 = .ok l) done ls ∧
      (∀ l, l ∉ ls → ∀ c, t'.entry? l = some (.file c) ↔ t.entry? l = some (.file c)) ∧
      ∀ p ∈ out :: rest, ∀ l, t'.resolve p.1 = .ok l → l ∉ ls := by
  obtain ⟨hlastDone, -, hlastRest⟩ := List.pairwise_append.1 hlast
  obtain ⟨placed, rfl, hchange, hstored⟩ := exists_stored_of_stop hwf hdone hstop hlastDone
  refine ⟨?_, placed.map (·.2), Stored.nodup_locations hstored hlastDone,
    Stored.forall₂_resolve hstored, hchange.file, ?_⟩
  · intro p hp
    obtain ⟨q, hq, rfl⟩ := List.mem_map.1 hp
    exact (hstored q hq).read fun old => hdigest q.1 hp q.2 old (hstored q hq).resolve
  · intro p hp l hl
    -- What was still to write has another last piece than all that was stored.
    refine Stored.notMem_of_resolve (hchange.wellFormed hwf) hstored ?_ hl
    intro q hq
    exact hlastRest q.1 (List.mem_map_of_mem hq) p hp

end Stop

end FileTree

namespace Generation

variable {g : MetadataGraph} {o : Options}

/-- A run fails because nothing could be generated, and then before it touches the tree, or because
a write failed. -/
theorem run_eq_error {t t' : FileTree} {e : Failure} (h : run g o t = (.error e, t')) :
    generateAll g o = .error e ∧ t' = t ∨
      ∃ artifacts outcomes cause, generateAll g o = .ok artifacts ∧ e = .error cause ∧
        t.writeAll (outputs o artifacts) = (outcomes, some cause, t') := by
  unfold run at h
  split at h
  · next e' hfail =>
    obtain ⟨he, rfl⟩ := Prod.mk.inj h
    rw [hfail, Except.error.inj he]
    exact .inl ⟨rfl, rfl⟩
  · next artifacts hall =>
    split at h
    · next outcomes cause t₁ hwrites =>
      obtain ⟨he, rfl⟩ := Prod.mk.inj h
      exact .inr ⟨artifacts, outcomes, cause, hall, (Except.error.inj he).symm, hwrites⟩
    · cases h

/-- The artifacts are those of the planned kernels in order, if kernels are wanted. -/
theorem map_names_generateAll {artifacts : List Artifact} (h : generateAll g o = .ok artifacts) :
    ∃ jobs, plan g o = .ok jobs ∧
      artifacts.map (·.names) = if o.isEnabled .openCL = true then jobs.map (·.names) else [] := by
  have hnames := congrArg (List.map (·.2.2.2)) (map_generateAll h)
  rw [List.map_map] at hnames
  refine ⟨_, plan_eq g o, hnames.trans ?_⟩
  split
  · rw [List.map_map, List.map_map]
    rfl
  · rfl

/-- A run that fails leaves the rest alone. Everything in the tree stands in a directory, and a file
in the place of an output that has its digest has its content too. If nothing could be generated,
the tree is as it was. Otherwise the run stopped at one of the outputs: the fragments in the order
of the plan, and then the main file. The error is that of this write, which names the output or the
directory above it. The outputs in front of it were written one after the other, are found under
their paths at different locations and have their contents. No other file is new, changed or gone,
and neither the output at which the run stopped nor one behind it leads to one of those that were
written. -/
theorem run_failure_keeps_files {t t' : FileTree} {e : Failure}
    (h : run g o t = (.error e, t')) (hwf : t.WellFormed)
    (hdigest : ∀ artifacts, generateAll g o = .ok artifacts → ∀ out ∈ outputs o artifacts,
      ∀ l old, t'.resolve out.1 = .ok l → t.entry? l = some (.file old) →
      Blake3.hash old = Blake3.hash (textBytes out.2) → old = textBytes out.2) :
    (∀ e', generateAll g o = .error e' → e = e' ∧ t' = t) ∧
    ∀ artifacts, generateAll g o = .ok artifacts →
      (∃ jobs, plan g o = .ok jobs ∧
        artifacts.map (·.names) = if o.isEnabled .openCL = true then jobs.map (·.names) else []) ∧
      ∃ done out rest outcomes t₁ file reason,
        artifacts.map (fun a => (a.outputPath, a.sourceText)) ++
          [(o.mainOutput, mainFragment o artifacts)] = done ++ out :: rest ∧
        e = .error (.io file reason) ∧ (file = out.1 ∨ Path.parent? out.1 = some file) ∧
        t.writeAll done = (outcomes, none, t₁) ∧
        t₁.writeIfChanged out.1 out.2 = (.error (.io file reason), t') ∧
        (∀ p ∈ done, t'.read p.1 = .ok (textBytes p.2)) ∧
        ∃ ls : List Location, ls.Nodup ∧
          List.Forall₂ (fun p l => t'.resolve p.1 = .ok l) done ls ∧
          (∀ l, l ∉ ls → ∀ c, t'.entry? l = some (.file c) ↔ t.entry? l = some (.file c)) ∧
          ∀ p ∈ out :: rest, ∀ l, t'.resolve p.1 = .ok l → l ∉ ls := by
  rcases run_eq_error h with ⟨hfail, rfl⟩ | ⟨artifacts, outcomes, cause, hall, rfl, hwrites⟩
  · refine ⟨fun e' he' => ⟨Except.error.inj (hfail.symm.trans he'), rfl⟩, ?_⟩
    intro artifacts hall
    rw [hfail] at hall
    cases hall
  refine ⟨fun e' he' => ?_, fun artifacts' hall' => ?_⟩
  · rw [hall] at he'
    cases he'
  obtain rfl : artifacts = artifacts' := Except.ok.inj (hall.symm.trans hall')
  obtain ⟨done, out, rest, t₁, hsplit, hdone, hstop⟩ := FileTree.writeAll_eq_error hwrites
  obtain ⟨file, reason, rfl, hfile⟩ := FileTree.writeIfChanged_eq_error hstop
  have hlast := pairwise_lastPiece_outputs hall
  rw [hsplit] at hlast
  have hkept := FileTree.of_writeAll_stop hwf hdone hstop hlast fun p hp =>
    hdigest artifacts hall p (hsplit ▸ List.mem_append_left _ hp)
  exact ⟨map_names_generateAll hall, done, out, rest, outcomes, t₁, file, reason, hsplit, rfl,
    hfile, hdone, hstop, hkept⟩

/-- A tree in which a directory stands in the place of the main file. -/
def blockedTree : FileTree where
  entries := [(["prog.cpp"], .directory), (["notes"], .file [1])]

/-- Both entries stand in the working directory. -/
theorem wellFormed_blockedTree : blockedTree.WellFormed where
  parent l name hsome := by
    have hlocation : l ++ [name] = ["prog.cpp"] ∨ l ++ [name] = ["notes"] := by
      by_contra hne
      rw [not_or] at hne
      unfold FileTree.entry? at hsome
      rw [if_neg (by simp), blockedTree, List.lookup_cons, beq_eq_false_iff_ne.2 hne.1,
        List.lookup_cons, beq_eq_false_iff_ne.2 hne.2] at hsome
      cases hsome
    have hroot : l = [] := by
      rcases hlocation with h | h
      · exact (List.append_eq_singleton_iff.1 h |>.resolve_right (by simp)).1
      · exact (List.append_eq_singleton_iff.1 h |>.resolve_right (by simp)).1
    rw [hroot]
    rfl
  workingDir := rfl

/-- The tree after the fragment was written. -/
def fragmentTree : FileTree :=
  (blockedTree.writeIfChanged ("./" ++ sampleFragment) sampleArtifact.sourceText).2

/-- The tree after the main file could not be written. -/
def stoppedTree : FileTree :=
  (fragmentTree.writeIfChanged "./prog.cpp" (mainFragment sampleOptions [sampleArtifact])).2

/-- The path of the fragment leads to its file. -/
theorem resolve_sampleFragment :
    stoppedTree.resolve ("./" ++ sampleFragment) = .ok [sampleFragment] := by
  decide

/-- The run is over at the main file. -/
theorem run_blockedTree :
    run (sampleMetadata [samplePairs]) sampleOptions blockedTree =
      (.error (.error (.io "./prog.cpp" "Is a directory (os error 21)")), stoppedTree) := by
  have hfirst : blockedTree.writeIfChanged ("./" ++ sampleFragment) sampleArtifact.sourceText =
      (.ok .written, fragmentTree) :=
    Prod.ext (by decide) rfl
  have hstop : fragmentTree.writeIfChanged "./prog.cpp"
      (mainFragment sampleOptions [sampleArtifact]) =
        (.error (.io "./prog.cpp" "Is a directory (os error 21)"), stoppedTree) :=
    Prod.ext (by decide) rfl
  have hwrites : blockedTree.writeAll (outputs sampleOptions [sampleArtifact]) =
      ([("./" ++ sampleFragment, .written)],
        some (.io "./prog.cpp" "Is a directory (os error 21)"), stoppedTree) := by
    have hmain : sampleOptions.mainOutput = "./prog.cpp" := by decide
    rw [outputs_sampleArtifact, hmain]
    refine FileTree.writeAll_cons hfirst ?_
    rw [FileTree.writeAll, hstop]
  unfold run
  rw [generateAll_samplePairs]
  dsimp only
  rw [hwrites]

/-- No file stood in the place of an output. -/
theorem entry_blockedTree {artifacts : List Artifact}
    (hall : generateAll (sampleMetadata [samplePairs]) sampleOptions = .ok artifacts) :
    ∀ out ∈ outputs sampleOptions artifacts, ∀ l old, stoppedTree.resolve out.1 = .ok l →
      blockedTree.entry? l ≠ some (.file old) := by
  obtain rfl : [sampleArtifact] = artifacts :=
    Except.ok.inj (generateAll_samplePairs.symm.trans hall)
  rw [outputs_sampleArtifact, List.forall_mem_cons, List.forall_mem_singleton]
  refine ⟨fun l old hresolve hold => ?_, fun l old hresolve hold => ?_⟩
  · obtain rfl : [sampleFragment] = l :=
      Except.ok.inj (resolve_sampleFragment.symm.trans hresolve)
    have hnew : blockedTree.entry? [sampleFragment] = none := by decide
    rw [hnew] at hold
    cases hold
  · have hmain : stoppedTree.resolve sampleOptions.mainOutput = .ok ["prog.cpp"] := by
      decide
    obtain rfl : ["prog.cpp"] = l := Except.ok.inj (hmain.symm.trans hresolve)
    have hdirectory : blockedTree.entry? ["prog.cpp"] = some .directory := by decide
    rw [hdirectory] at hold
    cases hold

/-- The fragment is written before the run fails at the main file, and the other file stays. -/
theorem run_failure_keeps_files_sample :
    ∃ t', run (sampleMetadata [samplePairs]) sampleOptions blockedTree =
        (.error (.error (.io "./prog.cpp" "Is a directory (os error 21)")), t') ∧
      t'.read "./prog_MapPairsKernel_scale_1_Varity_1_Harity_1_cl_source.inl" =
        .ok (textBytes sampleArtifact.sourceText) ∧
      t'.entry? ["notes"] = some (.file [1]) := by
  obtain ⟨-, hwritten⟩ := run_failure_keeps_files run_blockedTree wellFormed_blockedTree
    fun artifacts hall out hout l old hl hold _ =>
      absurd hold (entry_blockedTree hall out hout l old hl)
  obtain ⟨-, done, out, rest, -, -, file, reason, hsplit, he, hfile, -, -, hread, ls, -, hplaces,
    hkept, -⟩ := hwritten [sampleArtifact] generateAll_samplePairs
  obtain ⟨rfl, -⟩ : "./prog.cpp" = file ∧ "Is a directory (os error 21)" = reason := by
    simpa using he
  rw [List.map_singleton, List.singleton_append, outputPath_sampleArtifact] at hsplit
  cases done with
  | nil =>
    -- The error does not name the fragment.
    obtain ⟨rfl, -⟩ := List.cons.inj hsplit
    exact absurd hfile (by decide)
  | cons first done =>
    obtain ⟨rfl, hmain⟩ := List.cons.inj hsplit
    obtain rfl : done = [] := by
      cases done with
      | nil => rfl
      | cons second done => simp at hmain
    obtain ⟨l, ls', hl, hnone, rfl⟩ := List.forall₂_cons_left_iff.1 hplaces
    obtain rfl := List.forall₂_nil_left_iff.1 hnone
    obtain rfl : [sampleFragment] = l := Except.ok.inj (resolve_sampleFragment.symm.trans hl)
    refine ⟨stoppedTree, run_blockedTree, ?_, (hkept ["notes"] (by decide) [1]).2 rfl⟩
    exact hread _ List.mem_cons_self

end Generation

end KernelGen
