import KernelGen.Generation
import KernelGen.Proofs.KernelNames
import KernelGen.Proofs.Validation

/-!
# Checking and generating

Checking looks at the metadata only, and generating goes on from there. Here every way in which
generating can fail is traced back to an error that checking reports, except for a skeleton that has
no generator.

* `plan_eq`, `kernelBackends_eq`: the kernels to generate and the backends to generate them for, as
  functions of the instantiations and the options.
* `lowerJob_of_mapPairs`, `lowerJob_of_ne`: lowering an instantiation of valid metadata.
* `generateAll_of_valid`: generating from valid metadata lowers the planned jobs.
-/

namespace KernelGen.Generation

variable {g : MetadataGraph} {o : Options} {i : Instantiation}

/-! ## The plan -/

/-- The job of an instantiation under an output name. -/
def Job.of (base : String) (i : Instantiation) : Job :=
  ⟨i, KernelNames.of base i⟩

/-- Planning lists the instantiations that were not registered before, each once. -/
theorem planFrom_after (base : String) (seen is : List Instantiation) :
    planFrom (.after base seen) is = .ok ((is.removeAll seen).eraseDups.map (Job.of base)) := by
  -- The registry grows with every step, so the induction is over all that was seen before.
  induction is generalizing seen with
  | nil => simp [planFrom, List.removeAll]
  | cons i is ih =>
    rw [planFrom]
    by_cases h : i ∈ seen
    · rw [NameRegistry.register_of_mem h]
      dsimp only
      rw [ih]
      simp [List.removeAll, h]
    · rw [NameRegistry.register_of_notMem h]
      dsimp only
      rw [ih]
      -- What comes later must differ from this instantiation as well as from the earlier ones.
      have hrest : is.removeAll (seen ++ [i]) = (is.removeAll seen).filter fun j => !j == i := by
        rw [List.removeAll, List.removeAll, List.filter_filter]
        refine List.filter_congr fun j _ => ?_
        rw [Bool.eq_iff_iff]
        simp [and_comm]
      have hfirst : (i :: is).removeAll seen = i :: is.removeAll seen := by
        simp [List.removeAll, h]
      rw [hfirst, List.eraseDups_cons, List.map_cons, hrest]
      rfl

/-- The plan always succeeds: it has the distinct instantiations in the order of their first
occurrence, with their names. -/
theorem plan_eq (g : MetadataGraph) (o : Options) :
    plan g o = .ok (g.instantiations.eraseDups.map (Job.of o.name)) := by
  have hstart : (⟨o.name, []⟩ : NameRegistry) = .after o.name [] := rfl
  have hall : g.instantiations.removeAll [] = g.instantiations := by simp [List.removeAll]
  rw [plan, hstart, planFrom_after, hall]

/-! ## The backends -/

/-- Only one backend has a generator, and only one other needs one. -/
theorem kernelBackendsOf_eq (g : MetadataGraph) (bs : List Backend) :
    kernelBackendsOf g bs =
      if .cuda ∈ bs ∧ g.instantiations ≠ [] then .error (.unsupportedBackend "CUDA")
      else .ok (bs.filter (· == .openCL)) := by
  induction bs with
  | nil => simp [kernelBackendsOf]
  | cons b bs ih =>
    rw [kernelBackendsOf, ih]
    cases b with
    | openMP => simp [Backend.needsKernels]
    | openCL =>
      by_cases h : .cuda ∈ bs ∧ g.instantiations ≠ []
      · simp [Backend.needsKernels, Backend.hasLowering, h, Except.map]
      · simp [Backend.needsKernels, Backend.hasLowering, h, Except.map]
    | cuda =>
      by_cases h : g.instantiations = []
      · simp [Backend.needsKernels, Backend.hasLowering, h]
      · simp [Backend.needsKernels, Backend.hasLowering, h, Backend.displayName]
    | starPUMPI => simp [Backend.needsKernels]
    | mpi => simp [Backend.needsKernels]

/-- The backends for which kernels can be generated, of those that are enabled. -/
def deviceBackends (o : Options) : List Backend :=
  if o.isEnabled .openCL = true then [.openCL] else []

/-- No backend is enabled twice, so kernels are generated once. -/
theorem filter_openCL (o : Options) : o.backends.filter (· == .openCL) = deviceBackends o := by
  have hnodup : o.backends.Nodup := o.backends_sublist.nodup (by decide)
  rw [List.filter_beq, deviceBackends, Options.isEnabled]
  by_cases h : .openCL ∈ o.backends
  · simp [h, List.count_eq_one_of_mem hnodup h]
  · simp [h, List.count_eq_zero_of_not_mem h]

/-- The backends for which kernels are generated. It is an error if kernels are needed for a backend
without a generator. -/
theorem kernelBackends_eq (g : MetadataGraph) (o : Options) :
    kernelBackends g o =
      if o.isEnabled .cuda = true ∧ g.instantiations ≠ [] then .error (.unsupportedBackend "CUDA")
      else .ok (deviceBackends o) := by
  simp only [kernelBackends, kernelBackendsOf_eq, filter_openCL, Options.isEnabled,
    List.contains_iff_mem]

theorem kernelBackends_of_ok {bs : List Backend} (h : kernelBackends g o = .ok bs) :
    kernelBackends g o = .ok (deviceBackends o) := by
  rw [kernelBackends_eq] at h ⊢
  split at h
  · cases h
  · next hcuda => rw [if_neg hcuda]

/-! ## Lowering one instantiation -/

/-- A text is the kernel source of one of the kernels to generate. -/
def IsKernelSource (g : MetadataGraph) (o : Options) (source : String) : Prop :=
  ∃ i ∈ g.instantiations, i.skeleton = .mapPairs ∧ ∃ f, g.bind i = .ok f ∧
    KernelSource.text g f (KernelNames.of o.name i).kernel o.preserveLines = .ok source

/-- A job is lowered if its function is bound and lowered. -/
theorem lowerJob_of_lower {j : Job} {f : UserFunction} {a : Artifact}
    (hbind : g.bind j.instantiation = .ok f) (hlower : Artifact.lower g (j.request o f) = .ok a)
    (b : Backend) : lowerJob g o b j = .ok a := by
  unfold lowerJob
  simp only [hbind, hlower]

/-- A cross product over valid metadata is lowered, if its kernel source is not too long. -/
theorem lowerJob_of_mapPairs (hg : g.Valid o.allowedCalls)
    (hsources : ∀ source, IsKernelSource g o source → source.utf8ByteSize < 10 ^ 12)
    (hi : i ∈ g.instantiations) (hskel : i.skeleton = .mapPairs) (b : Backend) :
    ∃ a, lowerJob g o b (.of o.name i) = .ok a := by
  obtain ⟨f, callees, hbind, hcallees⟩ := hg.instantiations i hi
  obtain ⟨types, htypes⟩ := hg.exists_typesFor (MetadataGraph.bind_eq_ok hbind).1 hcallees
  -- All that the kernel source needs is there, and its length leaves room for a delimiter.
  have htext := KernelSource.text_of_lists hcallees htypes (KernelNames.of o.name i).kernel
    o.preserveLines
  have hshort := hsources _ ⟨i, hi, hskel, f, hbind, htext⟩
  obtain ⟨delim, hdelim⟩ := RawLiteral.exists_delimiter_of_utf8ByteSize hshort
  have hlower := Artifact.lower_eq_ok_iff (r := (Job.of o.name i).request o f).2
    ⟨hskel, _, _, htext, hdelim, rfl⟩
  exact ⟨_, lowerJob_of_lower hbind hlower b⟩

/-- Every other skeleton over valid metadata is refused. -/
theorem lowerJob_of_ne (hg : g.Valid o.allowedCalls) (hi : i ∈ g.instantiations)
    (hskel : i.skeleton ≠ .mapPairs) (b : Backend) :
    lowerJob g o b (.of o.name i) = .error (.error (.instantiation b.displayName i.skeleton
      i.function i.varity i.harity (.unsupportedSkeleton i.skeleton "OpenCL"))) := by
  obtain ⟨f, -, hbind, -⟩ := hg.instantiations i hi
  have hlower : Artifact.lower g ((Job.of o.name i).request o f) =
      .error (.unsupportedSkeleton i.skeleton "OpenCL") := by
    unfold Artifact.lower
    split
    · next h => exact absurd h hskel
    · rfl
  unfold lowerJob
  simp only [Job.of, hbind] at hlower ⊢
  rw [hlower]
  rfl

/-! ## Lowering all of them -/

theorem lowerAll_nil (g : MetadataGraph) (o : Options) (jobs : List Job) :
    lowerAll g o [] jobs = .ok [] :=
  rfl

theorem lowerAll_singleton (g : MetadataGraph) (o : Options) (b : Backend) (jobs : List Job) :
    lowerAll g o [b] jobs = jobs.mapM (lowerJob g o b) := by
  rw [lowerAll, List.flatMap_singleton, List.mapM_map]
  rfl

/-- Generating from valid metadata lowers the planned jobs. -/
theorem generateAll_of_valid (hg : g.Valid o.allowedCalls)
    (hbackends : kernelBackends g o = .ok (deviceBackends o)) :
    generateAll g o =
      lowerAll g o (deviceBackends o) (g.instantiations.eraseDups.map (Job.of o.name)) := by
  unfold generateAll
  rw [MetadataGraph.validate_eq_nil_iff.2 hg, hbackends, plan_eq]

/-- One instantiation of valid metadata gives the artifact to which it is lowered. -/
theorem generateAll_of_single {a : Artifact} (hg : g.Valid o.allowedCalls)
    (hbackends : o.backends = [.openCL]) (hi : g.instantiations = [i])
    (ha : lowerJob g o .openCL (.of o.name i) = .ok a) : generateAll g o = .ok [a] := by
  have hdevice : deviceBackends o = [.openCL] := by
    simp [deviceBackends, Options.isEnabled, hbackends]
  have hkernels : kernelBackends g o = .ok (deviceBackends o) := by
    rw [kernelBackends_eq, if_neg (by simp [Options.isEnabled, hbackends])]
  rw [generateAll_of_valid hg hkernels, hdevice, lowerAll_singleton, hi]
  exact mapM_cons_eq_ok_iff.2 ⟨a, [], ha, rfl, rfl⟩

/-- A success of generating comes from valid metadata. -/
theorem valid_of_generateAll {artifacts : List Artifact} (h : generateAll g o = .ok artifacts) :
    g.Valid o.allowedCalls ∧ kernelBackends g o = .ok (deviceBackends o) := by
  unfold generateAll at h
  split at h
  · cases h
  · cases h
  · next hvalid =>
    refine ⟨MetadataGraph.validate_eq_nil_iff.1 hvalid, ?_⟩
    split at h
    · cases h
    · next hbackends => exact kernelBackends_of_ok hbackends

/-! ## Agreement -/

/-- The errors that must not come up any more while kernels are generated from checked metadata. -/
def isPrevented : GenError → Bool
  | .unresolvedSlot _ _ | .unusedBinding _ _ | .unknownFunction _ | .unknownUserType _ _
  | .typeCycle _ | .recursiveCall _ | .shapeMismatch _ _ _ _ _ _ | .rawDelimiter _
  | .nameCollision _ _ _ => true
  | _ => false

theorem check_eq {errors : List GenError} (h : g.validate o.allowedCalls = .ok errors) :
    check g o = .ok (errors ++ MetadataGraph.errorOf (kernelBackends g o)) := by
  rw [check, h, plan_eq]
  simp [Except.map, MetadataGraph.errorOf]

/-- Generating from checked metadata fails exactly if kernels are wanted for a skeleton that has no
generator. -/
theorem generateAll_eq_error_iff (hg : g.Valid o.allowedCalls)
    (hbackends : kernelBackends g o = .ok (deviceBackends o))
    (hsources : ∀ source, IsKernelSource g o source → source.utf8ByteSize < 10 ^ 12) :
    (∃ failure, generateAll g o = .error failure) ↔
      o.isEnabled .openCL = true ∧ ∃ i ∈ g.instantiations, i.skeleton ≠ .mapPairs := by
  rw [generateAll_of_valid hg hbackends, deviceBackends]
  by_cases hcl : o.isEnabled .openCL = true
  · rw [if_pos hcl, lowerAll_singleton]
    simp only [hcl, true_and]
    constructor
    · -- An instantiation that fails is no cross product, since those are lowered.
      rintro ⟨failure, hfail⟩
      obtain ⟨j, hj, hjob⟩ := exists_of_mapM_eq_error hfail
      obtain ⟨i, hi, rfl⟩ := List.mem_map.1 hj
      refine ⟨i, List.mem_eraseDups.1 hi, fun hskel => ?_⟩
      obtain ⟨a, ha⟩ := lowerJob_of_mapPairs hg hsources (List.mem_eraseDups.1 hi) hskel .openCL
      rw [hjob] at ha
      cases ha
    · -- Had all jobs succeeded, so had the one of this instantiation.
      rintro ⟨i, hi, hskel⟩
      cases hall : (g.instantiations.eraseDups.map (Job.of o.name)).mapM
          (lowerJob g o .openCL) with
      | error failure => exact ⟨failure, rfl⟩
      | ok artifacts =>
        have hplanned : Job.of o.name i ∈ g.instantiations.eraseDups.map (Job.of o.name) :=
          List.mem_map_of_mem (List.mem_eraseDups.2 hi)
        obtain ⟨a, -, ha⟩ := exists_mem_of_mapM_eq_ok hall hplanned
        rw [lowerJob_of_ne hg hi hskel] at ha
        cases ha
  · rw [if_neg hcl, lowerAll_nil]
    simp [hcl]

/-- The errors of one job over checked metadata: it can only be that its skeleton has no
generator. -/
theorem root_of_lowerJob (hg : g.Valid o.allowedCalls)
    (hsources : ∀ source, IsKernelSource g o source → source.utf8ByteSize < 10 ^ 12)
    (hi : i ∈ g.instantiations) {failure : Failure}
    (hfail : lowerJob g o .openCL (.of o.name i) = .error failure) :
    i.skeleton ≠ .mapPairs ∧ failure = .error (.instantiation "OpenCL" i.skeleton i.function
      i.varity i.harity (.unsupportedSkeleton i.skeleton "OpenCL")) := by
  have hskel : i.skeleton ≠ .mapPairs := by
    intro hskel
    obtain ⟨a, ha⟩ := lowerJob_of_mapPairs hg hsources hi hskel .openCL
    rw [hfail] at ha
    cases ha
  rw [lowerJob_of_ne hg hi hskel] at hfail
  exact ⟨hskel, (Except.error.inj hfail).symm⟩

/-- Checking and generating agree, for shapes that fit in a word and kernel sources of fewer than
`10 ^ 12` bytes. The first error that checking reports is the one with which generating fails. If
checking reports none, generating fails exactly if kernels are wanted and an instantiation is no
cross product; the failure is then that there is no generator for the skeleton of such an
instantiation, and no job of the plan can fail in any way that checking is to prevent. -/
theorem check_generateAll_agree
    (hwords : ∀ i ∈ g.instantiations, i.skeleton.isPaired = true →
      i.varity.toNat + i.harity.toNat < 2 ^ 64)
    (hsources : ∀ source, IsKernelSource g o source → source.utf8ByteSize < 10 ^ 12) :
    ∃ errors, check g o = .ok errors ∧
      (∀ e rest, errors = e :: rest → generateAll g o = .error (.error e)) ∧
      (errors = [] →
        ((∃ failure, generateAll g o = .error failure) ↔
          o.isEnabled .openCL = true ∧ ∃ i ∈ g.instantiations, i.skeleton ≠ .mapPairs) ∧
        (∀ failure, generateAll g o = .error failure →
          ∃ i ∈ g.instantiations, i.skeleton ≠ .mapPairs ∧ ∃ source,
            failure = .error (.instantiation "OpenCL" i.skeleton i.function i.varity i.harity
              source) ∧
            source.root = .unsupportedSkeleton i.skeleton "OpenCL") ∧
        ∃ jobs, plan g o = .ok jobs ∧ ∀ j ∈ jobs, ∀ failure,
          lowerJob g o .openCL j = .error failure →
          ∃ e, failure = .error e ∧ isPrevented e.root = false) := by
  obtain ⟨errors, hvalidate⟩ := MetadataGraph.exists_validate hwords
  refine ⟨_, check_eq hvalidate, ?_, ?_⟩
  · intro e rest herrors
    unfold generateAll
    rw [hvalidate]
    cases errors with
    | cons e' errors =>
      obtain ⟨rfl, -⟩ := List.cons.inj herrors
      rfl
    | nil =>
      -- Validation found nothing, so the error is that of the backends.
      cases hbackends : kernelBackends g o with
      | error e' =>
        rw [hbackends] at herrors
        obtain ⟨rfl, -⟩ := List.cons.inj herrors
        rfl
      | ok bs => simp [hbackends, MetadataGraph.errorOf] at herrors
  · intro hnone
    obtain ⟨rfl, hnone⟩ := List.append_eq_nil_iff.1 hnone
    have hg := MetadataGraph.validate_eq_nil_iff.1 hvalidate
    obtain ⟨bs, hbs⟩ := MetadataGraph.errorOf_eq_nil_iff.1 hnone
    have hbackends := kernelBackends_of_ok hbs
    refine ⟨generateAll_eq_error_iff hg hbackends hsources, ?_, _, plan_eq g o, ?_⟩
    · intro failure hfail
      obtain ⟨hcl, -⟩ := (generateAll_eq_error_iff hg hbackends hsources).1 ⟨failure, hfail⟩
      rw [generateAll_of_valid hg hbackends, deviceBackends, if_pos hcl,
        lowerAll_singleton] at hfail
      obtain ⟨j, hj, hjob⟩ := exists_of_mapM_eq_error hfail
      obtain ⟨i, hi, rfl⟩ := List.mem_map.1 hj
      obtain ⟨hskel, rfl⟩ := root_of_lowerJob hg hsources (List.mem_eraseDups.1 hi) hjob
      exact ⟨i, List.mem_eraseDups.1 hi, hskel, _, rfl, rfl⟩
    · intro j hj failure hjob
      obtain ⟨i, hi, rfl⟩ := List.mem_map.1 hj
      obtain ⟨-, rfl⟩ := root_of_lowerJob hg hsources (List.mem_eraseDups.1 hi) hjob
      exact ⟨_, rfl, rfl⟩

/-- One function, with some instantiations. -/
def sampleMetadata (is : List Instantiation) : MetadataGraph where
  functions := [{
    name := "scale"
    uniqueName := "scale_1"
    returnType := "float"
    elementwise := [⟨"a", "float", .vertical⟩, ⟨"b", "float", .vertical⟩]
    body := "return a * b;" }]
  instantiations := is
  types := []
  types_nodup := List.nodup_nil

/-- The cross product of the function. -/
def samplePairs : Instantiation :=
  ⟨.mapPairs, "scale_1", 1, 1⟩

/-- Options that ask for kernels. -/
def sampleOptions : Options where
  name := "prog"
  backends := [.openCL]
  allowedCalls := []

/-- If there is no other cross product, the only kernel source is short. -/
theorem utf8ByteSize_sampleMetadata {is : List Instantiation}
    (h : ∀ i ∈ is, i.skeleton = .mapPairs → i = samplePairs) (source : String)
    (hsource : IsKernelSource (sampleMetadata is) sampleOptions source) :
    source.utf8ByteSize < 10 ^ 12 := by
  obtain ⟨i, hi, hskel, f, hbind, htext⟩ := hsource
  obtain rfl := h i hi hskel
  let bound : UserFunction := {
    name := "scale"
    uniqueName := "scale_1"
    returnType := "float"
    elementwise := [⟨"a", "float", .vertical⟩, ⟨"b", "float", .horizontal⟩]
    body := "return a * b;" }
  have hbound : (sampleMetadata is).bind samplePairs = .ok bound := by cbv
  obtain rfl : bound = f := Except.ok.inj (hbound.symm.trans hbind)
  have hcallees : (sampleMetadata is).callees bound = .ok [] := by cbv
  have htypes : (sampleMetadata is).typesFor bound = .ok [] := by cbv
  have hconstants : KernelSource.definitionsText (sampleMetadata is) =
      KernelSource.definitionsText (sampleMetadata []) := rfl
  rw [KernelSource.text_of_lists hcallees htypes, hconstants] at htext
  rw [← Except.ok.inj htext]
  decide +kernel

/-- The function is valid as a cross product and as a scan. -/
theorem valid_sampleMetadata {is : List Instantiation}
    (h : ∀ i ∈ is, i = samplePairs ∨ i = ⟨.scan, "scale_1", 1, 1⟩) :
    (sampleMetadata is).Valid [] where
  typeGraph := MetadataGraph.errorOf_eq_nil_iff.1 (by cbv)
  constants := by simp [sampleMetadata]
  functions f hf := by
    obtain rfl := List.mem_singleton.1 hf
    rfl
  instantiations i hi := by
    apply MetadataGraph.instantiationErrors_eq_nil_iff.1
    rcases h i hi with rfl | rfl
    · cbv
    · cbv

/-- A cross product and a scan pass the check, and generating fails at the scan. -/
theorem check_generateAll_agree_sample :
    let g := sampleMetadata [samplePairs, ⟨.scan, "scale_1", 1, 1⟩]
    check g sampleOptions = .ok [] ∧
      ∃ source, generateAll g sampleOptions =
          .error (.error (.instantiation "OpenCL" .scan "scale_1" 1 1 source)) ∧
        source.root = .unsupportedSkeleton .scan "OpenCL" := by
  intro g
  have hcheck : check g sampleOptions = .ok [] := by
    rw [check_eq (MetadataGraph.validate_eq_nil_iff.2 (valid_sampleMetadata (by decide))),
      kernelBackends_eq]
    rfl
  obtain ⟨errors, herrors, -, hnone⟩ := check_generateAll_agree (g := g) (o := sampleOptions)
    (by decide) (utf8ByteSize_sampleMetadata (by decide))
  obtain rfl : [] = errors := Except.ok.inj (hcheck.symm.trans herrors)
  obtain ⟨hiff, hcause, -⟩ := hnone rfl
  obtain ⟨failure, hfail⟩ := hiff.2 ⟨by decide, ⟨.scan, "scale_1", 1, 1⟩, by decide, by decide⟩
  obtain ⟨i, hi, hskel, source, rfl, hroot⟩ := hcause failure hfail
  refine ⟨hcheck, source, ?_⟩
  rcases List.mem_cons.1 hi with rfl | hi
  · exact absurd rfl hskel
  · obtain rfl := List.mem_singleton.1 hi
    exact ⟨hfail, hroot⟩

end KernelGen.Generation
