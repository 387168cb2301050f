import KernelGen.Proofs.Generation

/-!
# The names of generated kernels

A name is handed out by the registry, listed by the plan and carried by an artifact. Here the three
are compared: the registry never refuses an instantiation, the plan lists every instantiation once,
and the artifacts are those of the plan. The names tell instantiations apart whatever the user
functions are called, and they are identifiers if the user functions are named by identifiers.
-/

namespace KernelGen.Generation

variable {g : MetadataGraph} {o : Options} {i : Instantiation}

/-- The artifact of a planned instantiation has its skeleton, function, shape and names. -/
theorem of_lowerJob {b : Backend} {a : Artifact} (h : lowerJob g o b (.of o.name i) = .ok a) :
    a.skeleton = i.skeleton ∧ a.function = i.function ∧ a.shape = i.shape ∧
      a.names = KernelNames.of o.name i := by
  unfold lowerJob at h
  cases hbind : g.bind i with
  | error failure => cases failure <;> simp [Job.of, hbind] at h
  | ok f =>
    simp only [Job.of, hbind] at h
    split at h
    · cases h
    · next hlower =>
      obtain rfl := Except.ok.inj h
      obtain ⟨-, source, delim, -, -, rfl⟩ := Artifact.lower_eq_ok_iff.1 hlower
      exact ⟨rfl, (MetadataGraph.bind_eq_ok hbind).2, rfl, rfl⟩

/-- The artifacts are those of the planned instantiations in order, if kernels are wanted. -/
theorem map_generateAll {artifacts : List Artifact} (h : generateAll g o = .ok artifacts) :
    artifacts.map (fun a => (a.skeleton, a.function, a.shape, a.names)) =
      if o.isEnabled .openCL = true then
        g.instantiations.eraseDups.map fun i =>
          (i.skeleton, i.function, i.shape, KernelNames.of o.name i)
      else [] := by
  obtain ⟨hg, hbackends⟩ := valid_of_generateAll h
  rw [generateAll_of_valid hg hbackends, deviceBackends] at h
  by_cases hcl : o.isEnabled .openCL = true
  · rw [if_pos hcl, lowerAll_singleton, List.mapM_map] at h
    rw [if_pos hcl]
    refine map_eq_of_mapM_eq_ok h fun i a ha => ?_
    obtain ⟨hskel, hfunction, hshape, hnames⟩ := of_lowerJob ha
    rw [hskel, hfunction, hshape, hnames]
  · rw [if_neg hcl, lowerAll_nil] at h
    rw [if_neg hcl, ← Except.ok.inj h, List.map_nil]

/-- Validation has looked at the user functions, so the names of all artifacts are identifiers. -/
theorem isValid_names_of_generateAll {artifacts : List Artifact}
    (h : generateAll g o = .ok artifacts) {a : Artifact} (ha : a ∈ artifacts) :
    Identifier.isValid a.names.kernel = true ∧ Identifier.isValid a.names.wrapper = true := by
  have hmem := List.mem_map_of_mem (f := fun a => (a.skeleton, a.function, a.shape, a.names)) ha
  rw [map_generateAll h] at hmem
  split at hmem
  · -- The artifact belongs to an instantiation, and its function is stored.
    obtain ⟨i, hi, heq⟩ := List.mem_map.1 hmem
    obtain ⟨hg, -⟩ := valid_of_generateAll h
    obtain ⟨f, -, hbind, -⟩ := hg.instantiations i (List.mem_eraseDups.1 hi)
    obtain ⟨⟨f₀, hf₀, hsame⟩, hname⟩ := MetadataGraph.bind_eq_ok hbind
    have hfunction : Identifier.isValid i.function = true := by
      have hstored := hg.isValid_uniqueName hf₀
      rw [← hname, hsame]
      exact hstored
    have hnames : a.names = KernelNames.of o.name i := (congrArg (·.2.2.2) heq).symm
    have hkernel := isValid_kernel o.name hfunction
    rw [hnames]
    exact ⟨hkernel, isValid_wrapper hkernel⟩
  · simp at hmem

/-- Names from the registry to the artifacts. A run of registrations never fails: each answers by
whether the instantiation came before, with the same names both times, and the registry is as large
as there are distinct instantiations. Different instantiations have different kernel names. The plan
has the distinct instantiations in the order of their first occurrence, and the artifacts are those
of the plan in order if kernels are wanted, else there are none. The names of all artifacts are
identifiers, and so are the planned names of all functions that are named by identifiers. -/
theorem names_registered_planned_generated (base : String) (is : List Instantiation)
    (g : MetadataGraph) (o : Options) :
    (∃ outcomes r, NameRegistry.registerAll ⟨base, []⟩ is = .ok (outcomes, r) ∧
      outcomes.length = is.length ∧ r.size = is.eraseDups.length ∧
      ∀ (k : Nat) (i : Instantiation), is[k]? = some i →
        outcomes[k]? = some (if i ∈ is.take k then .existing (KernelNames.of base i)
          else .new (KernelNames.of base i))) ∧
    (∀ i j, i ≠ j → (KernelNames.of base i).kernel ≠ (KernelNames.of base j).kernel) ∧
    plan g o = .ok (g.instantiations.eraseDups.map fun i => ⟨i, KernelNames.of o.name i⟩) ∧
    (∀ artifacts, generateAll g o = .ok artifacts →
      artifacts.map (fun a => (a.skeleton, a.function, a.shape, a.names)) =
        (if o.isEnabled .openCL = true then
          g.instantiations.eraseDups.map fun i =>
            (i.skeleton, i.function, i.shape, KernelNames.of o.name i)
        else []) ∧
      ∀ a ∈ artifacts,
        Identifier.isValid a.names.kernel = true ∧ Identifier.isValid a.names.wrapper = true) ∧
    ∀ i ∈ g.instantiations, Identifier.isValid i.function = true →
      Identifier.isValid (KernelNames.of o.name i).kernel = true ∧
        Identifier.isValid (KernelNames.of o.name i).wrapper = true := by
  refine ⟨?_, ?_, plan_eq g o, ?_, ?_⟩
  · have hrun := NameRegistry.registerAll_after base [] is
    refine ⟨_, _, hrun, by simp, by simp [NameRegistry.size, NameRegistry.after], ?_⟩
    intro k i hk
    simp [List.getElem?_zipIdx, hk, NameRegistry.outcome]
  · exact fun i j hij h => hij (KernelNames.of_injective h)
  · exact fun artifacts h => ⟨map_generateAll h, fun a ha => isValid_names_of_generateAll h ha⟩
  · intro i _ hfunction
    have hkernel := isValid_kernel o.name hfunction
    exact ⟨hkernel, isValid_wrapper hkernel⟩

/-- A cross product that is asked for twice: the second registration is known, and there is one
artifact. -/
theorem names_registered_planned_generated_sample :
    let names : KernelNames := ⟨"prog_MapPairsKernel_scale_1_Varity_1_Harity_1",
      "Wrapper_prog_MapPairsKernel_scale_1_Varity_1_Harity_1"⟩
    (∃ outcomes r, NameRegistry.registerAll ⟨"prog", []⟩ [samplePairs, samplePairs] =
      .ok (outcomes, r) ∧ outcomes[0]? = some (.new names) ∧
      outcomes[1]? = some (.existing names) ∧ r.size = 1) ∧
    ∃ a, generateAll (sampleMetadata [samplePairs, samplePairs]) sampleOptions = .ok [a] ∧
      a.names = names ∧ Identifier.isValid a.names.kernel = true := by
  intro names
  have hnames : names = KernelNames.of "prog" samplePairs := by cbv
  have hone : [samplePairs, samplePairs].eraseDups = [samplePairs] := by decide
  obtain ⟨⟨outcomes, r, hrun, -, hsize, houtcomes⟩, -, -, hartifacts, -⟩ :=
    names_registered_planned_generated "prog" [samplePairs, samplePairs]
      (sampleMetadata [samplePairs, samplePairs]) sampleOptions
  rw [hnames]
  refine ⟨⟨outcomes, r, hrun, houtcomes 0 samplePairs rfl, houtcomes 1 samplePairs rfl, ?_⟩, ?_⟩
  · rw [hsize, hone, List.length_singleton]
  · cases hall : generateAll (sampleMetadata [samplePairs, samplePairs]) sampleOptions with
    | error failure =>
      -- There is nothing but cross products, so generating cannot fail.
      have hcause := (generateAll_eq_error_iff (valid_sampleMetadata (by decide)) rfl
        (utf8ByteSize_sampleMetadata (by decide))).1 ⟨failure, hall⟩
      exact absurd hcause (by decide)
    | ok artifacts =>
      obtain ⟨hmap, hidentifiers⟩ := hartifacts artifacts hall
      rw [if_pos (by decide), sampleMetadata, hone] at hmap
      obtain ⟨a, rfl, ha⟩ := List.map_eq_singleton_iff.1 hmap
      exact ⟨a, rfl, congrArg (·.2.2.2) ha, (hidentifiers a List.mem_cons_self).1⟩

end KernelGen.Generation
