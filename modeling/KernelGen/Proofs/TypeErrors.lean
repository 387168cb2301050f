import KernelGen.Proofs.Renumbering

/-!
# Errors of the type graph

The dependencies of the stored types are looked up type by type, each in the order in which a type
names them, and the first that is unknown is the error. Only when all are known is there a graph in
which cycles are looked for.

* `MetadataGraph.DependenciesKnown`, `MetadataGraph.FirstUnknown`: all dependencies are stored
  types, or this is the first that is none.
* `typeGraph_eq_unknown_iff`, `DependenciesKnown.of_typeGraph_error`: the two errors.
* `of_typesFor_error`, `exists_rest_of_validate`: how they show where the types of a function are
  listed and where all metadata is validated.

At the end stands the check as a whole.
-/

namespace KernelGen.MetadataGraph

open Relation (TransGen)

variable {g : MetadataGraph} {f : UserFunction}

/-- All dependencies are stored types. -/
def DependenciesKnown (g : MetadataGraph) : Prop :=
  ∀ t ∈ g.types, ∀ name ∈ t.dependsOn, name ∈ g.types.map (·.name)

/-- A stored type names a dependency that is no stored type, and all that it names before and all
that the types before it name are stored types. -/
def FirstUnknown (g : MetadataGraph) (owner name : String) : Prop :=
  ∃ front t back before after, g.types = front ++ t :: back ∧ t.name = owner ∧
    t.dependsOn = before ++ name :: after ∧ name ∉ g.types.map (·.name) ∧
    (∀ dep ∈ before, dep ∈ g.types.map (·.name)) ∧
    ∀ t' ∈ front, ∀ dep ∈ t'.dependsOn, dep ∈ g.types.map (·.name)

/-! ## Unknown dependencies -/

/-- A name is that of no stored type. -/
def isUnknown (g : MetadataGraph) (name : String) : Bool :=
  (g.typeSlot? name).isNone

/-- A type names a dependency that is no stored type. -/
def hasUnknown (g : MetadataGraph) (t : UserType) : Bool :=
  t.dependsOn.any g.isUnknown

/-- A name is unknown exactly if no stored type has it. -/
theorem isUnknown_eq_true_iff {name : String} :
    g.isUnknown name = true ↔ name ∉ g.types.map (·.name) := by
  rw [isUnknown, ← Option.not_isSome, isSome_typeSlot?, Bool.not_eq_true', ← isSome_type?_iff,
    Bool.not_eq_true]

theorem isUnknown_eq_false_iff {name : String} :
    g.isUnknown name = false ↔ name ∈ g.types.map (·.name) := by
  rw [← Bool.not_eq_true, isUnknown_eq_true_iff, not_not]

/-- The error of some names is the first that is unknown. -/
theorem typeSlots_eq_error_iff {owner : String} {names : List String} {e : GenError} :
    g.typeSlots owner names = .error e ↔
      ∃ name, names.find? g.isUnknown = some name ∧ e = .unknownUserType owner name := by
  induction names with
  | nil => simp [typeSlots]
  | cons name names ih =>
    rw [typeSlots]
    cases hslot : g.typeSlot? name with
    | none => simp [isUnknown, hslot, eq_comm]
    | some slot =>
      rw [List.find?_cons_of_neg (by simp [isUnknown, hslot]), ← ih]
      cases g.typeSlots owner names <;> simp [Except.map]

/-- A type names an unknown dependency exactly if the search for one succeeds. -/
theorem hasUnknown_eq_true_iff {t : UserType} :
    g.hasUnknown t = true ↔ ∃ name, t.dependsOn.find? g.isUnknown = some name := by
  rw [hasUnknown, ← List.isSome_find?, Option.isSome_iff_exists]

theorem hasUnknown_of_mem {t : UserType} {name : String} (hdep : name ∈ t.dependsOn)
    (hname : name ∉ g.types.map (·.name)) : g.hasUnknown t = true :=
  List.any_eq_true.2 ⟨name, hdep, isUnknown_eq_true_iff.2 hname⟩

/-- A type names no unknown dependency exactly if all of them are stored types. -/
theorem hasUnknown_eq_false_iff {t : UserType} :
    g.hasUnknown t = false ↔ ∀ dep ∈ t.dependsOn, dep ∈ g.types.map (·.name) := by
  simp only [hasUnknown, List.any_eq_false, Bool.not_eq_true, isUnknown_eq_false_iff]

/-- The error of some types is the first unknown dependency of the first that has one. -/
theorem dependencySlots_eq_error_iff {types : List UserType} {e : GenError} :
    g.dependencySlots types = .error e ↔
      ∃ t name, types.find? g.hasUnknown = some t ∧
        t.dependsOn.find? g.isUnknown = some name ∧ e = .unknownUserType t.name name := by
  induction types with
  | nil => simp [dependencySlots]
  | cons t types ih =>
    rw [dependencySlots]
    cases hslots : g.typeSlots t.name t.dependsOn with
    | error e' =>
      obtain ⟨name, hname, rfl⟩ := typeSlots_eq_error_iff.1 hslots
      have hany : g.hasUnknown t = true := hasUnknown_eq_true_iff.2 ⟨name, hname⟩
      simp [List.find?_cons_of_pos, hany, hname, eq_comm]
    | ok slots =>
      have hnone : ¬ g.hasUnknown t = true := by
        intro hany
        obtain ⟨name, hname⟩ := hasUnknown_eq_true_iff.1 hany
        rw [typeSlots_eq_error_iff.2 ⟨name, hname, rfl⟩] at hslots
        cases hslots
      rw [List.find?_cons_of_neg hnone, ← ih]
      cases g.dependencySlots types <;> simp [Except.map]

/-- The first unknown dependency is found by looking for the type and then in it. -/
theorem firstUnknown_iff {owner name : String} :
    g.FirstUnknown owner name ↔
      ∃ t, g.types.find? g.hasUnknown = some t ∧
        t.dependsOn.find? g.isUnknown = some name ∧ t.name = owner := by
  simp only [List.find?_eq_some_iff_append, Bool.not_eq_true', isUnknown_eq_true_iff,
    isUnknown_eq_false_iff, hasUnknown_eq_false_iff]
  constructor
  · rintro ⟨front, t, back, before, after, htypes, rfl, hdeps, hname, hbefore, hfront⟩
    have hany : g.hasUnknown t = true := hasUnknown_of_mem (by simp [hdeps]) hname
    exact ⟨t, ⟨hany, front, back, htypes, hfront⟩, ⟨hname, before, after, hdeps, hbefore⟩, rfl⟩
  · rintro ⟨t, ⟨-, front, back, htypes, hfront⟩, ⟨hname, before, after, hdeps, hbefore⟩, rfl⟩
    exact ⟨front, t, back, before, after, htypes, rfl, hdeps, hname, hbefore, hfront⟩

/-- There is a first unknown dependency exactly if not all are known. -/
theorem exists_firstUnknown_iff :
    (∃ owner name, g.FirstUnknown owner name) ↔ ¬ g.DependenciesKnown := by
  constructor
  · rintro ⟨owner, name, front, t, back, before, after, htypes, -, hdeps, hname, -⟩ hknown
    exact hname (hknown t (by simp [htypes]) name (by simp [hdeps]))
  · intro h
    unfold DependenciesKnown at h
    push Not at h
    obtain ⟨t, ht, name, hdep, hname⟩ := h
    have hany : g.hasUnknown t = true := hasUnknown_of_mem hdep hname
    obtain ⟨t', ht'⟩ := Option.isSome_iff_exists.1 (List.find?_isSome.2 ⟨t, ht, hany⟩)
    obtain ⟨name', hname'⟩ := hasUnknown_eq_true_iff.1 (List.find?_some ht')
    exact ⟨_, _, firstUnknown_iff.2 ⟨t', ht', hname', rfl⟩⟩

/-! ## The two errors -/

/-- What the check comes to, by whether the dependencies are known. -/
theorem typeGraph_cases (g : MetadataGraph) :
    (∃ owner name, g.FirstUnknown owner name ∧ g.typeGraph = .error (.unknownUserType owner name)) ∨
    g.DependenciesKnown ∧ ((∃ d, g.typeGraph = .ok d) ∨
      ∃ t ∈ g.types, TransGen g.DependsOn t t ∧ g.typeGraph = .error (.typeCycle t.name)) := by
  cases hslots : g.dependencySlots g.types with
  | error e =>
    obtain ⟨t, name, ht, hname, rfl⟩ := dependencySlots_eq_error_iff.1 hslots
    refine .inl ⟨t.name, name, firstUnknown_iff.2 ⟨t, ht, hname, rfl⟩, ?_⟩
    rw [typeGraph, hslots]
  | ok slots =>
    have hknown : g.DependenciesKnown := by
      by_contra hnot
      obtain ⟨owner, name, hfirst⟩ := exists_firstUnknown_iff.2 hnot
      obtain ⟨t, ht, hname, rfl⟩ := firstUnknown_iff.1 hfirst
      rw [dependencySlots_eq_error_iff.2 ⟨t, name, ht, hname, rfl⟩] at hslots
      cases hslots
    refine .inr ⟨hknown, ?_⟩
    rw [typeGraph, hslots]
    dsimp only
    cases hcycle : Digraph.cycle? (n := g.types.length) ⟨fun v => slots.getD v []⟩ with
    | none => exact .inl ⟨_, rfl⟩
    | some v =>
      -- The reported place is on a cycle of places, so its type is on one of types.
      have hreturn : TransGen g.DependsOn (g.types.get v) (g.types.get v) :=
        (Digraph.transGen_of_cycle? hcycle).lift g.types.get fun _ _ => dependsOn_of_edge hslots
      exact .inr ⟨g.types.get v, List.get_mem g.types v, hreturn, rfl⟩

/-- Building the graph of types reports the first unknown dependency. -/
theorem typeGraph_eq_unknown_iff {owner name : String} :
    g.typeGraph = .error (.unknownUserType owner name) ↔ g.FirstUnknown owner name := by
  constructor
  · intro h
    obtain ⟨owner', name', hfirst, hunknown⟩ | ⟨-, ⟨d, hd⟩ | ⟨t, -, -, hcycle⟩⟩ := g.typeGraph_cases
    · obtain ⟨rfl, rfl⟩ := GenError.unknownUserType.inj (Except.error.inj (hunknown.symm.trans h))
      exact hfirst
    · cases hd.symm.trans h
    · cases hcycle.symm.trans h
  · intro h
    obtain ⟨t, ht, hname, rfl⟩ := firstUnknown_iff.1 h
    rw [typeGraph, dependencySlots_eq_error_iff.2 ⟨t, name, ht, hname, rfl⟩]

/-- If all dependencies are known, the only error is a type that depends on itself in some steps. -/
theorem DependenciesKnown.of_typeGraph_error (hknown : g.DependenciesKnown) {e : GenError}
    (h : g.typeGraph = .error e) :
    ∃ t ∈ g.types, TransGen g.DependsOn t t ∧ e = .typeCycle t.name := by
  obtain ⟨owner, name, hfirst, -⟩ | ⟨-, ⟨d, hd⟩ | ⟨t, ht, hreturn, hcycle⟩⟩ := g.typeGraph_cases
  · exact (exists_firstUnknown_iff.1 ⟨owner, name, hfirst⟩ hknown).elim
  · cases hd.symm.trans h
  · exact ⟨t, ht, hreturn, Except.error.inj (h.symm.trans hcycle)⟩

/-- A cycle is reported when all dependencies are known. -/
theorem dependenciesKnown_of_cycle {name : String} (h : g.typeGraph = .error (.typeCycle name)) :
    g.DependenciesKnown := by
  by_contra hnot
  obtain ⟨owner, unknown, hfirst⟩ := exists_firstUnknown_iff.2 hnot
  cases (typeGraph_eq_unknown_iff.2 hfirst).symm.trans h

/-! ## Where the errors show -/

/-- An error that is not about the dependencies of the types: it is no cycle of types, and a type
that it reports as unknown is one to which one of some functions refers. -/
def NotOfDependencies (g : MetadataGraph) (fs : List UserFunction) (e : GenError) : Prop :=
  (∀ name, e ≠ .typeCycle name) ∧
    ∀ owner name, e = .unknownUserType owner name →
      ∃ k ∈ fs, k.uniqueName = owner ∧ name ∈ k.referencedTypes ∧ name ∉ g.types.map (·.name)

section Places

variable {fs : List UserFunction} {e : GenError}

/-- An error of another kind. -/
theorem notOfDependencies (hcycle : ∀ name, e ≠ .typeCycle name)
    (hunknown : ∀ owner name, e ≠ .unknownUserType owner name) : g.NotOfDependencies fs e :=
  ⟨hcycle, fun owner name h => (hunknown owner name h).elim⟩

/-- A reference that is unknown. -/
theorem notOfDependencies_reference {k : UserFunction} {name : String} (hk : k ∈ fs)
    (hname : name ∈ k.referencedTypes) (hunknown : name ∉ g.types.map (·.name)) :
    g.NotOfDependencies fs (.unknownUserType k.uniqueName name) := by
  refine ⟨by simp, ?_⟩
  rintro _ _ ⟨⟩
  exact ⟨k, hk, rfl, hname, hunknown⟩

/-- Listing callees says nothing about types. -/
theorem notOfDependencies_callees (h : g.callees f = .error e) : g.NotOfDependencies fs e := by
  obtain ⟨k, rfl, -⟩ := onCycle_of_callees h
  exact notOfDependencies (by simp) (by simp)

/-- The types that functions refer to are reported for these functions. -/
theorem notOfDependencies_referencedSlots {ks : List UserFunction} (hks : ∀ k ∈ ks, k ∈ fs)
    (h : g.referencedSlots ks = .error e) : g.NotOfDependencies fs e := by
  induction ks with
  | nil => cases h
  | cons k ks ih =>
    rw [referencedSlots] at h
    cases hslots : g.typeSlots k.uniqueName k.referencedTypes with
    | error e' =>
      obtain rfl : e' = e := by simpa [hslots] using h
      obtain ⟨name, hname, rfl⟩ := typeSlots_eq_error_iff.1 hslots
      exact notOfDependencies_reference (hks k List.mem_cons_self) (List.mem_of_find?_eq_some hname)
        (isUnknown_eq_true_iff.1 (List.find?_some hname))
    | ok slots =>
      refine ih (fun k' hk' => hks k' (List.mem_cons_of_mem _ hk')) ?_
      cases hrest : g.referencedSlots ks with
      | error e' => simpa [hslots, hrest, Except.map] using h
      | ok rest => simp [hslots, hrest, Except.map] at h

/-- The types of a function cannot be listed because of the type graph, or for another reason. -/
theorem of_typesFor_error (h : g.typesFor f = .error e) :
    g.typeGraph = .error e ∨ g.NotOfDependencies (f :: g.functions) e := by
  unfold typesFor at h
  cases hgraph : g.typeGraph with
  | error e' => exact .inl (by simpa [hgraph] using h)
  | ok d =>
    right
    cases hcallees : g.callees f with
    | error e' =>
      obtain rfl : e' = e := by simpa [hgraph, hcallees] using h
      exact notOfDependencies_callees hcallees
    | ok callees =>
      -- The callees are stored functions.
      obtain ⟨w, rfl, hvisit⟩ := visited_of_callees hcallees
      have hstored : ∀ k ∈ f :: w.found.map (·.function), k ∈ f :: g.functions := by
        refine List.forall_mem_cons.2 ⟨List.mem_cons_self, fun k hk => List.mem_cons_of_mem _ ?_⟩
        obtain ⟨callee, hcallee, rfl⟩ := List.mem_map.1 hk
        exact mem_of_resolveCall? (hvisit.sound.resolves callee hcallee)
      cases hroots : g.referencedSlots (f :: w.found.map (·.function)) with
      | error e' =>
        obtain rfl : e' = e := by simpa [hgraph, hcallees, hroots] using h
        exact notOfDependencies_referencedSlots hstored hroots
      | ok roots => simp [hgraph, hcallees, hroots] at h

/-- Checking parameters says nothing about dependencies. -/
theorem notOfDependencies_paramErrors {function : String} {declared params : List String}
    (h : e ∈ paramErrors function declared params) : g.NotOfDependencies fs e := by
  induction params generalizing declared with
  | nil => cases h
  | cons param params ih =>
    rw [paramErrors, List.mem_append] at h
    rcases h with h | h
    · have hkinds : e = .duplicateParam function param ∨ e = .invalidIdentifier "parameter" param ∨
          e = .reservedName function param := by
        split_ifs at h <;> simp_all
      rcases hkinds with rfl | rfl | rfl <;> exact notOfDependencies (by simp) (by simp)
    · exact ih h

/-- Checking a stored function says nothing about dependencies. -/
theorem notOfDependencies_functionErrors {allowed : List String} (hf : f ∈ g.functions)
    (h : e ∈ g.functionErrors allowed f) : g.NotOfDependencies g.functions e := by
  simp only [functionErrors, List.mem_append, or_assoc] at h
  rcases h with h | h | h | h
  · split_ifs at h
    · cases h
    · obtain rfl := List.mem_singleton.1 h
      exact notOfDependencies (by simp) (by simp)
  · exact notOfDependencies_paramErrors h
  · obtain ⟨name, hname, rfl⟩ := List.mem_map.1 h
    obtain ⟨hname, hnone⟩ := List.mem_filter.1 hname
    refine notOfDependencies_reference hf hname fun hmem => ?_
    rw [← isSome_type?_iff] at hmem
    simp [Option.isNone_iff_eq_none.1 hnone] at hmem
  · obtain ⟨callee, -, rfl⟩ := List.mem_map.1 h
    exact notOfDependencies (by simp) (by simp)

/-- Binding says nothing about dependencies. -/
theorem notOfDependencies_bind {i : Instantiation} (h : g.bind i = .error (.error e)) :
    g.NotOfDependencies fs e := by
  unfold bind at h
  cases hfind : g.function? i.function with
  | none =>
    obtain rfl : GenError.unknownFunction i.function = e := by simpa [hfind] using h
    exact notOfDependencies (by simp) (by simp)
  | some f₀ =>
    rw [hfind] at h
    dsimp only at h
    -- Only the paired skeletons can fail, at the number of the parameters.
    split_ifs at h with hpaired
    split at h
    · cases h
    · split_ifs at h
      obtain rfl := Failure.error.inj (Except.error.inj h)
      exact notOfDependencies (by simp) (by simp)

/-- Checking an instantiation says nothing about dependencies. -/
theorem notOfDependencies_instantiationErrors {i : Instantiation} {errors : List GenError}
    (h : g.instantiationErrors i = .ok errors) (he : e ∈ errors) : g.NotOfDependencies fs e := by
  unfold instantiationErrors at h
  cases hbind : g.bind i with
  | ok k =>
    obtain rfl : errorOf (g.callees k) = errors := by simpa [hbind] using h
    cases hcallees : g.callees k with
    | ok callees => simp [hcallees, errorOf] at he
    | error e' =>
      obtain rfl : e = e' := by simpa [hcallees, errorOf] using he
      exact notOfDependencies_callees hcallees
  | error failure =>
    cases failure with
    | abort r => simp [hbind] at h
    | error e' =>
      obtain rfl : [e'] = errors := by simpa [hbind] using h
      obtain rfl := List.mem_singleton.1 he
      exact notOfDependencies_bind hbind

/-- Validation reports the error of the type graph first, and nothing else about dependencies. -/
theorem exists_rest_of_validate {allowed : List String} {errors : List GenError}
    (h : g.validate allowed = .ok errors) :
    ∃ rest, errors = errorOf g.typeGraph ++ rest ∧
      ∀ e ∈ rest, g.NotOfDependencies g.functions e := by
  unfold validate at h
  cases hinst : g.instantiations.mapM g.instantiationErrors with
  | error r => simp [hinst] at h
  | ok own =>
    rw [hinst] at h
    obtain rfl := Except.ok.inj h
    refine ⟨g.constantErrors ++ g.functions.flatMap (g.functionErrors allowed) ++ own.flatten,
      by simp, fun e he => ?_⟩
    simp only [List.mem_append, or_assoc] at he
    rcases he with he | he | he
    · obtain ⟨c, -, rfl⟩ := List.mem_map.1 he
      exact notOfDependencies (by simp) (by simp)
    · obtain ⟨k, hk, he⟩ := List.mem_flatMap.1 he
      exact notOfDependencies_functionErrors hk he
    · obtain ⟨errors, herrors, he⟩ := List.mem_flatten.1 he
      obtain ⟨i, -, hi⟩ := exists_of_mem_of_mapM_eq_ok hinst herrors
      exact notOfDependencies_instantiationErrors hi he

end Places

/-- The check of the types, and how it shows. If a dependency is unknown, the first one is reported;
otherwise the check succeeds exactly if no type depends on itself in some steps, and a type that is
reported is one that does. The types of a function cannot be listed if the check fails, and
validation begins with its error; what else they report is not about dependencies. -/
theorem typeGraph_exact (g : MetadataGraph) :
    ((∃ t ∈ g.types, ∃ name ∈ t.dependsOn, name ∉ g.types.map (·.name)) →
      ∃ owner name, g.FirstUnknown owner name) ∧
    (∀ owner name,
      g.typeGraph = .error (.unknownUserType owner name) ↔ g.FirstUnknown owner name) ∧
    (g.DependenciesKnown →
      ((∃ d, g.typeGraph = .ok d) ↔ ∀ t ∈ g.types, ¬ TransGen g.DependsOn t t) ∧
      ∀ e, g.typeGraph = .error e → ∃ name, e = .typeCycle name) ∧
    (∀ name, g.typeGraph = .error (.typeCycle name) →
      ∃ t ∈ g.types, t.name = name ∧ TransGen g.DependsOn t t) ∧
    (∀ f e, g.typeGraph = .error e → g.typesFor f = .error e) ∧
    (∀ f e, g.typesFor f = .error e →
      g.typeGraph = .error e ∨ g.NotOfDependencies (f :: g.functions) e) ∧
    (∀ allowed errors, g.validate allowed = .ok errors →
      ∃ rest, errors = errorOf g.typeGraph ++ rest ∧
        ∀ e ∈ rest, g.NotOfDependencies g.functions e) ∧
    ((∀ i ∈ g.instantiations, i.skeleton.isPaired = true →
        i.varity.toNat + i.harity.toNat < 2 ^ 64) →
      ∀ allowed, ∃ errors, g.validate allowed = .ok errors) := by
  refine ⟨?_, fun _ _ => typeGraph_eq_unknown_iff, fun hknown => ⟨?_, ?_⟩, ?_, ?_,
    fun _ _ => of_typesFor_error, fun _ _ => exists_rest_of_validate, fun h _ => exists_validate h⟩
  · rintro ⟨t, ht, name, hdep, hname⟩
    exact exists_firstUnknown_iff.2 fun hknown => hname (hknown t ht name hdep)
  · rw [exists_typeGraph_iff]
    exact and_iff_right hknown
  · intro e he
    obtain ⟨t, -, -, rfl⟩ := hknown.of_typeGraph_error he
    exact ⟨t.name, rfl⟩
  · intro name h
    obtain ⟨t, ht, hreturn, hname⟩ := (dependenciesKnown_of_cycle h).of_typeGraph_error h
    exact ⟨t, ht, (GenError.typeCycle.inj hname).symm, hreturn⟩
  · intro f e h
    rw [typesFor, h]

/-- The types that lead to a cycle are not reported, only one that is on it. -/
example : errorOf (typeGraph { types := [⟨"Grid", "", ["Mesh"]⟩, ⟨"Mesh", "", ["Node"]⟩,
    ⟨"Node", "", ["Mesh"]⟩, ⟨"Scene", "", ["Grid"]⟩] }) = [.typeCycle "Node"] := by
  cbv

end KernelGen.MetadataGraph
