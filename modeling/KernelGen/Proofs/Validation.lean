import KernelGen.Graph.Validation
import KernelGen.Proofs.CallArguments
import KernelGen.Proofs.TypeOrder

/-!
# What validation makes sure of

Validation lists errors. Here an empty list is read as a statement about the metadata.

* `mapM_eq_ok_iff`, `exists_of_mapM_eq_error`: when a list of operations succeeds, and where it
  fails.
* `MetadataGraph.function?_of_bind`, `MetadataGraph.bind_ne_abort`: what a bound function is, for
  every skeleton, and that a shape which fits in a word does not break binding off.
* `MetadataGraph.Valid`, `validate_eq_nil_iff`: what holds of metadata without errors.
* `Valid.exists_typesFor`: the types that an instantiation needs can then be listed, those of its
  callees included.
-/

namespace KernelGen

/-! ## Lists of operations -/

section Traversal

variable {α β ε : Type} {f : α → Except ε β}

theorem mapM_cons_eq_ok_iff {a : α} {l : List α} {bs : List β} :
    (a :: l).mapM f = .ok bs ↔ ∃ b rest, f a = .ok b ∧ l.mapM f = .ok rest ∧ bs = b :: rest := by
  rw [List.mapM_cons]
  cases f a with
  | error e => simp [bind, Except.bind]
  | ok b =>
    cases l.mapM f with
    | error e => simp [bind, Except.bind]
    | ok rest => simp [bind, Except.bind, pure, Except.pure, eq_comm]

/-- A list of results is there exactly if every element gives its own. -/
theorem mapM_eq_ok_iff {l : List α} {bs : List β} :
    l.mapM f = .ok bs ↔ List.Forall₂ (fun a b => f a = .ok b) l bs := by
  induction l generalizing bs with
  | nil => simp [pure, Except.pure, eq_comm]
  | cons a l ih => simp only [mapM_cons_eq_ok_iff, ih, List.forall₂_cons_left_iff]

/-- A list of operations fails with the error of one of them. -/
theorem exists_of_mapM_eq_error {l : List α} {e : ε} (h : l.mapM f = .error e) :
    ∃ a ∈ l, f a = .error e := by
  induction l with
  | nil => cases h
  | cons a l ih =>
    cases ha : f a with
    | error e' =>
      obtain rfl : e' = e := by simpa [List.mapM_cons, bind, Except.bind, ha] using h
      exact ⟨a, List.mem_cons_self, ha⟩
    | ok b =>
      -- The first operation succeeds, so the failure is one of the others.
      have hrest : l.mapM f = .error e := by
        cases hl : l.mapM f with
        | error e' => simpa [List.mapM_cons, bind, Except.bind, ha, hl] using h
        | ok rest => simp [mapM_cons_eq_ok_iff.2 ⟨b, rest, ha, hl, rfl⟩] at h
      obtain ⟨a', ha', hfail⟩ := ih hrest
      exact ⟨a', List.mem_cons_of_mem _ ha', hfail⟩

/-- Each operation of a list that succeeds contributes its result. -/
theorem exists_mem_of_mapM_eq_ok {l : List α} {bs : List β} (h : l.mapM f = .ok bs) {a : α}
    (ha : a ∈ l) : ∃ b ∈ bs, f a = .ok b := by
  have hall := mapM_eq_ok_iff.1 h
  obtain ⟨k, hk, rfl⟩ := List.mem_iff_getElem.1 ha
  have hk' : k < bs.length := hall.length_eq ▸ hk
  exact ⟨bs.get ⟨k, hk'⟩, List.get_mem _ _, (List.forall₂_iff_get.1 hall).2 k hk hk'⟩

/-- Each result of a list of operations comes from one of them. -/
theorem exists_of_mem_of_mapM_eq_ok {l : List α} {bs : List β} (h : l.mapM f = .ok bs) {b : β}
    (hb : b ∈ bs) : ∃ a ∈ l, f a = .ok b := by
  have hall := mapM_eq_ok_iff.1 h
  obtain ⟨k, hk, rfl⟩ := List.mem_iff_getElem.1 hb
  have hk' : k < l.length := hall.length_eq ▸ hk
  exact ⟨l.get ⟨k, hk'⟩, List.get_mem _ _, (List.forall₂_iff_get.1 hall).2 k hk' hk⟩

/-- What can be told of a result from its operation can be told of all results in order. -/
theorem map_eq_of_mapM_eq_ok {γ : Type} {key : β → γ} {source : α → γ} {l : List α} {bs : List β}
    (h : l.mapM f = .ok bs) (hkey : ∀ a b, f a = .ok b → key b = source a) :
    bs.map key = l.map source := by
  have hall := mapM_eq_ok_iff.1 h
  induction hall with
  | nil => rfl
  | cons hab _ ih =>
    obtain ⟨b, rest, -, hrest, hcons⟩ := mapM_cons_eq_ok_iff.1 h
    obtain ⟨rfl, rfl⟩ := List.cons.inj hcons
    rw [List.map_cons, List.map_cons, hkey _ _ hab, ih hrest]

/-- If every element gives a result, so does the list. -/
theorem exists_mapM_eq_ok {l : List α} (h : ∀ a ∈ l, ∃ b, f a = .ok b) :
    ∃ bs, l.mapM f = .ok bs := by
  cases hl : l.mapM f with
  | ok bs => exact ⟨bs, rfl⟩
  | error e =>
    obtain ⟨a, ha, hfail⟩ := exists_of_mapM_eq_error hl
    obtain ⟨b, hb⟩ := h a ha
    rw [hfail] at hb
    cases hb

end Traversal

namespace MetadataGraph

variable {g : MetadataGraph} {allowed : List String} {i : Instantiation} {f : UserFunction}

/-! ## Binding -/

/-- A bound function is the one that is found, up to the sides of its elementwise parameters. -/
theorem function?_of_bind (h : g.bind i = .ok f) :
    ∃ f₀, g.function? i.function = some f₀ ∧ f = { f₀ with elementwise := f.elementwise } := by
  unfold bind at h
  cases hfind : g.function? i.function with
  | none => simp [hfind] at h
  | some f₀ =>
    rw [hfind] at h
    dsimp only at h
    -- Only the paired skeletons touch the function, and only its elementwise parameters.
    split at h
    · split at h
      · cases h
      · split at h
        · obtain rfl := Except.ok.inj h
          exact ⟨f₀, rfl, rfl⟩
        · cases h
    · obtain rfl := Except.ok.inj h
      exact ⟨f₀, rfl, rfl⟩

/-- A bound function is stored under the name that the instantiation gives. -/
theorem bind_eq_ok (h : g.bind i = .ok f) : g.Stores f ∧ f.uniqueName = i.function := by
  obtain ⟨f₀, hfind, hsame⟩ := function?_of_bind h
  have hname : f₀.uniqueName = i.function := by simpa using List.find?_some hfind
  refine ⟨⟨f₀, mem_of_function? hfind, hsame⟩, ?_⟩
  rw [hsame]
  exact hname

/-- Binding is not broken off if the sum of the two sides is a word. -/
theorem bind_ne_abort
    (h : i.skeleton.isPaired = true → i.varity.toNat + i.harity.toNat < 2 ^ 64) (r : Abort) :
    g.bind i ≠ .error (.abort r) := by
  unfold bind
  cases g.function? i.function with
  | none => simp
  | some f₀ =>
    by_cases hpaired : i.skeleton.isPaired = true
    · have hsum : i.shape.arity = .ok (i.varity + i.harity) := if_pos (h hpaired)
      simp only [hpaired, if_true, hsum]
      split <;> simp
    · simp [hpaired]

/-! ## Metadata without errors -/

/-- What holds of metadata in which validation finds no error. -/
structure Valid (g : MetadataGraph) (allowed : List String) : Prop where
  /-- The types have a dependency graph without cycles. -/
  typeGraph : ∃ d, g.typeGraph = .ok d
  /-- The constants are identifiers. -/
  constants : ∀ c ∈ g.constants, Identifier.isValid c.name = true
  /-- The functions have no errors. -/
  functions : ∀ f ∈ g.functions, g.functionErrors allowed f = []
  /-- The instantiations can be bound, and the callees of their functions listed. -/
  instantiations : ∀ i ∈ g.instantiations,
    ∃ f callees, g.bind i = .ok f ∧ g.callees f = .ok callees

theorem errorOf_eq_nil_iff {α : Type} {r : Except GenError α} :
    errorOf r = [] ↔ ∃ a, r = .ok a := by
  cases r <;> simp [errorOf]

/-- An instantiation passes exactly if it binds and its callees can be listed. -/
theorem instantiationErrors_eq_nil_iff :
    g.instantiationErrors i = .ok [] ↔
      ∃ f callees, g.bind i = .ok f ∧ g.callees f = .ok callees := by
  unfold instantiationErrors
  cases hbind : g.bind i with
  | ok f => simp [errorOf_eq_nil_iff]
  | error failure => cases failure <;> simp

/-- The constants pass exactly if their names are identifiers. -/
theorem constantErrors_eq_nil_iff :
    g.constantErrors = [] ↔ ∀ c ∈ g.constants, Identifier.isValid c.name = true := by
  simp [constantErrors, List.filter_eq_nil_iff]

/-- The parameter names have no errors exactly if they are pairwise different identifiers that are
not kept for the generator, and new. -/
theorem paramErrors_eq_nil_iff {function : String} {declared params : List String} :
    paramErrors function declared params = [] ↔
      params.Nodup ∧ ∀ name ∈ params, name ∉ declared ∧ Identifier.isValid name = true ∧
        Identifier.isReserved name = false := by
  induction params generalizing declared with
  | nil => simp [paramErrors]
  | cons param params ih =>
    have hfirst : (if param ∈ declared then [GenError.duplicateParam function param]
        else if !Identifier.isValid param then [.invalidIdentifier "parameter" param]
        else if Identifier.isReserved param then [.reservedName function param]
        else []) = [] ↔ param ∉ declared ∧ Identifier.isValid param = true ∧
          Identifier.isReserved param = false := by
      by_cases hdeclared : param ∈ declared
      · simp [hdeclared]
      · cases Identifier.isValid param <;> cases Identifier.isReserved param <;> simp [hdeclared]
    rw [paramErrors, List.append_eq_nil_iff, hfirst, ih, List.nodup_cons, List.forall_mem_cons]
    simp only [List.mem_cons, not_or]
    grind

/-- Validation reports no error exactly of valid metadata. -/
theorem validate_eq_nil_iff : g.validate allowed = .ok [] ↔ g.Valid allowed := by
  unfold validate
  constructor
  · intro h
    cases hinst : g.instantiations.mapM g.instantiationErrors with
    | error r => simp [hinst] at h
    | ok errors =>
      rw [hinst] at h
      have hnil := Except.ok.inj h
      simp only [List.append_eq_nil_iff] at hnil
      obtain ⟨⟨⟨htypes, hconstants⟩, hfunctions⟩, herrors⟩ := hnil
      refine ⟨errorOf_eq_nil_iff.1 htypes, constantErrors_eq_nil_iff.1 hconstants,
        List.flatMap_eq_nil_iff.1 hfunctions, fun i hi => ?_⟩
      -- The errors of the instantiation are among those that were collected.
      obtain ⟨own, hown, hone⟩ := exists_mem_of_mapM_eq_ok hinst hi
      rw [List.flatten_eq_nil_iff.1 herrors own hown] at hone
      exact instantiationErrors_eq_nil_iff.1 hone
  · rintro ⟨htypes, hconstants, hfunctions, hinst⟩
    -- Every instantiation contributes an empty list.
    have hok : g.instantiations.mapM g.instantiationErrors =
        .ok (List.replicate g.instantiations.length []) := by
      rw [mapM_eq_ok_iff, List.forall₂_iff_get]
      refine ⟨by simp, fun k hk hk' => ?_⟩
      rw [List.get_eq_getElem, List.get_eq_getElem, List.getElem_replicate]
      exact instantiationErrors_eq_nil_iff.2 (hinst _ (List.getElem_mem hk))
    rw [hok, errorOf_eq_nil_iff.2 htypes, constantErrors_eq_nil_iff.2 hconstants,
      List.flatMap_eq_nil_iff.2 hfunctions]
    simp

/-- Validation is not broken off if every shape fits in a word. -/
theorem exists_validate (h : ∀ i ∈ g.instantiations, i.skeleton.isPaired = true →
    i.varity.toNat + i.harity.toNat < 2 ^ 64) : ∃ errors, g.validate allowed = .ok errors := by
  -- Only binding could break off, at the sum of the two sides.
  have hinst : ∀ i ∈ g.instantiations, ∃ errors, g.instantiationErrors i = .ok errors := by
    intro i hi
    unfold instantiationErrors
    cases hbind : g.bind i with
    | ok f => exact ⟨_, rfl⟩
    | error failure =>
      cases failure with
      | error e => exact ⟨_, rfl⟩
      | abort r => exact absurd hbind (bind_ne_abort (h i hi) r)
  obtain ⟨errors, herrors⟩ := exists_mapM_eq_ok hinst
  unfold validate
  rw [herrors]
  exact ⟨_, rfl⟩

/-! ## The types of valid metadata -/

theorem isSome_typeSlot? (g : MetadataGraph) (name : String) :
    (g.typeSlot? name).isSome = (g.type? name).isSome := by
  rw [typeSlot?, type?, List.isSome_findFinIdx?, List.isSome_find?]

/-- Stored types have places in the list of types. -/
theorem exists_typeSlots (owner : String) {names : List String}
    (h : ∀ name ∈ names, (g.type? name).isSome = true) :
    ∃ slots, g.typeSlots owner names = .ok slots := by
  induction names with
  | nil => exact ⟨[], rfl⟩
  | cons name names ih =>
    have hname := h name List.mem_cons_self
    rw [← isSome_typeSlot?] at hname
    obtain ⟨slot, hslot⟩ := Option.isSome_iff_exists.1 hname
    obtain ⟨slots, hslots⟩ := ih fun name' hname' => h name' (List.mem_cons_of_mem _ hname')
    refine ⟨slot :: slots, ?_⟩
    simp only [typeSlots, hslot, hslots]
    rfl

/-- The types that some functions refer to have places if they are known. -/
theorem exists_referencedSlots {fs : List UserFunction}
    (h : ∀ f ∈ fs, ∀ name ∈ f.referencedTypes, (g.type? name).isSome = true) :
    ∃ slots, g.referencedSlots fs = .ok slots := by
  induction fs with
  | nil => exact ⟨[], rfl⟩
  | cons f fs ih =>
    obtain ⟨first, hfirst⟩ := exists_typeSlots f.uniqueName (h f List.mem_cons_self)
    obtain ⟨rest, hrest⟩ := ih fun f' hf' => h f' (List.mem_cons_of_mem _ hf')
    refine ⟨first ++ rest, ?_⟩
    simp only [referencedSlots, hfirst, hrest]
    rfl

namespace Valid

/-- In a valid graph the types that a function refers to are stored. -/
theorem isSome_type? (hg : g.Valid allowed) (hf : f ∈ g.functions) {name : String}
    (hname : name ∈ f.referencedTypes) : (g.type? name).isSome = true := by
  have herrors := hg.functions f hf
  simp only [functionErrors, List.append_eq_nil_iff, List.map_eq_nil_iff,
    List.filter_eq_nil_iff] at herrors
  simpa [← Option.isSome_iff_ne_none] using herrors.1.2 name hname

/-- In a valid graph the unique name of a function is an identifier. -/
theorem isValid_uniqueName (hg : g.Valid allowed) (hf : f ∈ g.functions) :
    Identifier.isValid f.uniqueName = true := by
  have herrors := hg.functions f hf
  simp only [functionErrors, List.append_eq_nil_iff] at herrors
  by_contra hname
  simp [hname] at herrors

/-- The parameter names of a function are pairwise different, and not kept for the generator. -/
theorem paramNames (hg : g.Valid allowed) (hf : f ∈ g.functions) :
    f.paramNames.Nodup ∧ ∀ name ∈ f.paramNames, Identifier.isReserved name = false := by
  have herrors := hg.functions f hf
  simp only [functionErrors, List.append_eq_nil_iff] at herrors
  obtain ⟨hnodup, hnames⟩ := paramErrors_eq_nil_iff.1 herrors.1.1.2
  exact ⟨hnodup, fun name hname => (hnames name hname).2.2⟩

/-- The types of a function can be listed, if it is stored and its callees can be listed. Its
callees are stored, so that their references are known like its own. -/
theorem exists_typesFor (hg : g.Valid allowed) (hf : g.Stores f) {callees : List Callee}
    (hcallees : g.callees f = .ok callees) : ∃ types, g.typesFor f = .ok types := by
  obtain ⟨d, hd⟩ := hg.typeGraph
  obtain ⟨f₀, hf₀, hsame⟩ := hf
  have hknown : ∀ k ∈ f :: callees.map (·.function), ∀ name ∈ k.referencedTypes,
      (g.type? name).isSome = true := by
    intro k hk name hname
    rcases List.mem_cons.1 hk with rfl | hk
    · rw [hsame] at hname
      exact hg.isSome_type? hf₀ hname
    · obtain ⟨c, hc, rfl⟩ := List.mem_map.1 hk
      obtain ⟨w, rfl, hvisit⟩ := visited_of_callees hcallees
      exact hg.isSome_type? (mem_of_resolveCall? (hvisit.sound.resolves c hc)) hname
  obtain ⟨roots, hroots⟩ := exists_referencedSlots hknown
  unfold typesFor
  simp only [hd, hcallees, hroots]
  exact ⟨_, rfl⟩

end Valid

end MetadataGraph

end KernelGen
