import KernelGen.Manifest.Document
import KernelGen.Proofs.Agreement
import KernelGen.Proofs.Generation
import KernelGen.Proofs.Renumbering

/-!
# The order of declarations

Types and functions are looked up by their names. If the names are pairwise different, it does not
matter in which order they were declared: what a call means, what a kernel needs and what is wrong
with the metadata are the same, and so are the artifacts.

* `find?_key_of_perm`: an entry is found by its key in any order.
* `MetadataGraph.Reorders`: two graphs with the same declarations in different orders.
* `MetadataGraph.Reorders.valid`, `Generation.generateAll_of_reorders`: validation and generation do
  not depend on the order.
* `Manifest.types_toGraph`, `Manifest.functions_toGraph`: the graph of a manifest without repeated
  names stores its declarations as they are.
-/

namespace KernelGen

/-! ## Looking up by a key -/

section Keys

variable {α : Type} {key : α → String} {l l' : List α} {name : String}

/-- If keys are pairwise different, the entry that is found is the one with the key. -/
theorem find?_key_eq_some_iff (hnodup : (l.map key).Nodup) {a : α} :
    l.find? (key · == name) = some a ↔ a ∈ l ∧ key a = name := by
  constructor
  · intro h
    exact ⟨List.mem_of_find?_eq_some h, by simpa using List.find?_some h⟩
  · rintro ⟨ha, rfl⟩
    have hsome : (l.find? (key · == key a)).isSome = true :=
      List.find?_isSome.2 ⟨a, ha, beq_self_eq_true _⟩
    obtain ⟨b, hb⟩ := Option.isSome_iff_exists.1 hsome
    have hkey : key b = key a := by simpa using List.find?_some hb
    rw [hb, List.inj_on_of_nodup_map hnodup (List.mem_of_find?_eq_some hb) ha hkey]

/-- An entry is found by its key in any order. -/
theorem find?_key_of_perm (hperm : l'.Perm l) (hnodup : (l.map key).Nodup) (name : String) :
    l'.find? (key · == name) = l.find? (key · == name) := by
  have hnodup' : (l'.map key).Nodup := (hperm.map key).nodup_iff.2 hnodup
  ext a
  rw [find?_key_eq_some_iff hnodup', find?_key_eq_some_iff hnodup, hperm.mem_iff]

/-- An entry with a new key goes to the end. -/
theorem insertByKey_of_notMem {a : α} (ha : key a ∉ l.map key) :
    insertByKey key a l = l ++ [a] := by
  induction l with
  | nil => rfl
  | cons b l ih =>
    rw [List.map_cons, List.mem_cons, not_or] at ha
    rw [insertByKey, if_neg (Ne.symm ha.1), ih ha.2, List.cons_append]

/-- Entries with new keys are added in order. -/
theorem foldl_insertByKey {more : List α} (hnodup : ((l ++ more).map key).Nodup) :
    more.foldl (fun l a => insertByKey key a l) l = l ++ more := by
  induction more generalizing l with
  | nil => simp
  | cons a more ih =>
    -- The first of them joins the list, and the others are new to the longer list.
    have hsplit : l ++ a :: more = (l ++ [a]) ++ more := by simp
    have hnew : key a ∉ l.map key := by
      rw [List.map_append, List.map_cons, List.nodup_append] at hnodup
      exact fun hmem => hnodup.2.2 _ hmem _ List.mem_cons_self rfl
    rw [List.foldl_cons, insertByKey_of_notMem hnew, hsplit]
    exact ih (hsplit ▸ hnodup)

end Keys

namespace MetadataGraph

variable {g g' : MetadataGraph} {allowed : List String} {f : UserFunction}

/-- Two graphs have the same declarations: the types and the functions in any order, the constants
and the instantiations as they are. The functions have different plain names, so that a call by
such a name means the same one in both. -/
structure Reorders (g g' : MetadataGraph) : Prop where
  /-- The types are the same. -/
  types : g'.types.Perm g.types
  /-- The functions are the same. -/
  functions : g'.functions.Perm g.functions
  /-- The constants are the same, in order. -/
  constants : g'.constants = g.constants
  /-- The instantiations are the same, in order. -/
  instantiations : g'.instantiations = g.instantiations
  /-- No two functions have one plain name. -/
  names_nodup : (g.functions.map (·.name)).Nodup

namespace Reorders

theorem symm (h : g.Reorders g') : g'.Reorders g where
  types := h.types.symm
  functions := h.functions.symm
  constants := h.constants.symm
  instantiations := h.instantiations.symm
  names_nodup := (h.functions.map _).nodup_iff.2 h.names_nodup

variable (h : g.Reorders g')
include h

theorem function?_eq (u : String) : g'.function? u = g.function? u :=
  find?_key_of_perm h.functions g.functions_nodup u

theorem type?_eq (name : String) : g'.type? name = g.type? name :=
  find?_key_of_perm h.types g.types_nodup name

/-- A call means the same function. -/
theorem resolveCall?_eq (call : String) : g'.resolveCall? call = g.resolveCall? call := by
  unfold resolveCall?
  rw [h.function?_eq, find?_key_of_perm h.functions h.names_nodup]

/-- Binding does not depend on the order of the declarations. -/
theorem bind_eq (i : Instantiation) : g'.bind i = g.bind i := by
  unfold bind
  rw [h.function?_eq]

/-- The callees of a function are the same. -/
theorem callees_eq {list : List Callee} (hlist : g.callees f = .ok list) :
    g'.callees f = .ok list := by
  -- All calls mean the same functions, so nothing is asked of those that are listed.
  have hsame : SameCalls (fun _ => True) g g' := by
    intro call
    rw [h.resolveCall?_eq]
    cases g.resolveCall? call with
    | none => exact .none
    | some k => exact .some ⟨rfl, fun _ => rfl⟩
  exact callees_of_sameCalls hsame hlist fun _ _ => trivial

/-- Checking a function does not depend on the order of the declarations. -/
theorem functionErrors_eq (allowed : List String) (f : UserFunction) :
    g'.functionErrors allowed f = g.functionErrors allowed f := by
  unfold functionErrors
  simp only [h.type?_eq, h.resolveCall?_eq]

/-- Valid metadata are valid in any order. -/
theorem valid (hg : g.Valid allowed) : g'.Valid allowed where
  typeGraph := exists_typeGraph_of_perm h.types hg.typeGraph
  constants := by
    rw [h.constants]
    exact hg.constants
  functions f hf := by
    rw [h.functionErrors_eq]
    exact hg.functions f (h.functions.mem_iff.1 hf)
  instantiations i hi := by
    rw [h.instantiations] at hi
    obtain ⟨f, callees, hbind, hcallees⟩ := hg.instantiations i hi
    exact ⟨f, callees, (h.bind_eq i).trans hbind, h.callees_eq hcallees⟩

/-- A function that can be lowered is lowered to the same artifact in any order. -/
theorem lower_eq {r : LoweringRequest} {a : Artifact} (ha : Artifact.lower g r = .ok a) :
    Artifact.lower g' r = .ok a := by
  obtain ⟨-, source, delim, htext, -, -⟩ := Artifact.lower_eq_ok_iff.1 ha
  obtain ⟨callees, types, hcallees, htypes, -⟩ := KernelSource.text_eq_ok_iff.1 htext
  have hcallees' : g'.callees r.function = g.callees r.function :=
    (h.callees_eq hcallees).trans hcallees.symm
  have htypes' : g'.typesFor r.function = g.typesFor r.function :=
    (typesFor_of_perm h.types hcallees' htypes).trans htypes.symm
  rw [Artifact.lower_congr hcallees' htypes' h.constants, ha]

end Reorders

end MetadataGraph

/-! ## Generating -/

namespace Generation

variable {g g' : MetadataGraph} {o : Options}

/-- A job that is lowered for one order is lowered in the same way for another. -/
theorem lowerJob_of_reorders (h : g.Reorders g') {b : Backend} {j : Job} {a : Artifact}
    (ha : lowerJob g o b j = .ok a) : lowerJob g' o b j = .ok a := by
  unfold lowerJob at ha ⊢
  rw [h.bind_eq]
  cases hbind : g.bind j.instantiation with
  | error failure => cases failure <;> simp [hbind] at ha
  | ok f =>
    cases hlower : Artifact.lower g (j.request o f) with
    | error e => simp [hbind, hlower] at ha
    | ok a' =>
      obtain rfl : a' = a := by simpa [hbind, hlower] using ha
      simp only [h.lower_eq hlower]

/-- Generating succeeds with the same artifacts in any order. -/
theorem generateAll_of_reorders (h : g.Reorders g') {artifacts : List Artifact}
    (hall : generateAll g o = .ok artifacts) : generateAll g' o = .ok artifacts := by
  obtain ⟨hg, hbackends⟩ := valid_of_generateAll hall
  -- The backends and the plan depend on the instantiations only, which are the same.
  have hbackends' : kernelBackends g' o = .ok (deviceBackends o) := by
    rw [kernelBackends_eq, h.instantiations, ← kernelBackends_eq, hbackends]
  rw [generateAll_of_valid hg hbackends, lowerAll, mapM_eq_ok_iff] at hall
  rw [generateAll_of_valid (h.valid hg) hbackends', h.instantiations, lowerAll, mapM_eq_ok_iff]
  exact hall.imp fun _ _ => lowerJob_of_reorders h

end Generation

/-! ## Manifests -/

namespace Manifest

open Generation MetadataGraph

/-- What no addition changes is not changed by many. -/
theorem foldl_field {β γ : Type} (field : MetadataGraph → γ)
    (add : MetadataGraph → β → MetadataGraph) (hadd : ∀ g b, field (add g b) = field g)
    (g : MetadataGraph) (bs : List β) :
    field (bs.foldl add g) = field g := by
  induction bs generalizing g with
  | nil => rfl
  | cons b bs ih => rw [List.foldl_cons, ih, hadd]

/-- What every addition is put at the end of has all of them there. -/
theorem foldl_append_field {β : Type} (field : MetadataGraph → List β)
    (add : MetadataGraph → β → MetadataGraph) (hadd : ∀ g b, field (add g b) = field g ++ [b])
    (g : MetadataGraph) (bs : List β) : field (bs.foldl add g) = field g ++ bs := by
  induction bs generalizing g with
  | nil => simp
  | cons b bs ih => rw [List.foldl_cons, ih, hadd, List.append_assoc, List.singleton_append]

variable {m m' : Manifest}

/-- Types of different names are stored in their order. -/
theorem types_toGraph (h : (m.types.map (·.name)).Nodup) : m.toGraph.types = m.types := by
  have hfold : (m.types.foldl addType {}).types =
      m.types.foldl (fun l t => insertByKey (·.name) t l) [] :=
    (List.foldl_hom MetadataGraph.types (fun _ _ => rfl)).symm
  unfold toGraph
  rw [foldl_field (·.types) .addInstantiation fun _ _ => rfl,
    foldl_field (·.types) .addFunction fun _ _ => rfl,
    foldl_field (·.types) .addConstant fun _ _ => rfl, hfold]
  exact foldl_insertByKey h

/-- Functions of different unique names are stored in their order. -/
theorem functions_toGraph (h : (m.functions.map (·.uniqueName)).Nodup) :
    m.toGraph.functions = m.functions := by
  let before : MetadataGraph := m.constants.foldl .addConstant (m.types.foldl .addType {})
  have hbefore : before.functions = [] :=
    (foldl_field (·.functions) .addConstant (fun _ _ => rfl) _ _).trans
      (foldl_field (·.functions) .addType (fun _ _ => rfl) _ _)
  have hfold : (m.functions.foldl .addFunction before).functions =
      m.functions.foldl (fun l f => insertByKey (·.uniqueName) f l) before.functions :=
    (List.foldl_hom MetadataGraph.functions (fun _ _ => rfl)).symm
  unfold toGraph
  rw [foldl_field (·.functions) .addInstantiation fun _ _ => rfl]
  rw [hbefore] at hfold
  exact hfold.trans (foldl_insertByKey h)

/-- The constants of a manifest are stored as they are listed. -/
theorem constants_toGraph (m : Manifest) : m.toGraph.constants = m.constants := by
  unfold toGraph
  rw [foldl_field (·.constants) .addInstantiation fun _ _ => rfl,
    foldl_field (·.constants) .addFunction fun _ _ => rfl,
    foldl_append_field (·.constants) .addConstant fun _ _ => rfl,
    foldl_field (·.constants) .addType fun _ _ => rfl]
  rfl

/-- The instantiations of a manifest are stored as they are listed. -/
theorem instantiations_toGraph (m : Manifest) : m.toGraph.instantiations = m.instantiations := by
  unfold toGraph
  rw [foldl_append_field (·.instantiations) .addInstantiation fun _ _ => rfl,
    foldl_field (·.instantiations) .addFunction fun _ _ => rfl,
    foldl_field (·.instantiations) .addConstant fun _ _ => rfl,
    foldl_field (·.instantiations) .addType fun _ _ => rfl]
  rfl

/-- The order of declarations does not matter. If the type names, the unique names and the plain
names of the functions are pairwise different, then generating from a manifest with the types and
the functions in another order succeeds if it did before, and with the same artifacts. -/
theorem generateAll_of_reordered_declarations
    (htypeNames : (m.types.map (·.name)).Nodup)
    (huniqueNames : (m.functions.map (·.uniqueName)).Nodup)
    (hnames : (m.functions.map (·.name)).Nodup)
    (htypes : m'.types.Perm m.types) (hfunctions : m'.functions.Perm m.functions)
    (hconstants : m'.constants = m.constants)
    (hinstantiations : m'.instantiations = m.instantiations) (o : Options)
    (artifacts : List Artifact) :
    generateAll m.toGraph o = .ok artifacts ↔ generateAll m'.toGraph o = .ok artifacts := by
  -- Both graphs store the declarations of their manifests as they are.
  have hreorders : m.toGraph.Reorders m'.toGraph := by
    constructor
    · rw [types_toGraph htypeNames, types_toGraph ((htypes.map _).nodup_iff.2 htypeNames)]
      exact htypes
    · rw [functions_toGraph huniqueNames,
        functions_toGraph ((hfunctions.map _).nodup_iff.2 huniqueNames)]
      exact hfunctions
    · rw [constants_toGraph, constants_toGraph, hconstants]
    · rw [instantiations_toGraph, instantiations_toGraph, hinstantiations]
    · rw [functions_toGraph huniqueNames]
      exact hnames
  exact ⟨generateAll_of_reorders hreorders, generateAll_of_reorders hreorders.symm⟩

/-- The cross product of a function that needs types and another function, declared one way. -/
def sampleDeclarations : Manifest where
  types := sampleTypes.types
  functions := sampleTypes.functions
  instantiations := [⟨.mapPairs, "norm_1", 0, 0⟩]

/-- The types and the functions are declared the other way round. -/
def sampleReversed : Manifest where
  types := sampleDeclarations.types.reverse
  functions := sampleDeclarations.functions.reverse
  instantiations := sampleDeclarations.instantiations

/-- The artifact is the same either way. -/
theorem generateAll_of_reordered_declarations_sample :
    ∃ a, generateAll sampleDeclarations.toGraph sampleOptions = .ok [a] ∧
      generateAll sampleReversed.toGraph sampleOptions = .ok [a] := by
  let g := sampleDeclarations.toGraph
  let i : Instantiation := ⟨.mapPairs, "norm_1", 0, 0⟩
  have hvalid : g.validate [] = .ok [] := by cbv
  have hbind : g.bind i = .ok sampleUser := by cbv
  let half : UserFunction := { sampleUser with
    name := "half", uniqueName := "half_1", referencedTypes := ["Mesh", "Vec"], calls := [] }
  have hcallees : g.callees sampleUser = .ok [⟨"half", half⟩] := by cbv
  have htypes : g.typesFor sampleUser = .ok [⟨"Vec", "typedef int Vec;", []⟩,
      ⟨"Pair", "typedef Vec Pair;", ["Vec"]⟩,
      ⟨"Mesh", "typedef Pair Mesh;", ["Vec", "Pair"]⟩] := by
    cbv
  have hlower := Artifact.lower_of_no_quote
    (r := (Job.of "prog" i).request sampleOptions sampleUser) rfl hcallees htypes
    (by decide +kernel)
  obtain ⟨a, ha⟩ : ∃ a, lowerJob g sampleOptions .openCL (.of "prog" i) = .ok a :=
    ⟨_, lowerJob_of_lower hbind hlower .openCL⟩
  have hall : generateAll g sampleOptions = .ok [a] :=
    generateAll_of_single (MetadataGraph.validate_eq_nil_iff.1 hvalid) rfl rfl ha
  have htypesPerm : sampleReversed.types.Perm sampleDeclarations.types := List.reverse_perm _
  have hfunctionsPerm : sampleReversed.functions.Perm sampleDeclarations.functions :=
    List.reverse_perm _
  have hsame := generateAll_of_reordered_declarations (by decide) (by decide) (by decide)
    htypesPerm hfunctionsPerm rfl rfl sampleOptions [a]
  exact ⟨a, hall, hsame.1 hall⟩

end Manifest

end KernelGen
