import KernelGen.Graph.TypeOrder
import KernelGen.Proofs.CallOrder
import KernelGen.Proofs.DepthFirst

/-!
# The order of type definitions

The types that a kernel defines are listed by a depth-first walk over the places of the stored
types. Here the walk is read as a statement about the types themselves.

* `MetadataGraph.DependsOn`: one stored type depends on another.
* `MetadataGraph.Needed`: what some type names need, directly or through dependencies.
* `edge_iff_dependsOn`: the edges of the dependency graph are the dependencies.
* `mem_map_postOrder_iff`: a post-order lists what the names of its roots need.

At the end stand the types of a function, in an order in which they can be defined.
-/

namespace KernelGen.MetadataGraph

open Relation (TransGen ReflTransGen)

variable {g : MetadataGraph}

/-- A type depends on the stored types that it names. -/
def DependsOn (g : MetadataGraph) (t t' : UserType) : Prop :=
  t' ∈ g.types ∧ t'.name ∈ t.dependsOn

/-- Some type names need the stored types of these names and all that those depend on. -/
def Needed (g : MetadataGraph) (names : List String) (t : UserType) : Prop :=
  ∃ t₀ ∈ g.types, t₀.name ∈ names ∧ ReflTransGen g.DependsOn t₀ t

/-- The name of the type at a place. -/
def slotName (g : MetadataGraph) (slot : Fin g.types.length) : String :=
  (g.types.get slot).name

/-! ## Places and types -/

/-- Different places have different types. -/
theorem get_injective (g : MetadataGraph) : Function.Injective g.types.get :=
  List.nodup_iff_injective_get.1 (List.Nodup.of_map _ g.types_nodup)

/-- Different places have types of different names. -/
theorem slotName_injective (g : MetadataGraph) : Function.Injective g.slotName := by
  intro slot slot' h
  refine g.get_injective (List.inj_on_of_nodup_map g.types_nodup ?_ ?_ h)
  · exact List.get_mem g.types slot
  · exact List.get_mem g.types slot'

/-- A name is found at a place with that name. -/
theorem slotName_of_typeSlot? {name : String} {slot : Fin g.types.length}
    (h : g.typeSlot? name = some slot) : g.slotName slot = name := by
  have hname := (List.findFinIdx?_eq_some_iff.1 h).1
  simpa [slotName] using hname

/-- The places of some names have these names. -/
theorem map_slotName_of_typeSlots {owner : String} {names : List String}
    {slots : List (Fin g.types.length)} (h : g.typeSlots owner names = .ok slots) :
    slots.map g.slotName = names := by
  induction names generalizing slots with
  | nil =>
    obtain rfl := Except.ok.inj h
    rfl
  | cons name names ih =>
    unfold typeSlots at h
    cases hslot : g.typeSlot? name with
    | none => simp [hslot] at h
    | some slot =>
      cases hrest : g.typeSlots owner names with
      | error e => simp [hslot, hrest, Except.map] at h
      | ok rest =>
        obtain rfl : slot :: rest = slots := by simpa [hslot, hrest, Except.map] using h
        rw [List.map_cons, slotName_of_typeSlot? hslot, ih hrest]

/-- The places of the dependencies of some types have the names of these dependencies. -/
theorem map_slotName_of_dependencySlots {types : List UserType}
    {slots : List (List (Fin g.types.length))} (h : g.dependencySlots types = .ok slots) :
    slots.map (List.map g.slotName) = types.map (·.dependsOn) := by
  induction types generalizing slots with
  | nil =>
    obtain rfl := Except.ok.inj h
    rfl
  | cons t types ih =>
    unfold dependencySlots at h
    cases hslots : g.typeSlots t.name t.dependsOn with
    | error e => simp [hslots] at h
    | ok first =>
      cases hrest : g.dependencySlots types with
      | error e => simp [hslots, hrest, Except.map] at h
      | ok rest =>
        obtain rfl : first :: rest = slots := by simpa [hslots, hrest, Except.map] using h
        rw [List.map_cons, map_slotName_of_typeSlots hslots, ih hrest, List.map_cons]

/-- The places of the types that some functions refer to have the names in the references. -/
theorem map_slotName_of_referencedSlots {fs : List UserFunction}
    {slots : List (Fin g.types.length)} (h : g.referencedSlots fs = .ok slots) :
    slots.map g.slotName = fs.flatMap (·.referencedTypes) := by
  induction fs generalizing slots with
  | nil =>
    obtain rfl := Except.ok.inj h
    rfl
  | cons f fs ih =>
    unfold referencedSlots at h
    cases hslots : g.typeSlots f.uniqueName f.referencedTypes with
    | error e => simp [hslots] at h
    | ok first =>
      cases hrest : g.referencedSlots fs with
      | error e => simp [hslots, hrest, Except.map] at h
      | ok rest =>
        obtain rfl : first ++ rest = slots := by simpa [hslots, hrest, Except.map] using h
        rw [List.map_append, map_slotName_of_typeSlots hslots, ih hrest, List.flatMap_cons]

/-! ## The dependency graph -/

/-- The dependencies at the place of a type have the names in its declaration. -/
theorem map_slotName_getD {slots : List (List (Fin g.types.length))}
    (h : g.dependencySlots g.types = .ok slots) (v : Fin g.types.length) :
    (slots.getD v []).map g.slotName = (g.types.get v).dependsOn := by
  -- The two lists of dependencies are compared at the place of the type.
  have hnames := congrArg (fun l => l[v.val]?) (map_slotName_of_dependencySlots h)
  simp only [List.getElem?_map, List.getElem?_eq_getElem v.isLt, Option.map_some] at hnames
  obtain ⟨first, hfirst, hdeps⟩ := Option.map_eq_some_iff.1 hnames
  rw [List.getD_eq_getElem?_getD, hfirst]
  exact hdeps

/-- An edge between the places of two types is a dependency. -/
theorem dependsOn_of_edge {slots : List (List (Fin g.types.length))}
    (h : g.dependencySlots g.types = .ok slots) {v u : Fin g.types.length}
    (hu : Digraph.Edge ⟨fun v => slots.getD v []⟩ v u) :
    g.DependsOn (g.types.get v) (g.types.get u) := by
  refine ⟨List.get_mem g.types u, ?_⟩
  rw [← map_slotName_getD h v]
  exact List.mem_map_of_mem hu

section Graph

variable {d : Digraph g.types.length}

/-- A dependency graph has the dependencies of each type at its place, and no cycle. -/
theorem of_typeGraph (h : g.typeGraph = .ok d) :
    (∀ v, (d.targets v).map g.slotName = (g.types.get v).dependsOn) ∧
      ∀ v, ¬ TransGen d.Edge v v := by
  unfold typeGraph at h
  cases hslots : g.dependencySlots g.types with
  | error e => simp [hslots] at h
  | ok slots =>
    rw [hslots] at h
    dsimp only at h
    split at h
    · cases h
    · next hcycle =>
      obtain rfl := Except.ok.inj h
      exact ⟨map_slotName_getD hslots, Digraph.not_transGen_of_cycle? hcycle⟩

/-- The edges of the dependency graph are the dependencies. -/
theorem edge_iff_dependsOn (h : g.typeGraph = .ok d) {v u : Fin g.types.length} :
    d.Edge v u ↔ g.DependsOn (g.types.get v) (g.types.get u) := by
  rw [DependsOn, ← (of_typeGraph h).1 v]
  constructor
  · intro hu
    exact ⟨List.get_mem g.types u, List.mem_map_of_mem hu⟩
  · rintro ⟨-, hname⟩
    obtain ⟨u', hu', hname⟩ := List.mem_map.1 hname
    obtain rfl := g.slotName_injective hname
    exact hu'

/-- All that a stored type depends on in some steps has a place to which its own place leads. -/
theorem exists_reach_of_dependsOn (h : g.typeGraph = .ok d) {v : Fin g.types.length}
    {t : UserType} (ht : ReflTransGen g.DependsOn (g.types.get v) t) :
    ∃ u, g.types.get u = t ∧ ReflTransGen d.Edge v u := by
  induction ht with
  | refl => exact ⟨v, rfl, .refl⟩
  | tail _ hstep ih =>
    obtain ⟨u, rfl, hvu⟩ := ih
    obtain ⟨u', rfl⟩ := List.get_of_mem hstep.1
    exact ⟨u', rfl, hvu.tail ((edge_iff_dependsOn h).2 hstep)⟩

/-- A post-order lists the types that the names of its roots need. -/
theorem mem_map_postOrder_iff (h : g.typeGraph = .ok d) {roots : List (Fin g.types.length)}
    {t : UserType} :
    t ∈ (d.postOrder roots).map g.types.get ↔ g.Needed (roots.map g.slotName) t := by
  rw [List.mem_map]
  constructor
  · rintro ⟨u, hu, rfl⟩
    obtain ⟨r, hr, hru⟩ := Digraph.mem_postOrder_iff.1 hu
    refine ⟨g.types.get r, List.get_mem g.types r, List.mem_map_of_mem hr, ?_⟩
    exact ReflTransGen.lift g.types.get (fun _ _ => (edge_iff_dependsOn h).1) _ _ hru
  · rintro ⟨t₀, ht₀, hname, hreach⟩
    obtain ⟨r, rfl⟩ := List.get_of_mem ht₀
    obtain ⟨r', hr', hname⟩ := List.mem_map.1 hname
    obtain rfl := g.slotName_injective hname
    obtain ⟨u, hu, hru⟩ := exists_reach_of_dependsOn h hreach
    exact ⟨u, Digraph.mem_postOrder_iff.2 ⟨r', hr', hru⟩, hu⟩

/-- A post-order lists every type after all that it names as a dependency. -/
theorem exists_mem_of_dependsOn (h : g.typeGraph = .ok d) {roots : List (Fin g.types.length)}
    {front back : List UserType} {t : UserType}
    (hsplit : (d.postOrder roots).map g.types.get = front ++ t :: back) {name : String}
    (hname : name ∈ t.dependsOn) : ∃ t' ∈ front, t'.name = name := by
  -- The split of the types is a split of their places.
  obtain ⟨before, rest, horder, rfl, hrest⟩ := List.map_eq_append_iff.1 hsplit
  obtain ⟨v, after, rfl, rfl, -⟩ := List.map_eq_cons_iff.1 hrest
  rw [← (of_typeGraph h).1 v] at hname
  obtain ⟨u, hu, rfl⟩ := List.mem_map.1 hname
  have hmem := Digraph.dependenciesFirst_postOrder (of_typeGraph h).2 roots before v after horder
    u hu
  exact ⟨g.types.get u, List.mem_map_of_mem hmem, rfl⟩

end Graph

/-! ## The types of a function -/

variable {f : UserFunction} {list : List UserType}

/-- The types of a function are a post-order of the dependency graph, from the places of the types
to which the function and its callees refer. -/
theorem of_typesFor (h : g.typesFor f = .ok list) :
    ∃ d callees roots, g.typeGraph = .ok d ∧ g.callees f = .ok callees ∧
      roots.map g.slotName = (f :: callees.map (·.function)).flatMap (·.referencedTypes) ∧
      list = (d.postOrder roots).map g.types.get := by
  unfold typesFor at h
  cases hgraph : g.typeGraph with
  | error e => simp [hgraph] at h
  | ok d =>
    cases hcallees : g.callees f with
    | error e => simp [hgraph, hcallees] at h
    | ok callees =>
      cases hroots : g.referencedSlots (f :: callees.map (·.function)) with
      | error e => simp [hgraph, hcallees, hroots] at h
      | ok roots =>
        have hlist : (d.postOrder roots).map g.types.get = list := by
          simpa [hgraph, hcallees, hroots] using h
        exact ⟨d, callees, roots, rfl, rfl, map_slotName_of_referencedSlots hroots, hlist.symm⟩

/-- The functions whose references count are those that are reached. -/
theorem needed_references_iff {callees : List Callee} (h : g.callees f = .ok callees)
    {t : UserType} :
    g.Needed ((f :: callees.map (·.function)).flatMap (·.referencedTypes)) t ↔
      ∃ k, ReflTransGen g.Calls f k ∧ g.Needed k.referencedTypes t := by
  have hreach (k : UserFunction) :
      k ∈ f :: callees.map (·.function) ↔ ReflTransGen g.Calls f k := by
    rw [Relation.reflTransGen_iff_eq_or_transGen, ← exists_mem_callees_iff h, List.mem_cons,
      List.mem_map]
  constructor
  · rintro ⟨t₀, ht₀, hname, ht⟩
    obtain ⟨k, hk, hname⟩ := List.mem_flatMap.1 hname
    exact ⟨k, (hreach k).1 hk, t₀, ht₀, hname, ht⟩
  · rintro ⟨k, hk, t₀, ht₀, hname, ht⟩
    exact ⟨t₀, ht₀, List.mem_flatMap.2 ⟨k, (hreach k).2 hk, hname⟩, ht⟩

/-- The types of a function. Each is listed once, after all that it names as a dependency; they are
what the function and all that it calls refer to, with all that this depends on; and what the first
references need is listed before everything else. -/
theorem typesFor_spec (h : g.typesFor f = .ok list) :
    ∃ callees, g.callees f = .ok callees ∧
      let names := (f :: callees.map (·.function)).flatMap (·.referencedTypes)
      (list.map (·.name)).Nodup ∧
      (∀ t, t ∈ list ↔ ∃ k, ReflTransGen g.Calls f k ∧ g.Needed k.referencedTypes t) ∧
      (∀ name ∈ names, ∃ t ∈ list, t.name = name) ∧
      (∀ front t back, list = front ++ t :: back →
        ∀ name ∈ t.dependsOn, ∃ t' ∈ front, t'.name = name) ∧
      ∀ k, ∃ m, ∀ t, t ∈ list.take m ↔ g.Needed (names.take k) t := by
  obtain ⟨d, callees, roots, hgraph, hcallees, hnames, rfl⟩ := of_typesFor h
  refine ⟨callees, hcallees, ?_⟩
  dsimp only
  rw [← hnames]
  refine ⟨?_, ?_, ?_, ?_, ?_⟩
  · rw [List.map_map]
    exact (d.nodup_postOrder roots).map g.slotName_injective
  · intro t
    rw [mem_map_postOrder_iff hgraph, hnames, needed_references_iff hcallees]
  · intro name hname
    obtain ⟨r, hr, rfl⟩ := List.mem_map.1 hname
    exact ⟨g.types.get r,
      List.mem_map_of_mem (Digraph.mem_postOrder_iff.2 ⟨r, hr, .refl⟩), rfl⟩
  · intro front t back hsplit name hname
    exact exists_mem_of_dependsOn hgraph hsplit hname
  · intro k
    -- The walk from the first references comes first.
    obtain ⟨more, hmore⟩ := d.postOrder_append (roots.take k) (roots.drop k)
    rw [List.take_append_drop] at hmore
    refine ⟨(d.postOrder (roots.take k)).length, fun t => ?_⟩
    rw [hmore, List.map_append, List.take_left' (List.length_map _), ← List.map_take]
    exact mem_map_postOrder_iff hgraph

/-- A function that refers to a type with a shared dependency and calls one that refers to two
more. -/
def sampleUser : UserFunction where
  name := "norm"
  uniqueName := "norm_1"
  returnType := "float"
  referencedTypes := ["Pair"]
  calls := ["half"]
  body := "return 0;"

/-- Four types, of which one is not needed, and the two functions. -/
def sampleTypes : MetadataGraph where
  functions := [sampleUser, { sampleUser with
    name := "half", uniqueName := "half_1", referencedTypes := ["Mesh", "Vec"], calls := [] }]
  types := [⟨"Mesh", "typedef Pair Mesh;", ["Vec", "Pair"]⟩, ⟨"Pair", "typedef Vec Pair;", ["Vec"]⟩,
    ⟨"Spare", "typedef int Spare;", []⟩, ⟨"Vec", "typedef int Vec;", []⟩]

/-- The types of the function, and what its first reference needs. -/
theorem typesFor_spec_sample :
    ∃ list, sampleTypes.typesFor sampleUser = .ok list ∧
      list.map (·.name) = ["Vec", "Pair", "Mesh"] ∧
      ∃ m, ∀ t, t ∈ list.take m ↔ sampleTypes.Needed ["Pair"] t := by
  have hlist : sampleTypes.typesFor sampleUser = .ok [⟨"Vec", "typedef int Vec;", []⟩,
      ⟨"Pair", "typedef Vec Pair;", ["Vec"]⟩, ⟨"Mesh", "typedef Pair Mesh;", ["Vec", "Pair"]⟩] := by
    cbv
  obtain ⟨callees, -, -, -, -, -, hfirst⟩ := typesFor_spec hlist
  exact ⟨_, hlist, rfl, hfirst 1⟩

end KernelGen.MetadataGraph
