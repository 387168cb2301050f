import KernelGen.Proofs.Additions

/-!
# The indexes of a stored graph

A stored graph has an index beside each of its two vectors. An index agrees with its vector if it
leads from a name to a slot exactly where the value in that slot has the name. Every addition keeps
this, whatever the order of the additions and whichever names are added again. So no operation is
ever broken off, and a stored graph is the plain list graph of the same history: a look-up through
an index finds what a search of the list finds.

* `SlotTable.Agrees`: the invariant of a vector with its index. `Agrees.add` is the step of one
  addition, `Agrees.get_eq` what a look-up finds, and `Agrees.nodup` says that the names differ.
* `IndexedGraph.Represents`: a stored graph and the list graph that it stands for.
* `IndexedGraph.exists_ofAdditions`: every history leads to such a graph.
-/

namespace KernelGen

/-! ## Vectors with an index -/

namespace SlotTable

variable {α : Type} {key : α → String} {table : SlotTable α} {name : String} {slot : Nat}

/-- The index gives a slot for a name exactly where the value in the slot has the name. -/
def Agrees (key : α → String) (table : SlotTable α) : Prop :=
  ∀ name slot, table.index.lookup name = some slot ↔
    ∃ a, table.values[slot]? = some a ∧ key a = name

/-- An empty table and an empty index agree. -/
theorem agrees_empty (key : α → String) : Agrees key {} := by
  simp [Agrees]

namespace Agrees

/-- No two values have one name, since the index gives only one slot for it. -/
theorem nodup (h : table.Agrees key) : (table.values.map key).Nodup := by
  rw [List.Nodup, List.pairwise_map, List.pairwise_iff_getElem]
  intro i j hi hj hlt heq
  have hfirst := (h _ i).2 ⟨_, List.getElem?_eq_getElem hi, rfl⟩
  have hsecond := (h _ j).2 ⟨_, List.getElem?_eq_getElem hj, heq.symm⟩
  rw [hfirst] at hsecond
  exact Nat.ne_of_lt hlt (Option.some.inj hsecond)

/-- A name without a slot is the name of no value. -/
theorem notMem_of_lookup_eq_none (h : table.Agrees key) (hnone : table.index.lookup name = none) :
    name ∉ table.values.map key := by
  intro hmem
  obtain ⟨a, ha, hname⟩ := List.mem_map.1 hmem
  obtain ⟨slot, hslot⟩ := List.mem_iff_getElem?.1 ha
  rw [(h name slot).2 ⟨a, hslot, hname⟩] at hnone
  cases hnone

/-- A look-up is never broken off, and finds what a search of the vector finds. -/
theorem get_eq (h : table.Agrees key) (name : String) :
    table.get name = .ok (table.values.find? (key · == name)) := by
  unfold get
  cases hlookup : table.index.lookup name with
  | none =>
    have hnone : table.values.find? (key · == name) = none := by
      rw [List.find?_eq_none]
      intro a ha hname
      exact h.notMem_of_lookup_eq_none hlookup (List.mem_map.2 ⟨a, ha, by simpa using hname⟩)
    rw [hnone]
  | some slot =>
    obtain ⟨a, hslot, hname⟩ := (h name slot).1 hlookup
    have hfound := (find?_key_eq_some_iff h.nodup).2 ⟨List.mem_of_getElem? hslot, hname⟩
    simp only [hslot, hfound]

end Agrees

/-- An insertion under a known name takes the slot of the value with that name. -/
theorem insertByKey_eq_set {a b : α} {l : List α} (hnodup : (l.map key).Nodup)
    (hslot : l[slot]? = some b) (hkey : key b = key a) : insertByKey key a l = l.set slot a := by
  induction l generalizing slot with
  | nil => simp at hslot
  | cons c l ih =>
    cases slot with
    | zero =>
      obtain rfl := Option.some.inj hslot
      rw [insertByKey, if_pos hkey, List.set_cons_zero]
    | succ slot =>
      rw [List.map_cons, List.nodup_cons] at hnodup
      have hmem : b ∈ l := List.mem_of_getElem? hslot
      -- The value in front has another name, since no two values share one.
      have hother : key c ≠ key a := fun heq =>
        hnodup.1 (List.mem_map.2 ⟨b, hmem, hkey.trans heq.symm⟩)
      rw [insertByKey, if_neg hother, List.set_cons_succ, ih hnodup.2 hslot]

/-- What stands in the slots of a vector with one more value. -/
theorem exists_getElem?_concat_iff {a : α} {l : List α} :
    (∃ b, (l ++ [a])[slot]? = some b ∧ key b = name) ↔
      (∃ b, l[slot]? = some b ∧ key b = name) ∨ slot = l.length ∧ key a = name := by
  rcases Nat.lt_trichotomy slot l.length with hlt | rfl | hgt
  · simp [List.getElem?_append_left hlt, Nat.ne_of_lt hlt]
  · simp
  · have hbeyond : ¬ slot = l.length := Nat.ne_of_gt hgt
    have hpast : l.length + 1 ≤ slot := hgt
    simp [List.getElem?_eq_none, Nat.le_of_lt hgt, hbeyond, hpast]

/-- An addition is never broken off, and keeps the index and the vector in agreement. The vector
changes as a list by keys does. -/
theorem Agrees.add (h : table.Agrees key) (a : α) :
    ∃ table', table.add key a = .ok table' ∧ table'.Agrees key ∧
      table'.values = insertByKey key a table.values := by
  unfold SlotTable.add
  cases hlookup : table.index.lookup (key a) with
  | some slot =>
    obtain ⟨b, hslot, hkey⟩ := (h _ slot).1 hlookup
    have hlt : slot < table.values.length := (List.getElem?_eq_some_iff.1 hslot).1
    refine ⟨_, if_pos hlt, fun name other => ?_, (insertByKey_eq_set h.nodup hslot hkey).symm⟩
    rw [h name other]
    dsimp only
    -- Only the slot itself has changed, and the new value has the name of the old one.
    by_cases hother : slot = other
    · subst hother
      simp [List.getElem?_set_self hlt, hslot, hkey]
    · rw [List.getElem?_set_ne hother]
  | none =>
    have hnew := h.notMem_of_lookup_eq_none hlookup
    refine ⟨_, rfl, fun name slot => ?_, (insertByKey_of_notMem hnew).symm⟩
    rw [exists_getElem?_concat_iff, ← h name slot]
    by_cases hname : name = key a
    · subst hname
      simp [hlookup, eq_comm]
    · have hbeq : (name == key a) = false := beq_false_of_ne hname
      simp [List.lookup_cons, hbeq, Ne.symm hname]

end SlotTable

/-! ## Stored graphs -/

namespace IndexedGraph

variable {g : IndexedGraph} {m : MetadataGraph}

/-- The stored graph after one addition. -/
def add (g : IndexedGraph) : Addition → Except OutOfRange IndexedGraph
  | .function f => g.addFunction f
  | .type t => g.addType t
  | .constant c => .ok (g.addConstant c)
  | .instantiation i => .ok (g.addInstantiation i)

/-- The stored graph to which some additions lead from the empty one. -/
def ofAdditions (additions : List Addition) : Except OutOfRange IndexedGraph :=
  additions.foldlM add {}

/-- The indexes of a stored graph agree with its vectors, and its contents are those of a list
graph. -/
structure Represents (g : IndexedGraph) (m : MetadataGraph) : Prop where
  /-- The index of the functions agrees with their vector. -/
  functionIndex : g.functions.Agrees (·.uniqueName)
  /-- The index of the types agrees with their vector. -/
  typeIndex : g.types.Agrees (·.name)
  /-- The functions are the same. -/
  functions : g.functions.values = m.functions
  /-- The types are the same. -/
  types : g.types.values = m.types
  /-- The constants are the same. -/
  constants : g.constants = m.constants
  /-- The instantiations are the same. -/
  instantiations : g.instantiations = m.instantiations

namespace Represents

/-- One more addition leads from a stored graph to a stored graph, as it does for list graphs. -/
theorem add (h : g.Represents m) (a : Addition) :
    ∃ g', g.add a = .ok g' ∧ g'.Represents (m.add a) := by
  cases a with
  | function f =>
    obtain ⟨table, hadd, hagrees, hvalues⟩ := h.functionIndex.add f
    refine ⟨_, congrArg (Except.map _) hadd, { h with functionIndex := hagrees, functions := ?_ }⟩
    exact hvalues.trans (congrArg _ h.functions)
  | type t =>
    obtain ⟨table, hadd, hagrees, hvalues⟩ := h.typeIndex.add t
    refine ⟨_, congrArg (Except.map _) hadd, { h with typeIndex := hagrees, types := ?_ }⟩
    exact hvalues.trans (congrArg _ h.types)
  | constant c =>
    exact ⟨_, rfl, { h with constants := congrArg (· ++ [c]) h.constants }⟩
  | instantiation i =>
    exact ⟨_, rfl, { h with instantiations := congrArg (· ++ [i]) h.instantiations }⟩

/-- A look-up of a function finds what the list graph has. -/
theorem function?_eq (h : g.Represents m) (u : String) : g.function? u = .ok (m.function? u) := by
  rw [function?, h.functionIndex.get_eq, h.functions]
  rfl

/-- A look-up of a type finds what the list graph has. -/
theorem type?_eq (h : g.Represents m) (n : String) : g.type? n = .ok (m.type? n) := by
  rw [type?, h.typeIndex.get_eq, h.types]
  rfl

/-- The slot that the index of the types has for a name is the place of the type in the list. -/
theorem lookup_typeIndex (h : g.Represents m) (n : String) :
    g.types.index.lookup n = (m.typeSlot? n).map (·.val) := by
  refine Option.ext fun slot => ?_
  rw [h.typeIndex n slot, h.types, Option.map_eq_some_iff]
  constructor
  · rintro ⟨t, hslot, hname⟩
    obtain ⟨hlt, ht⟩ := List.getElem?_eq_some_iff.1 hslot
    have hplace : (m.types.get ⟨slot, hlt⟩).name = n := (congrArg (·.name) ht).trans hname
    exact ⟨⟨slot, hlt⟩, MetadataGraph.typeSlot?_eq_some_iff.2 hplace, rfl⟩
  · rintro ⟨place, hplace, rfl⟩
    exact ⟨m.types.get place, List.getElem?_eq_getElem place.isLt,
      MetadataGraph.typeSlot?_eq_some_iff.1 hplace⟩

end Represents

/-- One addition more is made to what the earlier ones left. -/
theorem ofAdditions_concat (additions : List Addition) (a : Addition) :
    ofAdditions (additions ++ [a]) = ofAdditions additions >>= (·.add a) := by
  simp [ofAdditions, List.foldlM_append]

/-- Every history leads to a stored graph, and this stands for the list graph of the history. -/
theorem exists_ofAdditions (additions : List Addition) :
    ∃ g, ofAdditions additions = .ok g ∧ g.Represents (.ofAdditions additions) := by
  induction additions using List.reverseRecOn with
  | nil =>
    exact ⟨{}, rfl, SlotTable.agrees_empty _, SlotTable.agrees_empty _, rfl, rfl, rfl, rfl⟩
  | append_singleton additions a ih =>
    obtain ⟨g, hg, hrep⟩ := ih
    obtain ⟨g', hg', hrep'⟩ := hrep.add a
    refine ⟨g', ?_, ?_⟩
    · rw [ofAdditions_concat, hg]
      exact hg'
    · rw [MetadataGraph.ofAdditions, List.foldl_concat]
      exact hrep'

/-- Additions that are never broken off lead to one graph after the other. -/
theorem foldlM_add_eq {α : Type} {kind : α → Addition} {step : IndexedGraph → α → IndexedGraph}
    (hstep : ∀ (g : IndexedGraph) (a : α), g.add (kind a) = .ok (step g a)) (l : List α)
    (g : IndexedGraph) :
    (l.map kind).foldlM add g = .ok (l.foldl step g) := by
  induction l generalizing g with
  | nil => rfl
  | cons a l ih =>
    rw [List.map_cons, List.foldlM_cons, hstep]
    exact ih (step g a)

/-- A manifest is stored by its history. -/
theorem toIndexedGraph_eq (m : Manifest) : m.toIndexedGraph = ofAdditions m.additions := by
  -- Only functions and types go through an index; the other additions are plain folds.
  have hconstants : ∀ (cs : List UserConstant) (g : IndexedGraph),
      (cs.map .constant).foldlM add g = .ok (cs.foldl addConstant g) :=
    foldlM_add_eq fun _ _ => rfl
  have hinstantiations : ∀ (is : List Instantiation) (g : IndexedGraph),
      (is.map .instantiation).foldlM add g = .ok (is.foldl addInstantiation g) :=
    foldlM_add_eq fun _ _ => rfl
  simp only [ofAdditions, Manifest.additions, List.foldlM_append, hconstants, hinstantiations,
    List.foldlM_map, bind_assoc]
  rfl

/-- A stored graph is what the history of its additions tells, for every history and so for every
manifest; no addition and no look-up is broken off. No two functions have one unique name and no two
types one name. Each index gives a slot for a name exactly where the value in the slot has the name,
and the place of a type is its slot. A look-up finds the function or type that is stored under the
name; it is the one that was added last under the name, and none if there was no such addition. The
names stand in the order in which they were first added, and the constants and instantiations are
all that were added, in order. The graph stands for the list graph of the same history. -/
theorem ofAdditions_keeps_history :
    (∀ additions : List Addition, ∃ g, ofAdditions additions = .ok g ∧
      let functions := additions.filterMap (·.function?)
      let types := additions.filterMap (·.type?)
      ((g.functions.values.map (·.uniqueName)).Nodup ∧ (g.types.values.map (·.name)).Nodup) ∧
      ((∀ u slot, g.functions.index.lookup u = some slot ↔
          ∃ f, g.functions.values[slot]? = some f ∧ f.uniqueName = u) ∧
        (∀ n slot, g.types.index.lookup n = some slot ↔
          ∃ t, g.types.values[slot]? = some t ∧ t.name = n) ∧
        ∀ n, g.types.index.lookup n =
          ((MetadataGraph.ofAdditions additions).typeSlot? n).map (·.val)) ∧
      ((∀ u, ∃ found, g.function? u = .ok found ∧
          (∀ f, found = some f ↔ f ∈ g.functions.values ∧ f.uniqueName = u) ∧
          found = functions.reverse.find? (·.uniqueName == u)) ∧
        ∀ n, ∃ found, g.type? n = .ok found ∧
          (∀ t, found = some t ↔ t ∈ g.types.values ∧ t.name = n) ∧
          found = types.reverse.find? (·.name == n)) ∧
      (g.functions.values.map (·.uniqueName) = (functions.map (·.uniqueName)).eraseDups ∧
        g.types.values.map (·.name) = (types.map (·.name)).eraseDups) ∧
      g.constants = additions.filterMap (·.constant?) ∧
      g.instantiations = additions.filterMap (·.instantiation?) ∧
      g.Represents (.ofAdditions additions)) ∧
    ∀ m : Manifest, m.toIndexedGraph = ofAdditions m.additions ∧
      m.toGraph = .ofAdditions m.additions := by
  refine ⟨fun additions => ?_, fun m => ⟨toIndexedGraph_eq m, m.toGraph_eq⟩⟩
  obtain ⟨g, hg, hrep⟩ := exists_ofAdditions additions
  have hkeeps := MetadataGraph.keeps_ofAdditions additions
  refine ⟨g, hg, ⟨hrep.functionIndex.nodup, hrep.typeIndex.nodup⟩,
    ⟨hrep.functionIndex, hrep.typeIndex, hrep.lookup_typeIndex⟩, ⟨fun u => ?_, fun n => ?_⟩,
    ⟨?_, ?_⟩, hrep.constants.trans hkeeps.constants,
    hrep.instantiations.trans hkeeps.instantiations, hrep⟩
  · refine ⟨_, hrep.functionIndex.get_eq u,
      fun f => find?_key_eq_some_iff hrep.functionIndex.nodup, ?_⟩
    rw [hrep.functions, hkeeps.functions, find?_keyedTable]
  · refine ⟨_, hrep.typeIndex.get_eq n, fun t => find?_key_eq_some_iff hrep.typeIndex.nodup, ?_⟩
    rw [hrep.types, hkeeps.types, find?_keyedTable]
  · rw [hrep.functions, hkeeps.functions, map_key_keyedTable]
  · rw [hrep.types, hkeeps.types, map_key_keyedTable]

end IndexedGraph

end KernelGen
