import KernelGen.Proofs.DeclarationOrder

/-!
# What a graph keeps of its additions

A graph is built up by additions in any order. Functions and types are kept by their names: a new
name goes to the end, a known one is replaced where it stands. Constants and instantiations are kept
as they come. So the graph can be told from the history of its additions: the names stand in the
order in which they were first added, each with what was added last, and this is what a look-up
finds.

* `keyedTable`: a list by keys, as a function of what was put into it.
* `find?_keyedTable`, `map_key_keyedTable`: what is found in it, and the order of its keys.
* `Addition`, `MetadataGraph.ofAdditions`: the graph of a history.
* `MetadataGraph.Keeps`: a graph as its history tells it; `Keeps.add` is the step of one addition.
* `Manifest.additions`: a manifest as a history.
-/

namespace KernelGen

/-! ## Lists by keys -/

section KeyedTables

variable {α : Type} {key : α → String}

/-- The list to which entries lead that are inserted one after the other. -/
def keyedTable (key : α → String) (entries : List α) : List α :=
  entries.foldl (fun table a => insertByKey key a table) []

/-- One entry more is inserted behind the earlier ones. -/
theorem keyedTable_concat (entries : List α) (a : α) :
    keyedTable key (entries ++ [a]) = insertByKey key a (keyedTable key entries) := by
  rw [keyedTable, List.foldl_concat, keyedTable]

/-- An insertion is found under its own key, and changes nothing under the others. -/
theorem find?_insertByKey (a : α) (table : List α) (name : String) :
    (insertByKey key a table).find? (key · == name) =
      if key a = name then some a else table.find? (key · == name) := by
  induction table with
  | nil => by_cases hname : key a = name <;> simp [insertByKey, hname]
  | cons b table ih =>
    by_cases hkey : key b = key a
    · -- The entry in front gives way to one with the same key.
      by_cases hname : key a = name <;> simp [insertByKey, hkey, hname]
    · rw [insertByKey, if_neg hkey]
      by_cases hname : key b = name
      · have hother : key a ≠ name := fun h => hkey (hname.trans h.symm)
        simp [hname, hother]
      · rw [List.find?_cons_of_neg (by simpa using hname),
          List.find?_cons_of_neg (by simpa using hname), ih]

/-- What is found under a key is the entry that was inserted last with this key. -/
theorem find?_keyedTable (entries : List α) (name : String) :
    (keyedTable key entries).find? (key · == name) = entries.reverse.find? (key · == name) := by
  induction entries using List.reverseRecOn with
  | nil => rfl
  | append_singleton entries a ih =>
    rw [keyedTable_concat, find?_insertByKey, List.reverse_concat, ih]
    by_cases hname : key a = name
    · rw [if_pos hname, List.find?_cons_of_pos (by simpa using hname)]
    · rw [if_neg hname, List.find?_cons_of_neg (by simpa using hname)]

/-- The keys stand in the order in which they were inserted first. -/
theorem map_key_keyedTable (entries : List α) :
    (keyedTable key entries).map key = (entries.map key).eraseDups := by
  induction entries using List.reverseRecOn with
  | nil => rfl
  | append_singleton entries a ih =>
    rw [keyedTable_concat, map_insertByKey, ih, List.map_append, List.map_singleton,
      List.eraseDups_append, List.removeAll]
    -- The key at the end counts only if it was not inserted before.
    by_cases hmem : key a ∈ entries.map key
    · have hnone : [key a].filter (fun k => !(entries.map key).elem k) = [] := by
        simpa using hmem
      rw [if_pos (List.mem_eraseDups.2 hmem), hnone, List.eraseDups_nil, List.append_nil]
    · have hone : [key a].filter (fun k => !(entries.map key).elem k) = [key a] := by
        simpa using hmem
      rw [if_neg (mt List.mem_eraseDups.1 hmem), hone]
      rfl

end KeyedTables

/-! ## Histories -/

/-- Something that is added to a graph. -/
inductive Addition where
  | function (f : UserFunction)
  | type (t : UserType)
  | constant (c : UserConstant)
  | instantiation (i : Instantiation)
  deriving DecidableEq, Repr

namespace Addition

/-- The function that is added. -/
def function? : Addition → Option UserFunction
  | function f => some f
  | _ => none

/-- The type that is added. -/
def type? : Addition → Option UserType
  | type t => some t
  | _ => none

/-- The constant that is added. -/
def constant? : Addition → Option UserConstant
  | constant c => some c
  | _ => none

/-- The instantiation that is added. -/
def instantiation? : Addition → Option Instantiation
  | instantiation i => some i
  | _ => none

end Addition

namespace MetadataGraph

variable {g : MetadataGraph} {additions : List Addition}

/-- The graph after one addition. -/
def add (g : MetadataGraph) : Addition → MetadataGraph
  | .function f => g.addFunction f
  | .type t => g.addType t
  | .constant c => g.addConstant c
  | .instantiation i => g.addInstantiation i

/-- The graph to which some additions lead from the empty one. -/
def ofAdditions (additions : List Addition) : MetadataGraph :=
  additions.foldl add ⟨[], [], [], [], List.nodup_nil, List.nodup_nil⟩

/-- A graph keeps what its history says: the functions and the types by their names, the constants
and the instantiations as they came. -/
structure Keeps (g : MetadataGraph) (additions : List Addition) : Prop where
  /-- The functions are kept by their unique names. -/
  functions : g.functions = keyedTable (·.uniqueName) (additions.filterMap (·.function?))
  /-- The types are kept by their names. -/
  types : g.types = keyedTable (·.name) (additions.filterMap (·.type?))
  /-- All constants are kept in order. -/
  constants : g.constants = additions.filterMap (·.constant?)
  /-- All instantiations are kept in order. -/
  instantiations : g.instantiations = additions.filterMap (·.instantiation?)

/-- One more addition is kept as well. -/
theorem Keeps.add (h : g.Keeps additions) (a : Addition) :
    (g.add a).Keeps (additions ++ [a]) := by
  -- Each kind of addition reaches one of the four lists and leaves the others alone.
  constructor
  all_goals rw [List.filterMap_append]
  · cases a with
    | function f => exact (congrArg _ h.functions).trans (keyedTable_concat _ f).symm
    | _ => exact h.functions.trans (congrArg _ (List.append_nil _).symm)
  · cases a with
    | type t => exact (congrArg _ h.types).trans (keyedTable_concat _ t).symm
    | _ => exact h.types.trans (congrArg _ (List.append_nil _).symm)
  · cases a with
    | constant c => exact congrArg (· ++ [c]) h.constants
    | _ => exact h.constants.trans (List.append_nil _).symm
  · cases a with
    | instantiation i => exact congrArg (· ++ [i]) h.instantiations
    | _ => exact h.instantiations.trans (List.append_nil _).symm

/-- Every graph keeps the history that led to it. -/
theorem keeps_ofAdditions (additions : List Addition) :
    (ofAdditions additions).Keeps additions := by
  induction additions using List.reverseRecOn with
  | nil => exact ⟨rfl, rfl, rfl, rfl⟩
  | append_singleton additions a ih =>
    rw [ofAdditions, List.foldl_concat]
    exact ih.add a

/-- The place of a name is where the type with this name stands. -/
theorem typeSlot?_eq_some_iff {name : String} {slot : Fin g.types.length} :
    g.typeSlot? name = some slot ↔ (g.types.get slot).name = name := by
  constructor
  · exact slotName_of_typeSlot?
  · rintro rfl
    have hstored : (g.type? (g.slotName slot)).isSome = true :=
      List.find?_isSome.2 ⟨g.types.get slot, List.get_mem _ _, beq_self_eq_true _⟩
    rw [← isSome_typeSlot?] at hstored
    obtain ⟨slot', hslot'⟩ := Option.isSome_iff_exists.1 hstored
    -- Some place is found, and no other one has the name.
    rwa [g.slotName_injective (slotName_of_typeSlot? hslot')] at hslot'

end MetadataGraph

/-- A manifest as a history: types, constants, functions and instantiations. -/
def Manifest.additions (m : Manifest) : List Addition :=
  m.types.map .type ++ m.constants.map .constant ++ m.functions.map .function ++
    m.instantiations.map .instantiation

/-- The graph of a manifest is that of its additions. -/
theorem Manifest.toGraph_eq (m : Manifest) : m.toGraph = .ofAdditions m.additions := by
  simp only [MetadataGraph.ofAdditions, Manifest.additions, List.foldl_append, List.foldl_map]
  rfl

end KernelGen
