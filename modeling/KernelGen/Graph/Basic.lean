import KernelGen.Function
import KernelGen.Error

/-!
# The metadata graph

Everything that one run knows: the user functions and types, each name once, and the constants and
instantiations in the order in which they were found. A function or type that is added under a
known name takes the place of the old one, so the names of the stored functions and of the stored
types are pairwise different in every graph.
-/

namespace KernelGen

/-- The metadata of one run. -/
structure MetadataGraph where
  /-- The user functions, by first addition of their unique name. -/
  functions : List UserFunction := []
  /-- The user types, by first addition of their name. -/
  types : List UserType := []
  /-- The constants. -/
  constants : List UserConstant := []
  /-- The instantiations. -/
  instantiations : List Instantiation := []
  /-- No two functions have one unique name. -/
  functions_nodup : (functions.map (·.uniqueName)).Nodup := by decide
  /-- No two types have one name. -/
  types_nodup : (types.map (·.name)).Nodup := by decide
  deriving DecidableEq, Repr

/-- A list with `a` in place of the first entry that has its key, or at the end if none has. -/
def insertByKey {α : Type} (key : α → String) (a : α) : List α → List α
  | [] => [a]
  | b :: bs => if key b = key a then a :: bs else b :: insertByKey key a bs

/-- An insertion adds its key at the end unless the key is there. -/
theorem map_insertByKey {α : Type} (key : α → String) (a : α) (l : List α) :
    (insertByKey key a l).map key =
      if key a ∈ l.map key then l.map key else l.map key ++ [key a] := by
  induction l with
  | nil => simp [insertByKey]
  | cons b bs ih =>
    by_cases h : key b = key a
    · simp [insertByKey, h]
    · have ha : ¬ key a = key b := fun e => h e.symm
      rw [insertByKey, if_neg h, List.map_cons, ih]
      by_cases hmem : key a ∈ bs.map key
      · simp [hmem]
      · rw [if_neg hmem, List.map_cons, if_neg (by simpa [ha] using hmem), List.cons_append]

/-- An insertion keeps the keys pairwise different. -/
theorem nodup_map_insertByKey {α : Type} {key : α → String} {l : List α} (a : α)
    (h : (l.map key).Nodup) : ((insertByKey key a l).map key).Nodup := by
  rw [map_insertByKey]
  split
  · exact h
  · next ha =>
    refine List.nodup_append.2 ⟨h, by simp, ?_⟩
    intro x hx y hy hxy
    exact ha (List.mem_singleton.1 hy ▸ hxy ▸ hx)

namespace MetadataGraph

/-- Adds a function, in place of the one with its unique name if there is one. -/
def addFunction (g : MetadataGraph) (f : UserFunction) : MetadataGraph :=
  { g with
    functions := insertByKey (·.uniqueName) f g.functions
    functions_nodup := nodup_map_insertByKey f g.functions_nodup }

/-- Adds a type, in place of the one with its name if there is one. -/
def addType (g : MetadataGraph) (t : UserType) : MetadataGraph :=
  { g with
    types := insertByKey (·.name) t g.types
    types_nodup := nodup_map_insertByKey t g.types_nodup }

/-- Adds a constant. -/
def addConstant (g : MetadataGraph) (c : UserConstant) : MetadataGraph :=
  { g with constants := g.constants ++ [c] }

/-- Adds an instantiation. -/
def addInstantiation (g : MetadataGraph) (i : Instantiation) : MetadataGraph :=
  { g with instantiations := g.instantiations ++ [i] }

/-- The function with a unique name. -/
def function? (g : MetadataGraph) (uniqueName : String) : Option UserFunction :=
  g.functions.find? (·.uniqueName == uniqueName)

/-- The type with a name. -/
def type? (g : MetadataGraph) (name : String) : Option UserType :=
  g.types.find? (·.name == name)

/-- The function that a call means: the one with that unique name, else the first with that plain
name. -/
def resolveCall? (g : MetadataGraph) (callee : String) : Option UserFunction :=
  match g.function? callee with
  | some f => some f
  | none => g.functions.find? (·.name == callee)

/-- A function that is found is stored. -/
theorem mem_of_function? {g : MetadataGraph} {u : String} {f : UserFunction}
    (h : g.function? u = some f) : f ∈ g.functions :=
  List.mem_of_find?_eq_some h

/-- A call means a stored function. -/
theorem mem_of_resolveCall? {g : MetadataGraph} {callee : String} {f : UserFunction}
    (h : g.resolveCall? callee = some f) : f ∈ g.functions := by
  unfold resolveCall? at h
  split at h
  · next hf => exact mem_of_function? (by simpa [← Option.some.inj h] using hf)
  · exact List.mem_of_find?_eq_some h

end MetadataGraph

end KernelGen
