import KernelGen.Graph.Basic

/-!
# Metadata graphs with indexes

How a graph is stored. The functions and the types stand in vectors, and beside each vector an index
leads from a name to the slot of the value with that name. An addition asks the index whether the
name is known; a look-up takes the value from the slot that the index gives. A slot that the vector
does not have breaks the operation off.
-/

namespace KernelGen

/-- A slot that lies outside of its vector. -/
structure OutOfRange where
  /-- The slot. -/
  slot : Nat
  deriving DecidableEq, Repr

/-- A vector of values with an index of their names. -/
structure SlotTable (α : Type) where
  /-- The values, by slots. -/
  values : List α := []
  /-- The slots of the names; the first entry of a name counts. -/
  index : List (String × Nat) := []
  deriving DecidableEq, Repr

namespace SlotTable

variable {α : Type}

/-- Stores a value in the slot that the index has for its key, or in a new slot at the end. -/
def add (key : α → String) (table : SlotTable α) (a : α) : Except OutOfRange (SlotTable α) :=
  match table.index.lookup (key a) with
  | some slot =>
    if slot < table.values.length then .ok { table with values := table.values.set slot a }
    else .error ⟨slot⟩
  | none => .ok ⟨table.values ++ [a], (key a, table.values.length) :: table.index⟩

/-- The value in the slot that the index has for a name. -/
def get (table : SlotTable α) (name : String) : Except OutOfRange (Option α) :=
  match table.index.lookup name with
  | none => .ok none
  | some slot =>
    match table.values[slot]? with
    | some a => .ok (some a)
    | none => .error ⟨slot⟩

end SlotTable

/-- The metadata of one run, as it is stored. -/
structure IndexedGraph where
  /-- The user functions, indexed by their unique names. -/
  functions : SlotTable UserFunction := {}
  /-- The user types, indexed by their names. -/
  types : SlotTable UserType := {}
  /-- The constants. -/
  constants : List UserConstant := []
  /-- The instantiations. -/
  instantiations : List Instantiation := []
  deriving DecidableEq, Repr

namespace IndexedGraph

/-- Adds a function, in place of the one with its unique name if there is one. -/
def addFunction (g : IndexedGraph) (f : UserFunction) : Except OutOfRange IndexedGraph :=
  (g.functions.add (·.uniqueName) f).map fun functions => { g with functions }

/-- Adds a type, in place of the one with its name if there is one. -/
def addType (g : IndexedGraph) (t : UserType) : Except OutOfRange IndexedGraph :=
  (g.types.add (·.name) t).map fun types => { g with types }

/-- Adds a constant. -/
def addConstant (g : IndexedGraph) (c : UserConstant) : IndexedGraph :=
  { g with constants := g.constants ++ [c] }

/-- Adds an instantiation. -/
def addInstantiation (g : IndexedGraph) (i : Instantiation) : IndexedGraph :=
  { g with instantiations := g.instantiations ++ [i] }

/-- The function with a unique name. -/
def function? (g : IndexedGraph) (uniqueName : String) : Except OutOfRange (Option UserFunction) :=
  g.functions.get uniqueName

/-- The type with a name. -/
def type? (g : IndexedGraph) (name : String) : Except OutOfRange (Option UserType) :=
  g.types.get name

end IndexedGraph

end KernelGen
