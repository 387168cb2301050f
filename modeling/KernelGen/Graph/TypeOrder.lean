import KernelGen.Digraph
import KernelGen.Graph.Callees

/-!
# The order of type definitions

The stored types form a directed graph through their dependencies. It is well formed if every
dependency is a stored type and none leads back to where it began. The types that a function needs
are then listed so that each comes after those it depends on.
-/

namespace KernelGen.MetadataGraph

/-- The place of a type name among the stored types. -/
def typeSlot? (g : MetadataGraph) (name : String) : Option (Fin g.types.length) :=
  g.types.findFinIdx? (·.name == name)

/-- The places of some type names, or the error that the first unknown one is. -/
def typeSlots (g : MetadataGraph) (owner : String) :
    List String → Except GenError (List (Fin g.types.length))
  | [] => .ok []
  | name :: names =>
    match g.typeSlot? name with
    | none => .error (.unknownUserType owner name)
    | some slot => (g.typeSlots owner names).map (slot :: ·)

/-- The dependencies of each of some types, or the error that the first unknown one is. -/
def dependencySlots (g : MetadataGraph) :
    List UserType → Except GenError (List (List (Fin g.types.length)))
  | [] => .ok []
  | t :: ts =>
    match g.typeSlots t.name t.dependsOn with
    | .error e => .error e
    | .ok slots => (g.dependencySlots ts).map (slots :: ·)

/-- The dependency graph of the stored types. It is an error if a dependency is unknown or a type
depends on itself. -/
def typeGraph (g : MetadataGraph) : Except GenError (Digraph g.types.length) :=
  match g.dependencySlots g.types with
  | .error e => .error e
  | .ok slots =>
    let d : Digraph g.types.length := ⟨fun v => slots.getD v []⟩
    match d.cycle? with
    | some v => .error (.typeCycle (g.types.get v).name)
    | none => .ok d

/-- The places of the types that some functions refer to, function by function. -/
def referencedSlots (g : MetadataGraph) :
    List UserFunction → Except GenError (List (Fin g.types.length))
  | [] => .ok []
  | f :: fs =>
    match g.typeSlots f.uniqueName f.referencedTypes with
    | .error e => .error e
    | .ok slots => (g.referencedSlots fs).map (slots ++ ·)

/-- The types that a function and its callees need, each after those it depends on. -/
def typesFor (g : MetadataGraph) (f : UserFunction) : Except GenError (List UserType) :=
  match g.typeGraph with
  | .error e => .error e
  | .ok d =>
    match g.callees f with
    | .error e => .error e
    | .ok callees =>
      match g.referencedSlots (f :: callees.map (·.function)) with
      | .error e => .error e
      | .ok roots => .ok ((d.postOrder roots).map g.types.get)

end KernelGen.MetadataGraph
