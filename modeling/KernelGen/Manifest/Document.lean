import KernelGen.Graph.Indexed
import KernelGen.Manifest.Value
import KernelGen.Text.Position

/-!
# Manifests

A manifest is the document by which the front-end hands over what it found: types, constants,
functions and instantiations. This module gives the form of each record in it and reads a whole
document.
-/

namespace KernelGen

/-- The contents of a manifest. -/
structure Manifest where
  /-- The user types. -/
  types : List UserType := []
  /-- The constants. -/
  constants : List UserConstant := []
  /-- The user functions. -/
  functions : List UserFunction := []
  /-- The instantiations. -/
  instantiations : List Instantiation := []
  deriving DecidableEq, Repr

namespace Manifest

/-- The form of an elementwise parameter. -/
def elementParam : Record ElementParam where
  name := "ElementwiseParam"
  blank := ⟨"", "", .vertical⟩
  fields := [
    field "name" true string fun r v => { r with name := v },
    field "type" true string fun r v => { r with type := v }]

/-- The form of a container parameter. -/
def containerParam : Record ContainerParam where
  name := "ContainerParam"
  blank := ⟨"", "", .vector⟩
  fields := [
    field "name" true string fun r v => { r with name := v },
    field "type" true string fun r v => { r with type := v },
    field "kind" true (choice (ContainerKind.all.map fun k => (k.name, k))) fun r v =>
      { r with kind := v }]

/-- The form of a scalar parameter. -/
def scalarParam : Record ScalarParam where
  name := "ScalarParam"
  blank := ⟨"", ""⟩
  fields := [
    field "name" true string fun r v => { r with name := v },
    field "type" true string fun r v => { r with type := v }]

/-- The form of a source location. -/
def sourceLocation : Record SourceLocation where
  name := "SourceLocation"
  blank := ⟨"", 0⟩
  fields := [
    field "file" true string fun r v => { r with file := v },
    field "line" true word32 fun r v => { r with line := v }]

/-- The form of a user type. -/
def userType : Record UserType where
  name := "UserType"
  blank := ⟨"", "", []⟩
  fields := [
    field "name" true string fun r v => { r with name := v },
    field "definition" true string fun r v => { r with definition := v },
    field "depends_on" false (list string) fun r v => { r with dependsOn := v }]

/-- The form of a constant. -/
def userConstant : Record UserConstant where
  name := "UserConstant"
  blank := ⟨"", "", ""⟩
  fields := [
    field "name" true string fun r v => { r with name := v },
    field "type_name" true string fun r v => { r with typeName := v },
    field "definition" true string fun r v => { r with definition := v }]

/-- The form of a user function. -/
def userFunction : Record UserFunction where
  name := "UserFunction"
  blank := { name := "", uniqueName := "", returnType := "", body := "" }
  fields := [
    field "name" true string fun r v => { r with name := v },
    field "unique_name" true string fun r v => { r with uniqueName := v },
    field "return_type" true string fun r v => { r with returnType := v },
    field "indexing" false (choice (Indexing.all.map fun m => (m.name, m))) fun r v =>
      { r with indexing := v },
    field "index_param" false string fun r v => { r with indexParam := v },
    field "requires_double_precision" false boolean fun r v => { r with requiresDouble := v },
    field "elementwise" false (list elementParam.read) fun r v => { r with elementwise := v },
    field "containers" false (list containerParam.read) fun r v => { r with containers := v },
    field "scalars" false (list scalarParam.read) fun r v => { r with scalars := v },
    field "referenced_types" false (list string) fun r v => { r with referencedTypes := v },
    field "calls" false (list string) fun r v => { r with calls := v },
    field "body" true string fun r v => { r with body := v },
    field "location" false (optional sourceLocation.read) fun r v => { r with location := v }]

/-- The form of an instantiation. -/
def instantiation : Record Instantiation where
  name := "Instantiation"
  blank := ⟨.map, "", 1, 1⟩
  fields := [
    field "skeleton" true (choice (Skeleton.all.map fun s => (s.name, s))) fun r v =>
      { r with skeleton := v },
    field "function" true string fun r v => { r with function := v },
    field "varity" false word64 fun r v => { r with varity := v },
    field "harity" false word64 fun r v => { r with harity := v }]

/-- The form of a manifest. -/
def document : Record Manifest where
  name := "Manifest"
  blank := {}
  strict := true
  fields := [
    field "types" false (list userType.read) fun r v => { r with types := v },
    field "constants" false (list userConstant.read) fun r v => { r with constants := v },
    field "functions" false (list userFunction.read) fun r v => { r with functions := v },
    field "instantiations" false (list instantiation.read) fun r v =>
      { r with instantiations := v }]

/-- Reads a whole manifest. -/
def read (source : List Char) : Except Fault Manifest :=
  match document.read source with
  | .error f => .error f
  | .ok (m, rest) =>
    match skipSpace rest with
    | [] => .ok m
    | rest => .error (.within .trailingCharacters rest)

/-- The graph of the metadata in a manifest. -/
def toGraph (m : Manifest) : MetadataGraph :=
  let g : MetadataGraph := m.types.foldl .addType {}
  let g := m.constants.foldl .addConstant g
  let g := m.functions.foldl .addFunction g
  m.instantiations.foldl .addInstantiation g

/-- The graph of the metadata in a manifest, as it is stored. -/
def toIndexedGraph (m : Manifest) : Except OutOfRange IndexedGraph := do
  let g ← m.types.foldlM IndexedGraph.addType {}
  let g := m.constants.foldl .addConstant g
  let g ← m.functions.foldlM IndexedGraph.addFunction g
  return m.instantiations.foldl .addInstantiation g

/-- The position that a fault blames in its source. -/
def Fault.position (f : Fault) (source : List Char) : Text.Position :=
  Text.positionAt source (Text.byteLength source - f.left)

/-- What a reader says about a text that is no manifest. -/
structure Refusal where
  /-- The reason, with the place. -/
  text : String
  /-- The place. -/
  place : Text.Place
  deriving DecidableEq, Repr

/-- What is said about a fault in a source. -/
def Fault.refusal (f : Fault) (source : List Char) : Refusal :=
  let place := (f.position source).place
  { text := f.cause.message ++ " at line " ++ Word.numeral place.line ++ " column " ++
      Word.numeral place.column
    place }

/-- The manifest in a text, or what is said about the text. -/
def ofText (source : String) : Except Refusal Manifest :=
  match read source.toList with
  | .ok m => .ok m
  | .error f => .error (f.refusal source.toList)

end Manifest

end KernelGen
