import KernelGen.Diagnostic
import KernelGen.Proofs.JsonReading

/-!
# Manifests as documents

The JSON document of a manifest has an entry for every field of every record in it, under the name
that the field has in manifests. An entry whose field has a default may be left out where the field
holds it. Sides of elementwise parameters are not written, since they are assigned later.

* `Manifest.json`: the document of a manifest.
* `Manifest.writes_userFunction`, `Manifest.writes_document`: records are read back from every
  abridged form of their documents.
* `Manifest.read_abridged_document`: so are whole manifests.
-/

namespace KernelGen

/-! ## The documents -/

/-- The document of an index mode. -/
def Indexing.json : Indexing → Json
  | none => .string "none"
  | linear => .string "linear"
  | rowCol => .string "row_col"

/-- The document of a container kind. -/
def ContainerKind.json : ContainerKind → Json
  | vector => .string "vector"
  | matrix => .string "matrix"
  | sparseMatrix => .string "sparse_matrix"
  | matrixRow => .string "matrix_row"
  | tensor3 => .string "tensor3"
  | tensor4 => .string "tensor4"

/-- The document of a skeleton. -/
def Skeleton.json : Skeleton → Json
  | map => .string "Map"
  | reduce1D => .string "Reduce1D"
  | reduce2D => .string "Reduce2D"
  | mapReduce => .string "MapReduce"
  | scan => .string "Scan"
  | mapOverlap1D => .string "MapOverlap1D"
  | mapOverlap2D => .string "MapOverlap2D"
  | mapOverlap3D => .string "MapOverlap3D"
  | mapOverlap4D => .string "MapOverlap4D"
  | mapPairs => .string "MapPairs"
  | mapPairsReduce => .string "MapPairsReduce"
  | call => .string "Call"

/-- The document of an elementwise parameter. -/
def ElementParam.json (p : ElementParam) : Json :=
  .object [
    .required "name" (.string p.name),
    .required "type" (.string p.type)]

/-- The document of a container parameter. -/
def ContainerParam.json (p : ContainerParam) : Json :=
  .object [
    .required "name" (.string p.name),
    .required "type" (.string p.type),
    .required "kind" p.kind.json]

/-- The document of a scalar parameter. -/
def ScalarParam.json (p : ScalarParam) : Json :=
  .object [
    .required "name" (.string p.name),
    .required "type" (.string p.type)]

/-- The document of a source location. -/
def SourceLocation.json (l : SourceLocation) : Json :=
  .object [
    .required "file" (.string l.file),
    .required "line" (.number l.line.toNat)]

/-- The document of a user type. -/
def UserType.json (t : UserType) : Json :=
  .object [
    .required "name" (.string t.name),
    .required "definition" (.string t.definition),
    .defaulted "depends_on" [] t.dependsOn (.ofList .string)]

/-- The document of a constant. -/
def UserConstant.json (c : UserConstant) : Json :=
  .object [
    .required "name" (.string c.name),
    .required "type_name" (.string c.typeName),
    .required "definition" (.string c.definition)]

/-- The document of a user function. -/
def UserFunction.json (f : UserFunction) : Json :=
  .object [
    .required "name" (.string f.name),
    .required "unique_name" (.string f.uniqueName),
    .required "return_type" (.string f.returnType),
    .defaulted "indexing" .none f.indexing Indexing.json,
    .defaulted "index_param" "index" f.indexParam .string,
    .defaulted "requires_double_precision" false f.requiresDouble .boolean,
    .defaulted "elementwise" [] f.elementwise (.ofList ElementParam.json),
    .defaulted "containers" [] f.containers (.ofList ContainerParam.json),
    .defaulted "scalars" [] f.scalars (.ofList ScalarParam.json),
    .defaulted "referenced_types" [] f.referencedTypes (.ofList .string),
    .defaulted "calls" [] f.calls (.ofList .string),
    .required "body" (.string f.body),
    .defaulted "location" none f.location (.ofOption SourceLocation.json)]

/-- The document of an instantiation. -/
def Instantiation.json (i : Instantiation) : Json :=
  .object [
    .required "skeleton" i.skeleton.json,
    .required "function" (.string i.function),
    .defaulted "varity" 1 i.varity .ofWord,
    .defaulted "harity" 1 i.harity .ofWord]

namespace Manifest

/-- The document of a manifest. -/
def json (m : Manifest) : Json :=
  .object [
    .defaulted "types" [] m.types (.ofList UserType.json),
    .defaulted "constants" [] m.constants (.ofList UserConstant.json),
    .defaulted "functions" [] m.functions (.ofList UserFunction.json),
    .defaulted "instantiations" [] m.instantiations (.ofList Instantiation.json)]

/-! ## Reading the documents -/

-- Each record is read back by the same argument: its entries hold its fields one by one, they can
-- be put into a record in any order, and all of them together make the record.

/-- An index mode is read back from its name. -/
theorem writes_indexing (m : Indexing) :
    Writes (choice (Indexing.all.map fun m => (m.name, m))) m m.json := by
  cases m <;> exact writes_choice (by decide)

/-- A container kind is read back from its name. -/
theorem writes_containerKind (k : ContainerKind) :
    Writes (choice (ContainerKind.all.map fun k => (k.name, k))) k k.json := by
  cases k <;> exact writes_choice (by decide)

/-- A skeleton is read back from its name. -/
theorem writes_skeleton (s : Skeleton) :
    Writes (choice (Skeleton.all.map fun s => (s.name, s))) s s.json := by
  cases s <;> exact writes_choice (by decide)

/-- An elementwise parameter is read back without its side. -/
theorem writes_elementParam {p : ElementParam} (h : p.side = .vertical) :
    Writes elementParam.read p p.json := by
  obtain ⟨name, type, side⟩ := p
  obtain rfl : side = .vertical := h
  have hmembers : List.Forall₂ (Member elementParam) elementParam.fields _ :=
    .cons (.of_required (writes_string name)) <|
    .cons (.of_required (writes_string type)) .nil
  exact writes_record hmembers (by decide) (by simp) rfl

/-- A container parameter is read back. -/
theorem writes_containerParam (p : ContainerParam) : Writes containerParam.read p p.json := by
  have hmembers : List.Forall₂ (Member containerParam) containerParam.fields _ :=
    .cons (.of_required (writes_string p.name)) <|
    .cons (.of_required (writes_string p.type)) <|
    .cons (.of_required (writes_containerKind p.kind)) .nil
  exact writes_record hmembers (by decide) (by simp) rfl

/-- A scalar parameter is read back. -/
theorem writes_scalarParam (p : ScalarParam) : Writes scalarParam.read p p.json := by
  have hmembers : List.Forall₂ (Member scalarParam) scalarParam.fields _ :=
    .cons (.of_required (writes_string p.name)) <|
    .cons (.of_required (writes_string p.type)) .nil
  exact writes_record hmembers (by decide) (by simp) rfl

/-- A source location is read back. -/
theorem writes_sourceLocation (l : SourceLocation) : Writes sourceLocation.read l l.json := by
  have hmembers : List.Forall₂ (Member sourceLocation) sourceLocation.fields _ :=
    .cons (.of_required (writes_string l.file)) <|
    .cons (.of_required (writes_word32 l.line)) .nil
  exact writes_record hmembers (by decide) (by simp) rfl

/-- A source location is read back, and so is the lack of one. -/
theorem writes_location (l : Option SourceLocation) :
    Writes (optional sourceLocation.read) l (.ofOption SourceLocation.json l) := by
  cases l with
  | none => exact writes_none sourceLocation.read
  | some l => exact writes_some (writes_sourceLocation l)

/-- A user type is read back. -/
theorem writes_userType (t : UserType) : Writes userType.read t t.json := by
  have hmembers : List.Forall₂ (Member userType) userType.fields _ :=
    .cons (.of_required (writes_string t.name)) <|
    .cons (.of_required (writes_string t.definition)) <|
    .cons (.of_defaulted (writes_list t.dependsOn fun name _ => writes_string name) rfl) .nil
  exact writes_record hmembers (by decide) (by simp) rfl

/-- A constant is read back. -/
theorem writes_userConstant (c : UserConstant) : Writes userConstant.read c c.json := by
  have hmembers : List.Forall₂ (Member userConstant) userConstant.fields _ :=
    .cons (.of_required (writes_string c.name)) <|
    .cons (.of_required (writes_string c.typeName)) <|
    .cons (.of_required (writes_string c.definition)) .nil
  exact writes_record hmembers (by decide) (by simp) rfl

/-- A user function is read back, apart from the sides of its elementwise parameters. -/
theorem writes_userFunction {f : UserFunction} (h : ∀ p ∈ f.elementwise, p.side = .vertical) :
    Writes userFunction.read f f.json := by
  have helementwise := writes_list f.elementwise fun p hp => writes_elementParam (h p hp)
  have hmembers : List.Forall₂ (Member userFunction) userFunction.fields _ :=
    .cons (.of_required (writes_string f.name)) <|
    .cons (.of_required (writes_string f.uniqueName)) <|
    .cons (.of_required (writes_string f.returnType)) <|
    .cons (.of_defaulted (writes_indexing f.indexing) rfl) <|
    .cons (.of_defaulted (writes_string f.indexParam) rfl) <|
    .cons (.of_defaulted (writes_boolean f.requiresDouble) rfl) <|
    .cons (.of_defaulted helementwise rfl) <|
    .cons (.of_defaulted (writes_list f.containers fun p _ => writes_containerParam p) rfl) <|
    .cons (.of_defaulted (writes_list f.scalars fun p _ => writes_scalarParam p) rfl) <|
    .cons (.of_defaulted (writes_list f.referencedTypes fun name _ => writes_string name) rfl) <|
    .cons (.of_defaulted (writes_list f.calls fun name _ => writes_string name) rfl) <|
    .cons (.of_required (writes_string f.body)) <|
    .cons (.of_defaulted (writes_location f.location) rfl) .nil
  exact writes_record hmembers (by decide) (by simp) rfl

/-- An instantiation is read back. -/
theorem writes_instantiation (i : Instantiation) : Writes instantiation.read i i.json := by
  have hmembers : List.Forall₂ (Member instantiation) instantiation.fields _ :=
    .cons (.of_required (writes_skeleton i.skeleton)) <|
    .cons (.of_required (writes_string i.function)) <|
    .cons (.of_defaulted (writes_word64 i.varity) rfl) <|
    .cons (.of_defaulted (writes_word64 i.harity) rfl) .nil
  exact writes_record hmembers (by decide) (by simp) rfl

/-- A manifest is read back from its document in front of any text. -/
theorem writes_document {m : Manifest}
    (h : ∀ f ∈ m.functions, ∀ p ∈ f.elementwise, p.side = .vertical) :
    Writes document.read m m.json := by
  have hmembers : List.Forall₂ (Member document) document.fields _ :=
    .cons (.of_defaulted (writes_list m.types fun t _ => writes_userType t) rfl) <|
    .cons (.of_defaulted (writes_list m.constants fun c _ => writes_userConstant c) rfl) <|
    .cons (.of_defaulted (writes_list m.functions fun f hf => writes_userFunction (h f hf)) rfl) <|
    .cons (.of_defaulted (writes_list m.instantiations fun i _ => writes_instantiation i) rfl) .nil
  exact writes_record hmembers (by decide) (by simp) rfl

/-- A document of a manifest is a whole text, with nothing behind it. -/
theorem read_of_abridged {m : Manifest}
    (h : ∀ f ∈ m.functions, ∀ p ∈ f.elementwise, p.side = .vertical) {j : Json}
    (hj : m.json.Abridged j) : read j.text = .ok m := by
  have hread := writes_document h j hj [] (.inl rfl)
  rw [List.append_nil] at hread
  rw [read, hread]
  rfl

/-- The metadata of a text are those of the manifest that is read from it. -/
theorem parseManifest_of_read {cs : List Char} {m : Manifest} (h : read cs = .ok m) :
    parseManifest (String.ofList cs) = .ok m.toGraph := by
  rw [parseManifest, parseManifestWith, ofText, String.toList_ofList, h]

/-- A manifest is read back from its document, with every field of every record under its name, and
its metadata are those of the manifest. It is read back as well from every abridged form, in which
some of the fields that hold their defaults are left out, at any depth, and the others are in any
order. Only the sides of elementwise parameters are not in the document. -/
theorem read_abridged_document {m : Manifest}
    (h : ∀ f ∈ m.functions, ∀ p ∈ f.elementwise, p.side = .vertical) :
    (read m.json.text = .ok m ∧ parseManifest (String.ofList m.json.text) = .ok m.toGraph) ∧
    ∀ j, m.json.Abridged j →
      read j.text = .ok m ∧ parseManifest (String.ofList j.text) = .ok m.toGraph := by
  have hforms : ∀ j, m.json.Abridged j →
      read j.text = .ok m ∧ parseManifest (String.ofList j.text) = .ok m.toGraph := fun j hj =>
    ⟨read_of_abridged h hj, parseManifest_of_read (read_of_abridged h hj)⟩
  exact ⟨hforms _ (Json.Abridged.refl m.json), hforms⟩

/-- A manifest with a function of one elementwise parameter and an escape in its body. -/
def sampleManifest : Manifest where
  functions := [{
    name := "twice"
    uniqueName := "twice_1"
    returnType := "float"
    elementwise := [⟨"a", "float", .vertical⟩]
    body := "return\t2 * a;"
    location := some ⟨"prog.cpp", 7⟩ }]
  instantiations := [⟨.mapPairs, "twice_1", 1, 2⟩]

/-- The shortest document of the manifest and the longest one are read as the same. -/
theorem read_abridged_document_sample :
    (∀ f ∈ sampleManifest.functions, ∀ p ∈ f.elementwise, p.side = .vertical) ∧
    String.ofList sampleManifest.json.shortest.text =
      "\x7b\"functions\":[\x7b\"name\":\"twice\",\"unique_name\":\"twice_1\"," ++
      "\"return_type\":\"float\",\"elementwise\":[\x7b\"name\":\"a\",\"type\":\"float\"\x7d]," ++
      "\"body\":\"return\\t2 * a;\",\"location\":\x7b\"file\":\"prog.cpp\",\"line\":7\x7d\x7d]," ++
      "\"instantiations\":[\x7b\"skeleton\":\"MapPairs\",\"function\":\"twice_1\"," ++
      "\"harity\":2\x7d]\x7d" ∧
    read sampleManifest.json.shortest.text = .ok sampleManifest ∧
    read sampleManifest.json.text = .ok sampleManifest ∧
    parseManifest (String.ofList sampleManifest.json.text) = .ok sampleManifest.toGraph := by
  have hsides : ∀ f ∈ sampleManifest.functions, ∀ p ∈ f.elementwise, p.side = .vertical := by decide
  obtain ⟨⟨hfull, hgraph⟩, hforms⟩ := read_abridged_document hsides
  exact ⟨hsides, by decide +kernel, (hforms _ (Json.abridged_shortest _)).1, hfull, hgraph⟩

end Manifest

end KernelGen
