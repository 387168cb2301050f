import KernelGen.Function
import KernelGen.Identifier
import KernelGen.Text.Sorted

/-!
# Container proxies

Inside a kernel a container is a small struct over device buffers, its proxy. There is one struct
for each pair of a container kind and an element type; the pairs of a kernel are listed by kind and
then by type. A container parameter becomes a few kernel parameters, one for each field of its
struct, and an initializer that puts them together.
-/

namespace KernelGen

/-- A container kind with an element type. -/
structure ProxyKey where
  /-- The kind. -/
  kind : ContainerKind
  /-- The element type. -/
  type : String
  deriving DecidableEq, Repr

namespace ProxyKey

/-- The struct that a container parameter needs. -/
def of (p : ContainerParam) : ProxyKey :=
  ⟨p.kind, p.type⟩

/-- The order by kind and then by type. -/
def before (a b : ProxyKey) : Bool :=
  a.kind.ordinal < b.kind.ordinal || (a.kind == b.kind && Text.before a.type b.type)

/-- The name of the struct. -/
def typeName (k : ProxyKey) : String :=
  Identifier.reservedPrefix ++ k.kind.name ++ "_" ++ Identifier.sanitize k.type

/-- A struct type with some members. -/
def structText (members : List String) (name : String) : String :=
  "typedef struct \x7b\n" ++ String.join (members.map fun m => "\t" ++ m ++ ";\n") ++ "\x7d " ++
    name ++ ";\n\n"

/-- An accessor: its result type, its name, its parameters and the expression that it returns. -/
def accessorText (result name params value : String) : String :=
  "static inline " ++ result ++ " " ++ name ++ "(" ++ params ++ ") \x7b return " ++ value ++
    "; \x7d\n"

/-- The definition of the struct and of its accessors. -/
def definition (k : ProxyKey) : String :=
  let t := k.type
  let p := k.typeName
  let data := "__global " ++ t ++ " *data"
  match k.kind with
  | .vector =>
    structText [data, "size_t size"] p ++
      accessorText t (p ++ "_at") (p ++ " v, size_t index") "v.data[index]" ++ "\n"
  | .matrix =>
    structText [data, "size_t rows", "size_t cols"] p ++
      accessorText t (p ++ "_at") (p ++ " m, size_t row, size_t col")
        "m.data[row * m.cols + col]" ++ "\n"
  | .sparseMatrix =>
    structText [data, "__global size_t *row_offsets", "__global size_t *col_indices",
        "size_t count"] p ++
      accessorText "size_t" (p ++ "_row_begin") (p ++ " m, size_t row") "m.row_offsets[row]" ++
      accessorText "size_t" (p ++ "_row_end") (p ++ " m, size_t row") "m.row_offsets[row + 1]" ++
      accessorText "size_t" (p ++ "_col") (p ++ " m, size_t k") "m.col_indices[k]" ++
      accessorText t (p ++ "_value") (p ++ " m, size_t k") "m.data[k]" ++ "\n"
  | .matrixRow =>
    structText [data, "size_t cols"] p ++
      accessorText t (p ++ "_at") (p ++ " r, size_t col") "r.data[col]" ++ "\n"
  | .tensor3 =>
    structText [data, "size_t size_i", "size_t size_j", "size_t size_k"] p ++
      accessorText t (p ++ "_at") (p ++ " t, size_t i, size_t j, size_t k")
        "t.data[(i * t.size_j + j) * t.size_k + k]" ++ "\n"
  | .tensor4 =>
    structText [data, "size_t size_i", "size_t size_j", "size_t size_k", "size_t size_l"] p ++
      accessorText t (p ++ "_at") (p ++ " t, size_t i, size_t j, size_t k, size_t l")
        "t.data[((i * t.size_j + j) * t.size_k + k) * t.size_l + l]" ++ "\n"

end ProxyKey

/-- The structs that some container parameters need, in order and each once. -/
def proxyKeys (params : List ContainerParam) : List ProxyKey :=
  sortDistinct ProxyKey.before (params.map ProxyKey.of)

/-- The definitions of the structs that some container parameters need. -/
def proxyDefinitions (params : List ContainerParam) : List String :=
  (proxyKeys params).map ProxyKey.definition

/-- The kernel parameters that stand for one container: each field of the struct with the name of
its parameter. -/
structure ContainerFields where
  /-- The parameter with the elements. -/
  data : String
  /-- The sizes. -/
  sizes : List (String × String)
  /-- The buffers of indices. -/
  indexBuffers : List (String × String)
  deriving DecidableEq, Repr

namespace ContainerKind

/-- The size fields of the struct of a kind. -/
def sizeFields : ContainerKind → List String
  | vector => ["size"]
  | matrix => ["rows", "cols"]
  | sparseMatrix => ["count"]
  | matrixRow => ["cols"]
  | tensor3 => ["size_i", "size_j", "size_k"]
  | tensor4 => ["size_i", "size_j", "size_k", "size_l"]

/-- The index buffer fields of the struct of a kind. -/
def indexFields : ContainerKind → List String
  | sparseMatrix => ["row_offsets", "col_indices"]
  | _ => []

end ContainerKind

/-- The kernel parameter for a field of a container. -/
def fieldParam (field container : String) : String :=
  Identifier.reservedPrefix ++ field ++ "_" ++ container

/-- The kernel parameters of a container. -/
def ContainerFields.of (p : ContainerParam) : ContainerFields where
  data := fieldParam "data" p.name
  sizes := p.kind.sizeFields.map fun f => (f, fieldParam f p.name)
  indexBuffers := p.kind.indexFields.map fun f => (f, fieldParam f p.name)

/-- Where the initializer of a proxy stands. -/
inductive Placement where
  | beforeLoop
  | perIteration
  deriving DecidableEq, Repr

namespace ContainerParam

/-- Where the initializer of a container's proxy stands. -/
def placement (p : ContainerParam) : Placement :=
  if p.kind.isPerIteration then .perIteration else .beforeLoop

/-- The value of the `data` field: the elements, for a matrix row those of the current row. -/
def dataValue (p : ContainerParam) : String :=
  let data := fieldParam "data" p.name
  if p.kind.isPerIteration then "(" ++ data ++ " + i * " ++ fieldParam "cols" p.name ++ ")"
  else data

/-- The fields of the proxy with their values, in the order of the struct. -/
def members (p : ContainerParam) : List (String × String) :=
  let fields := ContainerFields.of p
  ("data", p.dataValue) :: fields.indexBuffers ++ fields.sizes

/-- The statement that declares the proxy of a container. -/
def initializer (p : ContainerParam) : String :=
  (ProxyKey.of p).typeName ++ " " ++ p.name ++ " = \x7b " ++
    String.intercalate ", " (p.members.map fun (f, v) => "." ++ f ++ " = " ++ v) ++ " \x7d;"

end ContainerParam

end KernelGen
