import KernelGen.Graph.TypeOrder
import KernelGen.Kernel.Params
import KernelGen.Template
import KernelGen.Text.Blank

/-!
# Kernel source

The text of a kernel for the cross product of two sides. It consists of everything the kernel
needs, each part before those that use it: the pragma for double precision, the constants, the
types, the index types, the proxies, the functions that are called, the function itself and the
kernel. Each worker walks over its share of the result with a stride and calls the function once
for each element.
-/

namespace KernelGen.KernelSource

/-- The pragma that enables double precision. -/
def doublePragma : String := "#pragma OPENCL EXTENSION cl_khr_fp64: enable\n"

/-- The structs with the position of an element. -/
def indexTypes : String :=
  "typedef struct \x7b\n\tsize_t i;\n\x7d index1_t;\n\n" ++
  "typedef struct \x7b\n\tsize_t row;\n\tsize_t col;\n\x7d index2_t;\n\n"

/-- The pragma, if a function or one that it calls computes in double precision. -/
def doublePart (f : UserFunction) (callees : List Callee) : String :=
  if f.requiresDouble || callees.any (·.function.requiresDouble) then doublePragma ++ "\n" else ""

/-- The line that defines a constant. -/
def constantLine (c : UserConstant) : String :=
  "#define " ++ c.name ++ " (" ++ c.definition ++ ") // " ++ c.typeName ++ "\n"

/-- The lines that define the constants. -/
def constantPart (constants : List UserConstant) : String :=
  if constants.isEmpty then "" else String.join (constants.map constantLine) ++ "\n"

/-- The definitions of types. -/
def typePart (types : List UserType) : String :=
  String.join (types.map fun t => Text.trimmedEnd t.definition ++ "\n\n")

/-- All that comes before the proxies. -/
def preamble (g : MetadataGraph) (f : UserFunction) (callees : List Callee) :
    Except GenError String :=
  match g.typesFor f with
  | .error e => .error e
  | .ok types =>
    .ok (doublePart f callees ++ constantPart g.constants ++ typePart types ++ indexTypes)

/-- The parameters with which a user function is declared. -/
def functionParams (f : UserFunction) : List String :=
  (match f.indexing.typeName? with
    | none => []
    | some type => [type ++ " " ++ f.indexParam]) ++
  f.elementwise.map (fun p => p.type ++ " " ++ p.name) ++
  f.containers.map (fun p => (ProxyKey.of p).typeName ++ " " ++ p.name) ++
  f.scalars.map (fun p => p.type ++ " " ++ p.name)

/-- The line that points back to the declaration of a function, if that is wanted and known. -/
def linePart (f : UserFunction) (preserveLines : Bool) : String :=
  match preserveLines, f.location with
  | true, some loc => "#line " ++ Decimal.numeral loc.line.toNat ++ " \"" ++ loc.file ++ "\"\n"
  | _, _ => ""

/-- The definition of a user function under a name. -/
def functionText (f : UserFunction) (name : String) (preserveLines : Bool) : String :=
  linePart f preserveLines ++ "static " ++ f.returnType ++ " " ++ name ++ "(" ++
    String.intercalate ", " (functionParams f) ++ ")\n\x7b\n" ++ Text.trimmedEnd f.body ++
    "\n\x7d\n\n"

/-- The text of the kernel itself, with places for what depends on the function. -/
def kernelTemplateText : String :=
  "__kernel void " ++ Template.marker "KERNEL_NAME" ++ "(" ++ Template.marker "KERNEL_PARAMS" ++
  "__global " ++ Template.marker "RESULT_TYPE" ++ " *output, " ++
  "size_t w, size_t n, size_t Vsize, size_t Hsize, size_t base" ++ ")\n" ++
  "\x7b\n" ++
  "\tsize_t i = get_global_id(0);\n" ++
  "\tsize_t gridSize = get_local_size(0) * get_num_groups(0);\n" ++
  Template.marker "CONTAINER_PROXIES" ++ "\n" ++
  "\twhile (i < n)\n" ++
  "\t\x7b\n" ++
  Template.marker "INDEX_INITIALIZER" ++ Template.marker "CONTAINER_PROXIES_INNER" ++
  "\t\toutput[i] = " ++ Template.marker "FUNCTION_NAME" ++ "(" ++ Template.marker "CALL_ARGS" ++
  ");\n" ++
  "\t\ti += gridSize;\n" ++
  "\t\x7d\n" ++
  "\x7d\n"

/-- The template of the kernel. -/
def kernelTemplate : Template :=
  Template.parse "mappairs_kernel" kernelTemplateText

/-- The values for the kernel's template. -/
def kernelBindings (f : UserFunction) (kernel : String) : Bindings :=
  [("KERNEL_NAME", kernel),
    ("KERNEL_PARAMS", leadingList f.kernelParams),
    ("RESULT_TYPE", f.returnType),
    ("CONTAINER_PROXIES", statementBlock f.outerProxies 1),
    ("INDEX_INITIALIZER", statementBlock f.indexInitializer?.toList 2),
    ("CONTAINER_PROXIES_INNER", statementBlock f.innerProxies 2),
    ("FUNCTION_NAME", f.uniqueName),
    ("CALL_ARGS", String.intercalate ", " f.callArgs)]

/-- The container parameters of a function and of all that it calls. -/
def containersOf (f : UserFunction) (callees : List Callee) : List ContainerParam :=
  f.containers ++ callees.flatMap (·.function.containers)

/-- The text of the kernel for a bound function, under a kernel name. -/
def text (g : MetadataGraph) (f : UserFunction) (kernel : String) (preserveLines : Bool) :
    Except GenError String :=
  match g.callees f with
  | .error e => .error e
  | .ok callees =>
    match kernelTemplate.render (kernelBindings f kernel) with
    | .error e => .error e
    | .ok body =>
      match preamble g f callees with
      | .error e => .error e
      | .ok start =>
        .ok (start ++ String.join (proxyDefinitions (containersOf f callees)) ++
          String.join (callees.map fun c => functionText c.function c.name preserveLines) ++
          functionText f f.uniqueName preserveLines ++ body)

end KernelGen.KernelSource
