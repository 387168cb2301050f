import KernelGen.Backend
import KernelGen.Kernel.RawLiteral
import KernelGen.Kernel.Source
import KernelGen.KernelName
import KernelGen.Path

/-!
# Artifacts

An artifact is one kernel together with the host code that builds and launches it, as a fragment to
be included. The host class holds the kernel source as a raw string literal, so the device compiler
sees the source exactly as it was generated.
-/

namespace KernelGen

/-- A generated kernel with its host code. -/
structure Artifact where
  /-- The backend for which it was generated. -/
  backend : Backend
  /-- The skeleton. -/
  skeleton : Skeleton
  /-- The unique name of the user function. -/
  function : String
  /-- The shape. -/
  shape : Shape
  /-- The names of the kernel and of its host class. -/
  names : KernelNames
  /-- The source that the device compiles. -/
  kernelSource : String
  /-- The text of the fragment. -/
  sourceText : String
  /-- The path of the fragment. -/
  outputPath : String
  /-- The arguments of the kernel. -/
  signature : Signature
  deriving DecidableEq, Repr

/-- The name of the file that holds a fragment. -/
def Artifact.fileName (a : Artifact) : String :=
  (Path.fileName? a.outputPath).getD ""

/-- What to generate, and how. -/
structure LoweringRequest where
  /-- The skeleton. -/
  skeleton : Skeleton
  /-- The user function, with its parameters on their sides. -/
  function : UserFunction
  /-- The shape. -/
  shape : Shape
  /-- The names to use. -/
  names : KernelNames
  /-- The directory of the output. -/
  outputDir : String
  /-- Whether generated functions point back to their declarations. -/
  preserveLines : Bool
  deriving DecidableEq, Repr

namespace Artifact

/-- The end of the name of every fragment. -/
def fragmentSuffix : String := "_cl_source.inl"

/-- The text of the host class, with places for what depends on the kernel. -/
def wrapperTemplateText : String :=
  "#include <mutex>\n" ++
  "#include <string>\n" ++
  "#include <vector>\n" ++
  "\n" ++
  "class " ++ Template.marker "WRAPPER_NAME" ++ "\n" ++
  "\x7b\n" ++
  "public:\n" ++
  "\tstatic std::vector<cl_kernel> &kernels()\n" ++
  "\t\x7b\n" ++
  "\t\tstatic std::vector<cl_kernel> table;\n" ++
  "\t\treturn table;\n" ++
  "\t\x7d\n" ++
  "\n" ++
  "\tstatic void initialize()\n" ++
  "\t\x7b\n" ++
  "\t\tstatic std::once_flag built;\n" ++
  "\t\tstd::call_once(built, []\n" ++
  "\t\t\x7b\n" ++
  "\t\t\tstd::string source = skel::backend::cl_helpers::replaceSizeT(R\"" ++
  Template.marker "DELIM" ++ "(" ++ Template.marker "KERNEL_SOURCE" ++ ")" ++
  Template.marker "DELIM" ++ "\");\n" ++
  "\t\t\tauto &devices = skel::backend::Environment<int>::getInstance()->m_devices_CL;\n" ++
  "\t\t\tkernels().reserve(devices.size());\n" ++
  "\t\t\tfor (skel::backend::Device_CL *device : devices)\n" ++
  "\t\t\t\x7b\n" ++
  "\t\t\t\tcl_int err;\n" ++
  "\t\t\t\tcl_program program = skel::backend::cl_helpers::buildProgram(device, source);\n" ++
  "\t\t\t\tcl_kernel kernel = clCreateKernel(program, \"" ++ Template.marker "KERNEL_NAME" ++
  "\", &err);\n" ++
  "\t\t\t\tCL_CHECK_ERROR(err, \"Error creating MapPairs kernel '" ++
  Template.marker "KERNEL_NAME" ++ "'\");\n" ++
  "\t\t\t\tkernels().push_back(kernel);\n" ++
  "\t\t\t\x7d\n" ++
  "\t\t\x7d);\n" ++
  "\t\x7d\n" ++
  "\n" ++
  "\tstatic void map\n" ++
  "\t(\n" ++
  "\t\tsize_t deviceID, size_t localSize, size_t globalSize,\n" ++
  "\t\t" ++ Template.marker "HOST_PARAMS" ++ Template.marker "HOST_BUFFER" ++ "<" ++
  Template.marker "RESULT_TYPE" ++ "> *output" ++ ",\n" ++
  "\t\t" ++ "size_t w, size_t n, size_t Vsize, size_t Hsize, size_t base" ++ "\n" ++
  "\t)\n" ++
  "\t\x7b\n" ++
  "\t\tinitialize();\n" ++
  "\t\tcl_kernel kernel = kernels().at(deviceID);\n" ++
  "\t\tskel::backend::cl_helpers::setKernelArgs(kernel, " ++ Template.marker "KERNEL_ARGS" ++
  "output->getDeviceDataPointer(), w, n, Vsize, Hsize, base" ++ ");\n" ++
  "\t\tcl_int err = clEnqueueNDRangeKernel(\n" ++
  "\t\t\tskel::backend::Environment<int>::getInstance()->" ++
  "m_devices_CL.at(deviceID)->getQueue(),\n" ++
  "\t\t\tkernel, 1, NULL, &globalSize, &localSize, 0, NULL, NULL);\n" ++
  "\t\tCL_CHECK_ERROR(err, \"Error launching MapPairs kernel '" ++ Template.marker "KERNEL_NAME" ++
  "'\");\n" ++
  "\t\x7d\n" ++
  "\x7d;\n"

/-- The template of the host class. -/
def wrapperTemplate : Template :=
  Template.parse "mappairs_wrapper" wrapperTemplateText

/-- The values for the template of the host class. -/
def wrapperBindings (f : UserFunction) (names : KernelNames) (delim kernelSource : String) :
    Bindings :=
  [("WRAPPER_NAME", names.wrapper),
    ("KERNEL_NAME", names.kernel),
    ("DELIM", delim),
    ("KERNEL_SOURCE", kernelSource),
    ("HOST_PARAMS", leadingList f.hostParams),
    ("HOST_BUFFER", hostBuffer),
    ("RESULT_TYPE", f.returnType),
    ("KERNEL_ARGS", leadingList f.kernelArgs)]

/-- The path of the fragment with a kernel. -/
def pathOf (dir kernel : String) : String :=
  Path.join dir (kernel ++ fragmentSuffix)

/-- The artifact for the cross product of two sides. -/
def ofPairs (g : MetadataGraph) (r : LoweringRequest) : Except GenError Artifact :=
  let f := r.function
  match KernelSource.text g f r.names.kernel r.preserveLines with
  | .error e => .error e
  | .ok kernelSource =>
    match RawLiteral.delimiter kernelSource with
    | .error e => .error e
    | .ok delim =>
      match wrapperTemplate.render (wrapperBindings f r.names delim kernelSource) with
      | .error e => .error e
      | .ok sourceText =>
        .ok {
          backend := .openCL
          skeleton := r.skeleton
          function := f.uniqueName
          shape := r.shape
          names := r.names
          kernelSource := kernelSource
          sourceText := sourceText
          outputPath := pathOf r.outputDir r.names.kernel
          signature := ⟨f.slots, f.returnType⟩ }

/-- The artifact that a request asks for. Only the cross product has a generator. -/
def lower (g : MetadataGraph) (r : LoweringRequest) : Except GenError Artifact :=
  match r.skeleton with
  | .mapPairs => ofPairs g r
  | other => .error (.unsupportedSkeleton other Backend.openCL.displayName)

end Artifact

end KernelGen
