import KernelGen.Kernel.Artifact
import KernelGen.Proofs.RawLiteral
import KernelGen.Proofs.Rendering

/-!
# The generated texts

The exact text of a kernel and of its host class, and what a successful lowering consists of. The
templates are replaced by functions here: `kernelText` and `hostText` are the two templates with
the values in place of their markers, so that rendering never fails.
-/

namespace KernelGen

namespace KernelSource

/-- The body of the kernel: its locals, and the loop over the elements of one worker. -/
def bodyText (f : UserFunction) : String :=
  "\x7b\n" ++
  "\tsize_t i = get_global_id(0);\n" ++
  "\tsize_t gridSize = get_local_size(0) * get_num_groups(0);\n" ++
  statementBlock f.outerProxies 1 ++ "\n" ++
  "\twhile (i < n)\n" ++
  "\t\x7b\n" ++
  statementBlock f.indexInitializer?.toList 2 ++ statementBlock f.innerProxies 2 ++
  "\t\toutput[i] = " ++ f.uniqueName ++ "(" ++ String.intercalate ", " f.callArgs ++ ");\n" ++
  "\t\ti += gridSize;\n" ++
  "\t\x7d\n" ++
  "\x7d\n"

/-- The kernel itself: its declaration and its body. -/
def kernelText (f : UserFunction) (kernel : String) : String :=
  "__kernel void " ++ kernel ++ "(" ++ leadingList f.kernelParams ++
  "__global " ++ f.returnType ++ " *output, " ++
  "size_t w, size_t n, size_t Vsize, size_t Hsize, size_t base" ++ ")\n" ++ bodyText f

/-- The template of the kernel, with the values of a function, renders to its text. -/
theorem render_kernelTemplate (f : UserFunction) (kernel : String) :
    kernelTemplate.render (kernelBindings f kernel) = .ok (kernelText f kernel) := by
  have h : Template.Filled (kernelBindings f kernel) kernelTemplateText
      ["KERNEL_NAME", "KERNEL_PARAMS", "RESULT_TYPE", "CONTAINER_PROXIES", "INDEX_INITIALIZER",
        "CONTAINER_PROXIES_INNER", "FUNCTION_NAME", "CALL_ARGS"] (kernelText f kernel) := by
    -- Every piece is a marker with its value or a text without markers.
    unfold kernelTemplateText kernelText bodyText
    simp only [String.append_assoc, -String.reduceAppend]
    repeat' first
      | with_reducible refine Template.Filled.slot ?_ rfl ?_
      | with_reducible refine Template.Filled.text ?_ ?_
      | with_reducible refine Template.Filled.last ?_
      | with_reducible exact Template.isClosed_ofList (by decide)
      | with_reducible exact Template.isName_ofList (by decide)
  exact Template.render_of_filled h (by simp [kernelBindings]) _

/-- All that a kernel needs, each part before those that use it. -/
def definitionsText (g : MetadataGraph) (f : UserFunction) (callees : List Callee)
    (types : List UserType) (preserveLines : Bool) : String :=
  doublePart f callees ++ constantPart g.constants ++ typePart types ++ indexTypes ++
    String.join (proxyDefinitions (containersOf f callees)) ++
    String.join (callees.map fun c => functionText c.function c.name preserveLines) ++
    functionText f f.uniqueName preserveLines

/-- The kernel source, once the callees and the types of the function are listed: the definitions
and the kernel. -/
theorem text_of_lists {g : MetadataGraph} {f : UserFunction} {callees : List Callee}
    {types : List UserType} (hcallees : g.callees f = .ok callees)
    (htypes : g.typesFor f = .ok types) (kernel : String) (preserveLines : Bool) :
    text g f kernel preserveLines =
      .ok (definitionsText g f callees types preserveLines ++ kernelText f kernel) := by
  unfold text
  rw [render_kernelTemplate]
  simp only [hcallees, preamble, htypes, definitionsText]

/-- There is a kernel source exactly if the callees and the types of the function can be listed. -/
theorem text_eq_ok_iff {g : MetadataGraph} {f : UserFunction} {kernel source : String}
    {preserveLines : Bool} :
    text g f kernel preserveLines = .ok source ↔
      ∃ callees types, g.callees f = .ok callees ∧ g.typesFor f = .ok types ∧
        source = definitionsText g f callees types preserveLines ++ kernelText f kernel := by
  constructor
  · intro h
    cases hcallees : g.callees f with
    | error e =>
      unfold text at h
      rw [render_kernelTemplate, hcallees] at h
      cases h
    | ok callees =>
      cases htypes : g.typesFor f with
      | error e =>
        unfold text at h
        rw [render_kernelTemplate, hcallees] at h
        simp only [preamble, htypes] at h
        cases h
      | ok types =>
        rw [text_of_lists hcallees htypes] at h
        exact ⟨callees, types, rfl, rfl, (Except.ok.inj h).symm⟩
  · rintro ⟨callees, types, hcallees, htypes, rfl⟩
    exact text_of_lists hcallees htypes kernel preserveLines

end KernelSource

namespace Artifact

/-- The host class up to its launch function: the table of the built kernels, and the function that
builds the kernel source on every device. -/
def buildText (names : KernelNames) (delim kernelSource : String) : String :=
  "#include <mutex>\n" ++
  "#include <string>\n" ++
  "#include <vector>\n" ++
  "\n" ++
  "class " ++ names.wrapper ++ "\n" ++
  "\x7b\n" ++
  "public:\n" ++
  "\tstatic std::vector<cl_kernel> &kernels()\n" ++
  "\t\x7b\n" ++
  "\t\tstatic std::vector<cl_kernel> table;\n" ++
  "\t\treturn table;\n" ++
  "\t\x7d\n" ++
  "\n" ++
  "\tstatic void initialize()\n" ++
  "\t\x7b\n" ++
  "\t\tstatic std::once_flag built;\n" ++
  "\t\tstd::call_once(built, []\n" ++
  "\t\t\x7b\n" ++
  "\t\t\tstd::string source = skel::backend::cl_helpers::replaceSizeT(R\"" ++
  delim ++ "(" ++ kernelSource ++ ")" ++ delim ++ "\");\n" ++
  "\t\t\tauto &devices = skel::backend::Environment<int>::getInstance()->m_devices_CL;\n" ++
  "\t\t\tkernels().reserve(devices.size());\n" ++
  "\t\t\tfor (skel::backend::Device_CL *device : devices)\n" ++
  "\t\t\t\x7b\n" ++
  "\t\t\t\tcl_int err;\n" ++
  "\t\t\t\tcl_program program = skel::backend::cl_helpers::buildProgram(device, source);\n" ++
  "\t\t\t\tcl_kernel kernel = clCreateKernel(program, \"" ++ names.kernel ++ "\", &err);\n" ++
  "\t\t\t\tCL_CHECK_ERROR(err, \"Error creating MapPairs kernel '" ++ names.kernel ++ "'\");\n" ++
  "\t\t\t\tkernels().push_back(kernel);\n" ++
  "\t\t\t\x7d\n" ++
  "\t\t\x7d);\n" ++
  "\t\x7d\n" ++
  "\n"

/-- What follows the call that passes the arguments on: the launch, and the end of the class. -/
def enqueueText (kernel : String) : String :=
  "\t\tcl_int err = clEnqueueNDRangeKernel(\n" ++
  "\t\t\tskel::backend::Environment<int>::getInstance()->" ++
  "m_devices_CL.at(deviceID)->getQueue(),\n" ++
  "\t\t\tkernel, 1, NULL, &globalSize, &localSize, 0, NULL, NULL);\n" ++
  "\t\tCL_CHECK_ERROR(err, \"Error launching MapPairs kernel '" ++ kernel ++ "'\");\n" ++
  "\t\x7d\n" ++
  "\x7d;\n"

/-- The launch function and the end of the host class. -/
def launchText (f : UserFunction) (kernel : String) : String :=
  "\tstatic void map\n" ++
  "\t(\n" ++
  "\t\tsize_t deviceID, size_t localSize, size_t globalSize,\n" ++
  "\t\t" ++ leadingList f.hostParams ++ hostBuffer ++ "<" ++ f.returnType ++ "> *output" ++ ",\n" ++
  "\t\t" ++ "size_t w, size_t n, size_t Vsize, size_t Hsize, size_t base" ++ "\n" ++
  "\t)\n" ++
  "\t\x7b\n" ++
  "\t\tinitialize();\n" ++
  "\t\tcl_kernel kernel = kernels().at(deviceID);\n" ++
  "\t\tskel::backend::cl_helpers::setKernelArgs(kernel, " ++ leadingList f.kernelArgs ++
  "output->getDeviceDataPointer(), w, n, Vsize, Hsize, base" ++ ");\n" ++ enqueueText kernel

/-- The host class. -/
def hostText (f : UserFunction) (names : KernelNames) (delim kernelSource : String) : String :=
  buildText names delim kernelSource ++ launchText f names.kernel

/-- The template of the host class, with the values of a kernel, renders to its text. -/
theorem render_wrapperTemplate (f : UserFunction) (names : KernelNames)
    (delim kernelSource : String) :
    wrapperTemplate.render (wrapperBindings f names delim kernelSource) =
      .ok (hostText f names delim kernelSource) := by
  have h : Template.Filled (wrapperBindings f names delim kernelSource) wrapperTemplateText
      ["WRAPPER_NAME", "DELIM", "KERNEL_SOURCE", "DELIM", "KERNEL_NAME", "KERNEL_NAME",
        "HOST_PARAMS", "HOST_BUFFER", "RESULT_TYPE", "KERNEL_ARGS", "KERNEL_NAME"]
      (hostText f names delim kernelSource) := by
    unfold wrapperTemplateText hostText buildText launchText enqueueText
    simp only [String.append_assoc, -String.reduceAppend]
    repeat' first
      | with_reducible refine Template.Filled.slot ?_ rfl ?_
      | with_reducible refine Template.Filled.text ?_ ?_
      | with_reducible refine Template.Filled.last ?_
      | with_reducible exact Template.isClosed_ofList (by decide)
      | with_reducible exact Template.isName_ofList (by decide)
  exact Template.render_of_filled h (by simp [wrapperBindings]) _

/-- The artifact with a kernel source and a delimiter for it. -/
def ofSource (r : LoweringRequest) (kernelSource delim : String) : Artifact where
  backend := .openCL
  skeleton := r.skeleton
  function := r.function.uniqueName
  shape := r.shape
  names := r.names
  kernelSource := kernelSource
  sourceText := hostText r.function r.names delim kernelSource
  outputPath := pathOf r.outputDir r.names.kernel
  signature := ⟨r.function.slots, r.function.returnType⟩

@[simp]
theorem kernelSource_ofSource (r : LoweringRequest) (kernelSource delim : String) :
    (ofSource r kernelSource delim).kernelSource = kernelSource :=
  rfl

@[simp]
theorem sourceText_ofSource (r : LoweringRequest) (kernelSource delim : String) :
    (ofSource r kernelSource delim).sourceText =
      buildText r.names delim kernelSource ++ launchText r.function r.names.kernel :=
  rfl

@[simp]
theorem signature_ofSource (r : LoweringRequest) (kernelSource delim : String) :
    (ofSource r kernelSource delim).signature = ⟨r.function.slots, r.function.returnType⟩ :=
  rfl

/-- Lowering a cross product fails only where the kernel source or its delimiter does. -/
theorem ofPairs_eq (g : MetadataGraph) (r : LoweringRequest) :
    ofPairs g r =
      match KernelSource.text g r.function r.names.kernel r.preserveLines with
      | .error e => .error e
      | .ok kernelSource =>
        match RawLiteral.delimiter kernelSource with
        | .error e => .error e
        | .ok delim => .ok (ofSource r kernelSource delim) := by
  unfold ofPairs
  simp only [render_wrapperTemplate]
  rfl

/-- Lowering succeeds exactly for the cross product, if there is a kernel source and a delimiter
for it. -/
theorem lower_eq_ok_iff {g : MetadataGraph} {r : LoweringRequest} {a : Artifact} :
    lower g r = .ok a ↔
      r.skeleton = .mapPairs ∧ ∃ kernelSource delim,
        KernelSource.text g r.function r.names.kernel r.preserveLines = .ok kernelSource ∧
        RawLiteral.delimiter kernelSource = .ok delim ∧ a = ofSource r kernelSource delim := by
  -- Every other skeleton is refused at once.
  by_cases hskel : r.skeleton = .mapPairs
  · have hlower : lower g r = ofPairs g r := by
      unfold lower
      rw [hskel]
    rw [hlower, ofPairs_eq]
    cases KernelSource.text g r.function r.names.kernel r.preserveLines with
    | error e => simp
    | ok source =>
      cases hdelim : RawLiteral.delimiter source with
      | error e => simp [hdelim]
      | ok delim =>
        simp only [hdelim, hskel, true_and, Except.ok.injEq]
        constructor
        · rintro rfl
          exact ⟨source, delim, rfl, hdelim, rfl⟩
        · rintro ⟨source', delim', rfl, hdelim', rfl⟩
          rw [Except.ok.inj (hdelim.symm.trans hdelim')]
  · have hlower : lower g r =
        .error (.unsupportedSkeleton r.skeleton Backend.openCL.displayName) := by
      unfold lower
      split
      · contradiction
      · rfl
    simp [hlower, hskel]

/-- A cross product whose kernel source has no quote is lowered with the shortest delimiter. -/
theorem lower_of_no_quote {g : MetadataGraph} {r : LoweringRequest} {callees : List Callee}
    {types : List UserType} (hskel : r.skeleton = .mapPairs)
    (hcallees : g.callees r.function = .ok callees) (htypes : g.typesFor r.function = .ok types)
    (hquote : (KernelSource.definitionsText g r.function callees types r.preserveLines ++
      KernelSource.kernelText r.function r.names.kernel).toByteArray.data.toList.contains 34 =
        false) :
    lower g r = .ok (ofSource r
      (KernelSource.definitionsText g r.function callees types r.preserveLines ++
        KernelSource.kernelText r.function r.names.kernel) "###") :=
  lower_eq_ok_iff.2 ⟨hskel, _, _,
    KernelSource.text_of_lists hcallees htypes r.names.kernel r.preserveLines,
    RawLiteral.delimiter_of_no_quote (RawLiteral.no_quote_of_bytes hquote), rfl⟩

end Artifact

end KernelGen
