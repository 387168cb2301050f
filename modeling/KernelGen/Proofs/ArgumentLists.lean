import KernelGen.Proofs.KernelText

/-!
# The argument lists of a kernel

A kernel and the host function that launches it are written by different templates, from lists that
are collected in one pass over the parameters of a user function. Here the lists are compared
position by position with the argument slots, and the slots with the texts that come out.

* `Slot.kernelParam`, `Slot.hostParam`, `Slot.hostArg`: how one argument is declared in the kernel,
  declared in the host function, and passed on.
* `ParamLists.extend`: some arguments more, which the three lists describe alike. Every step of the
  pass is of this form (`addElement_eq`, `addContainer_eq`, `addScalar_eq`), and so is the whole
  pass (`assemble_eq`).
* `kernelText_eq`, `launchText_eq`: the lists in the texts of the kernel and of the host class.

At the end, the kernel's declaration, the call that sets its arguments and the launch function are
shown to list the same arguments in the same order.
-/

namespace KernelGen

namespace Slot

/-- The declaration of an argument in the kernel. -/
def kernelParam : Slot → String
  | buffer name elemType => "__global " ++ elemType ++ " *" ++ name
  | size name => "size_t " ++ name
  | scalar name type => type ++ " " ++ name

/-- The declaration of an argument in the host function. -/
def hostParam : Slot → String
  | buffer name elemType => "skel::backend::DeviceMemPointer_CL<" ++ elemType ++ "> *" ++ name
  | size name => "size_t " ++ name
  | scalar name type => type ++ " " ++ name

/-- The expression by which the host passes an argument on. -/
def hostArg : Slot → String
  | buffer name _ => name ++ "->getDeviceDataPointer()"
  | size name => name
  | scalar name _ => name

end Slot

namespace ContainerParam

/-- The arguments that stand for a container: its elements, its index buffers and its sizes. -/
def slots (p : ContainerParam) : List Slot :=
  Slot.buffer (fieldParam "data" p.name) p.type ::
    (p.kind.indexFields.map fun field => Slot.buffer (fieldParam field p.name) "size_t") ++
    p.kind.sizeFields.map fun field => Slot.size (fieldParam field p.name)

/-- The proxy of a container, if it is set up before the loop. -/
def outerProxy (p : ContainerParam) : List String :=
  if p.placement = .beforeLoop then [p.initializer] else []

/-- The proxy of a container, if it is set up for each element. -/
def innerProxy (p : ContainerParam) : List String :=
  if p.placement = .perIteration then [p.initializer] else []

end ContainerParam

/-- The arguments of a function, parameter by parameter. -/
def UserFunction.argumentSlots (f : UserFunction) : List Slot :=
  (f.elementwise.map fun p => Slot.buffer p.name p.type) ++ f.containers.flatMap (·.slots) ++
    f.scalars.map fun p => Slot.scalar p.name p.type

namespace ParamLists

/-! ## What the pass collects -/

/-- The lists with some arguments more, which are described alike on all sides, and with more
arguments of the call and more proxies. -/
def extend (l : ParamLists) (slots : List Slot) (calls outer inner : List String) : ParamLists where
  kernelParams := l.kernelParams ++ slots.map Slot.kernelParam
  hostParams := l.hostParams ++ slots.map Slot.hostParam
  kernelArgs := l.kernelArgs ++ slots.map Slot.hostArg
  callArgs := l.callArgs ++ calls
  outerProxies := l.outerProxies ++ outer
  innerProxies := l.innerProxies ++ inner
  indexInitializer? := l.indexInitializer?
  slots := l.slots ++ slots

/-- Nothing more leaves the lists as they are. -/
theorem extend_nil (l : ParamLists) : l.extend [] [] [] [] = l := by
  simp [extend]

/-- Two extensions are one. -/
theorem extend_extend (l : ParamLists) (s s' : List Slot) (c c' o o' i i' : List String) :
    (l.extend s c o i).extend s' c' o' i' = l.extend (s ++ s') (c ++ c') (o ++ o') (i ++ i') := by
  simp [extend]

/-- A fold whose steps extend the lists extends them by what all its items contribute. -/
theorem foldl_extend {α : Type} {step : ParamLists → α → ParamLists} {s : α → List Slot}
    {c o i : α → List String} (hstep : ∀ l a, step l a = l.extend (s a) (c a) (o a) (i a))
    (l : ParamLists) (items : List α) :
    items.foldl step l =
      l.extend (items.flatMap s) (items.flatMap c) (items.flatMap o) (items.flatMap i) := by
  induction items generalizing l with
  | nil => exact (extend_nil l).symm
  | cons a items ih =>
    rw [List.foldl_cons, ih, hstep, extend_extend]
    rfl

/-- An argument of the call. -/
theorem pushCallArg_eq (l : ParamLists) (arg : String) :
    l.pushCallArg arg = l.extend [] [arg] [] [] := by
  simp only [extend, List.map_nil, List.append_nil]
  rfl

/-- A device buffer, declared in the kernel and on the host. -/
theorem pushBuffer_eq (l : ParamLists) (name elemType : String) :
    (l.pushKernelParam ("__global " ++ elemType ++ " *" ++ name)).pushBuffer name elemType =
      l.extend [.buffer name elemType] [] [] [] := by
  have hbuffer : hostBuffer ++ "<" = "skel::backend::DeviceMemPointer_CL<" := by decide
  simp only [extend, List.append_nil]
  rw [pushBuffer, hbuffer]
  rfl

/-- An elementwise parameter is one buffer. -/
theorem addElement_eq (l : ParamLists) (p : ElementParam) :
    l.addElement p = l.extend [.buffer p.name p.type] [p.callArg] [] [] := by
  rw [addElement, pushBuffer_eq, pushCallArg_eq, extend_extend]
  rfl

/-- A buffer of indices is one buffer. -/
theorem addIndexBuffer_eq (l : ParamLists) (name : String) :
    l.addIndexBuffer name = l.extend [.buffer name "size_t"] [] [] [] := by
  have hdecl : "__global size_t *" = "__global " ++ "size_t" ++ " *" := by decide
  rw [addIndexBuffer, hdecl, pushBuffer_eq]

/-- A size is one argument. -/
theorem addSize_eq (l : ParamLists) (name : String) :
    l.addSize name = l.extend [.size name] [] [] [] := by
  simp only [extend, List.append_nil]
  rfl

/-- A proxy stands before the loop or inside it. -/
theorem addProxy_eq (l : ParamLists) (p : ContainerParam) :
    l.addProxy p = l.extend [] [] p.outerProxy p.innerProxy := by
  unfold addProxy ContainerParam.outerProxy ContainerParam.innerProxy
  cases p.placement <;> simp [extend]

/-- A container is its slots, its name in the call and its proxy. -/
theorem addContainer_eq (l : ParamLists) (p : ContainerParam) :
    l.addContainer p = l.extend p.slots [p.name] p.outerProxy p.innerProxy := by
  have hindex (l : ParamLists) (field : String × String) := addIndexBuffer_eq l field.2
  have hsize (l : ParamLists) (field : String × String) := addSize_eq l field.2
  rw [addContainer, pushBuffer_eq, foldl_extend hindex, foldl_extend hsize, addProxy_eq,
    pushCallArg_eq]
  -- Buffers of indices and sizes add no argument to the call and no proxy.
  have hnone (fields : List (String × String)) :
      fields.flatMap (fun _ => ([] : List String)) = [] := by
    simp
  simp only [extend_extend, hnone, ← List.map_eq_flatMap, ContainerFields.of, List.map_map,
    List.nil_append, List.append_nil]
  rfl

/-- A scalar is one argument. -/
theorem addScalar_eq (l : ParamLists) (p : ScalarParam) :
    l.addScalar p = l.extend [.scalar p.name p.type] [p.name] [] [] := by
  simp only [extend, List.append_nil]
  rfl

/-- The lists of a function: what its index adds, and then all its arguments, described alike on all
sides. -/
theorem assemble_eq (f : UserFunction) :
    assemble f = (ofIndexing f.indexing).extend f.argumentSlots
      (f.elementwise.map (·.callArg) ++ f.containers.map (·.name) ++ f.scalars.map (·.name))
      (f.containers.flatMap (·.outerProxy)) (f.containers.flatMap (·.innerProxy)) := by
  have hnone {α : Type} (items : List α) : items.flatMap (fun _ => ([] : List String)) = [] := by
    simp
  rw [assemble, foldl_extend addElement_eq, foldl_extend addContainer_eq,
    foldl_extend addScalar_eq]
  simp only [extend_extend, hnone, ← List.map_eq_flatMap, List.nil_append, List.append_nil]
  rfl

/-- The index adds no argument to the kernel. -/
theorem ofIndexing_slots (i : Indexing) :
    (ofIndexing i).kernelParams = [] ∧ (ofIndexing i).hostParams = [] ∧
      (ofIndexing i).kernelArgs = [] ∧ (ofIndexing i).slots = [] := by
  cases i <;> exact ⟨rfl, rfl, rfl, rfl⟩

/-- The slots of a function are its arguments. -/
theorem slots_assemble (f : UserFunction) : (assemble f).slots = f.argumentSlots := by
  obtain ⟨-, -, -, h⟩ := ofIndexing_slots f.indexing
  rw [assemble_eq, extend, h, List.nil_append]

/-- The kernel declares the slots. -/
theorem kernelParams_assemble (f : UserFunction) :
    (assemble f).kernelParams = (assemble f).slots.map Slot.kernelParam := by
  obtain ⟨h, -, -, -⟩ := ofIndexing_slots f.indexing
  rw [slots_assemble, assemble_eq, extend, h, List.nil_append]

/-- The host function declares the slots. -/
theorem hostParams_assemble (f : UserFunction) :
    (assemble f).hostParams = (assemble f).slots.map Slot.hostParam := by
  obtain ⟨-, h, -, -⟩ := ofIndexing_slots f.indexing
  rw [slots_assemble, assemble_eq, extend, h, List.nil_append]

/-- The host passes the slots on. -/
theorem kernelArgs_assemble (f : UserFunction) :
    (assemble f).kernelArgs = (assemble f).slots.map Slot.hostArg := by
  obtain ⟨-, -, h, -⟩ := ofIndexing_slots f.indexing
  rw [slots_assemble, assemble_eq, extend, h, List.nil_append]

end ParamLists

/-! ## The lists in the texts -/

/-- A leading list and the items after it are one list. -/
theorem leadingList_append_intercalate (items : List String) {rest : List String}
    (hrest : rest ≠ []) :
    leadingList items ++ ", ".intercalate rest = ", ".intercalate (items ++ rest) := by
  induction items with
  | nil => simp [leadingList]
  | cons item items ih =>
    have hne : items ++ rest ≠ [] := by simp [hrest]
    rw [List.cons_append, String.intercalate_cons_of_ne_nil hne, ← ih]
    simp only [leadingList, List.map_cons, String.join_cons, String.append_assoc]

/-- The sizes that every launch passes last. -/
def launchSizes : List Slot :=
  [.size "w", .size "n", .size "Vsize", .size "Hsize", .size "base"]

/-- The slots of a signature end with the output and the sizes of the launch. -/
theorem Signature.slots_eq (s : Signature) :
    s.slots = s.userSlots ++ Slot.buffer "output" s.resultType :: launchSizes :=
  rfl

/-- The sizes as the kernel declares them. -/
theorem intercalate_kernelParam_launchSizes :
    ", ".intercalate (launchSizes.map Slot.kernelParam) =
      "size_t w, size_t n, size_t Vsize, size_t Hsize, size_t base" := by
  decide

/-- The output and the sizes as the host passes them on. -/
theorem intercalate_hostArg_output (type : String) :
    ", ".intercalate ((Slot.buffer "output" type :: launchSizes).map Slot.hostArg) =
      "output->getDeviceDataPointer(), w, n, Vsize, Hsize, base" := by
  change ", ".intercalate (("output" ++ "->getDeviceDataPointer()") :: launchSizes.map Slot.hostArg)
    = _
  decide

/-- The kernel declares the slots of its signature. -/
theorem kernelText_eq (f : UserFunction) (kernel : String) :
    KernelSource.kernelText f kernel =
      "__kernel void " ++ kernel ++ "(" ++
        ", ".intercalate ((Signature.slots ⟨f.slots, f.returnType⟩).map Slot.kernelParam) ++
        ")\n" ++ KernelSource.bodyText f := by
  have hparams : f.kernelParams = f.slots.map Slot.kernelParam :=
    ParamLists.kernelParams_assemble f
  have houtput : " *output, " = " *" ++ "output" ++ ", " := by decide
  have hsizes : launchSizes.map Slot.kernelParam ≠ [] := List.cons_ne_nil _ _
  rw [Signature.slots_eq, List.map_append, ← hparams, List.map_cons,
    ← leadingList_append_intercalate _ (List.cons_ne_nil _ _),
    String.intercalate_cons_of_ne_nil hsizes, intercalate_kernelParam_launchSizes]
  -- The text is opened last, so that no earlier step compares its literals.
  unfold KernelSource.kernelText
  rewrite [houtput]
  simp only [Slot.kernelParam, String.append_assoc, -String.reduceAppend]

/-- The launch function declares the slots of the signature, on two lines, and passes them on. -/
theorem launchText_eq (f : UserFunction) (kernel : String) :
    Artifact.launchText f kernel =
      "\tstatic void map\n" ++
      "\t(\n" ++
      "\t\tsize_t deviceID, size_t localSize, size_t globalSize,\n" ++
      "\t\t" ++
        ", ".intercalate ((f.slots ++ [Slot.buffer "output" f.returnType]).map Slot.hostParam) ++
      ",\n" ++
      "\t\t" ++ ", ".intercalate (launchSizes.map Slot.hostParam) ++ "\n" ++
      "\t)\n" ++
      "\t\x7b\n" ++
      "\t\tinitialize();\n" ++
      "\t\tcl_kernel kernel = kernels().at(deviceID);\n" ++
      "\t\tskel::backend::cl_helpers::setKernelArgs(kernel, " ++
      ", ".intercalate ((Signature.slots ⟨f.slots, f.returnType⟩).map Slot.hostArg) ++ ");\n" ++
      Artifact.enqueueText kernel := by
  have hparams : f.hostParams = f.slots.map Slot.hostParam := ParamLists.hostParams_assemble f
  have hargs : f.kernelArgs = f.slots.map Slot.hostArg := ParamLists.kernelArgs_assemble f
  have hsizes : ", ".intercalate (launchSizes.map Slot.hostParam) =
      "size_t w, size_t n, size_t Vsize, size_t Hsize, size_t base" :=
    intercalate_kernelParam_launchSizes
  -- The template names the output itself, so its literals are cut where the slot has its parts.
  have hname : "> *output" = "> *" ++ "output" := by decide
  have hbuffer : hostBuffer ++ "<" = "skel::backend::DeviceMemPointer_CL<" := by decide
  have houtput : (Slot.buffer "output" f.returnType).hostParam =
      hostBuffer ++ "<" ++ f.returnType ++ "> *" ++ "output" := by
    rw [hbuffer]
    rfl
  rw [Signature.slots_eq, List.map_append, ← hparams, List.map_singleton,
    ← leadingList_append_intercalate _ (List.cons_ne_nil _ _), String.intercalate_singleton,
    List.map_append, ← hargs, ← leadingList_append_intercalate f.kernelArgs
      (by rw [List.map_cons]; exact List.cons_ne_nil _ _), intercalate_hostArg_output, hsizes]
  unfold Artifact.launchText
  rewrite [hname, houtput]
  simp only [String.append_assoc, -String.reduceAppend]

/-- The views of the argument list agree. The lists that a function contributes are as long as its
slots and describe them position by position; the signature has these slots, the output and the
sizes of the launch; and the kernel's declaration, the launch function behind its first three
parameters and the call that sets the arguments of the kernel list the slots of the signature. -/
theorem lower_argument_lists {g : MetadataGraph} {r : LoweringRequest} {a : Artifact}
    (h : Artifact.lower g r = .ok a) :
    let lists := ParamLists.assemble r.function
    let output := Slot.buffer "output" r.function.returnType
    (lists.slots = r.function.argumentSlots ∧
      lists.kernelParams.length = lists.slots.length ∧
      lists.hostParams.length = lists.slots.length ∧
      lists.kernelArgs.length = lists.slots.length ∧
      ∀ (k : Nat) (slot : Slot), lists.slots[k]? = some slot →
        lists.kernelParams[k]? = some slot.kernelParam ∧
        lists.hostParams[k]? = some slot.hostParam ∧
        lists.kernelArgs[k]? = some slot.hostArg) ∧
    a.signature.slots = lists.slots ++ output :: launchSizes ∧
    (∃ callees types, g.callees r.function = .ok callees ∧ g.typesFor r.function = .ok types ∧
      a.kernelSource = KernelSource.definitionsText g r.function callees types
        r.preserveLines ++
      ("__kernel void " ++ r.names.kernel ++ "(" ++
        ", ".intercalate (a.signature.slots.map Slot.kernelParam) ++ ")\n" ++
        KernelSource.bodyText r.function)) ∧
    ∃ delim, RawLiteral.delimiter a.kernelSource = .ok delim ∧ a.sourceText =
      Artifact.buildText r.names delim a.kernelSource ++
      ("\tstatic void map\n" ++
        "\t(\n" ++
        "\t\tsize_t deviceID, size_t localSize, size_t globalSize,\n" ++
        "\t\t" ++ ", ".intercalate ((lists.slots ++ [output]).map Slot.hostParam) ++ ",\n" ++
        "\t\t" ++ ", ".intercalate (launchSizes.map Slot.hostParam) ++ "\n" ++
        "\t)\n" ++
        "\t\x7b\n" ++
        "\t\tinitialize();\n" ++
        "\t\tcl_kernel kernel = kernels().at(deviceID);\n" ++
        "\t\tskel::backend::cl_helpers::setKernelArgs(kernel, " ++
        ", ".intercalate (a.signature.slots.map Slot.hostArg) ++ ");\n" ++
        Artifact.enqueueText r.names.kernel) := by
  obtain ⟨-, source, delim, htext, hdelim, rfl⟩ := Artifact.lower_eq_ok_iff.1 h
  obtain ⟨callees, types, hcallees, htypes, rfl⟩ := KernelSource.text_eq_ok_iff.1 htext
  intro lists output
  have hkernel : lists.kernelParams = lists.slots.map Slot.kernelParam :=
    ParamLists.kernelParams_assemble r.function
  have hhost : lists.hostParams = lists.slots.map Slot.hostParam :=
    ParamLists.hostParams_assemble r.function
  have hargs : lists.kernelArgs = lists.slots.map Slot.hostArg :=
    ParamLists.kernelArgs_assemble r.function
  refine ⟨⟨ParamLists.slots_assemble r.function, ?_, ?_, ?_, ?_⟩, rfl, ?_, ?_⟩
  · rw [hkernel, List.length_map]
  · rw [hhost, List.length_map]
  · rw [hargs, List.length_map]
  · intro k slot hslot
    refine ⟨?_, ?_, ?_⟩
    · rw [hkernel, List.getElem?_map, hslot, Option.map_some]
    · rw [hhost, List.getElem?_map, hslot, Option.map_some]
    · rw [hargs, List.getElem?_map, hslot, Option.map_some]
  · refine ⟨callees, types, hcallees, htypes, ?_⟩
    rw [Artifact.kernelSource_ofSource, Artifact.signature_ofSource, kernelText_eq]
  · refine ⟨delim, hdelim, ?_⟩
    rw [Artifact.sourceText_ofSource, Artifact.signature_ofSource, launchText_eq,
      Artifact.kernelSource_ofSource]
    rfl

/-- A request with an index, an elementwise parameter, a container and a scalar. -/
def sampleRequest : LoweringRequest where
  skeleton := .mapPairs
  function := {
    name := "scale"
    uniqueName := "scale"
    returnType := "float"
    indexing := .linear
    elementwise := [⟨"a", "float", .vertical⟩]
    containers := [⟨"m", "int", .matrix⟩]
    scalars := [⟨"s", "float"⟩]
    body := "return a * s;" }
  shape := ⟨1, 0⟩
  names := ⟨"k", "Wrapper_k"⟩
  outputDir := "out"
  preserveLines := false

/-- The request can be lowered. -/
theorem lower_sampleRequest : ∃ a, Artifact.lower {} sampleRequest = .ok a := by
  have hcallees : MetadataGraph.callees {} sampleRequest.function = .ok [] := by cbv
  have htypes : MetadataGraph.typesFor {} sampleRequest.function = .ok [] := by cbv
  exact ⟨_, Artifact.lower_of_no_quote rfl hcallees htypes (by decide +kernel)⟩

/-- The arguments of the request: the buffer of the elements, the container's buffer and sizes, the
scalar, the output and the sizes of the launch. -/
theorem lower_argument_lists_sample :
    ∃ a, Artifact.lower {} sampleRequest = .ok a ∧
      a.signature.slots =
        [.buffer "a" "float", .buffer "skel_data_m" "int", .size "skel_rows_m",
          .size "skel_cols_m", .scalar "s" "float", .buffer "output" "float", .size "w",
          .size "n", .size "Vsize", .size "Hsize", .size "base"] := by
  obtain ⟨a, ha⟩ := lower_sampleRequest
  obtain ⟨⟨hslots, -⟩, hsignature, -⟩ := lower_argument_lists ha
  refine ⟨a, ha, ?_⟩
  rw [hsignature, hslots]
  decide

end KernelGen
