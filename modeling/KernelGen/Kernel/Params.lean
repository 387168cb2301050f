import KernelGen.Kernel.Proxy
import KernelGen.Kernel.Slot

/-!
# Parameter lists

What one user function contributes to its kernel and to the host code around it: the parameters
that the kernel declares, those that the host function declares, the arguments that the host passes
on, the argument slots, the arguments of the call in the loop, and the statements that set up the
locals that the call reads. All of them grow together in one pass over the index, the elementwise
parameters, the containers and the scalars.
-/

namespace KernelGen

/-- The host type of a device buffer. -/
def hostBuffer : String := "skel::backend::DeviceMemPointer_CL"

/-- The local variable with the position of the current element. -/
def indexLocal : String := Identifier.reservedPrefix ++ "index"

/-- The argument for an elementwise parameter: its element in the row or column of the result. -/
def ElementParam.callArg (p : ElementParam) : String :=
  match p.side with
  | .vertical => p.name ++ "[i / Hsize]"
  | .horizontal => p.name ++ "[i % Hsize]"

/-- The struct type of the index parameter. -/
def Indexing.typeName? : Indexing → Option String
  | none => Option.none
  | linear => some "index1_t"
  | rowCol => some "index2_t"

/-- What a user function contributes to its kernel and to the host code. -/
structure ParamLists where
  /-- The parameters that the kernel declares. -/
  kernelParams : List String := []
  /-- The parameters that the host function declares. -/
  hostParams : List String := []
  /-- The arguments that the host passes on. -/
  kernelArgs : List String := []
  /-- The arguments of the call in the loop. -/
  callArgs : List String := []
  /-- The proxies that are set up before the loop. -/
  outerProxies : List String := []
  /-- The proxies that are set up for each element. -/
  innerProxies : List String := []
  /-- The statement that declares the position of the current element. -/
  indexInitializer? : Option String := none
  /-- The argument slots. -/
  slots : List Slot := []
  deriving DecidableEq, Repr

namespace ParamLists

/-- The lists of a function before its parameters: the index that it learns. -/
def ofIndexing : Indexing → ParamLists
  | .none => {}
  | .linear => {
      indexInitializer? := some ("index1_t " ++ indexLocal ++ " = \x7b .i = base + i \x7d;")
      callArgs := [indexLocal] }
  | .rowCol => {
      indexInitializer? := some ("index2_t " ++ indexLocal ++
        " = \x7b .row = (base + i) / w, .col = (base + i) % w \x7d;")
      callArgs := [indexLocal] }

/-- Adds a parameter to the kernel. -/
def pushKernelParam (l : ParamLists) (param : String) : ParamLists :=
  { l with kernelParams := l.kernelParams ++ [param] }

/-- Adds an argument to the call. -/
def pushCallArg (l : ParamLists) (arg : String) : ParamLists :=
  { l with callArgs := l.callArgs ++ [arg] }

/-- Adds a parameter to the host function, the argument that it passes on, and the slot. -/
def pushHost (l : ParamLists) (param arg : String) (slot : Slot) : ParamLists :=
  { l with
    hostParams := l.hostParams ++ [param]
    kernelArgs := l.kernelArgs ++ [arg]
    slots := l.slots ++ [slot] }

/-- Adds a device buffer to the host side. -/
def pushBuffer (l : ParamLists) (name elemType : String) : ParamLists :=
  l.pushHost (hostBuffer ++ "<" ++ elemType ++ "> *" ++ name) (name ++ "->getDeviceDataPointer()")
    (.buffer name elemType)

/-- Adds an elementwise parameter. -/
def addElement (l : ParamLists) (p : ElementParam) : ParamLists :=
  ((l.pushKernelParam ("__global " ++ p.type ++ " *" ++ p.name)).pushBuffer p.name
    p.type).pushCallArg p.callArg

/-- Adds a buffer of indices. -/
def addIndexBuffer (l : ParamLists) (name : String) : ParamLists :=
  (l.pushKernelParam ("__global size_t *" ++ name)).pushBuffer name "size_t"

/-- Adds a size. -/
def addSize (l : ParamLists) (name : String) : ParamLists :=
  (l.pushKernelParam ("size_t " ++ name)).pushHost ("size_t " ++ name) name (.size name)

/-- Adds the statement that sets up the proxy of a container. -/
def addProxy (l : ParamLists) (p : ContainerParam) : ParamLists :=
  match p.placement with
  | .beforeLoop => { l with outerProxies := l.outerProxies ++ [p.initializer] }
  | .perIteration => { l with innerProxies := l.innerProxies ++ [p.initializer] }

/-- Adds a container: its elements, its index buffers, its sizes and its proxy. -/
def addContainer (l : ParamLists) (p : ContainerParam) : ParamLists :=
  let fields := ContainerFields.of p
  let l := (l.pushKernelParam ("__global " ++ p.type ++ " *" ++ fields.data)).pushBuffer
    fields.data p.type
  let l := fields.indexBuffers.foldl (fun l field => l.addIndexBuffer field.2) l
  let l := fields.sizes.foldl (fun l field => l.addSize field.2) l
  (l.addProxy p).pushCallArg p.name

/-- Adds a scalar. -/
def addScalar (l : ParamLists) (p : ScalarParam) : ParamLists :=
  ((l.pushKernelParam (p.type ++ " " ++ p.name)).pushHost (p.type ++ " " ++ p.name) p.name
    (.scalar p.name p.type)).pushCallArg p.name

/-- The lists of a function. -/
def assemble (f : UserFunction) : ParamLists :=
  f.scalars.foldl addScalar
    (f.containers.foldl addContainer (f.elementwise.foldl addElement (ofIndexing f.indexing)))

end ParamLists

namespace UserFunction

/-- The parameters that the kernel declares for a function. -/
def kernelParams (f : UserFunction) : List String :=
  (ParamLists.assemble f).kernelParams

/-- The parameters that the host function declares for a function. -/
def hostParams (f : UserFunction) : List String :=
  (ParamLists.assemble f).hostParams

/-- The arguments that the host passes on. -/
def kernelArgs (f : UserFunction) : List String :=
  (ParamLists.assemble f).kernelArgs

/-- The arguments of the call, in the order of the function's parameters. -/
def callArgs (f : UserFunction) : List String :=
  (ParamLists.assemble f).callArgs

/-- The proxies that are set up before the loop. -/
def outerProxies (f : UserFunction) : List String :=
  (ParamLists.assemble f).outerProxies

/-- The proxies that are set up for each element. -/
def innerProxies (f : UserFunction) : List String :=
  (ParamLists.assemble f).innerProxies

/-- The statement that declares the position of the current element. -/
def indexInitializer? (f : UserFunction) : Option String :=
  (ParamLists.assemble f).indexInitializer?

/-- The arguments that a function contributes to its kernel. -/
def slots (f : UserFunction) : List Slot :=
  (ParamLists.assemble f).slots

end UserFunction

/-- Items with a comma and a space after each, to stand in front of more items. -/
def leadingList (items : List String) : String :=
  String.join (items.map (· ++ ", "))

/-- Statements on lines of their own, indented by `depth` tabs. -/
def statementBlock (lines : List String) (depth : Nat) : String :=
  String.join (lines.map fun line => String.ofList (List.replicate depth '\t') ++ line ++ "\n")

end KernelGen
