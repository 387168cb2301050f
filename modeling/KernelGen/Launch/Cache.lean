import KernelGen.Kernel.Artifact
import KernelGen.Launch.Signature

/-!
# The kernel cache

A cache builds its kernel for every device the first time it is needed and launches it on request. A
failed build is remembered and reported until the cache is torn down. What the cache asked of the
devices is kept as a list of events, the last first; a device may answer differently each time.
-/

namespace KernelGen

/-- A launch as a device receives it. -/
structure KernelLaunch (κ : Type) where
  /-- The kernel that the device built. -/
  kernel : κ
  /-- All arguments. -/
  args : List Argument
  /-- The number of work items. -/
  globalSize : UInt64
  /-- The number of work items in a group. -/
  localSize : UInt64

/-- A device: how it answers when a number of requests of the same kind have gone before. -/
structure Device (κ : Type) where
  /-- The name of the device. -/
  name : String
  /-- Builds a kernel from a source, or fails with a log. -/
  build (before : Nat) (source kernelName : String) : Except String κ
  /-- Takes a launch, or fails with a reason. -/
  enqueue (before : Nat) (launch : KernelLaunch κ) : Except String Unit

/-- Why the cache could not do what it was asked for. -/
inductive DispatchError where
  | build (kernel device log : String)
  | notInitialized (kernel : String)
  | unknownDevice (kernel : String) (device : UInt64) (count : Nat)
  | argumentMismatch (kernel reason : String)
  | invalidWorkSize (kernel : String) (globalSize localSize : UInt64)
  | enqueue (kernel device reason : String)
  deriving DecidableEq, Repr

/-- The text of an error. -/
def DispatchError.message : DispatchError → String
  | build kernel device log =>
    "building kernel '" ++ kernel ++ "' for device '" ++ device ++ "' failed:\n" ++ log
  | notInitialized kernel => "kernel '" ++ kernel ++ "' has not been initialized"
  | unknownDevice kernel device count =>
    "kernel '" ++ kernel ++ "': no device " ++ Word.numeral device ++ " (" ++
      Decimal.numeral count ++ " discovered)"
  | argumentMismatch kernel reason => "kernel '" ++ kernel ++ "': " ++ reason
  | invalidWorkSize kernel globalSize localSize =>
    "kernel '" ++ kernel ++ "': global size " ++ Word.numeral globalSize ++
      " must be a non-zero multiple of local size " ++ Word.numeral localSize
  | enqueue kernel device reason =>
    "launching kernel '" ++ kernel ++ "' on device '" ++ device ++ "' failed: " ++ reason

/-- Something that the cache asked of a device. -/
inductive CacheEvent (κ : Type) where
  /-- A build on the device with this number. -/
  | build (device : Nat)
  /-- A launch on the device with this number, and whether the device took it. -/
  | enqueue (device : Nat) (launch : KernelLaunch κ) (taken : Bool)

/-- What a cache is made for. -/
structure KernelCache (κ : Type) where
  /-- The name of the kernel. -/
  kernelName : String
  /-- Its source. -/
  source : String
  /-- Its arguments. -/
  signature : Signature
  /-- The devices. -/
  devices : List (Device κ)

/-- What a cache knows. -/
structure CacheState (κ : Type) where
  /-- The kernels by device, or why they could not be built; nothing before the first attempt. -/
  table : Option (Except DispatchError (List κ)) := none
  /-- What was asked of the devices, the last first. -/
  events : List (CacheEvent κ) := []

namespace CacheState

variable {κ : Type}

/-- How often a device was asked to build. -/
def buildCount (events : List (CacheEvent κ)) (device : Nat) : Nat :=
  events.countP fun
    | .build d => d == device
    | .enqueue .. => false

/-- How often a device was asked to launch. -/
def enqueueCount (events : List (CacheEvent κ)) (device : Nat) : Nat :=
  events.countP fun
    | .build _ => false
    | .enqueue d _ _ => d == device

/-- The launches that a device took. -/
def taken (events : List (CacheEvent κ)) (device : Nat) : List (KernelLaunch κ) :=
  events.reverse.filterMap fun
    | .enqueue d launch true => if d == device then some launch else none
    | _ => none

/-- Whether all kernels are built. -/
def isInitialized (s : CacheState κ) : Bool :=
  match s.table with
  | some (.ok _) => true
  | _ => false

end CacheState

namespace KernelCache

variable {κ : Type}

/-- The cache for a generated kernel. -/
def ofArtifact (a : Artifact) (devices : List (Device κ)) : KernelCache κ :=
  ⟨a.names.kernel, a.kernelSource, a.signature, devices⟩

/-- The error that a device number is when there is no such device. -/
def unknownDevice (c : KernelCache κ) (device : UInt64) : DispatchError :=
  .unknownDevice c.kernelName device c.devices.length

/-- Builds the kernel for some devices, of which the first has the number `ordinal`, and stops at
the first failure. -/
def buildFrom (c : KernelCache κ) : Nat → List (Device κ) → List (CacheEvent κ) →
    Except DispatchError (List κ) × List (CacheEvent κ)
  | _, [], events => (.ok [], events)
  | ordinal, d :: devices, events =>
    match d.build (CacheState.buildCount events ordinal) c.source c.kernelName with
    | .error log => (.error (.build c.kernelName d.name log), .build ordinal :: events)
    | .ok kernel =>
      let (rest, events) := c.buildFrom (ordinal + 1) devices (.build ordinal :: events)
      (rest.map (kernel :: ·), events)

/-- The kernels by device, built now if that was not tried before. -/
def ensure (c : KernelCache κ) (s : CacheState κ) :
    Except DispatchError (List κ) × CacheState κ :=
  match s.table with
  | some table => (table, s)
  | none =>
    let (table, events) := c.buildFrom 0 c.devices s.events
    (table, ⟨some table, events⟩)

/-- Builds the kernel for every device, if that was not tried before. -/
def buildAll (c : KernelCache κ) (s : CacheState κ) :
    Except DispatchError Unit × CacheState κ :=
  let (table, s) := c.ensure s
  (table.map fun _ => (), s)

/-- Forgets the kernels or the failure. -/
def teardown (s : CacheState κ) : CacheState κ :=
  { s with table := none }

/-- The kernel that was built for a device. -/
def lookup (c : KernelCache κ) (kernels : List κ) (device : UInt64) : Except DispatchError κ :=
  match kernels[device.toNat]? with
  | some kernel => .ok kernel
  | none => .error (c.unknownDevice device)

/-- The kernel of a device, which must have been built before. -/
def kernel (c : KernelCache κ) (s : CacheState κ) (device : UInt64) : Except DispatchError κ :=
  match s.table with
  | some (.ok kernels) => c.lookup kernels device
  | some (.error e) => .error e
  | none => .error (.notInitialized c.kernelName)

/-- All arguments of a launch: those of the user, the output and the sizes. -/
def marshal (args : List Argument) (output : UInt64) (shape : LaunchShape) : List Argument :=
  args ++ .buffer output :: shape.args

/-- Launches the kernel on a device: what the device took, or why nothing was launched. -/
def map (c : KernelCache κ) (s : CacheState κ) (device localSize globalSize : UInt64)
    (args : List Argument) (output : UInt64) (shape : LaunchShape) :
    Except DispatchError (KernelLaunch κ) × CacheState κ :=
  if localSize = 0 ∨ globalSize = 0 ∨ globalSize % localSize ≠ 0 then
    (.error (.invalidWorkSize c.kernelName globalSize localSize), s)
  else
    match c.devices[device.toNat]? with
    | none => (.error (c.unknownDevice device), s)
    | some target =>
      let args := marshal args output shape
      match c.signature.mismatch? args with
      | some m => (.error (.argumentMismatch c.kernelName m.message), s)
      | none =>
        match c.ensure s with
        | (.error e, s) => (.error e, s)
        | (.ok kernels, s) =>
          match c.lookup kernels device with
          | .error e => (.error e, s)
          | .ok kernel =>
            let launch : KernelLaunch κ := ⟨kernel, args, globalSize, localSize⟩
            let before := CacheState.enqueueCount s.events device.toNat
            match target.enqueue before launch with
            | .error reason =>
              (.error (.enqueue c.kernelName target.name reason),
                { s with events := .enqueue device.toNat launch false :: s.events })
            | .ok () =>
              (.ok launch, { s with events := .enqueue device.toNat launch true :: s.events })

end KernelCache

end KernelGen
