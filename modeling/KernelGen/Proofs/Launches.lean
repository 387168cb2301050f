import KernelGen.Proofs.CacheEpochs

/-!
# What comes of a launch

A launch is checked before anything is asked of a device: its sizes, its device and its arguments,
in this order. Then the kernels are built, if the epoch has not tried that, and the device is asked
once.

* `Signature.mismatch?_marshal_eq_none_iff`: with the output and the sizes at their end, the
  arguments fit a signature exactly if those of the user fit the user's slots. One too few or too
  many does not push the output onto another slot.
* `KernelCache.Admits`: a launch passes the checks.
* `KernelCache.Attempted`: what the attempt of an epoch at building came to.
* `Attempted.epochFails_iff`, `Attempted.epochKernel_iff`: how it shows in the events.
* `launch_of_ensure_error`, `launch_of_ensure_ok`: a launch that passes the checks.

At the end stands every launch in every state of every run.
-/

namespace KernelGen

/-! ## Arguments and slots -/

/-- How an argument is passed. -/
inductive ArgumentKind where
  | buffer
  | size
  | scalar
  deriving DecidableEq, Repr

/-- How a slot takes its argument. -/
def Slot.kind : Slot → ArgumentKind
  | buffer _ _ => .buffer
  | size _ => .size
  | scalar _ _ => .scalar

/-- How a value is passed. -/
def Argument.kind : Argument → ArgumentKind
  | buffer _ => .buffer
  | size _ => .size
  | scalar _ => .scalar

/-- A slot accepts the arguments of its kind. -/
theorem Slot.accepts_iff {slot : Slot} {arg : Argument} :
    slot.accepts arg = true ↔ arg.kind = slot.kind := by
  cases slot <;> cases arg <;> simp [accepts, kind, Argument.kind]

/-- Nothing is found amiss exactly if the kinds of all arguments are those of the slots. -/
theorem firstMismatch?_eq_none_iff {place : Nat} {slots : List Slot} {args : List Argument}
    (h : args.length = slots.length) :
    firstMismatch? place slots args = none ↔ args.map Argument.kind = slots.map Slot.kind := by
  induction slots generalizing place args with
  | nil => simp [firstMismatch?, List.length_eq_zero_iff.1 h]
  | cons slot slots ih =>
    cases args with
    | nil => cases h
    | cons arg args =>
      have hrest : args.length = slots.length := Nat.succ.inj h
      rw [firstMismatch?, List.map_cons, List.map_cons, List.cons.injEq, ← Slot.accepts_iff]
      split_ifs with haccepts
      · rw [ih hrest, and_iff_right haccepts]
      · simp [haccepts]

namespace Signature

/-- Arguments fit a signature exactly if their kinds are those of the slots. -/
theorem mismatch?_eq_none_iff {s : Signature} {args : List Argument} :
    s.mismatch? args = none ↔ args.map Argument.kind = s.slots.map Slot.kind := by
  unfold mismatch?
  split_ifs with hlength
  · exact firstMismatch?_eq_none_iff hlength
  · refine iff_of_false (by simp) fun hkinds => hlength ?_
    simpa using congrArg List.length hkinds

/-- The output and the sizes fit their own slots, so it is the user's arguments that must fit. -/
theorem mismatch?_marshal_eq_none_iff {s : Signature} {args : List Argument} {output : UInt64}
    {shape : LaunchShape} :
    s.mismatch? (KernelCache.marshal args output shape) = none ↔
      args.map Argument.kind = s.userSlots.map Slot.kind := by
  have htrailer : (Argument.buffer output :: shape.args).map Argument.kind =
      (Slot.buffer "output" s.resultType :: launchTrailer.map Slot.size).map Slot.kind := rfl
  rw [mismatch?_eq_none_iff, KernelCache.marshal, slots, List.map_append, List.map_append, htrailer,
    List.append_left_inj]

end Signature

variable {κ : Type}

/-- What is asked for when a kernel is to be launched. -/
structure LaunchRequest where
  /-- The number of the device. -/
  device : UInt64
  /-- The number of work items in a group. -/
  localSize : UInt64
  /-- The number of work items. -/
  globalSize : UInt64
  /-- The arguments of the user. -/
  args : List Argument
  /-- The output buffer. -/
  output : UInt64
  /-- The sizes. -/
  shape : LaunchShape

namespace LaunchRequest

/-- The work items fall into groups, of which there is at least one and none is empty. -/
def SizesFit (q : LaunchRequest) : Prop :=
  q.localSize.toNat ≠ 0 ∧ q.globalSize.toNat ≠ 0 ∧ q.localSize.toNat ∣ q.globalSize.toNat

/-- The request as a call of the cache. -/
def call (q : LaunchRequest) : CacheCall :=
  .map q.device q.localSize q.globalSize q.args q.output q.shape

/-- What the device receives. -/
def launch (q : LaunchRequest) (kernel : κ) : KernelLaunch κ where
  kernel := kernel
  args := q.args ++ [.buffer q.output] ++
    [.size q.shape.w, .size q.shape.n, .size q.shape.vsize, .size q.shape.hsize, .size q.shape.base]
  globalSize := q.globalSize
  localSize := q.localSize

theorem launch_args (q : LaunchRequest) (kernel : κ) :
    (q.launch kernel).args = KernelCache.marshal q.args q.output q.shape :=
  List.append_assoc ..

/-- The check of the sizes, in words. -/
theorem sizesFit_iff {q : LaunchRequest} :
    q.SizesFit ↔ q.localSize ≠ 0 ∧ q.globalSize ≠ 0 ∧ q.globalSize % q.localSize = 0 := by
  rw [SizesFit, Nat.dvd_iff_mod_eq_zero, ← UInt64.toNat_mod]
  simp only [ne_eq, ← UInt64.toNat_inj, UInt64.toNat_zero]

theorem not_sizesFit_iff {q : LaunchRequest} :
    ¬ q.SizesFit ↔ q.localSize = 0 ∨ q.globalSize = 0 ∨ q.globalSize % q.localSize ≠ 0 := by
  rw [sizesFit_iff, not_and_or, not_and_or, not_ne_iff, not_ne_iff]

theorem SizesFit.not_refused {q : LaunchRequest} (h : q.SizesFit) :
    ¬ (q.localSize = 0 ∨ q.globalSize = 0 ∨ q.globalSize % q.localSize ≠ 0) :=
  fun hrefused => not_sizesFit_iff.2 hrefused h

end LaunchRequest

namespace KernelCache

open CacheState

/-! ## Requests that are refused -/

/-- There is a device of that number. -/
def HasDevice (c : KernelCache κ) (q : LaunchRequest) : Prop :=
  q.device.toNat < c.devices.length

/-- The arguments of the user are as many as its slots, each of the slot's kind. -/
def ArgsFit (c : KernelCache κ) (q : LaunchRequest) : Prop :=
  q.args.map Argument.kind = c.signature.userSlots.map Slot.kind

/-- A request passes all checks. -/
def Admits (c : KernelCache κ) (q : LaunchRequest) : Prop :=
  q.SizesFit ∧ c.HasDevice q ∧ c.ArgsFit q

/-- Launches the kernel as a request says. -/
def launch (c : KernelCache κ) (s : CacheState κ) (q : LaunchRequest) :
    Except DispatchError (KernelLaunch κ) × CacheState κ :=
  c.map s q.device q.localSize q.globalSize q.args q.output q.shape

section Request

variable {c : KernelCache κ} {s s' : CacheState κ} {q : LaunchRequest}

/-- The requests that are admitted are those that need the kernels. -/
theorem admits_iff_demands : c.Admits q ↔ c.Demands q.call := by
  rw [Admits, LaunchRequest.sizesFit_iff, ArgsFit, ← Signature.mismatch?_marshal_eq_none_iff]
  rfl

/-- Sizes that do not fit are refused first. -/
theorem launch_of_not_sizesFit (h : ¬ q.SizesFit) :
    c.launch s q = (.error (.invalidWorkSize c.kernelName q.globalSize q.localSize), s) := by
  rw [launch, map, if_pos (LaunchRequest.not_sizesFit_iff.1 h)]

/-- A device that is not there is refused next. -/
theorem launch_of_not_hasDevice (hsizes : q.SizesFit) (h : ¬ c.HasDevice q) :
    c.launch s q = (.error (.unknownDevice c.kernelName q.device c.devices.length), s) := by
  have hnone : c.devices[q.device.toNat]? = none := List.getElem?_eq_none (Nat.not_lt.1 h)
  rw [launch, map, if_neg hsizes.not_refused, hnone]
  rfl

/-- Arguments that do not fit are refused last. -/
theorem launch_of_not_argsFit (hsizes : q.SizesFit) (hdevice : c.HasDevice q) (h : ¬ c.ArgsFit q) :
    ∃ reason, c.launch s q = (.error (.argumentMismatch c.kernelName reason), s) := by
  obtain ⟨m, hm⟩ : ∃ m, c.signature.mismatch? (marshal q.args q.output q.shape) = some m :=
    Option.ne_none_iff_exists'.1 fun hnone => h (Signature.mismatch?_marshal_eq_none_iff.1 hnone)
  refine ⟨m.message, ?_⟩
  rw [launch, map, if_neg hsizes.not_refused, List.getElem?_eq_getElem hdevice]
  simp only [hm]

end Request

/-! ## The attempt of an epoch at building -/

/-- In an epoch that began after `old`, a device of that name failed to build. -/
def EpochFails (c : KernelCache κ) (old : List (CacheEvent κ)) (s : CacheState κ)
    (device log : String) : Prop :=
  ∃ new k d, s.events = new ++ old ∧ c.Answered old new k (.error log) ∧
    c.devices[k]? = some d ∧ d.name = device

/-- In an epoch that began after `old`, a device built a kernel. -/
def EpochKernel (c : KernelCache κ) (old : List (CacheEvent κ)) (s : CacheState κ) (device : Nat)
    (kernel : κ) : Prop :=
  ∃ new, s.events = new ++ old ∧ c.Answered old new device (.ok kernel)

/-- An epoch that began after `old` has tried to build, with this outcome, and launched since. -/
structure Attempted (c : KernelCache κ) (old : List (CacheEvent κ))
    (table : Except DispatchError (List κ)) (s : CacheState κ) : Prop where
  /-- The outcome is kept. -/
  table_eq : s.table = some table
  /-- Behind the launches are the builds. -/
  events_eq : ∃ launches events, (∀ ev ∈ launches, ev.IsLaunch) ∧ s.events = launches ++ events ∧
    c.buildFrom 0 c.devices old = (table, events)

section Epoch

variable {c : KernelCache κ} {old : List (CacheEvent κ)} {s s' : CacheState κ}
  {table : Except DispatchError (List κ)} {q : LaunchRequest}

/-- Launches do not change how a build was answered. -/
theorem answered_launches_iff {launches : List (CacheEvent κ)} {count k : Nat}
    {answer : Except String κ} (hlaunches : ∀ ev ∈ launches, ev.IsLaunch) :
    c.Answered old (launches ++ builds 0 count) k answer ↔
      c.Answered old (builds 0 count) k answer := by
  rw [answered_iff hlaunches, ← List.nil_append (builds 0 count), answered_iff (by simp)]

namespace Attempted

/-- A launch is one more event in front of the builds. -/
theorem enqueue (h : c.Attempted old table s) (device : Nat) (launch : KernelLaunch κ)
    (taken : Bool) :
    c.Attempted old table { s with events := .enqueue device launch taken :: s.events } := by
  obtain ⟨launches, events, hlaunches, hevents, hbuild⟩ := h.events_eq
  refine ⟨h.table_eq, .enqueue device launch taken :: launches, events, ?_, ?_, hbuild⟩
  · exact List.forall_mem_cons.2 ⟨trivial, hlaunches⟩
  · rw [hevents, List.cons_append]

/-- A device failed exactly if the outcome is its error. -/
theorem epochFails_iff (h : c.Attempted old table s) {device log : String} :
    c.EpochFails old s device log ↔ table = .error (.build c.kernelName device log) := by
  obtain ⟨launches, events, hlaunches, hevents, hbuild⟩ := h.events_eq
  cases table with
  | ok kernels =>
    refine iff_of_false ?_ (by simp)
    rintro ⟨new, k, d, hnew, hanswer, -⟩
    obtain ⟨rfl, -⟩ := buildFrom_ok hbuild
    rw [hevents, ← List.append_assoc] at hnew
    obtain rfl := List.append_cancel_right hnew
    exact not_answered_of_ok hbuild hlaunches k log hanswer
  | error e =>
    obtain ⟨k, -, rfl, ⟨log', hlog'⟩, hunique⟩ := answered_of_error hbuild
    rw [← List.append_assoc] at hevents
    constructor
    · rintro ⟨new, k', d, hnew, hanswer, hd, rfl⟩
      obtain rfl := List.append_cancel_right (hevents.symm.trans hnew)
      obtain ⟨rfl, d', hd', rfl⟩ := hunique k' log ((answered_launches_iff hlaunches).1 hanswer)
      rw [Option.some.inj (hd.symm.trans hd')]
    · -- The device that failed last is the only one.
      intro he
      obtain ⟨-, d, hd, he'⟩ := hunique k log' hlog'
      obtain ⟨-, rfl, rfl⟩ := DispatchError.build.inj (he'.symm.trans (Except.error.inj he))
      exact ⟨_, k, d, hevents, (answered_launches_iff hlaunches).2 hlog', hd, rfl⟩

/-- What a device built is what the outcome has for it. -/
theorem epochKernel_iff {kernels : List κ} (h : c.Attempted old (.ok kernels) s) {device : Nat}
    {kernel : κ} : c.EpochKernel old s device kernel ↔ kernels[device]? = some kernel := by
  obtain ⟨launches, events, hlaunches, hevents, hbuild⟩ := h.events_eq
  obtain ⟨rfl, hlength, hbuilt⟩ := buildFrom_ok hbuild
  rw [← List.append_assoc] at hevents
  constructor
  · rintro ⟨new, hnew, hanswer⟩
    obtain rfl := List.append_cancel_right (hevents.symm.trans hnew)
    obtain ⟨-, d, hd, hkernel⟩ := (answered_iff hlaunches).1 hanswer
    obtain ⟨kernel', hkernel', hbuilt'⟩ := hbuilt device d hd
    rw [Nat.zero_add, hkernel] at hbuilt'
    rw [hkernel', Except.ok.inj hbuilt']
  · intro hkernel
    have hdevice : device < c.devices.length := hlength ▸ (List.getElem?_eq_some_iff.1 hkernel).1
    obtain ⟨kernel', hkernel', hbuilt'⟩ := hbuilt device _ (List.getElem?_eq_getElem hdevice)
    obtain rfl := Option.some.inj (hkernel.symm.trans hkernel')
    rw [Nat.zero_add] at hbuilt'
    exact ⟨_, hevents, (answered_iff hlaunches).2
      ⟨hdevice, _, List.getElem?_eq_getElem hdevice, hbuilt'⟩⟩

/-- Every device has a kernel if building succeeded. -/
theorem exists_kernel {kernels : List κ} (h : c.Attempted old (.ok kernels) s)
    (hdevice : c.HasDevice q) : ∃ kernel, kernels[q.device.toNat]? = some kernel := by
  obtain ⟨_, _, _, _, hbuild⟩ := h.events_eq
  obtain ⟨-, -, hbuilt⟩ := buildFrom_ok hbuild
  obtain ⟨kernel, hkernel, -⟩ := hbuilt q.device.toNat _ (List.getElem?_eq_getElem hdevice)
  exact ⟨kernel, hkernel⟩

/-- The only error of an attempt is that of a device which failed to build. -/
theorem exists_build {e : DispatchError} (h : c.Attempted old (.error e) s) :
    ∃ device log, e = .build c.kernelName device log := by
  obtain ⟨_, _, _, _, hbuild⟩ := h.events_eq
  obtain ⟨-, d, log, -, he, -⟩ := buildFrom_error hbuild
  exact ⟨d.name, log, he⟩

end Attempted

/-- When the kernels are needed, the epoch has tried to build, now or before. -/
theorem Progress.ensure {calls : List CacheCall} (h : Progress c old calls s) :
    ∃ table s' built, c.ensure s = (table, s') ∧ c.Attempted old table s' ∧
      s'.events = built ++ s.events ∧ ∀ ev ∈ built, ¬ ev.IsLaunch := by
  cases h with
  | untouched hnone =>
    cases hbuild : c.buildFrom 0 c.devices old with
    | mk table events =>
      have hattempt : c.Attempted old table ⟨some table, events⟩ :=
        ⟨rfl, [], events, by simp, rfl, hbuild⟩
      -- The events of the attempt are builds.
      obtain ⟨count, rfl⟩ : ∃ count, events = builds 0 count ++ old := by
        cases table with
        | ok kernels => exact ⟨_, (buildFrom_ok hbuild).1⟩
        | error e =>
          obtain ⟨k, -, hevents, -⟩ := answered_of_error hbuild
          exact ⟨_, hevents⟩
      exact ⟨table, _, builds 0 count, ensure_of_untouched hbuild, hattempt, rfl,
        by simp [builds, CacheEvent.IsLaunch]⟩
  | failed hsome hbuild =>
    exact ⟨_, _, [], ensure_of_tried _ _ _, ⟨rfl, [], _, by simp, rfl, hbuild⟩, rfl, by simp⟩
  | ready launches hsome hbuild hlaunches =>
    exact ⟨_, _, [], ensure_of_tried _ _ _, ⟨rfl, launches, _, hlaunches, rfl, hbuild⟩, rfl,
      by simp⟩

/-! ## Requests that are admitted -/

/-- A request that passes all checks gets the error of the build. -/
theorem launch_of_ensure_error {e : DispatchError} (h : c.Admits q)
    (hensure : c.ensure s = (.error e, s')) : c.launch s q = (.error e, s') := by
  obtain ⟨hanswer, hstate⟩ := step_of_ensure_error (admits_iff_demands.1 h) hensure
  have hresult : (CacheAnswer.map (c.launch s q).1).error? = some e := hanswer
  refine Prod.ext ?_ hstate
  generalize (c.launch s q).1 = result at hresult
  cases result with
  | error e' => exact congrArg Except.error (Option.some.inj hresult)
  | ok launch => cases hresult

/-- The device is asked, and what it answers is the result. -/
theorem launch_of_ensure_ok {kernels : List κ} {d : Device κ} {kernel : κ} (h : c.Admits q)
    (hensure : c.ensure s = (.ok kernels, s')) (hd : c.devices[q.device.toNat]? = some d)
    (hkernel : kernels[q.device.toNat]? = some kernel) :
    (∃ reason, d.enqueue (enqueueCount s'.events q.device.toNat) (q.launch kernel) = .error reason ∧
      c.launch s q = (.error (.enqueue c.kernelName d.name reason),
        { s' with events := .enqueue q.device.toNat (q.launch kernel) false :: s'.events })) ∨
    d.enqueue (enqueueCount s'.events q.device.toNat) (q.launch kernel) = .ok () ∧
      c.launch s q = (.ok (q.launch kernel),
        { s' with events := .enqueue q.device.toNat (q.launch kernel) true :: s'.events }) := by
  obtain ⟨hsizes, -, hargs⟩ := h
  have hnone : c.signature.mismatch? (marshal q.args q.output q.shape) = none :=
    Signature.mismatch?_marshal_eq_none_iff.2 hargs
  have hlaunch : (⟨kernel, marshal q.args q.output q.shape, q.globalSize, q.localSize⟩ :
      KernelLaunch κ) = q.launch kernel := by
    rw [← q.launch_args kernel]
    rfl
  rw [launch, map, if_neg hsizes.not_refused]
  simp only [hd, hnone, hensure, lookup, hkernel, hlaunch]
  cases d.enqueue (enqueueCount s'.events q.device.toNat) (q.launch kernel) with
  | error reason => exact .inl ⟨reason, rfl, rfl⟩
  | ok answer => exact .inr ⟨rfl, rfl⟩

/-! ## Every request -/

/-- Nothing failed to build in the epoch, and the device of a request built a kernel. -/
def Ready (c : KernelCache κ) (old : List (CacheEvent κ)) (s : CacheState κ) (q : LaunchRequest)
    (d : Device κ) (kernel : κ) : Prop :=
  (∀ device log, ¬ c.EpochFails old s device log) ∧ c.devices[q.device.toNat]? = some d ∧
    c.EpochKernel old s q.device.toNat kernel

/-- What comes of a request in a state `s` of an epoch that began after `old`. -/
structure Decided (c : KernelCache κ) (old : List (CacheEvent κ)) (s : CacheState κ)
    (q : LaunchRequest) (result : Except DispatchError (KernelLaunch κ)) (s' : CacheState κ) :
    Prop where
  /-- The sizes are looked at first. -/
  invalidWorkSize : result = .error (.invalidWorkSize c.kernelName q.globalSize q.localSize) ↔
    ¬ q.SizesFit
  /-- Then the device. -/
  unknownDevice : result = .error (.unknownDevice c.kernelName q.device c.devices.length) ↔
    q.SizesFit ∧ ¬ c.HasDevice q
  /-- Then the arguments. -/
  argumentMismatch : (∃ reason, result = .error (.argumentMismatch c.kernelName reason)) ↔
    q.SizesFit ∧ c.HasDevice q ∧ ¬ c.ArgsFit q
  /-- Then whether the kernels of the epoch could be built. -/
  build : ∀ device log, result = .error (.build c.kernelName device log) ↔
    c.Admits q ∧ c.EpochFails old s' device log
  /-- Then the device is asked, with the kernel that it built, and may refuse. -/
  enqueue : ∀ device reason, result = .error (.enqueue c.kernelName device reason) ↔
    c.Admits q ∧ ∃ d kernel, c.Ready old s' q d kernel ∧ d.name = device ∧
      d.enqueue (enqueueCount s.events q.device.toNat) (q.launch kernel) = .error reason
  /-- Otherwise the kernel is launched. -/
  ok : ∀ launch, result = .ok launch ↔
    c.Admits q ∧ ∃ d kernel, c.Ready old s' q d kernel ∧ launch = q.launch kernel ∧
      d.enqueue (enqueueCount s.events q.device.toNat) (q.launch kernel) = .ok ()
  /-- The kernel of the device is found unless building failed. -/
  found : c.Admits q → (∀ device log, ¬ c.EpochFails old s' device log) →
    ∃ d kernel, c.Ready old s' q d kernel ∧ c.kernel s' q.device = .ok kernel
  /-- A request that fails a check builds nothing, launches nothing and changes nothing. -/
  refused : ¬ c.Admits q → s' = s
  /-- Besides builds the request asks for at most one launch, on its own device, with arguments that
  fit all slots and with the sizes that were checked; the device took it exactly if it succeeds. -/
  asked : ∃ built launches, s'.events = launches ++ built ++ s.events ∧
    (∀ ev ∈ built, ¬ ev.IsLaunch) ∧
    ((launches = [] ∧ (∀ launch, result ≠ .ok launch) ∧
        ∀ device reason, result ≠ .error (.enqueue c.kernelName device reason)) ∨
      ∃ kernel taken, launches = [.enqueue q.device.toNat (q.launch kernel) taken] ∧
        c.signature.mismatch? (q.launch kernel).args = none ∧ q.SizesFit ∧
        (taken = true ↔ ∃ launch, result = .ok launch))

/-- After a successful attempt, a request is ready on every device there is. -/
theorem Attempted.ready_iff {kernels : List κ} (h : c.Attempted old (.ok kernels) s) {d : Device κ}
    {kernel : κ} : c.Ready old s q d kernel ↔
      c.devices[q.device.toNat]? = some d ∧ kernels[q.device.toNat]? = some kernel := by
  simp [Ready, h.epochFails_iff, h.epochKernel_iff]

/-- A request that is refused with the error of its first failing check. -/
theorem decided_of_refused {e : DispatchError} (h : ¬ c.Admits q)
    (hsizes : e = .invalidWorkSize c.kernelName q.globalSize q.localSize ↔ ¬ q.SizesFit)
    (hdevice : e = .unknownDevice c.kernelName q.device c.devices.length ↔
      q.SizesFit ∧ ¬ c.HasDevice q)
    (hargs : (∃ reason, e = .argumentMismatch c.kernelName reason) ↔
      q.SizesFit ∧ c.HasDevice q ∧ ¬ c.ArgsFit q)
    (hbuild : ∀ device log, e ≠ .build c.kernelName device log)
    (henqueue : ∀ device reason, e ≠ .enqueue c.kernelName device reason) :
    c.Decided old s q (.error e) s where
  invalidWorkSize := by simpa using hsizes
  unknownDevice := by simpa using hdevice
  argumentMismatch := by simpa using hargs
  build := by simp [h, hbuild]
  enqueue := by simp [h, henqueue]
  ok := by simp [h]
  found hadmits := (h hadmits).elim
  refused _ := rfl
  asked := ⟨[], [], rfl, by simp, .inl (by simp [henqueue])⟩

/-- A request that fails a check is refused and changes nothing. -/
theorem decided_of_not_admits (h : ¬ c.Admits q) :
    c.Decided old s q (c.launch s q).1 (c.launch s q).2 := by
  by_cases hsizes : q.SizesFit
  · by_cases hdevice : c.HasDevice q
    · have hargs : ¬ c.ArgsFit q := fun hargs => h ⟨hsizes, hdevice, hargs⟩
      obtain ⟨reason, hlaunch⟩ := launch_of_not_argsFit (s := s) hsizes hdevice hargs
      rw [hlaunch]
      exact decided_of_refused h (by simp [hsizes]) (by simp [hdevice])
        (by simp [hsizes, hdevice, hargs]) (by simp) (by simp)
    · rw [launch_of_not_hasDevice hsizes hdevice]
      exact decided_of_refused h (by simp [hsizes]) (by simp [hsizes, hdevice]) (by simp [hdevice])
        (by simp) (by simp)
  · rw [launch_of_not_sizesFit hsizes]
    exact decided_of_refused h (by simp [hsizes]) (by simp [hsizes]) (by simp [hsizes]) (by simp)
      (by simp)

/-- A request that passes the checks is refused if building has failed. -/
theorem decided_of_error {e : DispatchError} {built : List (CacheEvent κ)} (h : c.Admits q)
    (hensure : c.ensure s = (.error e, s')) (hattempt : c.Attempted old (.error e) s')
    (hevents : s'.events = built ++ s.events) (hbuilt : ∀ ev ∈ built, ¬ ev.IsLaunch) :
    c.Decided old s q (c.launch s q).1 (c.launch s q).2 := by
  obtain ⟨device, log, rfl⟩ := hattempt.exists_build
  have hfails : c.EpochFails old s' device log := hattempt.epochFails_iff.2 rfl
  have hready (d : Device κ) (kernel : κ) : ¬ c.Ready old s' q d kernel :=
    fun hready => hready.1 device log hfails
  have ⟨hsizes, hdevice, hargs⟩ := h
  rw [launch_of_ensure_error h hensure]
  refine { invalidWorkSize := by simp [hsizes], unknownDevice := by simp [hdevice],
           argumentMismatch := by simp [hargs], build := ?_, enqueue := by simp [hready],
           ok := by simp [hready], found := ?_, refused := fun hnot => (hnot h).elim,
           asked := ⟨built, [], hevents, hbuilt, .inl (by simp)⟩ }
  · intro device' log'
    simp [h, hattempt.epochFails_iff]
  · intro _ hnone
    exact (hnone device log hfails).elim

/-- Builds are no launches. -/
theorem enqueueCount_append {built events : List (CacheEvent κ)} (h : ∀ ev ∈ built, ¬ ev.IsLaunch)
    (device : Nat) : enqueueCount (built ++ events) device = enqueueCount events device := by
  rw [enqueueCount, List.countP_append, List.countP_eq_zero.2, Nat.zero_add]
  · rfl
  · intro ev hev
    cases ev with
    | build d => simp
    | enqueue d launch taken => exact (h _ hev trivial).elim

/-- A request for which the device was asked, and answered. -/
theorem decided_of_asked {kernels : List κ} {d : Device κ} {kernel : κ}
    {built : List (CacheEvent κ)} {result : Except DispatchError (KernelLaunch κ)} {taken : Bool}
    (h : c.Admits q) (hattempt : c.Attempted old (.ok kernels) s')
    (hevents : s'.events = built ++ s.events) (hbuilt : ∀ ev ∈ built, ¬ ev.IsLaunch)
    (hd : c.devices[q.device.toNat]? = some d) (hkernel : kernels[q.device.toNat]? = some kernel)
    (hrefused : ∀ e, result = .error e ↔ ∃ reason, e = .enqueue c.kernelName d.name reason ∧
      d.enqueue (enqueueCount s.events q.device.toNat) (q.launch kernel) = .error reason)
    (htaken : ∀ launch, result = .ok launch ↔ launch = q.launch kernel ∧
      d.enqueue (enqueueCount s.events q.device.toNat) (q.launch kernel) = .ok ())
    (hok : taken = true ↔ ∃ launch, result = .ok launch) :
    c.Decided old s q result
      { s' with events := .enqueue q.device.toNat (q.launch kernel) taken :: s'.events } := by
  have ⟨hsizes, hdevice, hargs⟩ := h
  have hattempt' := hattempt.enqueue q.device.toNat (q.launch kernel) taken
  have hready (d' : Device κ) (kernel' : κ) :
      c.Ready old { s' with events := .enqueue q.device.toNat (q.launch kernel) taken :: s'.events }
        q d' kernel' ↔ d' = d ∧ kernel' = kernel := by
    rw [hattempt'.ready_iff, hd, hkernel, Option.some.injEq, Option.some.injEq]
    exact and_congr eq_comm eq_comm
  have hfit : c.signature.mismatch? (q.launch kernel).args = none := by
    rw [q.launch_args]
    exact Signature.mismatch?_marshal_eq_none_iff.2 hargs
  refine { invalidWorkSize := by simp [hsizes, hrefused],
           unknownDevice := by simp [hdevice, hrefused],
           argumentMismatch := by simp [hargs, hrefused],
           build := by simp [hattempt'.epochFails_iff, hrefused],
           enqueue := ?_, ok := ?_, found := ?_, refused := fun hnot => (hnot h).elim, asked := ?_ }
  · simp [h, hready, hrefused, eq_comm]
  · simp [h, hready, htaken]
  · intro _ _
    refine ⟨d, kernel, (hready d kernel).2 ⟨rfl, rfl⟩, ?_⟩
    simp only [KernelCache.kernel, hattempt.table_eq, lookup, hkernel]
  · exact ⟨built, _, congrArg (_ :: ·) hevents, hbuilt,
      .inr ⟨kernel, taken, rfl, hfit, hsizes, hok⟩⟩

/-- A request that passes the checks is up to the device if building has succeeded. -/
theorem decided_of_ok {kernels : List κ} {built : List (CacheEvent κ)} (h : c.Admits q)
    (hensure : c.ensure s = (.ok kernels, s')) (hattempt : c.Attempted old (.ok kernels) s')
    (hevents : s'.events = built ++ s.events) (hbuilt : ∀ ev ∈ built, ¬ ev.IsLaunch) :
    c.Decided old s q (c.launch s q).1 (c.launch s q).2 := by
  obtain ⟨d, hd⟩ : ∃ d, c.devices[q.device.toNat]? = some d :=
    ⟨_, List.getElem?_eq_getElem h.2.1⟩
  obtain ⟨kernel, hkernel⟩ := hattempt.exists_kernel h.2.1
  have hasked := launch_of_ensure_ok h hensure hd hkernel
  rw [hevents, enqueueCount_append hbuilt, ← hevents] at hasked
  rcases hasked with ⟨reason, henqueue, hlaunch⟩ | ⟨henqueue, hlaunch⟩
  · rw [hlaunch]
    refine decided_of_asked h hattempt hevents hbuilt hd hkernel ?_ ?_ (by simp)
    · simp [henqueue, @eq_comm _ (DispatchError.enqueue _ _ _)]
    · simp [henqueue]
  · rw [hlaunch]
    refine decided_of_asked h hattempt hevents hbuilt hd hkernel ?_ ?_ (by simp)
    · simp [henqueue]
    · simp [henqueue, @eq_comm _ (q.launch kernel)]

end Epoch

/-- Every run is at some point of an epoch. -/
theorem exists_epoch (calls : List CacheCall) :
    ∃ before epoch, calls = before ++ epoch ∧
      (before = [] ∨ before.getLast? = some .teardown) ∧ CacheCall.teardown ∉ epoch := by
  induction calls using List.reverseRecOn with
  | nil => exact ⟨[], [], rfl, .inl rfl, by simp⟩
  | append_singleton calls call ih =>
    by_cases hcall : call = .teardown
    · subst hcall
      exact ⟨calls ++ [.teardown], [], by simp, .inr (by simp), by simp⟩
    · obtain ⟨before, epoch, rfl, hbefore, hepoch⟩ := ih
      refine ⟨before, epoch ++ [call], by simp, hbefore, ?_⟩
      simpa [hepoch] using Ne.symm hcall

/-- Every request in every state of every run. The checks come in a fixed order, and one that fails
is reported before anything is done; then the epoch builds or has built; then the device is asked
once. -/
theorem map_decided (c : KernelCache κ) (calls : List CacheCall) (q : LaunchRequest) :
    ∃ before epoch, calls = before ++ epoch ∧
      (before = [] ∨ before.getLast? = some .teardown) ∧ CacheCall.teardown ∉ epoch ∧
      let outcome :=
        c.map (c.run {} calls) q.device q.localSize q.globalSize q.args q.output q.shape
      c.Decided (c.run {} before).events (c.run {} calls) q outcome.1 outcome.2 := by
  obtain ⟨before, epoch, rfl, hbefore, hepoch⟩ := exists_epoch calls
  refine ⟨before, epoch, rfl, hbefore, hepoch, ?_⟩
  have hprogress : Progress c (c.run {} before).events epoch (c.run {} (before ++ epoch)) := by
    rw [run_append, run_of_start hbefore]
    exact progress_run hepoch
  by_cases h : c.Admits q
  · obtain ⟨table, s', built, hensure, hattempt, hevents, hbuilt⟩ := hprogress.ensure
    cases table with
    | error e => exact decided_of_error h hensure hattempt hevents hbuilt
    | ok kernels => exact decided_of_ok h hensure hattempt hevents hbuilt
  · exact decided_of_not_admits h

end KernelCache

end KernelGen
