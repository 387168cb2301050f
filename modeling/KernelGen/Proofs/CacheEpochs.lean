import KernelGen.Launch.Cache
import Mathlib

/-!
# Runs of a kernel cache

A cache is called any number of times in any order. Between one teardown and the next lies an epoch;
the first call of an epoch that needs the kernels builds them, and what comes of it holds until the
epoch ends. A device may answer each build differently, so nothing here depends on what it answered
in an earlier epoch.

* `KernelCache.step`, `KernelCache.run`: one call, and calls one after the other.
* `KernelCache.Demands`: a call needs the kernels.
* `buildFrom_ok`, `buildFrom_error`: what building for some devices in turn comes to.
* `step_of_demands`, `step_of_not_demands`: what one call does to the state.
* `Progress`, `progress_run`: how far an epoch has come after some of its calls.

At the end stands what this says of every epoch of every run.
-/

namespace KernelGen

variable {κ : Type}

/-- A call of a cache. -/
inductive CacheCall where
  | buildAll
  | kernel (device : UInt64)
  | isInitialized
  | map (device localSize globalSize : UInt64) (args : List Argument) (output : UInt64)
      (shape : LaunchShape)
  | teardown

/-- What a call returns. -/
inductive CacheAnswer (κ : Type) where
  | buildAll (result : Except DispatchError Unit)
  | kernel (result : Except DispatchError κ)
  | isInitialized (result : Bool)
  | map (result : Except DispatchError (KernelLaunch κ))
  | teardown

/-- The error that a call returns, if it does. -/
def CacheAnswer.error? : CacheAnswer κ → Option DispatchError
  | buildAll (.error e) => some e
  | kernel (.error e) => some e
  | map (.error e) => some e
  | _ => none

/-- An event is a launch. -/
def CacheEvent.IsLaunch : CacheEvent κ → Prop
  | build _ => False
  | enqueue .. => True

namespace CacheState

/-- The devices that were asked to build, the first first. -/
def built (events : List (CacheEvent κ)) : List Nat :=
  events.reverse.filterMap fun
    | .build device => some device
    | .enqueue .. => none

/-- The builds for some devices in turn, of which the first has the number `ordinal`. -/
def builds (ordinal count : Nat) : List (CacheEvent κ) :=
  ((List.range' ordinal count).map .build).reverse

theorem builds_succ_append (ordinal count : Nat) (old : List (CacheEvent κ)) :
    builds ordinal (count + 1) ++ old = builds (ordinal + 1) count ++ .build ordinal :: old := by
  simp [builds, List.range'_succ]

/-- What was built later is listed behind what was built earlier. -/
theorem built_append (later earlier : List (CacheEvent κ)) :
    built (later ++ earlier) = built earlier ++ built later := by
  simp [built]

/-- Building for some devices asks them in turn. -/
theorem built_builds (count : Nat) :
    built (builds 0 count : List (CacheEvent κ)) = List.range count := by
  rw [built, builds, List.reverse_reverse, List.filterMap_map, List.range_eq_range']
  exact List.filterMap_some

/-- Launches build nothing. -/
theorem built_eq_nil {launches : List (CacheEvent κ)} (h : ∀ ev ∈ launches, ev.IsLaunch) :
    built launches = [] := by
  refine List.filterMap_eq_nil_iff.2 fun ev hev => ?_
  have hlaunch := h ev (List.mem_reverse.1 hev)
  cases ev with
  | build device => exact hlaunch.elim
  | enqueue device launch taken => rfl

/-- The builds before that of a device are those of the devices before it. -/
theorem eq_builds_of_split {count device : Nat} {later earlier : List (CacheEvent κ)}
    (h : builds 0 count = later ++ .build device :: earlier) :
    device < count ∧ earlier = builds 0 device := by
  have hsplit : (List.range' 0 count).map CacheEvent.build =
      earlier.reverse ++ .build device :: later.reverse := by
    rw [← List.reverse_inj, ← builds, h]
    simp
  obtain ⟨front, rest, hrange, hfront, hrest⟩ := List.map_eq_append_iff.1 hsplit
  obtain ⟨n, hn, rfl, rfl⟩ := List.range'_eq_append_iff.1 hrange
  obtain ⟨first, tail, hcons, hdevice, -⟩ := List.map_eq_cons_iff.1 hrest
  obtain ⟨rfl, hpos, -⟩ := List.range'_eq_cons_iff.1 hcons
  obtain rfl : n = device := by simpa using hdevice
  refine ⟨by omega, ?_⟩
  rw [← List.reverse_reverse earlier, ← hfront, builds]

/-- The build of each device is there. -/
theorem exists_builds_split {count device : Nat} (h : device < count) :
    ∃ later : List (CacheEvent κ), builds 0 count = later ++ .build device :: builds 0 device := by
  have hrange : List.range' 0 count =
      List.range' 0 device ++ device :: List.range' (device + 1) (count - device - 1) := by
    have hcount : count = device + (count - device - 1 + 1) := by omega
    conv_lhs => rw [hcount, ← List.range'_append_1, Nat.zero_add, List.range'_succ]
  refine ⟨builds (device + 1) (count - device - 1), ?_⟩
  simp [builds, hrange]

/-- Behind launches, a build splits the builds only. -/
theorem split_builds_of_launches {count device : Nat}
    {launches later earlier : List (CacheEvent κ)} (hlaunches : ∀ ev ∈ launches, ev.IsLaunch)
    (h : launches ++ builds 0 count = later ++ .build device :: earlier) :
    ∃ later', builds 0 count = later' ++ .build device :: earlier := by
  rcases List.append_eq_append_iff.1 h with ⟨later', -, hbuilds⟩ | ⟨rest, hlaunch, hrest⟩
  · exact ⟨later', hbuilds⟩
  · cases rest with
    | nil => exact ⟨[], hrest.symm⟩
    | cons ev rest =>
      -- The build would be one of the launches.
      obtain ⟨rfl, -⟩ := List.cons.inj hrest
      exact (hlaunches (.build device) (by simp [hlaunch])).elim

end CacheState

namespace KernelCache

open CacheState

variable {c : KernelCache κ} {old : List (CacheEvent κ)}

/-- One call. -/
def step (c : KernelCache κ) (s : CacheState κ) : CacheCall → CacheAnswer κ × CacheState κ
  | .buildAll =>
    let (result, s) := c.buildAll s
    (.buildAll result, s)
  | .kernel device => (.kernel (c.kernel s device), s)
  | .isInitialized => (.isInitialized s.isInitialized, s)
  | .map device localSize globalSize args output shape =>
    let (result, s) := c.map s device localSize globalSize args output shape
    (.map result, s)
  | .teardown => (.teardown, KernelCache.teardown s)

/-- The state after some calls. -/
def run (c : KernelCache κ) (s : CacheState κ) (calls : List CacheCall) : CacheState κ :=
  calls.foldl (fun s call => (c.step s call).2) s

/-- A call needs the kernels: it asks to build them, or it is a launch whose sizes, device and
arguments are in order. -/
def Demands (c : KernelCache κ) : CacheCall → Prop
  | .buildAll => True
  | .map device localSize globalSize args output shape =>
    (localSize ≠ 0 ∧ globalSize ≠ 0 ∧ globalSize % localSize = 0) ∧
      device.toNat < c.devices.length ∧ c.signature.mismatch? (marshal args output shape) = none
  | _ => False

/-- Among the events `new` after `old` is a build on a device, which answered it so. -/
def Answered (c : KernelCache κ) (old new : List (CacheEvent κ)) (device : Nat)
    (answer : Except String κ) : Prop :=
  ∃ later earlier d, new = later ++ .build device :: earlier ∧ c.devices[device]? = some d ∧
    d.build (buildCount (earlier ++ old) device) c.source c.kernelName = answer

/-! ## Building -/

/-- If building succeeds, every device built its kernel in turn. -/
theorem buildFrom_ok {ordinal : Nat} {devices : List (Device κ)} {kernels : List κ}
    {events : List (CacheEvent κ)}
    (h : c.buildFrom ordinal devices old = (.ok kernels, events)) :
    events = builds ordinal devices.length ++ old ∧ kernels.length = devices.length ∧
      ∀ (i : Nat) (d : Device κ), devices[i]? = some d → ∃ kernel, kernels[i]? = some kernel ∧
        d.build (buildCount (builds ordinal i ++ old) (ordinal + i)) c.source c.kernelName =
          .ok kernel := by
  induction devices generalizing ordinal old kernels with
  | nil =>
    obtain ⟨hkernels, rfl⟩ := Prod.mk.inj h
    obtain rfl := Except.ok.inj hkernels
    exact ⟨rfl, rfl, by simp⟩
  | cons d devices ih =>
    unfold buildFrom at h
    cases hd : d.build (buildCount old ordinal) c.source c.kernelName with
    | error log => simp [hd] at h
    | ok kernel =>
      simp only [hd] at h
      cases hrest : c.buildFrom (ordinal + 1) devices (.build ordinal :: old) with
      | mk table events' =>
        rw [hrest] at h
        obtain ⟨htable, rfl⟩ := Prod.mk.inj h
        cases table with
        | error e => cases htable
        | ok rest =>
          obtain rfl := Except.ok.inj htable
          obtain ⟨hevents, hlength, hbuilt⟩ := ih hrest
          -- The other devices start one number further on, behind this build.
          simp only [← builds_succ_append, Nat.add_assoc, Nat.add_comm 1] at hevents hbuilt
          refine ⟨hevents, by simp [hlength], fun i d' hi => ?_⟩
          cases i with
          | zero =>
            obtain rfl : d = d' := by simpa using hi
            exact ⟨kernel, rfl, hd⟩
          | succ i =>
            obtain ⟨kernel', hkernel', hbuild⟩ := hbuilt i d' (by simpa using hi)
            exact ⟨kernel', by simpa using hkernel', hbuild⟩

/-- If building fails, every device up to one built its kernel in turn, that one failed, and none
after it was asked. -/
theorem buildFrom_error {ordinal : Nat} {devices : List (Device κ)} {e : DispatchError}
    {events : List (CacheEvent κ)} (h : c.buildFrom ordinal devices old = (.error e, events)) :
    ∃ i d log, devices[i]? = some d ∧ e = .build c.kernelName d.name log ∧
      events = builds ordinal (i + 1) ++ old ∧
      d.build (buildCount (builds ordinal i ++ old) (ordinal + i)) c.source c.kernelName =
        .error log ∧
      ∀ j < i, ∀ d', devices[j]? = some d' → ∃ kernel,
        d'.build (buildCount (builds ordinal j ++ old) (ordinal + j)) c.source c.kernelName =
          .ok kernel := by
  induction devices generalizing ordinal old with
  | nil => cases h
  | cons d devices ih =>
    unfold buildFrom at h
    cases hd : d.build (buildCount old ordinal) c.source c.kernelName with
    | error log =>
      simp only [hd] at h
      obtain ⟨he, rfl⟩ := Prod.mk.inj h
      obtain rfl := Except.error.inj he
      exact ⟨0, d, log, rfl, rfl, rfl, hd, by simp⟩
    | ok kernel =>
      simp only [hd] at h
      cases hrest : c.buildFrom (ordinal + 1) devices (.build ordinal :: old) with
      | mk table events' =>
        rw [hrest] at h
        obtain ⟨htable, rfl⟩ := Prod.mk.inj h
        cases table with
        | ok rest => cases htable
        | error e' =>
          obtain rfl := Except.error.inj htable
          obtain ⟨i, d', log, hi, rfl, hevents, hfail, hbuilt⟩ := ih hrest
          simp only [← builds_succ_append, Nat.add_assoc, Nat.add_comm 1] at hevents hfail hbuilt
          refine ⟨i + 1, d', log, by simpa using hi, rfl, hevents, hfail, ?_⟩
          intro j hj d'' hj'
          cases j with
          | zero =>
            obtain rfl : d = d'' := by simpa using hj'
            exact ⟨kernel, hd⟩
          | succ j => exact hbuilt j (by omega) d'' (by simpa using hj')

/-- How a device answered a build of the epoch. -/
theorem answered_iff {launches : List (CacheEvent κ)} {count device : Nat}
    {answer : Except String κ} (hlaunches : ∀ ev ∈ launches, ev.IsLaunch) :
    c.Answered old (launches ++ builds 0 count) device answer ↔
      device < count ∧ ∃ d, c.devices[device]? = some d ∧
        d.build (buildCount (builds 0 device ++ old) device) c.source c.kernelName = answer := by
  constructor
  · rintro ⟨later, earlier, d, hsplit, hd, hbuild⟩
    obtain ⟨later', hsplit'⟩ := split_builds_of_launches hlaunches hsplit
    obtain ⟨hlt, rfl⟩ := eq_builds_of_split hsplit'
    exact ⟨hlt, d, hd, hbuild⟩
  · rintro ⟨hlt, d, hd, hbuild⟩
    obtain ⟨later, hsplit⟩ : ∃ later : List (CacheEvent κ),
        builds 0 count = later ++ .build device :: builds 0 device := exists_builds_split hlt
    exact ⟨launches ++ later, builds 0 device, d, by rw [hsplit, List.append_assoc], hd, hbuild⟩

/-- Launches answer no build. -/
theorem not_answered {launches : List (CacheEvent κ)} {device : Nat} {answer : Except String κ}
    (hlaunches : ∀ ev ∈ launches, ev.IsLaunch) : ¬ c.Answered old launches device answer := by
  intro h
  have hzero : c.Answered old (launches ++ builds 0 0) device answer := by
    rwa [show launches ++ builds 0 0 = launches from List.append_nil _]
  exact Nat.not_lt_zero _ ((answered_iff hlaunches).1 hzero).1

/-- If building succeeds, no device failed. -/
theorem not_answered_of_ok {kernels : List κ} {launches events : List (CacheEvent κ)}
    (h : c.buildFrom 0 c.devices old = (.ok kernels, events))
    (hlaunches : ∀ ev ∈ launches, ev.IsLaunch) (k : Nat) (log : String) :
    ¬ c.Answered old (launches ++ builds 0 c.devices.length) k (.error log) := by
  intro hanswer
  obtain ⟨-, d, hd, hbuild⟩ := (answered_iff hlaunches).1 hanswer
  obtain ⟨-, -, hbuilt⟩ := buildFrom_ok h
  obtain ⟨kernel, -, hkernel⟩ := hbuilt k d hd
  rw [Nat.zero_add, hbuild] at hkernel
  cases hkernel

/-- If building fails, one device failed, the last that was asked, and the error names it. -/
theorem answered_of_error {e : DispatchError} {events : List (CacheEvent κ)}
    (h : c.buildFrom 0 c.devices old = (.error e, events)) :
    ∃ k < c.devices.length, events = builds 0 (k + 1) ++ old ∧
      (∃ log, c.Answered old (builds 0 (k + 1)) k (.error log)) ∧
      ∀ k' log, c.Answered old (builds 0 (k + 1)) k' (.error log) →
        k' = k ∧ ∃ d, c.devices[k]? = some d ∧ e = .build c.kernelName d.name log := by
  obtain ⟨k, d, log, hd, rfl, hevents, hfail, hbuilt⟩ := buildFrom_error h
  have hanswered (k' : Nat) (answer : Except String κ) :
      c.Answered old (builds 0 (k + 1)) k' answer ↔ k' < k + 1 ∧ ∃ d, c.devices[k']? = some d ∧
        d.build (buildCount (builds 0 k' ++ old) k') c.source c.kernelName = answer := by
    rw [← List.nil_append (builds 0 (k + 1))]
    exact answered_iff (by simp)
  simp only [Nat.zero_add] at hfail hbuilt
  refine ⟨k, (List.getElem?_eq_some_iff.1 hd).1, hevents, ⟨log, ?_⟩, ?_⟩
  · exact (hanswered k _).2 ⟨Nat.lt_succ_self k, d, hd, hfail⟩
  · intro k' log' hanswer
    obtain ⟨hlt, d', hd', hbuild⟩ := (hanswered k' _).1 hanswer
    -- Every device before the last succeeded.
    obtain rfl | hlt := Nat.eq_or_lt_of_le (Nat.le_of_lt_succ hlt)
    · obtain rfl := Option.some.inj (hd.symm.trans hd')
      obtain rfl := Except.error.inj (hfail.symm.trans hbuild)
      exact ⟨rfl, d, hd, rfl⟩
    · obtain ⟨kernel, hkernel⟩ := hbuilt k' hlt d' hd'
      cases hkernel.symm.trans hbuild

/-! ## One call -/

/-- A cache that has not tried yet builds for all its devices and keeps the outcome. -/
theorem ensure_of_untouched {table : Except DispatchError (List κ)} {events : List (CacheEvent κ)}
    (h : c.buildFrom 0 c.devices old = (table, events)) :
    c.ensure ⟨none, old⟩ = (table, ⟨some table, events⟩) := by
  rw [ensure, h]

/-- A cache that has tried gives the outcome it has kept. -/
theorem ensure_of_tried (c : KernelCache κ) (table : Except DispatchError (List κ))
    (events : List (CacheEvent κ)) :
    c.ensure ⟨some table, events⟩ = (table, ⟨some table, events⟩) :=
  rfl

/-- A call that needs no kernels leaves the state as it is, unless it ends the epoch. -/
theorem step_of_not_demands {call : CacheCall} (h : ¬ c.Demands call) (hcall : call ≠ .teardown)
    (s : CacheState κ) : (c.step s call).2 = s := by
  cases call with
  | buildAll => exact (h trivial).elim
  | kernel device => rfl
  | isInitialized => rfl
  | teardown => exact (hcall rfl).elim
  | map device localSize globalSize args output shape =>
    -- The launch is refused at the first of its checks that fails.
    unfold step map
    by_cases hsizes : localSize = 0 ∨ globalSize = 0 ∨ globalSize % localSize ≠ 0
    · simp only [if_pos hsizes]
    · simp only [if_neg hsizes]
      cases hdevice : c.devices[device.toNat]? with
      | none => rfl
      | some target =>
        cases hargs : c.signature.mismatch? (marshal args output shape) with
        | some m => rfl
        | none =>
          rw [not_or, not_or, not_not] at hsizes
          exact (h ⟨hsizes, (List.getElem?_eq_some_iff.1 hdevice).1, hargs⟩).elim

/-- A call that needs the kernels reports why there are none. -/
theorem step_of_ensure_error {call : CacheCall} {s s' : CacheState κ} {e : DispatchError}
    (h : c.Demands call) (hensure : c.ensure s = (.error e, s')) :
    (c.step s call).1.error? = some e ∧ (c.step s call).2 = s' := by
  cases call with
  | kernel device => exact h.elim
  | isInitialized => exact h.elim
  | teardown => exact h.elim
  | buildAll =>
    unfold step buildAll
    rw [hensure]
    exact ⟨rfl, rfl⟩
  | map device localSize globalSize args output shape =>
    obtain ⟨⟨hlocal, hglobal, hmultiple⟩, hdevice, hargs⟩ := h
    have hsizes : ¬ (localSize = 0 ∨ globalSize = 0 ∨ globalSize % localSize ≠ 0) := by
      simp [hlocal, hglobal, hmultiple]
    unfold step map
    simp only [if_neg hsizes, List.getElem?_eq_getElem hdevice, hargs, hensure]
    exact ⟨rfl, trivial⟩

/-- With kernels at hand, a call that needs them launches at most. -/
theorem step_of_ensure_ok {call : CacheCall} {s s' : CacheState κ} {kernels : List κ}
    (h : c.Demands call) (hensure : c.ensure s = (.ok kernels, s')) :
    ∃ launches, (∀ ev ∈ launches, ev.IsLaunch) ∧
      (c.step s call).2 = ⟨s'.table, launches ++ s'.events⟩ := by
  cases call with
  | kernel device => exact h.elim
  | isInitialized => exact h.elim
  | teardown => exact h.elim
  | buildAll =>
    unfold step buildAll
    rw [hensure]
    exact ⟨[], by simp, rfl⟩
  | map device localSize globalSize args output shape =>
    obtain ⟨⟨hlocal, hglobal, hmultiple⟩, hdevice, hargs⟩ := h
    have hsizes : ¬ (localSize = 0 ∨ globalSize = 0 ∨ globalSize % localSize ≠ 0) := by
      simp [hlocal, hglobal, hmultiple]
    unfold step map
    simp only [if_neg hsizes, List.getElem?_eq_getElem hdevice, hargs, hensure]
    generalize c.lookup kernels device = found
    cases found with
    | error e => exact ⟨[], by simp, rfl⟩
    | ok kernel =>
      -- Whether or not the device takes the launch, it was asked.
      dsimp only
      split
      · exact ⟨[.enqueue _ _ false], by simp [CacheEvent.IsLaunch], rfl⟩
      · exact ⟨[.enqueue _ _ true], by simp [CacheEvent.IsLaunch], rfl⟩

/-- Once building was tried, a call adds at most launches. -/
theorem step_of_tried (c : KernelCache κ) (table : Except DispatchError (List κ))
    (events : List (CacheEvent κ)) (call : CacheCall) :
    ∃ launches, (∀ ev ∈ launches, ev.IsLaunch) ∧
      (c.step ⟨some table, events⟩ call).2.events = launches ++ events := by
  have hensure := c.ensure_of_tried table events
  by_cases hcall : call = .teardown
  · exact ⟨[], by simp, by rw [hcall]; rfl⟩
  by_cases hdemands : c.Demands call
  · cases table with
    | error e => exact ⟨[], by simp, by rw [(step_of_ensure_error hdemands hensure).2]; rfl⟩
    | ok kernels =>
      obtain ⟨launches, hlaunches, hstep⟩ := step_of_ensure_ok hdemands hensure
      exact ⟨launches, hlaunches, by rw [hstep]⟩
  · exact ⟨[], by simp, by rw [step_of_not_demands hdemands hcall]; rfl⟩

/-! ## The calls of an epoch -/

/-- How far an epoch has come after some calls. -/
inductive Progress (c : KernelCache κ) (old : List (CacheEvent κ)) (calls : List CacheCall) :
    CacheState κ → Prop
  /-- No call needed the kernels, and nothing was done. -/
  | untouched : (∀ call ∈ calls, ¬ c.Demands call) → Progress c old calls ⟨none, old⟩
  /-- The kernels were needed, and a build failed. -/
  | failed {e : DispatchError} {events : List (CacheEvent κ)} :
      (∃ call ∈ calls, c.Demands call) → c.buildFrom 0 c.devices old = (.error e, events) →
      Progress c old calls ⟨some (.error e), events⟩
  /-- The kernels were needed and built, and perhaps launched since. -/
  | ready {kernels : List κ} {events : List (CacheEvent κ)} (launches : List (CacheEvent κ)) :
      (∃ call ∈ calls, c.Demands call) → c.buildFrom 0 c.devices old = (.ok kernels, events) →
      (∀ ev ∈ launches, ev.IsLaunch) →
      Progress c old calls ⟨some (.ok kernels), launches ++ events⟩

/-- One more call of the epoch. -/
theorem Progress.step {calls : List CacheCall} {call : CacheCall} {s : CacheState κ}
    (hs : Progress c old calls s) (hcall : call ≠ .teardown) :
    Progress c old (calls ++ [call]) (c.step s call).2 := by
  by_cases hdemands : c.Demands call
  · have hsome : ∃ call' ∈ calls ++ [call], c.Demands call' := ⟨call, by simp, hdemands⟩
    cases hs with
    | untouched hnone =>
      cases hbuild : c.buildFrom 0 c.devices old with
      | mk table events =>
        have hensure := ensure_of_untouched hbuild
        cases table with
        | error e =>
          -- This is the call in which the epoch builds.
          rw [(step_of_ensure_error hdemands hensure).2]
          exact .failed hsome hbuild
        | ok kernels =>
          obtain ⟨launches, hlaunches, hstep⟩ := step_of_ensure_ok hdemands hensure
          rw [hstep]
          exact .ready launches hsome hbuild hlaunches
    | failed _ hbuild =>
      rw [(step_of_ensure_error hdemands (ensure_of_tried _ _ _)).2]
      exact .failed hsome hbuild
    | ready launches _ hbuild hlaunches =>
      obtain ⟨more, hmore, hstep⟩ := step_of_ensure_ok hdemands (ensure_of_tried _ _ _)
      rw [hstep, ← List.append_assoc]
      exact .ready _ hsome hbuild (List.forall_mem_append.2 ⟨hmore, hlaunches⟩)
  · rw [step_of_not_demands hdemands hcall]
    have hkeep (hsome : ∃ call' ∈ calls, c.Demands call') :
        ∃ call' ∈ calls ++ [call], c.Demands call' := by
      obtain ⟨call', hmem, hdemands'⟩ := hsome
      exact ⟨call', List.mem_append_left _ hmem, hdemands'⟩
    cases hs with
    | untouched hnone =>
      exact .untouched (List.forall_mem_append.2 ⟨hnone, List.forall_mem_singleton.2 hdemands⟩)
    | failed hsome hbuild => exact .failed (hkeep hsome) hbuild
    | ready launches hsome hbuild hlaunches =>
      exact .ready launches (hkeep hsome) hbuild hlaunches

/-- Calls go on from where the earlier ones ended. -/
theorem run_append (c : KernelCache κ) (s : CacheState κ) (front back : List CacheCall) :
    c.run s (front ++ back) = c.run (c.run s front) back :=
  List.foldl_append

/-- Any number of calls of the epoch. -/
theorem progress_run {calls : List CacheCall} (hcalls : .teardown ∉ calls) :
    Progress c old calls (c.run ⟨none, old⟩ calls) := by
  induction calls using List.reverseRecOn with
  | nil => exact .untouched (by simp)
  | append_singleton calls call ih =>
    rw [List.mem_append, not_or, List.mem_singleton] at hcalls
    rw [run_append]
    exact (ih hcalls.1).step (Ne.symm hcalls.2)

/-- After a failed build the state does not change until the epoch ends. -/
theorem run_of_error {e : DispatchError} {events : List (CacheEvent κ)} {calls : List CacheCall}
    (hcalls : .teardown ∉ calls) :
    c.run ⟨some (.error e), events⟩ calls = ⟨some (.error e), events⟩ := by
  induction calls with
  | nil => rfl
  | cons call calls ih =>
    rw [List.mem_cons, not_or] at hcalls
    have hstep : (c.step ⟨some (.error e), events⟩ call).2 = ⟨some (.error e), events⟩ := by
      by_cases hdemands : c.Demands call
      · exact (step_of_ensure_error hdemands (ensure_of_tried _ _ _)).2
      · exact step_of_not_demands hdemands (Ne.symm hcalls.1) _
    rw [run, List.foldl_cons, hstep]
    exact ih hcalls.2

/-- What holds of an epoch after some of its calls: `old` is what was asked of the devices before
it, `new` what was asked in it, and `s` is the state. -/
structure Epoch (c : KernelCache κ) (old new : List (CacheEvent κ)) (calls : List CacheCall)
    (s : CacheState κ) : Prop where
  /-- Everything that was asked is kept. -/
  events_eq : s.events = new ++ old
  /-- The devices are built in order, each at most once. -/
  inOrder : ∃ count ≤ c.devices.length, built new = List.range count
  /-- One more call builds only if it is the first of the epoch that needs the kernels, and reports
  a build that fails. -/
  next : ∀ call, ∃ added, (c.step s call).2.events = added ++ s.events ∧
    (built added ≠ [] → c.Demands call ∧ ∀ earlier ∈ calls, ¬ c.Demands earlier) ∧
    ∀ k log, c.Answered s.events added k (.error log) → ∃ d, c.devices[k]? = some d ∧
      (c.step s call).1.error? = some (.build c.kernelName d.name log)
  /-- Before a call needs the kernels there are none. -/
  untouched : (∀ call ∈ calls, ¬ c.Demands call) → new = [] ∧ s.isInitialized = false ∧
    ∀ device, c.kernel s device = .error (.notInitialized c.kernelName)
  /-- Once a build has failed, the devices up to that one were asked and nothing else was. Nothing
  more is asked in the epoch, and every call that needs a kernel returns the same error. -/
  failed : ∀ k log, c.Answered old new k (.error log) → ∃ d, c.devices[k]? = some d ∧
    built new = List.range (k + 1) ∧ (∀ ev ∈ new, ¬ ev.IsLaunch) ∧ s.isInitialized = false ∧
    (∀ later, .teardown ∉ later → c.run s later = s) ∧
    ∀ call, (c.Demands call ∨ ∃ device, call = .kernel device) →
      (c.step s call).1.error? = some (.build c.kernelName d.name log)
  /-- Once all builds have succeeded, every device has the kernel that it built in the epoch. -/
  succeeded : (∃ call ∈ calls, c.Demands call) →
    (∀ k log, ¬ c.Answered old new k (.error log)) →
    built new = List.range c.devices.length ∧ s.isInitialized = true ∧
    c.buildAll s = (.ok (), s) ∧
    (∀ device : UInt64, device.toNat < c.devices.length → ∃ kernel,
      c.kernel s device = .ok kernel ∧ c.Answered old new device.toNat (.ok kernel)) ∧
    ∀ device : UInt64, c.devices.length ≤ device.toNat →
      c.kernel s device = .error (.unknownDevice c.kernelName device c.devices.length)

/-- An epoch in which no call needs the kernels asks nothing of the devices. -/
theorem epoch_untouched {calls : List CacheCall} (hnone : ∀ call ∈ calls, ¬ c.Demands call) :
    c.Epoch old [] calls ⟨none, old⟩ where
  events_eq := rfl
  inOrder := ⟨0, Nat.zero_le _, rfl⟩
  next call := by
    -- Either this is the call that builds, or nothing is asked of the devices.
    by_cases hdemands : c.Demands call
    · cases hbuild : c.buildFrom 0 c.devices old with
      | mk table events =>
        have hensure := ensure_of_untouched hbuild
        cases table with
        | error e =>
          obtain ⟨k, -, rfl, -, hunique⟩ := answered_of_error hbuild
          obtain ⟨herror, hstep⟩ := step_of_ensure_error hdemands hensure
          refine ⟨builds 0 (k + 1), by rw [hstep], fun _ => ⟨hdemands, hnone⟩, ?_⟩
          intro k' log hanswer
          obtain ⟨rfl, d, hd, rfl⟩ := hunique k' log hanswer
          exact ⟨d, hd, herror⟩
        | ok kernels =>
          obtain ⟨rfl, -⟩ := buildFrom_ok hbuild
          obtain ⟨launches, hlaunches, hstep⟩ := step_of_ensure_ok hdemands hensure
          refine ⟨launches ++ builds 0 c.devices.length, by rw [hstep, List.append_assoc],
            fun _ => ⟨hdemands, hnone⟩, ?_⟩
          intro k log hanswer
          exact (not_answered_of_ok hbuild hlaunches k log hanswer).elim
    · have hsame : (c.step ⟨none, old⟩ call).2.events = old := by
        by_cases hcall : call = .teardown
        · rw [hcall]
          rfl
        · rw [step_of_not_demands hdemands hcall]
      exact ⟨[], hsame, fun h => (h rfl).elim,
        fun k log hanswer => (not_answered (by simp) hanswer).elim⟩
  untouched _ := ⟨rfl, rfl, fun _ => rfl⟩
  failed k log hanswer := (not_answered (by simp) hanswer).elim
  succeeded hsome := by
    obtain ⟨call, hmem, hdemands⟩ := hsome
    exact (hnone call hmem hdemands).elim

/-- An epoch whose attempt failed. -/
theorem epoch_failed {calls : List CacheCall} {e : DispatchError} {events : List (CacheEvent κ)}
    (hsome : ∃ call ∈ calls, c.Demands call)
    (hbuild : c.buildFrom 0 c.devices old = (.error e, events)) :
    ∃ new, c.Epoch old new calls ⟨some (.error e), events⟩ := by
  obtain ⟨k, hk, rfl, hanswered, hunique⟩ := answered_of_error hbuild
  refine ⟨builds 0 (k + 1), rfl, ⟨k + 1, hk, built_builds _⟩, ?_, ?_, ?_, ?_⟩
  · intro call
    obtain ⟨launches, hlaunches, hstep⟩ := c.step_of_tried _ _ call
    exact ⟨launches, hstep, fun h => (h (built_eq_nil hlaunches)).elim,
      fun k log hanswer => (not_answered hlaunches hanswer).elim⟩
  · intro hnone
    obtain ⟨call, hmem, hdemands⟩ := hsome
    exact (hnone call hmem hdemands).elim
  · intro k' log hanswer
    obtain ⟨rfl, d, hd, rfl⟩ := hunique k' log hanswer
    refine ⟨d, hd, built_builds _, by simp [builds, CacheEvent.IsLaunch], rfl,
      fun later hlater => run_of_error hlater, ?_⟩
    rintro call (hdemands | ⟨device, rfl⟩)
    · exact (step_of_ensure_error hdemands (ensure_of_tried _ _ _)).1
    · rfl
  · intro _ hnone
    obtain ⟨log, hanswer⟩ := hanswered
    exact (hnone k log hanswer).elim

/-- An epoch whose attempt succeeded, with the launches since. -/
theorem epoch_ready {calls : List CacheCall} {kernels : List κ}
    {launches events : List (CacheEvent κ)} (hsome : ∃ call ∈ calls, c.Demands call)
    (hbuild : c.buildFrom 0 c.devices old = (.ok kernels, events))
    (hlaunches : ∀ ev ∈ launches, ev.IsLaunch) :
    ∃ new, c.Epoch old new calls ⟨some (.ok kernels), launches ++ events⟩ := by
  obtain ⟨rfl, hlength, hbuilt⟩ := buildFrom_ok hbuild
  have hnew : built (launches ++ builds 0 c.devices.length) = List.range c.devices.length := by
    rw [built_append, built_eq_nil hlaunches, built_builds, List.append_nil]
  refine ⟨launches ++ builds 0 c.devices.length, (List.append_assoc _ _ _).symm,
    ⟨c.devices.length, le_rfl, hnew⟩, ?_, ?_, ?_, ?_⟩
  · intro call
    -- The devices are built, so a call adds launches only.
    obtain ⟨more, hmore, hstep⟩ := c.step_of_tried _ _ call
    exact ⟨more, hstep, fun h => (h (built_eq_nil hmore)).elim,
      fun k log hanswer => (not_answered hmore hanswer).elim⟩
  · intro hnone
    obtain ⟨call, hmem, hdemands⟩ := hsome
    exact (hnone call hmem hdemands).elim
  · intro k log hanswer
    exact (not_answered_of_ok hbuild hlaunches k log hanswer).elim
  · intro _ _
    refine ⟨hnew, rfl, rfl, fun device hdevice => ?_, fun device hdevice => ?_⟩
    · obtain ⟨kernel, hkernel, hanswer⟩ :=
        hbuilt device.toNat _ (List.getElem?_eq_getElem hdevice)
      rw [Nat.zero_add] at hanswer
      refine ⟨kernel, ?_, (answered_iff hlaunches).2
        ⟨hdevice, _, List.getElem?_eq_getElem hdevice, hanswer⟩⟩
      simp only [KernelCache.kernel, lookup, hkernel]
    · have hnone : kernels[device.toNat]? = none := List.getElem?_eq_none (hlength ▸ hdevice)
      simp only [KernelCache.kernel, lookup, hnone]
      rfl

/-- An epoch starts with nothing built. -/
theorem run_of_start {before : List CacheCall}
    (h : before = [] ∨ before.getLast? = some .teardown) :
    c.run {} before = ⟨none, (c.run {} before).events⟩ := by
  rcases h with rfl | h
  · rfl
  · obtain ⟨calls, rfl⟩ := List.getLast?_eq_some_iff.1 h
    rw [run_append]
    rfl

/-- Every epoch of every run, from the start or a teardown on. -/
theorem epoch_run (c : KernelCache κ) (before calls : List CacheCall)
    (hbefore : before = [] ∨ before.getLast? = some .teardown) (hcalls : .teardown ∉ calls) :
    ∃ new, c.Epoch (c.run {} before).events new calls (c.run {} (before ++ calls)) := by
  have hprogress : Progress c (c.run {} before).events calls (c.run {} (before ++ calls)) := by
    rw [run_append, run_of_start hbefore]
    exact progress_run hcalls
  generalize c.run {} (before ++ calls) = s at hprogress
  cases hprogress with
  | untouched hnone => exact ⟨[], epoch_untouched hnone⟩
  | failed hsome hbuild => exact epoch_failed hsome hbuild
  | ready launches hsome hbuild hlaunches => exact epoch_ready hsome hbuild hlaunches

/-- A device that builds at once, and one whose first build fails; a kernel is the number of builds
before it. -/
def sampleCache : KernelCache Nat where
  kernelName := "k"
  source := "__kernel void k() \x7b\x7d"
  signature := ⟨[], "float"⟩
  devices := [
    { name := "gpu0", build := fun before _ _ => .ok before, enqueue := fun _ _ => .ok () },
    { name := "gpu1",
      build := fun before _ _ => if before = 0 then .error "out of memory" else .ok before,
      enqueue := fun _ _ => .ok () }]

/-- In the first epoch the second device fails and the error is kept; after a teardown both devices
build again and the second one's kernel is there. -/
theorem epoch_run_sample :
    (∀ device, (sampleCache.step (sampleCache.run {} [.buildAll]) (.kernel device)).1.error? =
      some (.build "k" "gpu1" "out of memory")) ∧
    ∃ kernel, sampleCache.kernel (sampleCache.run {} [.buildAll, .teardown, .buildAll]) 1 =
        .ok kernel ∧
      sampleCache.Answered [.build 1, .build 0] [.build 1, .build 0] 1 (.ok kernel) := by
  constructor
  · intro device
    obtain ⟨new, hepoch⟩ := epoch_run sampleCache [] [.buildAll] (.inl rfl) (by simp)
    obtain rfl : [.build 1, .build 0] = new :=
      hepoch.events_eq.trans (List.append_nil new)
    obtain ⟨d, hd, -, -, -, -, hrefused⟩ :=
      hepoch.failed 1 "out of memory" ⟨[], [.build 0], _, rfl, rfl, rfl⟩
    obtain rfl := Option.some.inj hd
    exact hrefused _ (.inr ⟨device, rfl⟩)
  · obtain ⟨new, hepoch⟩ := epoch_run sampleCache [.buildAll, .teardown] [.buildAll] (.inr rfl)
      (by simp)
    obtain rfl : [.build 1, .build 0] = new := List.append_cancel_right hepoch.events_eq
    have hbuild : sampleCache.buildFrom 0 sampleCache.devices [.build 1, .build 0] =
        (.ok [1, 1], [.build 1, .build 0, .build 1, .build 0]) := rfl
    have hnone : ∀ k log, ¬ sampleCache.Answered [.build 1, .build 0]
        ([] ++ builds 0 sampleCache.devices.length) k (.error log) :=
      not_answered_of_ok hbuild (by simp)
    obtain ⟨-, -, -, hkernel, -⟩ := hepoch.succeeded ⟨.buildAll, by simp, trivial⟩ hnone
    exact hkernel 1 (by decide)

end KernelCache

end KernelGen
