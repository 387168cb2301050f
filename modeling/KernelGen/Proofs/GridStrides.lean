import KernelGen.Launch.Stride
import Mathlib

/-!
# Strided walks over a range

The walk of a worker is read as a list of natural numbers: from the next element on, every so many,
while below the end of the range. Words come in only where the next element would not be one, and
there the walk is over.

* `strideCount`, `lt_strideCount_iff`: how many numbers there are.
* `Moves`: a walk that has something to visit does not stand still.
* `ahead`, `ahead_of_next?`, `take_spec`: what is still to come, after one step and after any
  number.
* `mem_items_start_iff`: what a worker visits.
* `visits`, `visits_perm_range`: what all workers visit.

At the end stands what every walk visits, how it counts, and how the workers share a range.
-/

namespace KernelGen

/-! ## Numbers at a distance -/

/-- How many of the numbers `first`, `first + stride`, … are below `n`. -/
def strideCount (first stride n : Nat) : Nat :=
  if first < n then (n - first - 1) / stride + 1 else 0

/-- The count is the number of steps that stay below the end. -/
theorem lt_strideCount_iff {first stride n k : Nat} (hstride : 0 < stride) :
    k < strideCount first stride n ↔ first + stride * k < n := by
  unfold strideCount
  split_ifs with hfirst
  · rw [Nat.lt_succ_iff, Nat.le_div_iff_mul_le hstride, Nat.mul_comm k]
    omega
  · have hle : first ≤ first + stride * k := Nat.le_add_right _ _
    omega

theorem strideCount_eq_zero {first stride n : Nat} (h : n ≤ first) :
    strideCount first stride n = 0 :=
  if_neg (Nat.not_lt.2 h)

/-- The first number aside, the others are those from the second on. -/
theorem strideCount_of_lt {first stride n : Nat} (hstride : 0 < stride) (h : first < n) :
    strideCount first stride n = strideCount (first + stride) stride n + 1 := by
  refine eq_of_forall_lt_iff fun k => ?_
  cases k with
  | zero => simpa using (lt_strideCount_iff (k := 0) hstride).2 h
  | succ k =>
    rw [Nat.succ_lt_succ_iff, lt_strideCount_iff hstride, lt_strideCount_iff hstride, Nat.mul_succ]
    omega

/-- There are no more numbers than there are below the end. -/
theorem strideCount_le (first stride n : Nat) : strideCount first stride n ≤ n := by
  unfold strideCount
  split_ifs with hfirst
  · have hdiv : (n - first - 1) / stride ≤ n - first - 1 := Nat.div_le_self _ _
    omega
  · exact Nat.zero_le n

/-- A sum that would be too large is the greatest word. -/
theorem Word.toNat_saturatingAdd (a b : UInt64) :
    (Word.saturatingAdd a b).toNat = min (a.toNat + b.toNat) (Word.bound - 1) := by
  unfold saturatingAdd
  split_ifs with h
  · have hle : a.toNat + b.toNat ≤ bound - 1 := Nat.le_pred_of_lt h
    rw [UInt64.toNat_add, Nat.mod_eq_of_lt h, Nat.min_eq_left hle]
  · rw [Nat.min_eq_right (by omega)]
    rfl

namespace GridStride

variable {g g' : GridStride} {i : UInt64}

/-! ## One walk -/

/-- A walk that has something to visit does not stand still. -/
def Moves (g : GridStride) : Prop :=
  g.next < g.n → g.stride ≠ 0

/-- What is still to come is counted within the word: the differences do not go below zero, the
divisor is not zero, and the sum is a word. -/
def CountsInWord (g : GridStride) : Prop :=
  g.next < g.n → 1 ≤ g.n.toNat - g.next.toNat ∧ g.stride.toNat ≠ 0 ∧
    (g.n.toNat - g.next.toNat - 1) / g.stride.toNat + 1 < Word.bound

/-- The numbers still to come. -/
def ahead (g : GridStride) : List Nat :=
  List.range' g.next.toNat g.size.toNat g.stride.toNat

/-- Every walk moves at its start. -/
theorem moves_start (worker workers n : UInt64) : (start worker workers n).Moves := by
  intro hlt hstride
  have hzero : workers = 0 := hstride
  simp [start, hzero] at hlt

/-- What is still to come of a walk that moves is counted within the word. -/
theorem Moves.countsInWord (hg : g.Moves) : g.CountsInWord := by
  intro hlt
  have hstride : g.stride.toNat ≠ 0 := fun h => hg hlt (UInt64.toNat_inj.1 h)
  have hcount := strideCount_le g.next.toNat g.stride.toNat g.n.toNat
  rw [UInt64.lt_iff_toNat_lt] at hlt
  rw [strideCount, if_pos hlt] at hcount
  exact ⟨by omega, hstride, lt_of_le_of_lt hcount g.n.toNat_lt⟩

/-- The size of a walk is a count of numbers. -/
theorem Moves.toNat_size (hg : g.Moves) :
    g.size.toNat = strideCount g.next.toNat g.stride.toNat g.n.toNat := by
  unfold size strideCount
  by_cases hlt : g.next < g.n
  · obtain ⟨hdiff, -, hbound⟩ := hg.countsInWord hlt
    have hnext : (g.n - g.next).toNat = g.n.toNat - g.next.toNat :=
      UInt64.toNat_sub_of_le _ _ (UInt64.le_of_lt hlt)
    have hone : (g.n - g.next - 1).toNat = g.n.toNat - g.next.toNat - 1 := by
      rw [UInt64.toNat_sub_of_le _ _ (UInt64.le_iff_toNat_le.2 (by rwa [hnext])), hnext]
      rfl
    rw [if_pos hlt, if_pos (UInt64.lt_iff_toNat_lt.1 hlt), UInt64.toNat_add, UInt64.toNat_div, hone]
    exact Nat.mod_eq_of_lt hbound
  · rw [if_neg hlt, if_neg fun h => hlt (UInt64.lt_iff_toNat_lt.2 h)]
    rfl

theorem length_ahead (g : GridStride) : g.ahead.length = g.size.toNat :=
  List.length_range'

/-- A walk is over when nothing is still to come. -/
theorem Moves.next?_eq_none_iff (hg : g.Moves) : g.next? = none ↔ g.ahead = [] := by
  rw [← List.length_eq_zero_iff, length_ahead, hg.toNat_size, next?, strideCount]
  simp [UInt64.lt_iff_toNat_lt]

/-- One step takes the first of what is still to come and leaves the others. -/
theorem ahead_of_next? (hg : g.Moves) (h : g.next? = some (i, g')) :
    g'.Moves ∧ g.ahead = i.toNat :: g'.ahead := by
  unfold next? at h
  split_ifs at h with hlt
  obtain ⟨rfl, rfl⟩ := Prod.mk.inj (Option.some.inj h)
  have hmoves : Moves { g with next := Word.saturatingAdd g.next g.stride } := fun _ => hg hlt
  have hpos : 0 < g.stride.toNat := Nat.pos_of_ne_zero (hg.countsInWord hlt).2.1
  have hbound : g.n.toNat < Word.bound := g.n.toNat_lt
  refine ⟨hmoves, ?_⟩
  rw [ahead, ahead, hg.toNat_size, hmoves.toNat_size, Word.toNat_saturatingAdd,
    strideCount_of_lt hpos (UInt64.lt_iff_toNat_lt.1 hlt), List.range'_succ]
  dsimp only
  by_cases hword : g.next.toNat + g.stride.toNat ≤ Word.bound - 1
  · rw [Nat.min_eq_left hword]
  · -- The next number is no word, so neither it nor the greatest word is below the end.
    rw [Nat.min_eq_right (by omega), strideCount_eq_zero (by omega), strideCount_eq_zero (by omega)]
    rfl

/-- After any number of steps the first numbers were visited and the others are still to come. -/
theorem take_spec (hg : g.Moves) (k : Nat) :
    (take k g).1.map UInt64.toNat = g.ahead.take k ∧ (take k g).2.ahead = g.ahead.drop k ∧
      (take k g).2.Moves := by
  induction k generalizing g with
  | zero => exact ⟨rfl, rfl, hg⟩
  | succ k ih =>
    rw [take]
    cases h : g.next? with
    | none =>
      have hover := hg.next?_eq_none_iff.1 h
      exact ⟨by simp [hover], by simp [hover], hg⟩
    | some step =>
      obtain ⟨hmoves, hahead⟩ := ahead_of_next? hg h
      obtain ⟨hvisited, hrest, hlast⟩ := ih hmoves
      rw [hahead]
      exact ⟨congrArg (step.1.toNat :: ·) hvisited, hrest, hlast⟩

/-- All elements of a walk are all that is still to come. -/
theorem map_toNat_items (hg : g.Moves) : g.items.map UInt64.toNat = g.ahead := by
  rw [items, (take_spec hg _).1, ← length_ahead, List.take_length]

/-- Some steps visit as many of the first items. -/
theorem take_eq_take_items (hg : g.Moves) (k : Nat) : (take k g).1 = g.items.take k := by
  apply List.map_injective_iff.2 fun _ _ => UInt64.toNat_inj.1
  rw [(take_spec hg k).1, List.map_take, map_toNat_items hg]

/-- Every step leaves one item less. -/
theorem length_ahead_take (hg : g.Moves) (k : Nat) :
    (take k g).2.ahead.length = g.items.length - k := by
  rw [(take_spec hg k).2.1, List.length_drop, ← map_toNat_items hg, List.length_map]

/-- A walk goes up. -/
theorem pairwise_items (hg : g.Moves) : g.items.Pairwise (· < ·) := by
  suffices hsorted : g.ahead.Pairwise (· < ·) by
    rw [← map_toNat_items hg, List.pairwise_map] at hsorted
    exact hsorted.imp UInt64.lt_iff_toNat_lt.2
  by_cases hlt : g.next < g.n
  · exact List.pairwise_lt_range' _ (Nat.pos_of_ne_zero (hg.countsInWord hlt).2.1)
  · have hover : g.next? = none := if_neg hlt
    rw [hg.next?_eq_none_iff.1 hover]
    exact .nil

/-- A worker visits the numbers of its progression. -/
theorem mem_items_start_iff (worker workers n : UInt64) (x : Nat) :
    x ∈ (start worker workers n).items.map UInt64.toNat ↔
      workers ≠ 0 ∧ x < n.toNat ∧ ∃ k, x = worker.toNat + k * workers.toNat := by
  have hmoves := moves_start worker workers n
  rw [map_toNat_items hmoves, ahead, hmoves.toNat_size, List.mem_range']
  by_cases hzero : workers = 0
  · -- Without workers the walk starts at its end.
    simp [start, hzero, strideCount]
  · have hpos : 0 < workers.toNat := Nat.pos_of_ne_zero fun h => hzero (UInt64.toNat_inj.1 h)
    simp only [start, if_neg hzero, lt_strideCount_iff hpos]
    constructor
    · rintro ⟨k, hk, rfl⟩
      exact ⟨hzero, hk, k, by rw [Nat.mul_comm]⟩
    · rintro ⟨-, hx, k, rfl⟩
      rw [Nat.mul_comm] at hx ⊢
      exact ⟨k, hx, rfl⟩

/-! ## All workers -/

/-- What all workers visit, worker by worker. -/
def visits (workers n : UInt64) : List UInt64 :=
  (List.range workers.toNat).flatMap fun worker => (start (UInt64.ofNat worker) workers n).items

/-- An element is visited by the worker whose number is its remainder. -/
theorem mem_items_iff_mod {workers n : UInt64} {worker : Nat} (hworker : worker < workers.toNat) :
    i ∈ (start (UInt64.ofNat worker) workers n).items ↔
      i < n ∧ i.toNat % workers.toNat = worker := by
  have hword : (UInt64.ofNat worker).toNat = worker :=
    UInt64.toNat_ofNat_of_lt' (hworker.trans workers.toNat_lt)
  have hzero : workers ≠ 0 := by
    rintro rfl
    exact Nat.not_lt_zero _ hworker
  rw [← List.mem_map_of_injective fun _ _ => UInt64.toNat_inj.1, mem_items_start_iff, hword,
    UInt64.lt_iff_toNat_lt]
  constructor
  · rintro ⟨-, hlt, k, hk⟩
    refine ⟨hlt, ?_⟩
    rw [hk, Nat.add_mul_mod_self_right, Nat.mod_eq_of_lt hworker]
  · rintro ⟨hlt, hmod⟩
    refine ⟨hzero, hlt, i.toNat / workers.toNat, ?_⟩
    rw [← hmod, Nat.mul_comm, Nat.mod_add_div]

/-- No index is visited twice. -/
theorem nodup_visits (workers n : UInt64) : (visits workers n).Nodup := by
  refine List.nodup_flatMap.2 ⟨fun worker _ => ?_, ?_⟩
  · exact (pairwise_items (moves_start _ workers n)).imp UInt64.ne_of_lt
  · -- Two workers would have to be the same remainder.
    refine List.Pairwise.imp_of_mem ?_ (List.nodup_range (n := workers.toNat))
    intro a b ha hb hab i hia hib
    rw [mem_items_iff_mod (List.mem_range.1 ha)] at hia
    rw [mem_items_iff_mod (List.mem_range.1 hb)] at hib
    exact hab (hia.2.symm.trans hib.2)

/-- The workers visit every index below the end and no other. -/
theorem mem_visits_iff {workers n : UInt64} (hworkers : workers ≠ 0) :
    i ∈ visits workers n ↔ i < n := by
  have hpos : 0 < workers.toNat := Nat.pos_of_ne_zero fun h => hworkers (UInt64.toNat_inj.1 h)
  rw [visits, List.mem_flatMap]
  constructor
  · rintro ⟨worker, hworker, hi⟩
    exact ((mem_items_iff_mod (List.mem_range.1 hworker)).1 hi).1
  · intro hi
    have hmod : i.toNat % workers.toNat < workers.toNat := Nat.mod_lt _ hpos
    exact ⟨_, List.mem_range.2 hmod, (mem_items_iff_mod hmod).2 ⟨hi, rfl⟩⟩

/-- The workers visit the whole range, and nothing twice. -/
theorem visits_perm_range {workers n : UInt64} (hworkers : workers ≠ 0) :
    (visits workers n).Perm ((List.range n.toNat).map UInt64.ofNat) := by
  have hword (k : Nat) (hk : k ∈ List.range n.toNat) : (UInt64.ofNat k).toNat = k :=
    UInt64.toNat_ofNat_of_lt' ((List.mem_range.1 hk).trans n.toNat_lt)
  have hnodup : ((List.range n.toNat).map UInt64.ofNat).Nodup := by
    refine List.Nodup.map_on (fun a ha b hb hab => ?_) List.nodup_range
    rw [← hword a ha, hab, hword b hb]
  rw [List.perm_ext_iff_of_nodup (nodup_visits workers n) hnodup]
  intro i
  rw [mem_visits_iff hworkers, UInt64.lt_iff_toNat_lt, List.mem_map]
  constructor
  · intro hi
    exact ⟨i.toNat, List.mem_range.2 hi, UInt64.ofNat_toNat⟩
  · rintro ⟨k, hk, rfl⟩
    rw [hword k hk]
    exact List.mem_range.1 hk

/-- Every walk, and all walks of some workers. A walk visits the numbers of its progression that are
below the end, in increasing order; at every point of it, what was visited is a first part of these,
its size is the number of the others, and it is over when there are none. The workers visit every
number of the range once in total, each by the worker whose number is its remainder. -/
theorem start_visits_progression (workers n : UInt64) :
    (∀ worker : UInt64,
      let g := start worker workers n
      g.items.Pairwise (· < ·) ∧
      (∀ x : Nat, x ∈ g.items.map UInt64.toNat ↔
        workers ≠ 0 ∧ x < n.toNat ∧ ∃ k, x = worker.toNat + k * workers.toNat) ∧
      ∀ k, (take k g).1 = g.items.take k ∧ (take k g).2.CountsInWord ∧
        (take k g).2.size.toNat = g.items.length - k ∧
        ((take k g).2.next? = none ↔ g.items.length ≤ k)) ∧
    (workers ≠ 0 → ∀ i < n, (visits workers n).count i = 1 ∧
      ∀ worker < workers, i ∈ (start worker workers n).items ↔ worker = i % workers) := by
  refine ⟨fun worker => ?_, fun hworkers i hi => ⟨?_, fun worker hworker => ?_⟩⟩
  · have hmoves := moves_start worker workers n
    refine ⟨pairwise_items hmoves, mem_items_start_iff worker workers n, fun k => ?_⟩
    have hlength := length_ahead_take hmoves k
    refine ⟨take_eq_take_items hmoves k, (take_spec hmoves k).2.2.countsInWord, ?_, ?_⟩
    · rw [← length_ahead, hlength]
    · rw [(take_spec hmoves k).2.2.next?_eq_none_iff, ← List.length_eq_zero_iff, hlength]
      omega
  · exact List.count_eq_one_of_mem (nodup_visits workers n) ((mem_visits_iff hworkers).2 hi)
  · rw [UInt64.lt_iff_toNat_lt] at hworker
    have hmem := mem_items_iff_mod (i := i) (n := n) hworker
    rw [UInt64.ofNat_toNat] at hmem
    rw [hmem, ← UInt64.toNat_inj, UInt64.toNat_mod]
    exact ⟨fun h => h.2.symm, fun h => ⟨hi, h.symm⟩⟩

end GridStride

end KernelGen
