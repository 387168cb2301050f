import KernelGen.Launch.CrossProduct
import KernelGen.Proofs.GridStrides

/-!
# Cross products in row-major order

The workers compute the elements of a cross product in an order of their own. Each place is visited
once, so sorting by place gives the elements in order, whatever the number of workers is and however
they were sorted.

* `CrossProduct.computed_perm`: what the workers compute, up to its order.
* `CrossProduct.eq_of_sorted`: there is one way to sort it.
* `CrossProduct.run_eq_ofFn`: the elements in order.
* `CrossProduct.inRange_of_mem_visits`: the row and the column of a place are within the two sides.

At the end stand the two cross products, with and without positions.
-/

namespace KernelGen.CrossProduct

variable {α β γ : Type}

/-! ## Putting results back in order -/

section Order

variable {n : Nat} {workers : UInt64} {element : UInt64 → Option γ} {e : Fin n → γ}

theorem clampWorkers_ne_zero (workers n : UInt64) : clampWorkers workers n ≠ 0 := by
  have hmost : (if n = 0 then 1 else n) ≠ 0 := by
    split_ifs with hn
    · decide
    · exact hn
  unfold clampWorkers
  dsimp only
  generalize (if n = 0 then 1 else n) = most at hmost
  split_ifs with hworkers hlt
  · decide
  · exact hmost
  · exact hworkers

/-- The workers compute every element with its place. -/
theorem computed_perm (hn : n < Word.bound) (hworkers : workers ≠ 0)
    (he : ∀ i : Fin n, element (UInt64.ofNat i) = some (e i)) :
    (computed (UInt64.ofNat n) workers element).Perm
      (List.ofFn fun i => (UInt64.ofNat i, e i)) := by
  have hvisits : computed (UInt64.ofNat n) workers element =
      (GridStride.visits workers (UInt64.ofNat n)).filterMap
        fun i => (element i).map fun r => (i, r) := by
    rw [computed, GridStride.visits, List.filterMap_flatMap]
  have hperm := GridStride.visits_perm_range (n := UInt64.ofNat n) hworkers
  rw [UInt64.toNat_ofNat_of_lt' hn, ← List.map_coe_finRange_eq_range, List.map_map] at hperm
  rw [hvisits, List.ofFn_eq_map, ← List.filterMap_eq_map]
  refine (hperm.filterMap _).trans (List.Perm.of_eq ?_)
  rw [List.filterMap_map]
  refine List.filterMap_congr fun i _ => ?_
  simp [he]

/-- However the results are sorted by their places, they come in the order of the elements. -/
theorem eq_of_sorted (hn : n < Word.bound) {sorted : List (UInt64 × γ)}
    (hperm : sorted.Perm (List.ofFn fun i : Fin n => (UInt64.ofNat i, e i)))
    (hsorted : sorted.Pairwise fun a b => a.1 ≤ b.1) :
    sorted = List.ofFn fun i => (UInt64.ofNat i, e i) := by
  have hplace (i : Fin n) : (UInt64.ofNat i).toNat = i :=
    UInt64.toNat_ofNat_of_lt' (i.isLt.trans hn)
  refine List.Perm.eq_of_pairwise ?_ hsorted ?_ hperm
  · -- Two results with one place are the same.
    intro a b ha hb hab hba
    obtain ⟨i, rfl⟩ := List.mem_ofFn.1 (hperm.mem_iff.1 ha)
    obtain ⟨j, rfl⟩ := List.mem_ofFn.1 hb
    rw [UInt64.le_iff_toNat_le, hplace, hplace] at hab hba
    rw [Fin.ext (le_antisymm hab hba)]
  · refine List.pairwise_ofFn.2 fun i j hij => ?_
    rw [UInt64.le_iff_toNat_le, hplace, hplace]
    exact hij.le

/-- The results are those of the elements in order. -/
theorem run_eq_ofFn (hn : n < Word.bound) (workers : UInt64)
    (he : ∀ i : Fin n, element (UInt64.ofNat i) = some (e i)) :
    run (UInt64.ofNat n) workers element = List.ofFn e := by
  have hperm := computed_perm hn (clampWorkers_ne_zero workers (UInt64.ofNat n)) he
  have hsorted (l : List (UInt64 × γ)) :
      (l.mergeSort fun a b => a.1 ≤ b.1).Pairwise fun a b => a.1 ≤ b.1 := by
    refine (List.pairwise_mergeSort ?_ ?_ l).imp of_decide_eq_true
    · intro a b c hab hbc
      exact decide_eq_true (UInt64.le_trans (of_decide_eq_true hab) (of_decide_eq_true hbc))
    · intro a b
      simpa using UInt64.le_total a.1 b.1
  rw [run, eq_of_sorted hn ((List.mergeSort_perm _ _).trans hperm) (hsorted _), List.map_ofFn]
  rfl

end Order

/-! ## Rows and columns -/

/-- A list of the places of a grid is the list of its rows. -/
theorem ofFn_rows {m k : Nat} (e : Fin (m * k) → γ) :
    List.ofFn e = (List.ofFn fun row => List.ofFn fun col => e (row.mkDivMod col)).flatten := by
  rw [List.ofFn_mul]
  refine congrArg List.flatten (congrArg List.ofFn (funext fun row => congrArg List.ofFn
    (funext fun col => congrArg e (Fin.ext ?_))))
  exact congrArg (· + col.val) (Nat.mul_comm row k)

section Sides

variable {vertical : List α} {horizontal : List β}
  (hsides : vertical.length * horizontal.length < Word.bound)
include hsides

/-- The number of elements is a word. -/
theorem mul_length :
    Word.mul (UInt64.ofNat vertical.length) (UInt64.ofNat horizontal.length) =
      .ok (UInt64.ofNat (vertical.length * horizontal.length)) := by
  have hle : (UInt64.ofNat vertical.length).toNat * (UInt64.ofNat horizontal.length).toNat ≤
      vertical.length * horizontal.length := by
    rw [UInt64.toNat_ofNat', UInt64.toNat_ofNat']
    exact Nat.mul_le_mul (Nat.mod_le _ _) (Nat.mod_le _ _)
  rw [Word.mul, if_pos (hle.trans_lt hsides), UInt64.ofNat_mul]

/-- Where there is an element, the horizontal side has a length that is a word and not zero, and the
row and the column of the element are its quotient and its remainder, each within its side. -/
theorem place_of_fin (i : Fin (vertical.length * horizontal.length)) :
    UInt64.ofNat horizontal.length ≠ 0 ∧
      UInt64.ofNat i / UInt64.ofNat horizontal.length = UInt64.ofNat i.divNat ∧
      UInt64.ofNat i % UInt64.ofNat horizontal.length = UInt64.ofNat i.modNat ∧
      (UInt64.ofNat i.divNat).toNat = i.divNat ∧ (UInt64.ofNat i.modNat).toNat = i.modNat := by
  have hword {k : Nat} (hk : k ≤ vertical.length * horizontal.length) :
      (UInt64.ofNat k).toNat = k :=
    UInt64.toNat_ofNat_of_lt' (hk.trans_lt hsides)
  have hrows : 0 < vertical.length := i.divNat.pos
  have hcols : 0 < horizontal.length := i.modNat.pos
  have hi : (UInt64.ofNat i).toNat = i := hword i.isLt.le
  have hlength : (UInt64.ofNat horizontal.length).toNat = horizontal.length :=
    hword (Nat.le_mul_of_pos_left _ hrows)
  have hrow : (UInt64.ofNat i.divNat).toNat = i.divNat :=
    hword (i.divNat.isLt.le.trans (Nat.le_mul_of_pos_right _ hcols))
  have hcol : (UInt64.ofNat i.modNat).toNat = i.modNat :=
    hword (i.modNat.isLt.le.trans (Nat.le_mul_of_pos_left _ hrows))
  refine ⟨?_, ?_, ?_, hrow, hcol⟩
  · intro hzero
    rw [hzero] at hlength
    exact hcols.ne hlength
  · rw [← UInt64.toNat_inj, UInt64.toNat_div, hi, hlength, hrow, Fin.coe_divNat]
  · rw [← UInt64.toNat_inj, UInt64.toNat_mod, hi, hlength, hcol, Fin.coe_modNat]

/-- Elements that depend on their rows and columns come row by row. -/
theorem run_pairs (workers : UInt64) {element : UInt64 → Option γ} {f : GridIndex → α → β → γ}
    (he : ∀ i : Fin (vertical.length * horizontal.length), element (UInt64.ofNat i) =
      some (f ⟨UInt64.ofNat i.divNat, UInt64.ofNat i.modNat⟩ (vertical.get i.divNat)
        (horizontal.get i.modNat))) :
    run (UInt64.ofNat (vertical.length * horizontal.length)) workers element =
      (vertical.mapIdx fun row v => horizontal.mapIdx fun col h =>
        f ⟨UInt64.ofNat row, UInt64.ofNat col⟩ v h).flatten := by
  rw [run_eq_ofFn hsides workers he, ofFn_rows]
  simp only [Fin.divNat_mkDivMod, Fin.modNat_mkDivMod, List.mapIdx_eq_ofFn]

/-- The results on every pair and its position come row by row. -/
theorem mapPairsIndexed_eq (workers : UInt64) (f : GridIndex → α → β → γ) :
    mapPairsIndexed vertical horizontal workers f =
      .ok (vertical.mapIdx fun row v => horizontal.mapIdx fun col h =>
        f ⟨UInt64.ofNat row, UInt64.ofNat col⟩ v h).flatten := by
  rw [mapPairsIndexed, mul_length hsides]
  refine congrArg Except.ok (run_pairs hsides workers fun i => ?_)
  obtain ⟨hzero, hdiv, hmod, hrow, hcol⟩ := place_of_fin hsides i
  have hlocate : GridIndex.locate 0 (UInt64.ofNat i) (UInt64.ofNat horizontal.length) =
      .ok (some ⟨UInt64.ofNat i.divNat, UInt64.ofNat i.modNat⟩) := by
    have hword : (0 : UInt64).toNat + (UInt64.ofNat i).toNat < Word.bound := by
      simpa using (UInt64.ofNat i).toNat_lt
    rw [GridIndex.locate, Word.add, if_pos hword, UInt64.zero_add, ← hdiv, ← hmod]
    simp only [Except.map, if_neg hzero]
  simp only [hlocate, hrow, hcol, List.getElem?_eq_getElem (Fin.isLt _)]
  rfl

/-- The results on every pair come row by row. -/
theorem mapPairs_eq (workers : UInt64) (f : α → β → γ) :
    mapPairs vertical horizontal workers f =
      .ok (vertical.flatMap fun v => horizontal.map (f v)) := by
  have hrows : (vertical.flatMap fun v => horizontal.map (f v)) =
      (vertical.mapIdx fun _ v => horizontal.mapIdx fun _ h => f v h).flatten := by
    rw [List.flatMap_def, ← List.ofFn_getElem_eq_map vertical fun v => horizontal.map (f v)]
    simp only [List.mapIdx_eq_ofFn, List.get_eq_getElem, List.ofFn_getElem_eq_map]
  rw [mapPairs, mul_length hsides, hrows]
  refine congrArg Except.ok (run_pairs (f := fun _ => f) hsides workers fun i => ?_)
  obtain ⟨-, hdiv, hmod, hrow, hcol⟩ := place_of_fin hsides i
  simp only [hdiv, hmod, hrow, hcol, List.getElem?_eq_getElem (Fin.isLt _)]
  rfl

/-- Every place that a worker visits has a row and a column within the two sides. -/
theorem inRange_of_mem_visits {workers i : UInt64} (hworkers : workers ≠ 0)
    (hi : i ∈ GridStride.visits workers (UInt64.ofNat (vertical.length * horizontal.length))) :
    UInt64.ofNat horizontal.length ≠ 0 ∧
      (i / UInt64.ofNat horizontal.length).toNat < vertical.length ∧
      (i % UInt64.ofNat horizontal.length).toNat < horizontal.length := by
  rw [GridStride.mem_visits_iff hworkers, UInt64.lt_iff_toNat_lt,
    UInt64.toNat_ofNat_of_lt' hsides] at hi
  obtain ⟨hzero, hdiv, hmod, hrow, hcol⟩ := place_of_fin hsides ⟨i.toNat, hi⟩
  rw [UInt64.ofNat_toNat] at hdiv hmod
  refine ⟨hzero, ?_, ?_⟩
  · rw [hdiv, hrow]
    exact Fin.isLt _
  · rw [hmod, hcol]
    exact Fin.isLt _

/-- The place of a pair is a pair of words. -/
theorem toNat_place {row col : Nat} (hrow : row < vertical.length)
    (hcol : col < horizontal.length) :
    (UInt64.ofNat row).toNat = row ∧ (UInt64.ofNat col).toNat = col := by
  have hplace := (place_of_fin hsides (Fin.mkDivMod ⟨row, hrow⟩ ⟨col, hcol⟩)).2.2.2
  rwa [Fin.divNat_mkDivMod, Fin.modNat_mkDivMod] at hplace

end Sides

/-- Two sides of which the pairs can be counted in a word, and any number of workers. The results
come row by row, one for each pair, and a function that is told the position is told the row and the
column of its pair. Every worker finds what it looks up: the rows have a width, and the row and the
column of each place that is visited are within the two sides. -/
theorem mapPairs_rowMajor {δ : Type} (vertical : List α) (horizontal : List β)
    (hsides : vertical.length * horizontal.length < 2 ^ 64) (workers : UInt64) (f : α → β → γ)
    (fAt : GridIndex → α → β → δ) :
    (∃ results, mapPairs vertical horizontal workers f = .ok results ∧
      results = (vertical.flatMap fun v => horizontal.map (f v)) ∧
      results.length = vertical.length * horizontal.length) ∧
    (∃ results, mapPairsIndexed vertical horizontal workers fAt = .ok results ∧
      results = (vertical.mapIdx fun row v => horizontal.mapIdx fun col h =>
        fAt ⟨UInt64.ofNat row, UInt64.ofNat col⟩ v h).flatten ∧
      results.length = vertical.length * horizontal.length) ∧
    (∀ row < vertical.length, ∀ col < horizontal.length,
      (UInt64.ofNat row).toNat = row ∧ (UInt64.ofNat col).toNat = col) ∧
    let n := UInt64.ofNat (vertical.length * horizontal.length)
    clampWorkers workers n ≠ 0 ∧
    ∀ i ∈ GridStride.visits (clampWorkers workers n) n,
      UInt64.ofNat horizontal.length ≠ 0 ∧
      (i / UInt64.ofNat horizontal.length).toNat < vertical.length ∧
      (i % UInt64.ofNat horizontal.length).toNat < horizontal.length := by
  refine ⟨⟨_, mapPairs_eq hsides workers f, rfl, ?_⟩,
    ⟨_, mapPairsIndexed_eq hsides workers fAt, rfl, ?_⟩,
    fun row hrow col hcol => toNat_place hsides hrow hcol, clampWorkers_ne_zero workers _,
    fun i hi => inRange_of_mem_visits hsides (clampWorkers_ne_zero workers _) hi⟩
  · simp
  · simp [List.length_flatten, List.mapIdx_eq_ofFn, Function.comp_def, List.ofFn_const]

/-- No worker is asked for, and as many as there are words. -/
theorem mapPairs_rowMajor_sample :
    mapPairs ["a", "b"] ["x", "y", "z"] 0 (· ++ ·) =
      .ok ["ax", "ay", "az", "bx", "by", "bz"] ∧
    mapPairsIndexed ["a", "b"] ["x", "y"] (UInt64.ofNat (Word.bound - 1))
        (fun i v h => (i.row, i.col, v ++ h)) =
      .ok [(0, 0, "ax"), (0, 1, "ay"), (1, 0, "bx"), (1, 1, "by")] := by
  obtain ⟨⟨results, hresults, rfl, -⟩, -⟩ := mapPairs_rowMajor ["a", "b"] ["x", "y", "z"]
    (by decide) 0 (· ++ ·) fun _ v _ => v
  obtain ⟨-, ⟨results, hindexed, rfl, -⟩, -⟩ := mapPairs_rowMajor ["a", "b"] ["x", "y"]
    (by decide) (UInt64.ofNat (Word.bound - 1)) (fun v _ => v) fun i v h => (i.row, i.col, v ++ h)
  exact ⟨hresults.trans (by decide), hindexed.trans (by decide)⟩

end KernelGen.CrossProduct
