import KernelGen.Launch.Stride

/-!
# Cross products on the host

The result that a kernel computes, computed here: every pair of a vertical and a horizontal element,
row by row. The elements are shared out among workers, and their results are put back in order.
-/

namespace KernelGen.CrossProduct

/-- The number of workers that is used when some are asked for: at least one, and none that would
have nothing to do. -/
def clampWorkers (workers n : UInt64) : UInt64 :=
  let most := if n = 0 then 1 else n
  if workers = 0 then 1 else if most < workers then most else workers

/-- What the workers compute, worker by worker, each result with its place. -/
def computed {γ : Type} (n workers : UInt64) (element : UInt64 → Option γ) :
    List (UInt64 × γ) :=
  (List.range workers.toNat).flatMap fun worker =>
    (GridStride.start (UInt64.ofNat worker) workers n).items.filterMap fun i =>
      (element i).map fun r => (i, r)

/-- The results of `n` elements, in order. -/
def run {γ : Type} (n workers : UInt64) (element : UInt64 → Option γ) : List γ :=
  ((computed n (clampWorkers workers n) element).mergeSort fun a b => a.1 ≤ b.1).map (·.2)

/-- The results of a function on every pair, row by row. -/
def mapPairs {α β γ : Type} (vertical : List α) (horizontal : List β) (workers : UInt64)
    (f : α → β → γ) : Except Abort (List γ) :=
  let hsize := UInt64.ofNat horizontal.length
  (Word.mul (UInt64.ofNat vertical.length) hsize).map fun n =>
    run n workers fun i =>
      match vertical[(i / hsize).toNat]?, horizontal[(i % hsize).toNat]? with
      | some v, some h => some (f v h)
      | _, _ => none

/-- The results of a function on every pair and its position, row by row. -/
def mapPairsIndexed {α β γ : Type} (vertical : List α) (horizontal : List β) (workers : UInt64)
    (f : GridIndex → α → β → γ) : Except Abort (List γ) :=
  let hsize := UInt64.ofNat horizontal.length
  (Word.mul (UInt64.ofNat vertical.length) hsize).map fun n =>
    run n workers fun i =>
      match GridIndex.locate 0 i hsize with
      | .ok (some index) =>
        match vertical[index.row.toNat]?, horizontal[index.col.toNat]? with
        | some v, some h => some (f index v h)
        | _, _ => none
      | _ => none

end KernelGen.CrossProduct
