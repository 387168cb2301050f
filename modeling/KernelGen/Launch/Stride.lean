import KernelGen.Word

/-!
# Strided walks and positions

Each of several workers visits every so many elements: it starts at its own number and goes on by
the number of workers. From the place in the walk follows the position that a user function is
told.
-/

namespace KernelGen

/-- What is left of a worker's walk over `[0, n)`. -/
structure GridStride where
  /-- The next element. -/
  next : UInt64
  /-- The number of workers. -/
  stride : UInt64
  /-- The number of elements. -/
  n : UInt64
  deriving DecidableEq, Repr

namespace GridStride

/-- The walk of a worker. Without workers there is nothing to visit. -/
def start (worker workers n : UInt64) : GridStride :=
  ⟨if workers = 0 then n else worker, workers, n⟩

/-- The next element and the walk after it. -/
def next? (g : GridStride) : Option (UInt64 × GridStride) :=
  if g.next < g.n then some (g.next, { g with next := Word.saturatingAdd g.next g.stride })
  else none

/-- The number of elements still to come. -/
def size (g : GridStride) : UInt64 :=
  if g.next < g.n then (g.n - g.next - 1) / g.stride + 1 else 0

/-- The next `k` elements, or as many as there are, and the walk after them. -/
def take : Nat → GridStride → List UInt64 × GridStride
  | 0, g => ([], g)
  | k + 1, g =>
    match g.next? with
    | none => ([], g)
    | some (i, g) =>
      let (is, g) := take k g
      (i :: is, g)

/-- All elements still to come. -/
def items (g : GridStride) : List UInt64 :=
  (take g.size.toNat g).1

end GridStride

/-- The position of an element as one number. -/
def linearIndex (base i : UInt64) : Except Abort UInt64 :=
  Word.add base i

/-- The position of an element as row and column. -/
structure GridIndex where
  /-- The row. -/
  row : UInt64
  /-- The column. -/
  col : UInt64
  deriving DecidableEq, Repr

/-- The position of an element in rows of width `w`; there is none in rows of width zero. -/
def GridIndex.locate (base i w : UInt64) : Except Abort (Option GridIndex) :=
  (Word.add base i).map fun k => if w = 0 then none else some ⟨k / w, k % w⟩

end KernelGen
