/-!
# Sorted lists without repetition

Finite sets whose members are listed in increasing order. Strings are ordered by their code points.
-/

namespace KernelGen

/-- Puts `a` into an increasing list, unless it is there. -/
def insertSorted {α : Type} (lt : α → α → Bool) (a : α) : List α → List α
  | [] => [a]
  | b :: bs =>
    if lt a b then a :: b :: bs
    else if lt b a then b :: insertSorted lt a bs
    else b :: bs

/-- The members of a list in increasing order, each once. -/
def sortDistinct {α : Type} (lt : α → α → Bool) (l : List α) : List α :=
  l.foldr (insertSorted lt) []

namespace Text

/-- The order of strings by code points. -/
def before (a b : String) : Bool :=
  decide (a < b)

/-- The least of some strings. -/
def least? (l : List String) : Option String :=
  (sortDistinct before l).head?

end Text

end KernelGen
