/-!
# Finite directed graphs

Graphs on the vertices `Fin n`, each with an ordered list of outgoing edges, and the three
depth-first walks over them that ordering by dependency needs:

* `postOrder` lists each vertex reached from some roots after all that it leads to;
* `loop?` is a vertex with an edge to itself, if there is one;
* `cycle?` is a vertex that lies on a cycle, if there is one.

A walk keeps a stack of vertices. What it has seen only grows, so every walk ends.
-/

namespace KernelGen

/-- A directed graph on `n` vertices. -/
structure Digraph (n : Nat) where
  /-- The ends of the edges that leave a vertex, in the order in which they were added. -/
  targets : Fin n → List (Fin n)

namespace Digraph

variable {n : Nat}

/-- The ends of the edges that leave a vertex, the newest edge first. -/
def successors (g : Digraph n) (v : Fin n) : List (Fin n) :=
  (g.targets v).reverse

/-- Every edge, numbered by its start and then by its place there. -/
def edges (g : Digraph n) : List (Fin n × Fin n) :=
  (List.finRange n).flatMap fun v => (g.targets v).map fun w => (v, w)

/-- The starts of the edges that enter a vertex, the newest edge first. -/
def predecessors (g : Digraph n) (v : Fin n) : List (Fin n) :=
  ((g.edges.filter (·.2 == v)).map (·.1)).reverse

/-- How many vertices a walk has not seen. -/
def unseen (seen : List (Fin n)) : Nat :=
  ((List.finRange n).filter fun v => !seen.contains v).length

/-- A vertex that is seen for the first time is one less to see. -/
theorem unseen_cons_lt {seen : List (Fin n)} {v : Fin n} (h : ¬ v ∈ seen) :
    unseen (v :: seen) < unseen seen := by
  have split : ((List.finRange n).filter fun x => !(v :: seen).contains x) =
      ((List.finRange n).filter fun x => !seen.contains x).filter fun x => x != v := by
    rw [List.filter_filter]
    congr 1
    funext x
    rw [List.contains_cons, Bool.not_or]
    rfl
  rw [unseen, unseen, split]
  exact List.length_filter_lt_length_iff_exists.2
    ⟨v, List.mem_filter.2 ⟨List.mem_finRange v, by simpa using h⟩, by simp⟩

/-- The state of a walk that lists a vertex when all it leads to has been listed. -/
structure PostWalk (n : Nat) where
  /-- The vertices met so far. -/
  seen : List (Fin n)
  /-- The vertices left for good, the last first. -/
  finished : List (Fin n)

/-- Works off a stack. A vertex on top that is new is marked, and its new successors are put above
it; one that is not new is taken off, and listed the first time that happens. -/
def postWalk (next : Fin n → List (Fin n)) (stack : List (Fin n)) (w : PostWalk n) : PostWalk n :=
  match stack with
  | [] => w
  | v :: rest =>
    if _h : v ∈ w.seen then
      postWalk next rest
        { w with finished := if v ∈ w.finished then w.finished else v :: w.finished }
    else
      let seen := v :: w.seen
      let fresh := (next v).filter fun u => !seen.contains u
      postWalk next (fresh.reverse ++ v :: rest) { w with seen := seen }
termination_by (unseen w.seen, stack.length)
decreasing_by
  · exact Prod.Lex.right _ (by simp)
  · exact Prod.Lex.left _ _ (unseen_cons_lt _h)

/-- A walk that goes on from a root, unless the root was reached before. -/
def rootWalk (g : Digraph n) (w : PostWalk n) (root : Fin n) : PostWalk n :=
  if root ∈ w.seen then w else postWalk g.successors [root] w

/-- The walk from some roots in turn. -/
def rootsWalk (g : Digraph n) (roots : List (Fin n)) : PostWalk n :=
  roots.foldl g.rootWalk ⟨[], []⟩

/-- The vertices reached from some roots, each after all that it leads to. -/
def postOrder (g : Digraph n) (roots : List (Fin n)) : List (Fin n) :=
  (g.rootsWalk roots).finished.reverse

/-- The first vertex with an edge to itself that a walk over the whole graph comes upon. -/
def loop? (g : Digraph n) : Option (Fin n) :=
  (g.rootsWalk (List.finRange n)).seen.reverse.find? fun v => (g.targets v).contains v

/-- Works off a stack and yields each vertex when it is met: the new vertices, the last first, in
front of those seen before. -/
def preWalk (next : Fin n → List (Fin n)) (stack seen : List (Fin n)) : List (Fin n) :=
  match stack with
  | [] => seen
  | v :: rest =>
    if _h : v ∈ seen then preWalk next rest seen
    else
      let seen := v :: seen
      let fresh := (next v).filter fun u => !seen.contains u
      preWalk next (fresh.reverse ++ rest) seen
termination_by (unseen seen, stack.length)
decreasing_by
  · exact Prod.Lex.right _ (by simp)
  · exact Prod.Lex.left _ _ (unseen_cons_lt _h)

/-- Walks backwards from each start in turn, and stops at the second vertex that one start
yields. -/
def secondMet? (g : Digraph n) : List (Fin n) → List (Fin n) → Option (Fin n)
  | [], _ => none
  | r :: starts, seen =>
    let after := preWalk g.predecessors [r] seen
    match (after.take (after.length - seen.length)).reverse with
    | _ :: second :: _ => some second
    | _ => g.secondMet? starts after

/-- A vertex on a cycle, if the graph has one: a vertex with an edge to itself, or one that leads to
a vertex which was left after it. -/
def cycle? (g : Digraph n) : Option (Fin n) :=
  match g.loop? with
  | some v => some v
  | none => g.secondMet? (g.postOrder (List.finRange n)).reverse []

end Digraph

end KernelGen
