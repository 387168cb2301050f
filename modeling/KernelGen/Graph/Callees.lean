import KernelGen.Graph.Basic

/-!
# Callees

The user functions that a function calls, directly or through others, each under the name by which
it is called and after all that it calls itself. A chain of calls that comes back to a function on
it is an error. The functions on a chain are pairwise different stored functions, so every chain
ends.
-/

namespace KernelGen

/-- A user function under the name by which it is called. -/
structure Callee where
  /-- The name in the call. -/
  name : String
  /-- The function it means. -/
  function : UserFunction
  deriving DecidableEq, Repr

namespace MetadataGraph

/-- How many stored functions are not on a chain of calls. -/
def offPath (g : MetadataGraph) (path : List String) : Nat :=
  (g.functions.filter fun f => !path.contains f.uniqueName).length

/-- A chain that grows by a stored function leaves one less to grow by. -/
theorem offPath_cons_lt {g : MetadataGraph} {path : List String} {f : UserFunction}
    (hf : f ∈ g.functions) (hp : ¬ f.uniqueName ∈ path) :
    g.offPath (f.uniqueName :: path) < g.offPath path := by
  have split : (g.functions.filter fun x => !(f.uniqueName :: path).contains x.uniqueName) =
      (g.functions.filter fun x => !path.contains x.uniqueName).filter
        fun x => x.uniqueName != f.uniqueName := by
    rw [List.filter_filter]
    congr 1
    funext x
    rw [List.contains_cons, Bool.not_or]
    rfl
  rw [offPath, offPath, split]
  exact List.length_filter_lt_length_iff_exists.2
    ⟨f, List.mem_filter.2 ⟨hf, by simpa using hp⟩, by simp⟩

/-- What a walk over calls has found. -/
structure CallWalk where
  /-- The call names met so far. -/
  seen : List String := []
  /-- The callees in order. -/
  found : List Callee := []

/-- Works off the calls of the function at the end of a chain. A call that resolves to no user
function is passed over; so is a name met before, unless it leads back to the chain. -/
def visitCalls (g : MetadataGraph) (path calls : List String) (w : CallWalk) :
    Except GenError CallWalk :=
  match calls with
  | [] => .ok w
  | call :: rest =>
    match _h : g.resolveCall? call with
    | none => g.visitCalls path rest w
    | some callee =>
      if _hp : callee.uniqueName ∈ path then .error (.recursiveCall callee.uniqueName)
      else if call ∈ w.seen then g.visitCalls path rest w
      else
        match g.visitCalls (callee.uniqueName :: path) callee.calls
            { w with seen := call :: w.seen } with
        | .error e => .error e
        | .ok w => g.visitCalls path rest { w with found := w.found ++ [⟨call, callee⟩] }
termination_by (g.offPath path, calls.length)
decreasing_by
  · exact Prod.Lex.right _ (by simp)
  · exact Prod.Lex.right _ (by simp)
  · exact Prod.Lex.left _ _ (offPath_cons_lt (mem_of_resolveCall? _h) _hp)
  · exact Prod.Lex.right _ (by simp)

/-- The callees of a function, each after those that it calls itself. -/
def callees (g : MetadataGraph) (f : UserFunction) : Except GenError (List Callee) :=
  match g.visitCalls [f.uniqueName] f.calls {} with
  | .ok w => .ok w.found
  | .error e => .error e

end MetadataGraph

end KernelGen
