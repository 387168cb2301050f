import KernelGen.Proofs.CallOrder
import KernelGen.Proofs.KernelText
import KernelGen.Proofs.TypeOrder

/-!
# Metadata that agree on what a function reaches

Lowering a function looks at its callees, at the types that it needs and at the constants, and at
nothing else. Here two graphs are compared. Where they agree on the functions that a walk over the
calls lists, the walk takes the same course in both.

* `MetadataGraph.SameCalls`: calls mean functions of one unique name in two graphs, and the same
  functions where a condition holds.
* `MetadataGraph.visitCalls_of_sameCalls`, `MetadataGraph.callees_of_sameCalls`: a walk that lists
  only functions of that kind is the same in both graphs.
* `MetadataGraph.typesFor_congr`: the types of a function depend on the stored types and on its
  callees.
* `Artifact.lower_congr`: what lowering depends on.
-/

namespace KernelGen

namespace MetadataGraph

variable {g g' : MetadataGraph} {path rest : List String} {call : String}
  {f callee : UserFunction} {w w₁ : CallWalk}

/-! ## Callees -/

/-- A call that means no user function is passed over. -/
theorem visitCalls_of_none (h : g.resolveCall? call = none) :
    g.visitCalls path (call :: rest) w = g.visitCalls path rest w := by
  rw [visitCalls]
  split
  · rfl
  · next hsome =>
    rw [h] at hsome
    cases hsome

/-- A name that was met before is passed over, if it does not lead back to the chain. -/
theorem visitCalls_of_seen (h : g.resolveCall? call = some callee)
    (hpath : callee.uniqueName ∉ path) (hseen : call ∈ w.seen) :
    g.visitCalls path (call :: rest) w = g.visitCalls path rest w := by
  rw [visitCalls]
  split
  · rfl
  · next hsome =>
    obtain rfl := Option.some.inj (h.symm.trans hsome)
    rw [dif_neg hpath, if_pos hseen]

/-- A new name is listed when the calls of its function are worked off. -/
theorem visitCalls_of_new (h : g.resolveCall? call = some callee)
    (hpath : callee.uniqueName ∉ path) (hseen : call ∉ w.seen)
    (hcallee : g.visitCalls (callee.uniqueName :: path) callee.calls
      { w with seen := call :: w.seen } = .ok w₁) :
    g.visitCalls path (call :: rest) w =
      g.visitCalls path rest { w₁ with found := w₁.found ++ [⟨call, callee⟩] } := by
  rw [visitCalls]
  split
  · next hnone =>
    rw [h] at hnone
    cases hnone
  · next hsome =>
    obtain rfl := Option.some.inj (h.symm.trans hsome)
    rw [dif_neg hpath, if_neg hseen, hcallee]

/-- A walk only adds to what it has found. -/
theorem found_prefix_of_visitCalls {calls : List String} {w' : CallWalk}
    (h : g.visitCalls path calls w = .ok w') : w.found <+: w'.found := by
  fun_induction visitCalls g path calls w generalizing w' with
  | case1 path w =>
    obtain rfl := Except.ok.inj h
    exact List.prefix_rfl
  | case2 path w call rest hnone ih => exact ih h
  | case3 => cases h
  | case4 path w call rest callee hcall hpath hseen ih => exact ih h
  | case5 => cases h
  | case6 path w call rest callee hcall hpath hseen w₁ hw₁ ihcallee ihrest =>
    exact (ihcallee hw₁).trans ((List.prefix_append _ _).trans (ihrest h))

/-- In two graphs every call means functions of one unique name, if it means any, and the same
function if that satisfies `P`. -/
def SameCalls (P : UserFunction → Prop) (g g' : MetadataGraph) : Prop :=
  ∀ call, Option.Rel (fun k k' => k'.uniqueName = k.uniqueName ∧ (P k → k' = k))
    (g.resolveCall? call) (g'.resolveCall? call)

section SameCalls

variable {P : UserFunction → Prop}

/-- A call that means nothing in one graph means nothing in the other. -/
theorem SameCalls.eq_none (h : SameCalls P g g') (hcall : g.resolveCall? call = none) :
    g'.resolveCall? call = none := by
  have hrel := h call
  rw [hcall] at hrel
  generalize g'.resolveCall? call = found at hrel
  cases hrel
  rfl

/-- A call that means a function in one graph means one of its unique name in the other. -/
theorem SameCalls.eq_some (h : SameCalls P g g') (hcall : g.resolveCall? call = some callee) :
    ∃ callee', g'.resolveCall? call = some callee' ∧ callee'.uniqueName = callee.uniqueName ∧
      (P callee → callee' = callee) := by
  have hrel := h call
  rw [hcall] at hrel
  generalize g'.resolveCall? call = found at hrel
  cases hrel with
  | some hk => exact ⟨_, rfl, hk⟩

/-- A walk that lists only functions with `P` is the same in both graphs. A name that was met before
may mean another function, whose calls are not worked off then. -/
theorem visitCalls_of_sameCalls (hsame : SameCalls P g g') {calls : List String} {w' : CallWalk}
    (h : g.visitCalls path calls w = .ok w') (hfound : ∀ c ∈ w'.found, P c.function) :
    g'.visitCalls path calls w = .ok w' := by
  fun_induction visitCalls g path calls w generalizing w' with
  | case1 path w =>
    rw [visitCalls]
    exact h
  | case2 path w call rest hnone ih =>
    rw [visitCalls_of_none (hsame.eq_none hnone)]
    exact ih h hfound
  | case3 => cases h
  | case4 path w call rest callee hcall hpath hseen ih =>
    -- The chain is kept by unique names, so it does not matter which function of that name it is.
    obtain ⟨callee', hcall', hname, -⟩ := hsame.eq_some hcall
    rw [visitCalls_of_seen hcall' (hname ▸ hpath) hseen]
    exact ih h hfound
  | case5 => cases h
  | case6 path w call rest callee hcall hpath hseen w₁ hw₁ ihcallee ihrest =>
    -- The function is listed in the end, so it is one with `P` and the same in both graphs.
    have hlisted := (found_prefix_of_visitCalls h).subset
    obtain ⟨callee', hcall', -, heq⟩ := hsame.eq_some hcall
    obtain rfl := heq (hfound ⟨call, callee⟩ (hlisted (by simp)))
    have hcallee := ihcallee hw₁ fun c hc => hfound c (hlisted (List.mem_append_left _ hc))
    rw [visitCalls_of_new hcall' hpath hseen hcallee]
    exact ihrest h hfound

/-- Callees with `P` are the same in both graphs. -/
theorem callees_of_sameCalls (hsame : SameCalls P g g') {list : List Callee}
    (h : g.callees f = .ok list) (hlist : ∀ c ∈ list, P c.function) :
    g'.callees f = .ok list := by
  unfold callees at h ⊢
  cases hwalk : g.visitCalls [f.uniqueName] f.calls {} with
  | error e => simp [hwalk] at h
  | ok w =>
    obtain rfl : w.found = list := by simpa [hwalk] using h
    rw [visitCalls_of_sameCalls hsame hwalk hlist]

end SameCalls

/-! ## Types -/

/-- The types of a graph without all else. -/
abbrev typesOnly (g : MetadataGraph) : MetadataGraph where
  functions := []
  types := g.types
  functions_nodup := List.nodup_nil
  types_nodup := g.types_nodup

theorem typeSlots_typesOnly (g : MetadataGraph) (owner : String) (names : List String) :
    g.typesOnly.typeSlots owner names = g.typeSlots owner names := by
  induction names with
  | nil => rfl
  | cons name names ih =>
    have hslot : g.typesOnly.typeSlot? name = g.typeSlot? name := rfl
    rw [typeSlots, typeSlots, ih, hslot]
    cases g.typeSlot? name <;> rfl

theorem dependencySlots_typesOnly (g : MetadataGraph) (ts : List UserType) :
    g.typesOnly.dependencySlots ts = g.dependencySlots ts := by
  induction ts with
  | nil => rfl
  | cons t ts ih =>
    rw [dependencySlots, dependencySlots, ih, typeSlots_typesOnly]
    cases g.typeSlots t.name t.dependsOn <;> rfl

/-- The places of the types that functions refer to depend on the types only. -/
theorem referencedSlots_typesOnly (g : MetadataGraph) (fs : List UserFunction) :
    g.typesOnly.referencedSlots fs = g.referencedSlots fs := by
  induction fs with
  | nil => rfl
  | cons f fs ih =>
    rw [referencedSlots, referencedSlots, ih, typeSlots_typesOnly]
    cases g.typeSlots f.uniqueName f.referencedTypes <;> rfl

/-- The graph of types does not depend on anything but the types. -/
theorem typeGraph_typesOnly (g : MetadataGraph) : g.typesOnly.typeGraph = g.typeGraph := by
  have hslots : g.typesOnly.dependencySlots g.typesOnly.types = g.dependencySlots g.types :=
    dependencySlots_typesOnly g g.types
  unfold typeGraph
  rw [hslots]
  cases g.dependencySlots g.types with
  | error e => rfl
  | ok slots =>
    dsimp only
    cases Digraph.cycle? (n := g.types.length) ⟨fun v => slots.getD v []⟩ <;> rfl

/-- The types of a function depend on the stored types and on its callees. -/
theorem typesFor_congr (htypes : g'.types = g.types) (hcallees : g'.callees f = g.callees f) :
    g'.typesFor f = g.typesFor f := by
  obtain ⟨fs, types, cs, is, hfs, hnodup⟩ := g
  obtain ⟨fs', types', cs', is', hfs', hnodup'⟩ := g'
  -- The places are numbers below the length of the list, so the lists are made one first.
  obtain rfl : types' = types := htypes
  have hgraph : typeGraph ⟨fs', types', cs', is', hfs', hnodup'⟩ =
      typeGraph ⟨fs, types', cs, is, hfs, hnodup⟩ :=
    (typeGraph_typesOnly _).symm.trans (typeGraph_typesOnly ⟨fs, types', cs, is, hfs, hnodup⟩)
  have hslots (ks : List UserFunction) :
      referencedSlots ⟨fs', types', cs', is', hfs', hnodup'⟩ ks =
        referencedSlots ⟨fs, types', cs, is, hfs, hnodup⟩ ks :=
    (referencedSlots_typesOnly _ ks).symm.trans
      (referencedSlots_typesOnly ⟨fs, types', cs, is, hfs, hnodup⟩ ks)
  unfold typesFor
  rw [hgraph, hcallees]
  cases typeGraph ⟨fs, types', cs, is, hfs, hnodup⟩ with
  | error e => rfl
  | ok d =>
    cases callees ⟨fs, types', cs, is, hfs, hnodup⟩ f with
    | error e => rfl
    | ok list =>
      dsimp only
      rw [hslots]
      cases referencedSlots ⟨fs, types', cs, is, hfs, hnodup⟩ (f :: list.map (·.function)) <;> rfl

end MetadataGraph

/-! ## Lowering -/

/-- The kernel source of a function depends on its callees, its types and the constants. -/
theorem KernelSource.text_congr {g g' : MetadataGraph} {f : UserFunction}
    (hcallees : g'.callees f = g.callees f) (htypes : g'.typesFor f = g.typesFor f)
    (hconstants : g'.constants = g.constants) (kernel : String) (preserveLines : Bool) :
    text g' f kernel preserveLines = text g f kernel preserveLines := by
  unfold text
  rw [render_kernelTemplate]
  simp only [preamble, hcallees, htypes, hconstants]

/-- Lowering depends on the callees of the function, its types and the constants. -/
theorem Artifact.lower_congr {g g' : MetadataGraph} {r : LoweringRequest}
    (hcallees : g'.callees r.function = g.callees r.function)
    (htypes : g'.typesFor r.function = g.typesFor r.function)
    (hconstants : g'.constants = g.constants) : lower g' r = lower g r := by
  have htext := KernelSource.text_congr hcallees htypes hconstants r.names.kernel r.preserveLines
  have hpairs : ofPairs g' r = ofPairs g r := by rw [ofPairs_eq, ofPairs_eq, htext]
  unfold lower
  rw [hpairs]

end KernelGen
