import KernelGen.Proofs.Agreement
import KernelGen.Proofs.DefinitionOrder
import KernelGen.Proofs.Generation

/-!
# Locality of lowering

A function is edited: another one of the same unique name and the same plain name takes its place.
Every call then means what it meant before, up to the edited function itself. So the kernels of all
functions that do not lead to it stay as they are, and so do their errors.

* `MetadataGraph.Edits`: two graphs that differ in one function.
* `MetadataGraph.Edits.sameCalls`: what a call means before and after the edit.
* `MetadataGraph.Edits.bind_eq`, `MetadataGraph.Edits.lower_eq`: binding and lowering after the
  edit.
-/

namespace KernelGen

namespace MetadataGraph

variable {g g' : MetadataGraph} {k k' : UserFunction} {i : Instantiation}

/-- In one graph a function stands in the place of another of the same names. The types, the
constants and the other functions are the same, and the instantiations may be others. -/
structure Edits (g g' : MetadataGraph) (k k' : UserFunction) : Prop where
  /-- The types stay. -/
  types : g'.types = g.types
  /-- The constants stay. -/
  constants : g'.constants = g.constants
  /-- One function is replaced in its place. -/
  functions : ∃ front back, g.functions = front ++ k :: back ∧ g'.functions = front ++ k' :: back
  /-- It keeps its unique name. -/
  uniqueName : k'.uniqueName = k.uniqueName
  /-- It keeps its plain name. -/
  name : k'.name = k.name

namespace Edits

variable (h : g.Edits g' k k')
include h

/-- Each function matches the one in its place. -/
theorem forall₂_functions :
    List.Forall₂ (fun a a' => a' = a ∨ a = k ∧ a' = k') g.functions g'.functions := by
  obtain ⟨front, back, hg, hg'⟩ := h.functions
  have hsame (l : List UserFunction) : List.Forall₂ (fun a a' => a' = a ∨ a = k ∧ a' = k') l l :=
    List.forall₂_same.2 fun _ _ => .inl rfl
  rw [hg, hg']
  exact List.rel_append (hsame front) (.cons (.inr ⟨rfl, rfl⟩) (hsame back))

theorem uniqueName_eq (a a' : UserFunction) (ha : a' = a ∨ a = k ∧ a' = k') :
    a'.uniqueName = a.uniqueName := by
  rcases ha with rfl | ⟨rfl, rfl⟩
  · rfl
  · exact h.uniqueName

theorem name_eq (a a' : UserFunction) (ha : a' = a ∨ a = k ∧ a' = k') : a'.name = a.name := by
  rcases ha with rfl | ⟨rfl, rfl⟩
  · rfl
  · exact h.name

/-- A call means the same function as before, unless it means the edited one. -/
theorem sameCalls : SameCalls (· ≠ k) g g' := by
  intro call
  have hrel := rel_resolveCall? h.uniqueName_eq h.forall₂_functions h.name_eq call
  generalize g.resolveCall? call = found at hrel ⊢
  generalize g'.resolveCall? call = found' at hrel ⊢
  cases hrel with
  | none => exact .none
  | @some a a' ha =>
    exact .some ⟨h.uniqueName_eq a a' ha, fun hne => ha.resolve_right fun hk => hne hk.1⟩

/-- Every other function is found as before. -/
theorem function?_eq {u : String} (hu : u ≠ k.uniqueName) : g'.function? u = g.function? u := by
  have hrel := rel_function? h.uniqueName_eq h.forall₂_functions u
  cases hfind : g.function? u with
  | none =>
    rw [hfind] at hrel
    generalize g'.function? u = found at hrel
    cases hrel
    rfl
  | some a =>
    have hname : a.uniqueName = u := by simpa using List.find?_some hfind
    rw [hfind] at hrel
    generalize g'.function? u = found at hrel
    -- The edited function is not the one that is found, since it has another unique name.
    cases hrel with
    | some hk =>
      rcases hk with rfl | ⟨rfl, -⟩
      · rfl
      · exact absurd hname.symm hu

/-- An instantiation of another function is bound as before. -/
theorem bind_eq (hi : i.function ≠ k.uniqueName) : g'.bind i = g.bind i := by
  unfold MetadataGraph.bind
  rw [h.function?_eq hi]

/-- A function that does not lead to the edited one is lowered as before. -/
theorem lower_eq {r : LoweringRequest} {callees : List Callee}
    (hcallees : g.callees r.function = .ok callees) (hfree : ∀ c ∈ callees, c.function ≠ k) :
    Artifact.lower g' r = Artifact.lower g r := by
  -- The types depend on the edit through the callees only.
  have hsame : g'.callees r.function = g.callees r.function := by
    rw [hcallees, callees_of_sameCalls h.sameCalls hcallees hfree]
  exact Artifact.lower_congr hsame (typesFor_congr h.types hsame) h.constants

end Edits

end MetadataGraph

namespace Generation

/-- An edit stays local. One function is replaced by another of the same unique and plain name, and
an instantiation names a different function, whose callees could be listed and do not have the
edited function among them. Then the instantiation is bound as before, and lowering the bound
function under the same names, for the same directory and with or without lines, gives the same
artifact as before or the same error. -/
theorem lower_unchanged_by_unreached_edit {g g' : MetadataGraph} {k k' : UserFunction}
    (hedit : g.Edits g' k k') {i : Instantiation} (hi : i.function ≠ k.uniqueName)
    (hcallees : ∀ f, g.function? i.function = some f →
      ∃ callees, g.callees f = .ok callees ∧ ∀ c ∈ callees, c.function ≠ k) :
    g'.bind i = g.bind i ∧
    (∀ f, g.bind i = .ok f → ∀ names outputDir preserveLines,
      Artifact.lower g' ⟨i.skeleton, f, i.shape, names, outputDir, preserveLines⟩ =
        Artifact.lower g ⟨i.skeleton, f, i.shape, names, outputDir, preserveLines⟩) ∧
    ∀ (o o' : Options) (names : KernelNames), o'.dir = o.dir → o'.preserveLines = o.preserveLines →
      lowerJob g' o' .openCL ⟨i, names⟩ = lowerJob g o .openCL ⟨i, names⟩ := by
  have hbind := hedit.bind_eq hi
  have hlower : ∀ f, g.bind i = .ok f → ∀ names outputDir preserveLines,
      Artifact.lower g' ⟨i.skeleton, f, i.shape, names, outputDir, preserveLines⟩ =
        Artifact.lower g ⟨i.skeleton, f, i.shape, names, outputDir, preserveLines⟩ := by
    intro f hf names outputDir preserveLines
    obtain ⟨f₀, hf₀, hsame⟩ := MetadataGraph.function?_of_bind hf
    obtain ⟨callees, hlist, hfree⟩ := hcallees f₀ hf₀
    -- The sides of the parameters do not matter to the calls.
    have hlist' : g.callees f = .ok callees := by
      rw [hsame]
      exact hlist
    exact hedit.lower_eq hlist' hfree
  refine ⟨hbind, hlower, fun o o' names hdir hlines => ?_⟩
  unfold lowerJob
  rw [hbind]
  cases hf : g.bind i with
  | error failure => cases failure <;> rfl
  | ok f =>
    have hrequest : Job.request ⟨i, names⟩ o' f = Job.request ⟨i, names⟩ o f := by
      unfold Job.request
      rw [hdir, hlines]
    have hsame : Artifact.lower g' (Job.request ⟨i, names⟩ o f) =
        Artifact.lower g (Job.request ⟨i, names⟩ o f) :=
      hlower f hf names o.dir o.preserveLines
    dsimp only
    rw [hrequest, hsame]

/-- A function that calls the first one of the chain, or another. -/
def sampleSpare (calls : List String) (requiresDouble : Bool) : UserFunction where
  name := "spare"
  uniqueName := "spare_1"
  returnType := "float"
  requiresDouble := requiresDouble
  calls := calls
  body := "return 2;"

/-- The chain of calls with one more function. -/
def sampleSpareChain (calls : List String) (requiresDouble : Bool) : MetadataGraph where
  functions := [sampleSpare calls requiresDouble, sampleChainRequest.function, sampleMid, sampleLow]
  constants := [⟨"N", "int", "4"⟩]
  types := []
  functions_nodup := (by decide : ["spare_1", "top_1", "mid_1", "low_1"].Nodup)
  types_nodup := List.nodup_nil

/-- The function in front of the chain comes to compute in double precision and to call itself, and
the kernel of the chain stays the same. -/
theorem lower_unchanged_by_unreached_edit_sample :
    let i : Instantiation := ⟨.mapPairs, "top_1", 0, 0⟩
    let o : Options := { preserveLines := false }
    ∃ a, lowerJob (sampleSpareChain ["top"] false) o .openCL (.of "prog" i) = .ok a ∧
      lowerJob (sampleSpareChain ["spare_1"] true) o .openCL (.of "prog" i) = .ok a := by
  intro i o
  let g := sampleSpareChain ["top"] false
  have hedit : g.Edits (sampleSpareChain ["spare_1"] true) (sampleSpare ["top"] false)
      (sampleSpare ["spare_1"] true) :=
    ⟨rfl, rfl, ⟨[], _, rfl, rfl⟩, rfl, rfl⟩
  have hfind : g.function? "top_1" = some sampleChainRequest.function := by cbv
  have hbind : g.bind i = .ok sampleChainRequest.function := by cbv
  have hcallees : g.callees sampleChainRequest.function =
      .ok [⟨"low_1", sampleLow⟩, ⟨"mid", sampleMid⟩] := by cbv
  have htypes : g.typesFor sampleChainRequest.function = .ok [] := by cbv
  obtain ⟨-, -, hjob⟩ := lower_unchanged_by_unreached_edit hedit (i := i) (by decide) (by
    intro f hf
    obtain rfl := Option.some.inj (hfind.symm.trans hf)
    exact ⟨_, hcallees, by decide⟩)
  have hlower := Artifact.lower_of_no_quote
    (r := (Job.of "prog" i).request o sampleChainRequest.function) rfl hcallees htypes
    (by decide +kernel)
  have hbefore := lowerJob_of_lower (j := Job.of "prog" i) hbind hlower .openCL
  exact ⟨_, hbefore, (hjob o o (Job.of "prog" i).names rfl rfl).trans hbefore⟩

end Generation

end KernelGen
