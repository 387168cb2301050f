import KernelGen.Graph.Callees
import KernelGen.Proofs.DependencyOrder

/-!
# The order of callees

A function is listed among the callees of another under the name by which it is called, so it may
be listed more than once, while the chain of calls is kept by unique names. The walk over the calls
is specified here for every graph.

* `MetadataGraph.Calls`, `MetadataGraph.OnCycle`: one function calls another, and a function calls
  one of its own unique name in some steps.
* `CallWalk.Sound`: what holds of a walk at every moment.
* `CallWalk.Visited`: what working off some calls adds to a walk. It is built up from what one call
  adds (`Visited.leave`) and from what two parts add together (`Visited.trans`).
* `visitCalls_ok`, `visitCalls_error`: a walk that succeeds has worked off its calls, and one that
  fails has come upon a cycle.
* `callees_eq_error_iff`, `mem_names_callees_iff`: when the callees can be listed, and which they
  are.
* `rel_resolveCall?`: what a call means in a graph whose functions match those of another.

At the end stands what the callees of a stored function are, or the cycle that prevents them.
-/

namespace KernelGen

open Relation (TransGen ReflTransGen)

namespace MetadataGraph

/-- A function calls another if one of its calls means it. -/
def Calls (g : MetadataGraph) (f h : UserFunction) : Prop :=
  ∃ call ∈ f.calls, g.resolveCall? call = some h

/-- A function is on a cycle of calls if it leads to a function of its own unique name. -/
def OnCycle (g : MetadataGraph) (f : UserFunction) : Prop :=
  ∃ h, TransGen g.Calls f h ∧ h.uniqueName = f.uniqueName

/-- A function is stored, its elementwise parameters aside, whose sides a binding chooses. -/
def Stores (g : MetadataGraph) (f : UserFunction) : Prop :=
  ∃ f₀ ∈ g.functions, f = { f₀ with elementwise := f.elementwise }

/-- A listed callee needs what the calls of its function mean, under the names in the calls. -/
def Needs (g : MetadataGraph) (c d : Callee) : Prop :=
  d.name ∈ c.function.calls ∧ g.resolveCall? d.name = some d.function

/-- Stored functions of one unique name are one function. -/
theorem eq_of_uniqueName_eq {g : MetadataGraph} {f h : UserFunction} (hf : f ∈ g.functions)
    (hh : h ∈ g.functions) (heq : f.uniqueName = h.uniqueName) : f = h :=
  List.inj_on_of_nodup_map g.functions_nodup hf hh heq

/-- The unique name of a stored function is resolved to a function of that name. -/
theorem uniqueName_of_resolveCall? {g : MetadataGraph} {f h : UserFunction} (hf : f ∈ g.functions)
    (hh : g.resolveCall? f.uniqueName = some h) : h.uniqueName = f.uniqueName := by
  unfold resolveCall? at hh
  cases hfind : g.function? f.uniqueName with
  | none =>
    have hnone := List.find?_eq_none.1 hfind f hf
    simp at hnone
  | some k =>
    have hk := List.find?_some hfind
    rw [hfind] at hh
    obtain rfl := Option.some.inj hh
    simpa using hk

namespace CallWalk

/-- What holds of a walk while the functions with the unique names on a path are worked off. -/
structure Sound (g : MetadataGraph) (path : List String) (w : CallWalk) : Prop where
  /-- Every name is listed once. -/
  nodup : (w.found.map (·.name)).Nodup
  /-- Every name is listed with what it means. -/
  resolves : ∀ c ∈ w.found, g.resolveCall? c.name = some c.function
  /-- Every callee comes after those that it calls itself. -/
  ordered : DependenciesFirst g.Needs w.found
  /-- Every name that is listed was met. -/
  met : ∀ c ∈ w.found, c.name ∈ w.seen
  /-- Every name that was met is listed, unless it means a function on the path. -/
  settled : ∀ call ∈ w.seen, ∀ h, g.resolveCall? call = some h → h.uniqueName ∉ path →
    ⟨call, h⟩ ∈ w.found

/-- What working off some calls of a function adds to a walk. -/
structure Visited (g : MetadataGraph) (path : List String) (caller : UserFunction)
    (calls : List String) (w w' : CallWalk) (new : List Callee) : Prop where
  /-- The invariant still holds. -/
  sound : w'.Sound g path
  /-- Some callees are added at the end. -/
  found_eq : w'.found = w.found ++ new
  /-- No name is forgotten. -/
  seen_subset : ∀ call ∈ w.seen, call ∈ w'.seen
  /-- Every name that was met on the way is listed. -/
  settled : ∀ call ∈ w'.seen, call ∈ w.seen ∨
    ∀ h, g.resolveCall? call = some h → ⟨call, h⟩ ∈ w'.found
  /-- Every one of the calls is listed. -/
  covered : ∀ call ∈ calls, ∀ h, g.resolveCall? call = some h → ⟨call, h⟩ ∈ w'.found
  /-- The names that are added were not met before. -/
  fresh : ∀ c ∈ new, c.name ∉ w.seen
  /-- The functions that are added are not on the path. -/
  offPath : ∀ c ∈ new, c.function.uniqueName ∉ path
  /-- The names that are added are called by the function or by one that it leads to. -/
  reached : ∀ c ∈ new, ∃ h, ReflTransGen g.Calls caller h ∧ c.name ∈ h.calls

variable {g : MetadataGraph} {path calls rest : List String} {call : String}
  {caller callee : UserFunction} {w w₁ w₂ : CallWalk} {new new₁ new₂ : List Callee}

/-- A call whose function is not on the path is entered with one name more on the path. -/
theorem Sound.enter (hw : w.Sound g path) (hcall : g.resolveCall? call = some callee) :
    CallWalk.Sound g (callee.uniqueName :: path) { w with seen := call :: w.seen } where
  nodup := hw.nodup
  resolves := hw.resolves
  ordered := hw.ordered
  met c hc := List.mem_cons_of_mem _ (hw.met c hc)
  settled name hname h hh hpath := by
    rcases List.mem_cons.1 hname with rfl | hname
    · obtain rfl := Option.some.inj (hcall.symm.trans hh)
      simp at hpath
    · exact hw.settled name hname h hh fun hmem => hpath (List.mem_cons_of_mem _ hmem)

/-- No calls add nothing. -/
theorem Visited.nil (hw : w.Sound g path) : Visited g path caller [] w w [] where
  sound := hw
  found_eq := (List.append_nil _).symm
  seen_subset _ h := h
  settled _ h := .inl h
  covered := by simp
  fresh := by simp
  offPath := by simp
  reached := by simp

/-- A call adds nothing if what it means is listed already. -/
theorem Visited.skip (hw : w.Sound g path)
    (hcall : ∀ h, g.resolveCall? call = some h → ⟨call, h⟩ ∈ w.found) :
    Visited g path caller [call] w w [] where
  __ := Visited.nil hw
  covered name hname := by
    obtain rfl := List.mem_singleton.1 hname
    exact hcall

/-- What two parts of the calls add, one after the other. -/
theorem Visited.trans (h₁ : Visited g path caller calls w w₁ new₁)
    (h₂ : Visited g path caller rest w₁ w₂ new₂) :
    Visited g path caller (calls ++ rest) w w₂ (new₁ ++ new₂) where
  sound := h₂.sound
  found_eq := by rw [h₂.found_eq, h₁.found_eq, List.append_assoc]
  seen_subset name hname := h₂.seen_subset name (h₁.seen_subset name hname)
  settled name hname := by
    rcases h₂.settled name hname with hname | hlisted
    · refine (h₁.settled name hname).imp_right fun hlisted h hh => ?_
      rw [h₂.found_eq]
      exact List.mem_append_left _ (hlisted h hh)
    · exact .inr hlisted
  covered name hname h hh := by
    rcases List.mem_append.1 hname with hname | hname
    · rw [h₂.found_eq]
      exact List.mem_append_left _ (h₁.covered name hname h hh)
    · exact h₂.covered name hname h hh
  fresh c hc := by
    rcases List.mem_append.1 hc with hc | hc
    · exact h₁.fresh c hc
    · exact fun hseen => h₂.fresh c hc (h₁.seen_subset _ hseen)
  offPath c hc := (List.mem_append.1 hc).elim (h₁.offPath c) (h₂.offPath c)
  reached c hc := (List.mem_append.1 hc).elim (h₁.reached c) (h₂.reached c)

section Leave

variable (hvisit : Visited g (callee.uniqueName :: path) callee callee.calls
  { w with seen := call :: w.seen } w₁ new)
include hvisit

/-- A name is met before its function is entered, so nothing on the way lists it. -/
theorem Visited.notMem_found (hw : w.Sound g path) (hseen : call ∉ w.seen) :
    call ∉ w₁.found.map (·.name) := by
  intro hlisted
  obtain ⟨c, hc, hname⟩ := List.mem_map.1 hlisted
  rw [hvisit.found_eq] at hc
  rcases List.mem_append.1 hc with hc | hc
  · exact hseen (hname ▸ hw.met c hc)
  · exact hvisit.fresh c hc (by simp [hname])

/-- With the call itself behind what was found, every name met on the way is listed. -/
theorem Visited.settled_snoc (hcall : g.resolveCall? call = some callee) :
    ∀ name ∈ w₁.seen, name ∈ w.seen ∨
      ∀ h, g.resolveCall? name = some h → ⟨name, h⟩ ∈ w₁.found ++ [⟨call, callee⟩] := by
  intro name hname
  rcases hvisit.settled name hname with hname | hlisted
  · rcases List.mem_cons.1 hname with rfl | hname
    · refine .inr fun h hh => ?_
      obtain rfl := Option.some.inj (hcall.symm.trans hh)
      simp
    · exact .inl hname
  · exact .inr fun h hh => List.mem_append_left _ (hlisted h hh)

/-- The invariant holds for the path without the callee once its call is listed. -/
theorem Visited.sound_snoc (hw : w.Sound g path) (hcall : g.resolveCall? call = some callee)
    (hseen : call ∉ w.seen) :
    CallWalk.Sound g path { w₁ with found := w₁.found ++ [⟨call, callee⟩] } where
  nodup := by
    rw [List.map_append, List.map_singleton]
    refine List.nodup_append.2 ⟨hvisit.sound.nodup, List.nodup_singleton _, ?_⟩
    intro a ha b hb heq
    have hb : b = call := List.mem_singleton.1 hb
    exact hvisit.notMem_found hw hseen (hb ▸ heq ▸ ha)
  resolves := List.forall_mem_append.2
    ⟨hvisit.sound.resolves, List.forall_mem_singleton.2 hcall⟩
  ordered := by
    -- All that the callee calls was listed while it was worked off.
    refine hvisit.sound.ordered.snoc ?_
    rintro ⟨name, h⟩ ⟨hname, hh⟩
    exact hvisit.covered name hname h hh
  met := List.forall_mem_append.2 ⟨hvisit.sound.met,
    List.forall_mem_singleton.2 (hvisit.seen_subset call List.mem_cons_self)⟩
  settled name hname h hh hoff := by
    rcases hvisit.settled_snoc hcall name hname with hname | hlisted
    · -- The name was met before the call, when the path was the same.
      refine List.mem_append_left _ ?_
      rw [hvisit.found_eq]
      exact List.mem_append_left _ (hw.settled name hname h hh hoff)
    · exact hlisted h hh

/-- A call whose function was worked off is listed behind what that added. -/
theorem Visited.leave (hw : w.Sound g path) (hcall : g.resolveCall? call = some callee)
    (hpath : callee.uniqueName ∉ path) (hseen : call ∉ w.seen) (hcaller : call ∈ caller.calls) :
    Visited g path caller [call] w { w₁ with found := w₁.found ++ [⟨call, callee⟩] }
      (new ++ [⟨call, callee⟩]) where
  sound := hvisit.sound_snoc hw hcall hseen
  found_eq := by rw [hvisit.found_eq, List.append_assoc]
  seen_subset name hname := hvisit.seen_subset name (List.mem_cons_of_mem _ hname)
  settled := hvisit.settled_snoc hcall
  covered name hname h hh := by
    obtain rfl := List.mem_singleton.1 hname
    obtain rfl := Option.some.inj (hcall.symm.trans hh)
    simp
  fresh := by
    refine List.forall_mem_append.2 ⟨fun c hc hmet => ?_, List.forall_mem_singleton.2 hseen⟩
    exact hvisit.fresh c hc (List.mem_cons_of_mem _ hmet)
  offPath := by
    refine List.forall_mem_append.2 ⟨fun c hc hmem => ?_, List.forall_mem_singleton.2 hpath⟩
    exact hvisit.offPath c hc (List.mem_cons_of_mem _ hmem)
  reached := by
    refine List.forall_mem_append.2 ⟨fun c hc => ?_, ?_⟩
    · obtain ⟨h, hreach, hname⟩ := hvisit.reached c hc
      exact ⟨h, .head ⟨call, hcaller, hcall⟩ hreach, hname⟩
    · exact List.forall_mem_singleton.2 ⟨caller, .refl, hcaller⟩

end Leave

end CallWalk

/-! ## The walk -/

variable {g : MetadataGraph} {path calls : List String} {f caller : UserFunction}

/-- A walk that succeeds has worked off its calls. -/
theorem visitCalls_ok {w w' : CallWalk} (hcalls : ∀ call ∈ calls, call ∈ caller.calls)
    (hw : w.Sound g path) (h : g.visitCalls path calls w = .ok w') :
    ∃ new, CallWalk.Visited g path caller calls w w' new := by
  -- The caller changes where a call is entered, so the induction is over all callers.
  fun_induction visitCalls g path calls w generalizing w' caller with
  | case1 path w =>
    obtain rfl := Except.ok.inj h
    exact ⟨[], .nil hw⟩
  | case2 path w call rest hnone ih =>
    obtain ⟨new, hrest⟩ := ih (fun name hname => hcalls name (List.mem_cons_of_mem _ hname)) hw h
    exact ⟨_, (CallWalk.Visited.skip hw (by simp [hnone])).trans hrest⟩
  | case3 => cases h
  | case4 path w call rest callee hcall hpath hseen ih =>
    obtain ⟨new, hrest⟩ := ih (fun name hname => hcalls name (List.mem_cons_of_mem _ hname)) hw h
    refine ⟨_, (CallWalk.Visited.skip hw ?_).trans hrest⟩
    intro k hk
    obtain rfl := Option.some.inj (hcall.symm.trans hk)
    -- A name met before is listed, since its function is not on the path.
    exact hw.settled call hseen callee hcall hpath
  | case5 => cases h
  | case6 path w call rest callee hcall hpath hseen w₁ hw₁ ihcallee ihrest =>
    obtain ⟨new₁, hvisit⟩ := ihcallee (fun _ hname => hname) (hw.enter hcall) hw₁
    have hleave := hvisit.leave hw hcall hpath hseen (hcalls call List.mem_cons_self)
    obtain ⟨new₂, hrest⟩ := ihrest (fun name hname => hcalls name (List.mem_cons_of_mem _ hname))
      hleave.sound h
    exact ⟨_, hleave.trans hrest⟩

/-- A walk that fails has come upon a cycle. The names on its path are those of functions on the
way to the caller. -/
theorem visitCalls_error {w : CallWalk} {e : GenError}
    (hcalls : ∀ call ∈ calls, call ∈ caller.calls)
    (hpath : ∀ u ∈ path, ∃ p, p.uniqueName = u ∧ ReflTransGen g.Calls f p ∧
      ReflTransGen g.Calls p caller)
    (hcaller : ReflTransGen g.Calls f caller) (h : g.visitCalls path calls w = .error e) :
    ∃ k, e = .recursiveCall k.uniqueName ∧ ReflTransGen g.Calls f k ∧ g.OnCycle k := by
  fun_induction visitCalls g path calls w generalizing e caller with
  | case1 => cases h
  | case2 path w call rest hnone ih =>
    exact ih (fun name hname => hcalls name (List.mem_cons_of_mem _ hname)) hpath hcaller h
  | case3 path w call rest callee hcall hmem =>
    -- The function of that name on the path leads to the caller, and the caller calls it.
    obtain ⟨p, hname, hp, hpcaller⟩ := hpath _ hmem
    refine ⟨p, ?_, hp, callee, .tail' hpcaller ⟨call, hcalls call List.mem_cons_self, hcall⟩,
      hname.symm⟩
    rw [hname]
    exact (Except.error.inj h).symm
  | case4 path w call rest callee hcall hoff hseen ih =>
    exact ih (fun name hname => hcalls name (List.mem_cons_of_mem _ hname)) hpath hcaller h
  | case5 path w call rest callee hcall hoff hseen e' he' ih =>
    obtain rfl := Except.error.inj h
    have hstep : g.Calls caller callee := ⟨call, hcalls call List.mem_cons_self, hcall⟩
    refine ih (fun _ hname => hname) ?_ (hcaller.tail hstep) he'
    intro u hu
    rcases List.mem_cons.1 hu with rfl | hu
    · exact ⟨callee, rfl, hcaller.tail hstep, .refl⟩
    · obtain ⟨p, hname, hp, hpcaller⟩ := hpath u hu
      exact ⟨p, hname, hp, hpcaller.tail hstep⟩
  | case6 path w call rest callee hcall hoff hseen w₁ hw₁ ihcallee ihrest =>
    exact ihrest (fun name hname => hcalls name (List.mem_cons_of_mem _ hname)) hpath hcaller h

/-! ## The list -/

variable {list : List Callee}

/-- The callees of a function are what working off its calls adds to an empty walk. -/
theorem visited_of_callees (h : g.callees f = .ok list) :
    ∃ w, w.found = list ∧ CallWalk.Visited g [f.uniqueName] f f.calls {} w list := by
  have hempty : CallWalk.Sound g [f.uniqueName] {} :=
    ⟨List.nodup_nil, by simp, .nil, by simp, by simp⟩
  unfold callees at h
  cases hwalk : g.visitCalls [f.uniqueName] f.calls {} with
  | error e => simp [hwalk] at h
  | ok w =>
    obtain ⟨new, hvisit⟩ := visitCalls_ok (fun _ hcall => hcall) hempty hwalk
    have hnew : w.found = new := hvisit.found_eq
    obtain rfl : w.found = list := by simpa [hwalk] using h
    exact ⟨w, rfl, hnew ▸ hvisit⟩

/-- Where the callees cannot be listed, the function leads to a cycle. -/
theorem onCycle_of_callees {e : GenError} (h : g.callees f = .error e) :
    ∃ k, e = .recursiveCall k.uniqueName ∧ ReflTransGen g.Calls f k ∧ g.OnCycle k := by
  unfold callees at h
  cases hwalk : g.visitCalls [f.uniqueName] f.calls {} with
  | ok w => simp [hwalk] at h
  | error e' =>
    obtain rfl : e' = e := by simpa [hwalk] using h
    refine visitCalls_error (fun _ hcall => hcall) ?_ .refl hwalk
    intro u hu
    exact ⟨f, (List.mem_singleton.1 hu).symm, .refl, .refl⟩

/-- Every call of a function that is reached is listed with what it means. -/
theorem mem_callees_of_call (h : g.callees f = .ok list) {k k' : UserFunction} {call : String}
    (hk : ReflTransGen g.Calls f k) (hcall : call ∈ k.calls)
    (hk' : g.resolveCall? call = some k') : ⟨call, k'⟩ ∈ list := by
  obtain ⟨w, rfl, hvisit⟩ := visited_of_callees h
  -- Each function on the way is listed, and its calls stand in front of it.
  induction hk generalizing call k' with
  | refl => exact hvisit.covered call hcall k' hk'
  | @tail p q _ hpq ih =>
    obtain ⟨name, hname, hq⟩ := hpq
    exact hvisit.sound.ordered.mem_of_mem (ih hname hq) (.single ⟨hcall, hk'⟩)

/-- The functions that are listed are those that a function leads to in some steps. -/
theorem exists_mem_callees_iff (h : g.callees f = .ok list) {k : UserFunction} :
    (∃ c ∈ list, c.function = k) ↔ TransGen g.Calls f k := by
  constructor
  · rintro ⟨c, hc, rfl⟩
    obtain ⟨w, rfl, hvisit⟩ := visited_of_callees h
    obtain ⟨p, hp, hname⟩ := hvisit.reached c hc
    exact .tail' hp ⟨c.name, hname, hvisit.sound.resolves c hc⟩
  · intro hk
    obtain ⟨p, hp, call, hcall, hmeans⟩ := TransGen.tail'_iff.1 hk
    exact ⟨_, mem_callees_of_call h hp hcall hmeans, rfl⟩

/-- A listed callee leads only to functions that its entry needs. -/
theorem needs_of_calls {c : Callee} {k : UserFunction} (hk : TransGen g.Calls c.function k) :
    ∃ d, TransGen g.Needs c d ∧ d.function = k := by
  induction hk with
  | single hstep =>
    obtain ⟨call, hcall, hmeans⟩ := hstep
    exact ⟨⟨call, _⟩, .single ⟨hcall, hmeans⟩, rfl⟩
  | tail _ hstep ih =>
    obtain ⟨d, hd, rfl⟩ := ih
    obtain ⟨call, hcall, hmeans⟩ := hstep
    exact ⟨⟨call, _⟩, hd.tail ⟨hcall, hmeans⟩, rfl⟩

/-- A function whose callees can be listed leads to no cycle. -/
theorem not_onCycle_of_callees (h : g.callees f = .ok list) {k : UserFunction}
    (hk : ReflTransGen g.Calls f k) : ¬ g.OnCycle k := by
  rintro ⟨k', hcycle, hname⟩
  obtain ⟨w, hfound, hvisit⟩ := visited_of_callees h
  rcases Relation.reflTransGen_iff_eq_or_transGen.1 hk with rfl | hk
  · -- A cycle through the function itself would list a function that is on the path.
    obtain ⟨c, hc, rfl⟩ := (exists_mem_callees_iff h).2 hcycle
    exact hvisit.offPath c hc (by simp [hname])
  · -- Any other is a cycle through one stored function, which would need to stand before itself.
    have hstored {q : UserFunction} (hq : TransGen g.Calls f q) : q ∈ g.functions := by
      obtain ⟨p, -, call, -, hmeans⟩ := TransGen.tail'_iff.1 hq
      exact mem_of_resolveCall? hmeans
    obtain rfl : k' = k := eq_of_uniqueName_eq (hstored (hk.trans hcycle)) (hstored hk) hname
    obtain ⟨c, hc, hck⟩ := (exists_mem_callees_iff h).2 hk
    have hreturn : ∀ d : Callee, d.function = k' → ∃ d', TransGen g.Needs d d' ∧ d'.function = k' :=
      fun d hd => needs_of_calls (hd ▸ hcycle)
    exact hvisit.sound.ordered.no_return hreturn (hfound ▸ hc) hck

/-- The callees can be listed unless the function leads to a cycle. -/
theorem callees_eq_error_iff :
    (∃ u, g.callees f = .error (.recursiveCall u)) ↔
      ∃ k, ReflTransGen g.Calls f k ∧ g.OnCycle k := by
  constructor
  · rintro ⟨u, hu⟩
    obtain ⟨k, -, hk⟩ := onCycle_of_callees hu
    exact ⟨k, hk⟩
  · rintro ⟨k, hk, hcycle⟩
    cases hcallees : g.callees f with
    | ok list => exact absurd hcycle (not_onCycle_of_callees hcallees hk)
    | error e =>
      obtain ⟨k, rfl, -⟩ := onCycle_of_callees hcallees
      exact ⟨_, rfl⟩

/-- The names that are listed are the calls of the functions that are reached, so far as they mean
user functions. -/
theorem mem_names_callees_iff (h : g.callees f = .ok list) {call : String} :
    call ∈ list.map (·.name) ↔
      (g.resolveCall? call).isSome ∧ ∃ k, ReflTransGen g.Calls f k ∧ call ∈ k.calls := by
  constructor
  · intro hname
    obtain ⟨w, rfl, hvisit⟩ := visited_of_callees h
    obtain ⟨c, hc, rfl⟩ := List.mem_map.1 hname
    exact ⟨by simp [hvisit.sound.resolves c hc], hvisit.reached c hc⟩
  · rintro ⟨hsome, k, hk, hcall⟩
    obtain ⟨k', hk'⟩ := Option.isSome_iff_exists.1 hsome
    exact List.mem_map.2 ⟨_, mem_callees_of_call h hk hcall hk', rfl⟩

/-- A stored function is not listed among its own callees. -/
theorem uniqueName_notMem_callees (hf : g.Stores f) (h : g.callees f = .ok list) :
    f.uniqueName ∉ list.map (·.name) := by
  intro hname
  obtain ⟨w, rfl, hvisit⟩ := visited_of_callees h
  obtain ⟨c, hc, hname⟩ := List.mem_map.1 hname
  obtain ⟨f₀, hf₀, hsame⟩ := hf
  have hunique : f.uniqueName = f₀.uniqueName := by rw [hsame]
  -- Its unique name would mean a function that is on the path from the start.
  have hmeans := hvisit.sound.resolves c hc
  rw [hname, hunique] at hmeans
  refine hvisit.offPath c hc (List.mem_singleton.2 ?_)
  rw [hunique]
  exact uniqueName_of_resolveCall? hf₀ hmeans

/-! ## Functions that match in two graphs -/

/-- What is found in a list matches what is found in another that matches it item by item. -/
theorem rel_find? {R : UserFunction → UserFunction → Prop} {p : UserFunction → Bool}
    (hp : ∀ k k', R k k' → p k' = p k) {l l' : List UserFunction} (h : List.Forall₂ R l l') :
    Option.Rel R (l.find? p) (l'.find? p) := by
  induction h with
  | nil => exact .none
  | @cons k k' _ _ hk _ ih =>
    rw [List.find?_cons, List.find?_cons, hp k k' hk]
    split
    · exact .some hk
    · exact ih

section Match

variable {g' : MetadataGraph} {R : UserFunction → UserFunction → Prop}
  (hunique : ∀ k k', R k k' → k'.uniqueName = k.uniqueName)
  (h : List.Forall₂ R g.functions g'.functions)
include hunique h

theorem rel_function? (u : String) : Option.Rel R (g.function? u) (g'.function? u) :=
  rel_find? (fun k k' hk => by rw [hunique k k' hk]) h

/-- A call means functions that match, if these keep both of their names. -/
theorem rel_resolveCall? (hname : ∀ k k', R k k' → k'.name = k.name) (call : String) :
    Option.Rel R (g.resolveCall? call) (g'.resolveCall? call) := by
  have hfound := rel_function? hunique h call
  unfold resolveCall?
  generalize g.function? call = found at hfound
  generalize g'.function? call = found' at hfound
  cases hfound with
  | some hk => exact .some hk
  | none => exact rel_find? (fun k k' hk => by rw [hname k k' hk]) h

end Match

/-! ## Listing callees -/

/-- The callees of a stored function. They cannot be listed exactly if the function leads to a
cycle of calls, and then the error names a function on one; otherwise the list has every call name
of the functions that are reached once, with what it means, if it means a user function, after all
those that it calls itself. -/
theorem callees_spec (hf : g.Stores f) :
    ((∃ u, g.callees f = .error (.recursiveCall u)) ↔
      ∃ k, ReflTransGen g.Calls f k ∧ g.OnCycle k) ∧
    (∀ e, g.callees f = .error e →
      ∃ k, e = .recursiveCall k.uniqueName ∧ ReflTransGen g.Calls f k ∧ g.OnCycle k) ∧
    ((¬ ∃ k, ReflTransGen g.Calls f k ∧ g.OnCycle k) →
      ∃ list, g.callees f = .ok list ∧
        (list.map (·.name)).Nodup ∧ f.uniqueName ∉ list.map (·.name) ∧
        (∀ c ∈ list, g.resolveCall? c.name = some c.function) ∧
        (∀ call, call ∈ list.map (·.name) ↔
          (g.resolveCall? call).isSome ∧ ∃ k, ReflTransGen g.Calls f k ∧ call ∈ k.calls) ∧
        ∀ front c back, list = front ++ c :: back → ∀ call ∈ c.function.calls,
          (g.resolveCall? call).isSome → call ∈ front.map (·.name)) := by
  refine ⟨callees_eq_error_iff, fun e => onCycle_of_callees, fun hnone => ?_⟩
  cases hcallees : g.callees f with
  | error e =>
    obtain ⟨k, -, hk⟩ := onCycle_of_callees hcallees
    exact absurd ⟨k, hk⟩ hnone
  | ok list =>
    have hown := uniqueName_notMem_callees hf hcallees
    obtain ⟨w, rfl, hvisit⟩ := visited_of_callees hcallees
    refine ⟨w.found, rfl, hvisit.sound.nodup, hown, hvisit.sound.resolves,
      fun _ => mem_names_callees_iff hcallees, ?_⟩
    intro front c back hsplit call hcall hsome
    obtain ⟨k, hk⟩ := Option.isSome_iff_exists.1 hsome
    exact List.mem_map.2
      ⟨⟨call, k⟩, hvisit.sound.ordered front c back hsplit _ ⟨hcall, hk⟩, rfl⟩

/-- A function with a plain name, a unique name and some calls. -/
def sampleCaller (name uniqueName : String) (calls : List String) : UserFunction where
  name := name
  uniqueName := uniqueName
  returnType := "float"
  calls := calls
  body := "return 0;"

/-- A function that calls another under two names and one that is no user function, and two
functions that call each other. -/
def sampleCalls : MetadataGraph where
  functions := [sampleCaller "top" "top_1" ["mid_1", "low_1", "sqrt"],
    sampleCaller "mid" "mid_1" ["low"], sampleCaller "low" "low_1" [],
    sampleCaller "even" "even_1" ["odd"], sampleCaller "odd" "odd_1" ["even_1"]]
  types := []
  types_nodup := List.nodup_nil

/-- The first function leads to no cycle, and the fourth to one. -/
theorem callees_spec_sample :
    sampleCalls.callees (sampleCaller "top" "top_1" ["mid_1", "low_1", "sqrt"]) =
      .ok [⟨"low", sampleCaller "low" "low_1" []⟩, ⟨"mid_1", sampleCaller "mid" "mid_1" ["low"]⟩,
        ⟨"low_1", sampleCaller "low" "low_1" []⟩] ∧
    (¬ ∃ k, ReflTransGen sampleCalls.Calls
      (sampleCaller "top" "top_1" ["mid_1", "low_1", "sqrt"]) k ∧ sampleCalls.OnCycle k) ∧
    ∃ k, ReflTransGen sampleCalls.Calls (sampleCaller "even" "even_1" ["odd"]) k ∧
      sampleCalls.OnCycle k := by
  have htop : sampleCalls.Stores (sampleCaller "top" "top_1" ["mid_1", "low_1", "sqrt"]) :=
    ⟨_, List.mem_cons_self, rfl⟩
  have heven : sampleCalls.Stores (sampleCaller "even" "even_1" ["odd"]) :=
    ⟨sampleCaller "even" "even_1" ["odd"], by simp [sampleCalls], rfl⟩
  have hlist : sampleCalls.callees (sampleCaller "top" "top_1" ["mid_1", "low_1", "sqrt"]) =
      .ok [⟨"low", sampleCaller "low" "low_1" []⟩, ⟨"mid_1", sampleCaller "mid" "mid_1" ["low"]⟩,
        ⟨"low_1", sampleCaller "low" "low_1" []⟩] := by
    cbv
  have hcycle : sampleCalls.callees (sampleCaller "even" "even_1" ["odd"]) =
      .error (.recursiveCall "even_1") := by
    cbv
  refine ⟨hlist, fun hnone => ?_, (callees_spec heven).1.1 ⟨_, hcycle⟩⟩
  obtain ⟨u, hu⟩ := (callees_spec htop).1.2 hnone
  rw [hlist] at hu
  cases hu

end MetadataGraph

end KernelGen
