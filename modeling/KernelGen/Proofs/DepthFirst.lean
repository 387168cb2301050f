import KernelGen.Digraph
import KernelGen.Proofs.DependencyOrder

/-!
# Depth-first walks

What the walks over a finite graph list, for every graph and every choice of roots. The stack of a
walk holds vertices of three kinds: those that were not met, those that were left for good, and
those that are open, which were met and lead to all that stands above them.

* `PostWalk.Sound`: what holds of a walk at every moment. A vertex that was left comes after all
  that it leads to, except where that leads back to it.
* `PostWalk.Explored`: what working off the top of a stack adds to a walk.
* `postWalk_append`: working off the top of a stack explores it and leaves the rest alone.
* `mem_postOrder_iff`, `nodup_postOrder`, `postOrder_append`: a post-order lists what its roots lead
  to, once, and more roots only add to its end.
* `secondMet?_cons`: what one start of the search for a cycle yields.
* `cycle?_eq_none_iff`: no cycle is reported exactly if there is none, and the post-orders are then
  in order of dependency (`dependenciesFirst_postOrder`).
-/

namespace KernelGen.Digraph

open Relation (TransGen ReflTransGen)

variable {n : Nat}

/-- One vertex leads to another in one step. -/
def Leads (next : Fin n → List (Fin n)) (v u : Fin n) : Prop :=
  u ∈ next v

/-- A vertex leads to another that does not lead back to it. -/
def LeadsAway (next : Fin n → List (Fin n)) (v u : Fin n) : Prop :=
  Leads next v u ∧ ¬ ReflTransGen (Leads next) u v

/-- The more a walk has seen, the less it has not. -/
theorem unseen_lt_of_subset {seen seen' : List (Fin n)} {v : Fin n}
    (hsub : ∀ x ∈ seen, x ∈ seen') (hv : v ∈ seen') (hnew : v ∉ seen) :
    unseen seen' < unseen seen := by
  refine Nat.lt_of_le_of_lt ?_ (unseen_cons_lt hnew)
  rw [unseen, unseen, ← List.countP_eq_length_filter, ← List.countP_eq_length_filter]
  refine List.countP_mono_left fun x _ hx => ?_
  have hx : x ∉ seen' := by simpa using hx
  have hxv : x ≠ v := fun h => hx (h ▸ hv)
  have hxs : x ∉ seen := fun h => hx (hsub x h)
  simp [hxv, hxs]

namespace PostWalk

/-- What holds of a walk at every moment. -/
structure Sound (next : Fin n → List (Fin n)) (w : PostWalk n) : Prop where
  /-- A vertex is left once. -/
  nodup : w.finished.Nodup
  /-- A vertex that is left was met. -/
  met : ∀ x ∈ w.finished, x ∈ w.seen
  /-- All that a vertex leads to is met before it is left. -/
  closed : ∀ x ∈ w.finished, ∀ y ∈ next x, y ∈ w.seen
  /-- A vertex is left after all that it leads to and that does not lead back. -/
  ordered : DependenciesFirst (LeadsAway next) w.finished.reverse

/-- What working off some vertices adds to a walk. -/
structure Explored (next : Fin n → List (Fin n)) (us : List (Fin n)) (w w' : PostWalk n)
    (block : List (Fin n)) : Prop where
  /-- The invariant still holds. -/
  sound : w'.Sound next
  /-- Some vertices are left, the last first. -/
  finished_eq : w'.finished = block ++ w.finished
  /-- These are the vertices that are met. -/
  seen_iff : ∀ x, x ∈ w'.seen ↔ x ∈ block ∨ x ∈ w.seen
  /-- They were not met before. -/
  fresh : ∀ x ∈ block, x ∉ w.seen
  /-- All that was to be worked off is left. -/
  covered : ∀ u ∈ us, u ∈ w'.finished
  /-- Nothing else is met than what it leads to. -/
  reached : ∀ x ∈ block, ∃ u ∈ us, ReflTransGen (Leads next) u x

variable {next : Fin n → List (Fin n)} {us vs block block' : List (Fin n)} {w w' w'' : PostWalk n}
  {u : Fin n}

/-- Vertices that were left already add nothing. -/
theorem Explored.nil (hw : w.Sound next) (hus : ∀ u ∈ us, u ∈ w.finished) :
    Explored next us w w [] where
  sound := hw
  finished_eq := rfl
  seen_iff := by simp
  fresh := by simp
  covered := hus
  reached := by simp

/-- What two parts of the stack add, one after the other. -/
theorem Explored.trans (h : Explored next us w w' block) (h' : Explored next vs w' w'' block') :
    Explored next (us ++ vs) w w'' (block' ++ block) where
  sound := h'.sound
  finished_eq := by rw [h'.finished_eq, h.finished_eq, List.append_assoc]
  seen_iff x := by rw [h'.seen_iff, h.seen_iff, List.mem_append, or_assoc]
  fresh x hx := by
    rcases List.mem_append.1 hx with hx | hx
    · exact fun hseen => h'.fresh x hx ((h.seen_iff x).2 (.inr hseen))
    · exact h.fresh x hx
  covered u hu := by
    rcases List.mem_append.1 hu with hu | hu
    · rw [h'.finished_eq]
      exact List.mem_append_right _ (h.covered u hu)
    · exact h'.covered u hu
  reached x hx := by
    rcases List.mem_append.1 hx with hx | hx
    · obtain ⟨u, hu, hux⟩ := h'.reached x hx
      exact ⟨u, List.mem_append_right _ hu, hux⟩
    · obtain ⟨u, hu, hux⟩ := h.reached x hx
      exact ⟨u, List.mem_append_left _ hu, hux⟩

/-- A vertex is left behind all that its new successors added. -/
theorem Explored.leave (hw : w.Sound next) (hu : u ∉ w.seen)
    (hopen : ∀ y ∈ w.seen, y ∉ w.finished → ReflTransGen (Leads next) y u)
    (hvs : ∀ v, v ∈ vs ↔ v ∈ next u ∧ v ∉ u :: w.seen)
    (h : Explored next vs { w with seen := u :: w.seen } w' block) :
    Explored next [u] w { w' with finished := u :: w'.finished } (u :: block) := by
  have hnew : u ∉ w'.finished := by
    rw [h.finished_eq]
    intro hmem
    rcases List.mem_append.1 hmem with hmem | hmem
    · exact h.fresh u hmem List.mem_cons_self
    · exact hu (hw.met u hmem)
  have hseen : u ∈ w'.seen := (h.seen_iff u).2 (.inr List.mem_cons_self)
  -- A successor was left before, is left now, or leads to the vertex itself.
  have hnext : ∀ y ∈ next u, y ∈ w'.finished ∨ (y ∈ w'.seen ∧ ReflTransGen (Leads next) y u) := by
    intro y hy
    by_cases hyseen : y ∈ u :: w.seen
    · have hy' : y ∈ w'.seen := (h.seen_iff y).2 (.inr hyseen)
      rcases List.mem_cons.1 hyseen with rfl | hyseen
      · exact .inr ⟨hy', .refl⟩
      · by_cases hyfin : y ∈ w.finished
        · rw [h.finished_eq]
          exact .inl (List.mem_append_right _ hyfin)
        · exact .inr ⟨hy', hopen y hyseen hyfin⟩
    · exact .inl (h.covered y ((hvs y).2 ⟨hy, hyseen⟩))
  -- The invariant, and then what the vertex added.
  refine { sound := { nodup := ?_, met := ?_, closed := ?_, ordered := ?_ }, finished_eq := ?_,
           seen_iff := ?_, fresh := ?_, covered := ?_, reached := ?_ }
  · exact List.nodup_cons.2 ⟨hnew, h.sound.nodup⟩
  · exact List.forall_mem_cons.2 ⟨hseen, h.sound.met⟩
  · refine List.forall_mem_cons.2 ⟨fun y hy => ?_, h.sound.closed⟩
    exact (hnext y hy).elim (h.sound.met y) And.left
  · rw [List.reverse_cons]
    refine h.sound.ordered.snoc ?_
    rintro y ⟨hy, haway⟩
    exact List.mem_reverse.2 ((hnext y hy).resolve_right fun hback => haway hback.2)
  · rw [h.finished_eq, List.cons_append]
  · intro x
    rw [h.seen_iff, List.mem_cons, List.mem_cons]
    tauto
  · refine List.forall_mem_cons.2 ⟨hu, fun x hx hxseen => ?_⟩
    exact h.fresh x hx (List.mem_cons_of_mem _ hxseen)
  · exact List.forall_mem_singleton.2 List.mem_cons_self
  · intro x hx
    refine ⟨u, List.mem_singleton_self u, ?_⟩
    rcases List.mem_cons.1 hx with rfl | hx
    · exact .refl
    · obtain ⟨v, hv, hvx⟩ := h.reached x hx
      exact .head ((hvs v).1 hv).1 hvx

/-- What was met on the way is left in the end, so the same vertices are open as before. -/
theorem Explored.of_open (h : Explored next us w w' block) {x : Fin n} (hseen : x ∈ w'.seen)
    (hfin : x ∉ w'.finished) : x ∈ w.seen ∧ x ∉ w.finished := by
  rw [h.finished_eq, List.mem_append, not_or] at hfin
  exact ⟨((h.seen_iff x).1 hseen).resolve_left hfin.1, hfin.2⟩

/-- A vertex that is met is not left yet. -/
theorem Sound.enter (hw : w.Sound next) (u : Fin n) :
    PostWalk.Sound next { w with seen := u :: w.seen } where
  nodup := hw.nodup
  met x hx := List.mem_cons_of_mem _ (hw.met x hx)
  closed x hx y hy := List.mem_cons_of_mem _ (hw.closed x hx y hy)
  ordered := hw.ordered

end PostWalk

/-! ## Working off a stack -/

section Stack

variable {next : Fin n → List (Fin n)} {rest : List (Fin n)} {w : PostWalk n} {u : Fin n}

/-- A vertex that was left is taken off the stack. -/
theorem postWalk_of_finished (hseen : u ∈ w.seen) (hfin : u ∈ w.finished) :
    postWalk next (u :: rest) w = postWalk next rest w := by
  rw [postWalk, dif_pos hseen, if_pos hfin]

/-- An open vertex is taken off the stack and left. -/
theorem postWalk_of_open (hseen : u ∈ w.seen) (hfin : u ∉ w.finished) :
    postWalk next (u :: rest) w =
      postWalk next rest { w with finished := u :: w.finished } := by
  rw [postWalk, dif_pos hseen, if_neg hfin]

/-- A new vertex becomes open, under its new successors. -/
theorem postWalk_of_new (hseen : u ∉ w.seen) :
    ∃ vs, (∀ v, v ∈ vs ↔ v ∈ next u ∧ v ∉ u :: w.seen) ∧
      ∀ rest, postWalk next (u :: rest) w =
        postWalk next (vs ++ u :: rest) { w with seen := u :: w.seen } := by
  refine ⟨((next u).filter fun v => !(u :: w.seen).contains v).reverse, by simp, fun rest => ?_⟩
  rw [postWalk, dif_neg hseen]

end Stack

/-- Working off the top of a stack explores it and leaves the rest alone, if nothing there is open
and all that is open leads to it. -/
theorem postWalk_append {next : Fin n → List (Fin n)} (us rest : List (Fin n)) (w : PostWalk n)
    (hw : w.Sound next) (hus : ∀ u ∈ us, u ∈ w.seen → u ∈ w.finished)
    (hopen : ∀ y ∈ w.seen, y ∉ w.finished → ∀ u ∈ us, ReflTransGen (Leads next) y u) :
    ∃ w' block, postWalk next (us ++ rest) w = postWalk next rest w' ∧
      PostWalk.Explored next us w w' block := by
  -- A new vertex has one vertex less unseen below it, and after it.
  induction hk : unseen w.seen using Nat.strongRecOn generalizing us rest w with
  | ind k ih =>
    induction us with
    | nil => exact ⟨w, [], rfl, .nil hw (by simp)⟩
    | cons u us ihus =>
      have hus' : ∀ v ∈ us, v ∈ w.seen → v ∈ w.finished :=
        fun v hv => hus v (List.mem_cons_of_mem _ hv)
      have hopen' : ∀ y ∈ w.seen, y ∉ w.finished → ∀ v ∈ us, ReflTransGen (Leads next) y v :=
        fun y hy hfin v hv => hopen y hy hfin v (List.mem_cons_of_mem _ hv)
      by_cases hu : u ∈ w.seen
      · have hfin : u ∈ w.finished := hus u List.mem_cons_self hu
        obtain ⟨w', block, heq, hexp⟩ := ihus hus' hopen'
        have hdone : PostWalk.Explored next [u] w w [] := .nil hw (by simpa using hfin)
        refine ⟨w', _, ?_, hdone.trans hexp⟩
        rw [List.cons_append, postWalk_of_finished hu hfin, heq]
      · obtain ⟨vs, hvs, henter⟩ := postWalk_of_new hu
        have hopenu : ∀ y ∈ w.seen, y ∉ w.finished → ReflTransGen (Leads next) y u :=
          fun y hy hfin => hopen y hy hfin u List.mem_cons_self
        -- The successors are worked off first, while the vertex is open.
        obtain ⟨w₁, block₁, heq₁, hexp₁⟩ := ih _ (hk ▸ unseen_cons_lt hu) vs (u :: (us ++ rest))
          { w with seen := u :: w.seen } (hw.enter u)
          (fun v hv hseen => absurd hseen ((hvs v).1 hv).2)
          (by
            intro y hy hfin v hv
            have hstep : Leads next u v := ((hvs v).1 hv).1
            rcases List.mem_cons.1 hy with rfl | hy
            · exact .single hstep
            · exact (hopenu y hy hfin).tail hstep)
          rfl
        have hleave := hexp₁.leave hw hu hopenu hvs
        have hsub : ∀ x ∈ w.seen, x ∈ w₁.seen := fun x hx => (hleave.seen_iff x).2 (.inr hx)
        have huseen : u ∈ w₁.seen := (hleave.seen_iff u).2 (.inl List.mem_cons_self)
        have hunew : u ∉ w₁.finished := (List.nodup_cons.1 hleave.sound.nodup).1
        obtain ⟨w₂, block₂, heq₂, hexp₂⟩ := ih _ (hk ▸ unseen_lt_of_subset hsub huseen hu) us rest
          { w₁ with finished := u :: w₁.finished } hleave.sound
          (by
            intro v hv hseen
            by_contra hfin
            obtain ⟨hvseen, hvfin⟩ := hleave.of_open hseen hfin
            exact hvfin (hus' v hv hvseen))
          (by
            intro y hy hfin
            obtain ⟨hyseen, hyfin⟩ := hleave.of_open hy hfin
            exact hopen' y hyseen hyfin)
          rfl
        refine ⟨w₂, _, ?_, hleave.trans hexp₂⟩
        rw [List.cons_append, henter, heq₁, postWalk_of_open huseen hunew, heq₂]

/-! ## The roots in turn -/

/-- An edge leaves one vertex and enters another. -/
def Edge (g : Digraph n) (v u : Fin n) : Prop :=
  u ∈ g.targets v

/-- The walk along the successors follows the edges. -/
theorem leads_successors (g : Digraph n) : Leads g.successors = g.Edge := by
  funext v u
  simp [Leads, successors, Edge]

/-- A root is explored, if nothing is open before. -/
theorem explored_rootWalk (g : Digraph n) {w : PostWalk n} (r : Fin n)
    (hw : w.Sound g.successors) (hleft : ∀ x ∈ w.seen, x ∈ w.finished) :
    ∃ block, PostWalk.Explored g.successors [r] w (g.rootWalk w r) block := by
  unfold rootWalk
  by_cases hr : r ∈ w.seen
  · rw [if_pos hr]
    exact ⟨[], .nil hw (List.forall_mem_singleton.2 (hleft r hr))⟩
  · obtain ⟨w', block, heq, hexp⟩ := postWalk_append [r] [] w hw (fun u _ => hleft u)
      (fun y hy hfin => absurd (hleft y hy) hfin)
    rw [List.append_nil] at heq
    rw [if_neg hr, heq, postWalk]
    exact ⟨block, hexp⟩

/-- Roots that are walked from in turn are explored, if nothing is open before. -/
theorem explored_foldl (g : Digraph n) (roots : List (Fin n)) (w : PostWalk n)
    (hw : w.Sound g.successors) (hleft : ∀ x ∈ w.seen, x ∈ w.finished) :
    ∃ block, PostWalk.Explored g.successors roots w (roots.foldl g.rootWalk w) block := by
  induction roots generalizing w with
  | nil => exact ⟨[], .nil hw (by simp)⟩
  | cons r roots ih =>
    obtain ⟨block, hexp⟩ := g.explored_rootWalk r hw hleft
    -- Between two roots nothing is open either.
    have hleft' : ∀ x ∈ (g.rootWalk w r).seen, x ∈ (g.rootWalk w r).finished := by
      intro x hx
      by_contra hfin
      obtain ⟨hseen, hnot⟩ := hexp.of_open hx hfin
      exact hnot (hleft x hseen)
    obtain ⟨block', hexp'⟩ := ih _ hexp.sound hleft'
    exact ⟨_, hexp.trans hexp'⟩

/-- A walk that has met nothing is sound. -/
theorem PostWalk.Sound.empty (next : Fin n → List (Fin n)) : PostWalk.Sound next ⟨[], []⟩ :=
  ⟨List.nodup_nil, by simp, by simp, .nil⟩

/-- A walk from some roots explores them. -/
theorem explored_rootsWalk (g : Digraph n) (roots : List (Fin n)) :
    PostWalk.Explored g.successors roots ⟨[], []⟩ (g.rootsWalk roots)
      (g.rootsWalk roots).finished := by
  obtain ⟨block, hexp⟩ := g.explored_foldl roots ⟨[], []⟩ (.empty _) (by simp)
  have hblock : (g.rootsWalk roots).finished = block :=
    hexp.finished_eq.trans (List.append_nil block)
  rw [hblock]
  exact hexp

/-- More roots add to the end of a post-order. -/
theorem postOrder_append (g : Digraph n) (roots roots' : List (Fin n)) :
    ∃ more, g.postOrder (roots ++ roots') = g.postOrder roots ++ more := by
  have hexp := g.explored_rootsWalk roots
  have hleft : ∀ x ∈ (g.rootsWalk roots).seen, x ∈ (g.rootsWalk roots).finished := by
    intro x hx
    simpa using (hexp.seen_iff x).1 hx
  obtain ⟨block, hmore⟩ := g.explored_foldl roots' (g.rootsWalk roots) hexp.sound hleft
  refine ⟨block.reverse, ?_⟩
  rw [postOrder, postOrder, rootsWalk, List.foldl_append, ← rootsWalk, hmore.finished_eq,
    List.reverse_append]

/-- A post-order lists every vertex once. -/
theorem nodup_postOrder (g : Digraph n) (roots : List (Fin n)) : (g.postOrder roots).Nodup :=
  List.nodup_reverse.2 (g.explored_rootsWalk roots).sound.nodup

/-- A post-order lists exactly the vertices to which a root leads. -/
theorem mem_postOrder_iff {g : Digraph n} {roots : List (Fin n)} {x : Fin n} :
    x ∈ g.postOrder roots ↔ ∃ r ∈ roots, ReflTransGen g.Edge r x := by
  have hexp := g.explored_rootsWalk roots
  rw [postOrder, List.mem_reverse]
  constructor
  · intro hx
    rw [← leads_successors]
    exact hexp.reached x hx
  · rintro ⟨r, hr, hrx⟩
    induction hrx with
    | refl => exact hexp.covered r hr
    | tail _ hstep ih =>
      have hseen := hexp.sound.closed _ ih _ (List.mem_reverse.2 hstep)
      simpa using (hexp.seen_iff _).1 hseen

/-! ## Cycles -/

/-- The starts of the edges that enter a vertex. -/
theorem mem_predecessors_iff {g : Digraph n} {v u : Fin n} :
    v ∈ g.predecessors u ↔ g.Edge v u := by
  simp [predecessors, edges, Edge]

/-- A walk puts what it meets in front of what was seen. -/
theorem suffix_preWalk (next : Fin n → List (Fin n)) (stack seen : List (Fin n)) :
    seen <:+ preWalk next stack seen := by
  fun_induction preWalk next stack seen with
  | case1 seen => exact List.suffix_rfl
  | case2 seen v rest hv ih => exact ih
  | case3 seen' v rest hv seen fresh ih => exact (List.suffix_cons v seen').trans ih

/-- The vertices from which an edge enters a vertex and that were not met before, in the order in
which a backward walk comes upon them. -/
def freshPredecessors (g : Digraph n) (r : Fin n) (seen : List (Fin n)) : List (Fin n) :=
  ((g.predecessors r).filter fun v => !(r :: seen).contains v).reverse

theorem mem_freshPredecessors_iff {g : Digraph n} {r v : Fin n} {seen : List (Fin n)} :
    v ∈ g.freshPredecessors r seen ↔ g.Edge v r ∧ v ∉ r :: seen := by
  rw [freshPredecessors, List.mem_reverse, List.mem_filter, mem_predecessors_iff]
  simp

/-- A new start yields itself, and then the first new vertex from which an edge enters it. If there
is none, the next start has its turn. -/
theorem secondMet?_cons {g : Digraph n} {r : Fin n} {seen : List (Fin n)} (hr : r ∉ seen)
    (starts : List (Fin n)) :
    g.secondMet? (r :: starts) seen =
      (g.freshPredecessors r seen).head?.or (g.secondMet? starts (r :: seen)) := by
  have hafter : preWalk g.predecessors [r] seen =
      preWalk g.predecessors (g.freshPredecessors r seen ++ []) (r :: seen) := by
    rw [preWalk, dif_neg hr, freshPredecessors]
  rw [secondMet?, hafter, List.append_nil]
  cases hfresh : g.freshPredecessors r seen with
  | nil =>
    -- Nothing is put on the stack, so the start is all that is met.
    have hlen : (r :: seen).length - seen.length = 1 := by simp
    rw [preWalk, hlen]
    rfl
  | cons u more =>
    have hu : u ∉ r :: seen := (mem_freshPredecessors_iff.1 (hfresh ▸ List.mem_cons_self)).2
    -- The top of the stack is new, so it is met next.
    obtain ⟨met, hmet⟩ := suffix_preWalk g.predecessors
      (((g.predecessors u).filter fun x => !(u :: r :: seen).contains x).reverse ++ more)
      (u :: r :: seen)
    have hsplit : met ++ u :: r :: seen = (met ++ [u, r]) ++ seen := by simp
    have htake : ((met ++ [u, r]) ++ seen).take (((met ++ [u, r]) ++ seen).length - seen.length) =
        met ++ [u, r] := by
      rw [List.length_append, Nat.add_sub_cancel, List.take_left']
      rfl
    rw [preWalk, dif_neg hu, ← hmet, hsplit, htake, List.reverse_append]
    rfl

/-- What the later starts are is not met when the first one has had its turn. -/
theorem notMem_cons_of_start {s : Fin n} {starts seen : List (Fin n)} (hnodup : (s :: starts).Nodup)
    (hnew : ∀ r ∈ s :: starts, r ∉ seen) : ∀ r ∈ starts, r ∉ s :: seen := by
  intro r hr hmem
  rcases List.mem_cons.1 hmem with rfl | hmem
  · exact (List.nodup_cons.1 hnodup).1 hr
  · exact hnew r (List.mem_cons_of_mem _ hr) hmem

/-- If no start yields a second vertex, every start comes after all from which an edge enters it,
itself aside. -/
theorem edge_of_secondMet? {g : Digraph n} {starts seen : List (Fin n)}
    (hnodup : starts.Nodup) (hnew : ∀ r ∈ starts, r ∉ seen)
    (h : g.secondMet? starts seen = none) {front back : List (Fin n)} {r v : Fin n}
    (hsplit : starts = front ++ r :: back) (hv : g.Edge v r) : v ∈ front ∨ v = r ∨ v ∈ seen := by
  -- A start joins what was seen when its turn is over.
  induction starts generalizing seen front with
  | nil => simp at hsplit
  | cons s starts ih =>
    rw [secondMet?_cons (hnew s List.mem_cons_self), Option.or_eq_none_iff,
      List.head?_eq_none_iff] at h
    cases front with
    | nil =>
      obtain ⟨rfl, rfl⟩ := List.cons.inj hsplit
      by_contra hnot
      have hfresh := mem_freshPredecessors_iff.2 ⟨hv, by simpa using hnot⟩
      simp [h.1] at hfresh
    | cons s' front =>
      obtain ⟨rfl, rfl⟩ := List.cons.inj hsplit
      rcases ih (List.nodup_cons.1 hnodup).2 (notMem_cons_of_start hnodup hnew) h.2 rfl with
        hmem | heq | hmem
      · exact .inl (List.mem_cons_of_mem _ hmem)
      · exact .inr (.inl heq)
      · rcases List.mem_cons.1 hmem with rfl | hmem
        · exact .inl List.mem_cons_self
        · exact .inr (.inr hmem)

/-- A second vertex has an edge to a start, and is neither that start nor one before it. -/
theorem exists_start_of_secondMet? {g : Digraph n} {starts seen : List (Fin n)} {v : Fin n}
    (hnodup : starts.Nodup) (hnew : ∀ r ∈ starts, r ∉ seen)
    (h : g.secondMet? starts seen = some v) :
    ∃ front r back, starts = front ++ r :: back ∧ g.Edge v r ∧ v ∉ r :: front ∧ v ∉ seen := by
  -- What was seen when a start has its turn are the starts in front of it.
  induction starts generalizing seen with
  | nil => simp [secondMet?] at h
  | cons s starts ih =>
    rw [secondMet?_cons (hnew s List.mem_cons_self), Option.or_eq_some_iff] at h
    rcases h with h | ⟨-, h⟩
    · obtain ⟨hedge, hv⟩ := mem_freshPredecessors_iff.1 (List.mem_of_mem_head? h)
      rw [List.mem_cons, not_or] at hv
      exact ⟨[], s, starts, rfl, hedge, by simpa using hv.1, hv.2⟩
    · obtain ⟨front, r, back, rfl, hedge, hv, hseen⟩ :=
        ih (List.nodup_cons.1 hnodup).2 (notMem_cons_of_start hnodup hnew) h
      simp only [List.mem_cons, not_or] at hv hseen
      exact ⟨s :: front, r, back, rfl, hedge, by simp [hv, hseen], hseen.2⟩

/-- A walk over the whole graph meets every edge from a vertex to itself. -/
theorem not_edge_self_of_loop? {g : Digraph n} (h : g.loop? = none) (v : Fin n) :
    ¬ g.Edge v v := by
  have hexp := g.explored_rootsWalk (List.finRange n)
  have hseen : v ∈ (g.rootsWalk (List.finRange n)).seen :=
    hexp.sound.met v (hexp.covered v (List.mem_finRange v))
  have hloop := List.find?_eq_none.1 h v (List.mem_reverse.2 hseen)
  simpa [Edge] using hloop

/-- A graph without a reported cycle has none. -/
theorem not_transGen_of_cycle? {g : Digraph n} (h : g.cycle? = none) (v : Fin n) :
    ¬ TransGen g.Edge v v := by
  unfold cycle? at h
  split at h
  · cases h
  · next hloop =>
    -- Along the backward walk every vertex stands behind all from which an edge enters it.
    have hstarts : DependenciesFirst (Function.swap g.Edge)
        (g.postOrder (List.finRange n)).reverse := by
      intro front r back hsplit u hu
      have hnodup : (g.postOrder (List.finRange n)).reverse.Nodup :=
        List.nodup_reverse.2 (g.nodup_postOrder _)
      rcases edge_of_secondMet? hnodup (by simp) h hsplit hu with hmem | rfl | hmem
      · exact hmem
      · exact absurd hu (not_edge_self_of_loop? hloop u)
      · simp at hmem
    intro hcycle
    have hmem : v ∈ (g.postOrder (List.finRange n)).reverse :=
      List.mem_reverse.2 (mem_postOrder_iff.2 ⟨v, List.mem_finRange v, .refl⟩)
    have hreturn : ∀ x, x = v → ∃ y, TransGen (Function.swap g.Edge) x y ∧ y = v := by
      rintro x rfl
      exact ⟨x, Relation.transGen_swap.2 hcycle, rfl⟩
    exact hstarts.no_return hreturn hmem rfl

/-- A reported vertex is on a cycle. -/
theorem transGen_of_cycle? {g : Digraph n} {v : Fin n} (h : g.cycle? = some v) :
    TransGen g.Edge v v := by
  unfold cycle? at h
  split at h
  · next u hloop =>
    obtain rfl : u = v := Option.some.inj h
    have hself : g.Edge u u := by simpa [Edge] using List.find?_some hloop
    exact .single hself
  · have hnodup := g.nodup_postOrder (List.finRange n)
    obtain ⟨front, r, back, hsplit, hedge, hv, -⟩ :=
      exists_start_of_secondMet? (List.nodup_reverse.2 hnodup) (by simp) h
    have horder : g.postOrder (List.finRange n) = back.reverse ++ r :: front.reverse := by
      rw [← List.reverse_reverse (g.postOrder _), hsplit]
      simp
    -- The vertex was left before the start, so it must lead back from there.
    have hleft : v ∈ back.reverse := by
      have hall : v ∈ g.postOrder (List.finRange n) :=
        mem_postOrder_iff.2 ⟨v, List.mem_finRange v, .refl⟩
      rw [horder] at hall
      simp only [List.mem_cons, not_or] at hv
      simpa [hv] using hall
    by_contra hcycle
    obtain ⟨before, after, hbefore⟩ := List.append_of_mem hleft
    have haway : LeadsAway g.successors v r := by
      refine ⟨List.mem_reverse.2 hedge, fun hback => hcycle ?_⟩
      rw [leads_successors] at hback
      exact .head' hedge hback
    rw [hbefore, List.append_assoc, List.cons_append] at horder
    have hmem := (g.explored_rootsWalk (List.finRange n)).sound.ordered before v _ horder r haway
    rw [horder] at hnodup
    exact (List.nodup_append.1 hnodup).2.2 r hmem r (by simp) rfl

/-- No cycle is reported exactly if there is none. -/
theorem cycle?_eq_none_iff {g : Digraph n} : g.cycle? = none ↔ ∀ v, ¬ TransGen g.Edge v v := by
  refine ⟨not_transGen_of_cycle?, fun h => ?_⟩
  cases hcycle : g.cycle? with
  | none => rfl
  | some v => exact absurd (transGen_of_cycle? hcycle) (h v)

/-- A post-order of a graph without cycles lists every vertex after all that it leads to. -/
theorem dependenciesFirst_postOrder {g : Digraph n} (hacyclic : ∀ v, ¬ TransGen g.Edge v v)
    (roots : List (Fin n)) : DependenciesFirst g.Edge (g.postOrder roots) := by
  intro front x back hsplit y hxy
  refine (g.explored_rootsWalk roots).sound.ordered front x back hsplit y ⟨?_, ?_⟩
  · exact List.mem_reverse.2 hxy
  · rw [leads_successors]
    exact fun hback => hacyclic x (.head' hxy hback)

end KernelGen.Digraph
