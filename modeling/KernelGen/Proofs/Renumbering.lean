import KernelGen.Proofs.Validation

/-!
# Types in another order

The stored types are the vertices of the dependency graph, numbered in the order in which they were
added. The types of a function do not depend on that numbering: the walk follows the references and
the dependencies as they are written, and a cycle of dependencies is one under any numbers.

* `Digraph.postWalk_map`, `Digraph.postOrder_map`: the walk over a graph whose vertices have other
  numbers.
* `MetadataGraph.exists_typeGraph_iff`: when there is a dependency graph.
* `MetadataGraph.typesFor_of_perm`: the types of a function, if the stored types are reordered.
-/

namespace KernelGen

/-! ## Other numbers -/

namespace Digraph

variable {n m : Nat}

/-- A walk under other numbers. -/
def PostWalk.map (φ : Fin n → Fin m) (w : PostWalk n) : PostWalk m :=
  ⟨w.seen.map φ, w.finished.map φ⟩

section Renumber

variable {φ : Fin n → Fin m} (hφ : Function.Injective φ)
include hφ

/-- A walk takes the same course under other numbers. -/
theorem postWalk_map {next : Fin n → List (Fin n)} {next' : Fin m → List (Fin m)}
    (hnext : ∀ v, next' (φ v) = (next v).map φ) (stack : List (Fin n)) (w : PostWalk n) :
    postWalk next' (stack.map φ) (w.map φ) = (postWalk next stack w).map φ := by
  fun_induction postWalk next stack w with
  | case1 w => rw [List.map_nil, postWalk]
  | case2 w v rest hv ih =>
    have hseen : φ v ∈ (w.map φ).seen := List.mem_map_of_mem hv
    rw [dite_eq_ite] at ih
    rw [← ih, List.map_cons, postWalk, dif_pos hseen]
    -- The vertex is listed now under both numbers, or was before under both.
    congr 1
    by_cases hfin : v ∈ w.finished
    · have hfin' : φ v ∈ (w.map φ).finished := List.mem_map_of_mem hfin
      rw [if_pos hfin, if_pos hfin']
    · have hfin' : φ v ∉ (w.map φ).finished := fun h => hfin ((List.mem_map_of_injective hφ).1 h)
      rw [if_neg hfin, if_neg hfin']
      rfl
  | case3 w v rest hv seen fresh ih =>
    have hseen : φ v ∉ (w.map φ).seen := fun h => hv ((List.mem_map_of_injective hφ).1 h)
    -- A successor is new under the one number exactly if it is under the other.
    have hfresh : (next' (φ v)).filter (fun u => !(φ v :: (w.map φ).seen).contains u) =
        fresh.map φ := by
      have hmem (u : Fin n) : φ u ∈ φ v :: (w.map φ).seen ↔ u ∈ seen :=
        List.mem_map_of_injective hφ (l := v :: w.seen)
      rw [hnext, List.filter_map]
      refine congrArg (List.map φ) (List.filter_congr fun u _ => ?_)
      simp only [Function.comp_apply, List.contains_eq_mem, hmem]
    rw [← ih, List.map_cons, postWalk, dif_neg hseen]
    dsimp only
    rw [hfresh, List.map_append, List.map_reverse, List.map_cons]
    rfl

variable {g : Digraph n} {g' : Digraph m} (htargets : ∀ v, g'.targets (φ v) = (g.targets v).map φ)
include htargets

/-- A walk from a root does not depend on the numbers. -/
theorem rootWalk_map (w : PostWalk n) (r : Fin n) :
    g'.rootWalk (w.map φ) (φ r) = (g.rootWalk w r).map φ := by
  have hnext (v : Fin n) : g'.successors (φ v) = (g.successors v).map φ := by
    rw [successors, successors, htargets, List.map_reverse]
  unfold rootWalk
  by_cases hr : r ∈ w.seen
  · have hr' : φ r ∈ (w.map φ).seen := List.mem_map_of_mem hr
    rw [if_pos hr, if_pos hr']
  · have hr' : φ r ∉ (w.map φ).seen := fun h => hr ((List.mem_map_of_injective hφ).1 h)
    rw [if_neg hr, if_neg hr']
    exact postWalk_map hφ hnext [r] w

/-- The walks from all roots do not depend on the numbers. -/
theorem foldl_rootWalk_map (roots : List (Fin n)) (w : PostWalk n) :
    (roots.map φ).foldl g'.rootWalk (w.map φ) = (roots.foldl g.rootWalk w).map φ := by
  induction roots generalizing w with
  | nil => rfl
  | cons r roots ih =>
    rw [List.map_cons, List.foldl_cons, List.foldl_cons, rootWalk_map hφ htargets, ih]

/-- A post-order under other numbers is the same. -/
theorem postOrder_map (roots : List (Fin n)) :
    g'.postOrder (roots.map φ) = (g.postOrder roots).map φ := by
  have hwalk : g'.rootsWalk (roots.map φ) = (g.rootsWalk roots).map φ :=
    foldl_rootWalk_map hφ htargets roots ⟨[], []⟩
  rw [postOrder, postOrder, hwalk, List.map_reverse]
  rfl

end Renumber

end Digraph

namespace MetadataGraph

open Relation (TransGen ReflTransGen)

variable {g g' : MetadataGraph} {f : UserFunction}

/-! ## Dependency graphs -/

theorem isSome_type?_iff {name : String} :
    (g.type? name).isSome = true ↔ name ∈ g.types.map (·.name) := by
  simp [type?, List.find?_isSome]

/-- The dependencies of some types have places if they are known. -/
theorem exists_dependencySlots {types : List UserType}
    (h : ∀ t ∈ types, ∀ name ∈ t.dependsOn, (g.type? name).isSome = true) :
    ∃ slots, g.dependencySlots types = .ok slots := by
  induction types with
  | nil => exact ⟨[], rfl⟩
  | cons t types ih =>
    obtain ⟨first, hfirst⟩ := exists_typeSlots t.name (h t List.mem_cons_self)
    obtain ⟨rest, hrest⟩ := ih fun t' ht' => h t' (List.mem_cons_of_mem _ ht')
    refine ⟨first :: rest, ?_⟩
    simp only [dependencySlots, hfirst, hrest]
    rfl

/-- There is a dependency graph exactly if every dependency is a stored type and no type depends on
itself in some steps. -/
theorem exists_typeGraph_iff :
    (∃ d, g.typeGraph = .ok d) ↔
      (∀ t ∈ g.types, ∀ name ∈ t.dependsOn, name ∈ g.types.map (·.name)) ∧
        ∀ t ∈ g.types, ¬ TransGen g.DependsOn t t := by
  constructor
  · rintro ⟨d, hd⟩
    obtain ⟨htargets, hacyclic⟩ := of_typeGraph hd
    refine ⟨fun t ht name hname => ?_, fun t ht hcycle => ?_⟩
    · obtain ⟨v, rfl⟩ := List.get_of_mem ht
      rw [← htargets v] at hname
      obtain ⟨u, -, rfl⟩ := List.mem_map.1 hname
      exact List.mem_map_of_mem (List.get_mem g.types u)
    · obtain ⟨v, rfl⟩ := List.get_of_mem ht
      -- The first step leads to a stored type, and from there the places follow.
      obtain ⟨t', hstep, hback⟩ := Relation.TransGen.head'_iff.1 hcycle
      obtain ⟨u, rfl⟩ := List.get_of_mem hstep.1
      obtain ⟨v', hv', hreach⟩ := exists_reach_of_dependsOn hd hback
      obtain rfl := g.get_injective hv'
      exact hacyclic v' (.head' ((edge_iff_dependsOn hd).2 hstep) hreach)
  · rintro ⟨hknown, hacyclic⟩
    obtain ⟨slots, hslots⟩ := exists_dependencySlots fun t ht name hname =>
      isSome_type?_iff.2 (hknown t ht name hname)
    have hcycle : Digraph.cycle? (n := g.types.length) ⟨fun v => slots.getD v []⟩ = none := by
      -- Every edge is a dependency, so a cycle of places is a cycle of types.
      refine Digraph.cycle?_eq_none_iff.2 fun v hcycle => ?_
      exact hacyclic _ (List.get_mem g.types v)
        (hcycle.lift g.types.get fun _ _ => dependsOn_of_edge hslots)
    unfold typeGraph
    rw [hslots]
    dsimp only
    rw [hcycle]
    exact ⟨_, rfl⟩

/-! ## Stored types in another order -/

section Perm

variable (hperm : g'.types.Perm g.types)
include hperm

/-- Dependence does not depend on the order of the types. -/
theorem dependsOn_of_perm {t t' : UserType} : g'.DependsOn t t' ↔ g.DependsOn t t' := by
  rw [DependsOn, DependsOn, hperm.mem_iff]

/-- Whether there is a dependency graph does not depend on the order of the types. -/
theorem exists_typeGraph_of_perm (h : ∃ d, g.typeGraph = .ok d) : ∃ d, g'.typeGraph = .ok d := by
  obtain ⟨hknown, hacyclic⟩ := exists_typeGraph_iff.1 h
  refine exists_typeGraph_iff.2 ⟨fun t ht name hname => ?_, fun t ht hcycle => ?_⟩
  · exact (hperm.map _).mem_iff.2 (hknown t (hperm.mem_iff.1 ht) name hname)
  · have hstep : ∀ a b, g'.DependsOn a b → g.DependsOn a b := fun _ _ =>
      (dependsOn_of_perm hperm).1
    exact hacyclic t (hperm.mem_iff.1 ht) (TransGen.mono hstep t t hcycle)

/-- Every place has a place of the same type in the other order. -/
theorem exists_renumbering :
    ∃ φ : Fin g.types.length → Fin g'.types.length, Function.Injective φ ∧
      ∀ v, g'.types.get (φ v) = g.types.get v := by
  have hplace (v : Fin g.types.length) : ∃ v', g'.types.get v' = g.types.get v :=
    List.get_of_mem (hperm.mem_iff.2 (List.get_mem g.types v))
  -- A place is determined by its type, so different places go to different ones.
  choose φ hφ using hplace
  refine ⟨φ, fun v u hvu => g.get_injective ?_, hφ⟩
  rw [← hφ v, ← hφ u, hvu]

/-- The types of a function do not depend on the order of the stored types. -/
theorem typesFor_of_perm (hcallees : g'.callees f = g.callees f) {list : List UserType}
    (h : g.typesFor f = .ok list) : g'.typesFor f = .ok list := by
  obtain ⟨d, callees, roots, hd, hlist, hroots, rfl⟩ := of_typesFor h
  obtain ⟨d', hd'⟩ := exists_typeGraph_of_perm hperm ⟨d, hd⟩
  -- What is referred to is stored in the other order as well.
  obtain ⟨roots', hslots'⟩ : ∃ roots', g'.referencedSlots (f :: callees.map (·.function)) =
      .ok roots' := by
    refine exists_referencedSlots fun k hk name hname => isSome_type?_iff.2 ?_
    have hmem := List.mem_flatMap.2 ⟨k, hk, hname⟩
    rw [← hroots] at hmem
    obtain ⟨r, -, rfl⟩ := List.mem_map.1 hmem
    exact (hperm.map _).mem_iff.2 (List.mem_map_of_mem (List.get_mem g.types r))
  obtain ⟨φ, hφ, hget⟩ := exists_renumbering hperm
  have hname (v : Fin g.types.length) : g'.slotName (φ v) = g.slotName v := by
    rw [slotName, slotName, hget]
  have hnames (l : List (Fin g.types.length)) : (l.map φ).map g'.slotName = l.map g.slotName := by
    rw [List.map_map]
    exact List.map_congr_left fun v _ => hname v
  -- Places with the same names are the same, so the edges and the roots are renumbered.
  have htargets (v : Fin g.types.length) : d'.targets (φ v) = (d.targets v).map φ := by
    apply List.map_injective_iff.2 g'.slotName_injective
    rw [hnames, (of_typeGraph hd').1, (of_typeGraph hd).1, hget]
  have hroots' : roots' = roots.map φ := by
    apply List.map_injective_iff.2 g'.slotName_injective
    rw [hnames, hroots, map_slotName_of_referencedSlots hslots']
  have horder : (d'.postOrder roots').map g'.types.get = (d.postOrder roots).map g.types.get := by
    rw [hroots', Digraph.postOrder_map hφ htargets, List.map_map]
    exact List.map_congr_left fun v _ => hget v
  unfold typesFor
  simp only [hd', hcallees, hlist, hslots', horder]

end Perm

end MetadataGraph

end KernelGen
