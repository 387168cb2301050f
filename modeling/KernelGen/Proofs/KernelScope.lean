import KernelGen.Proofs.CallArguments
import KernelGen.Proofs.Validation

/-!
# The names in a kernel

A kernel declares its parameters and some locals, and all of them stand in one scope. Some of the
names are the user's, some are the same in every kernel, and some are made up of a field and the
name of a container. Validation looks at the user's names only. A name that is made up can be read
in two ways, since both of its parts may have underscores: a vector `i_x` has a size
`skel_size_i_x`, and so has a tensor `x`.

* `UserFunction.outerLocals`, `UserFunction.innerLocals`: the locals of a kernel.
* `KernelSource.bodyText_eq`: their statements in its text.
* `UserFunction.perm_kernelNames`: the names that a kernel declares.
* `cases_of_fieldParam_eq`: how a name that is made up can be read.
* `ContainerParam.ClashesWith`, `ContainerParam.disjoint_fieldParams_iff`: the containers for which
  one name is made up twice.
* `UserFunction.nodup_kernelNames_iff`: when the names in a kernel are pairwise different.
-/

namespace KernelGen

/-! ## Locals -/

namespace UserFunction

/-- The local with the position of the current element, if the function learns it. -/
def indexLocals (f : UserFunction) : List KernelLocal :=
  match f.indexing with
  | .none => []
  | .linear => [⟨"index1_t", "skel_index", "\x7b .i = base + i \x7d"⟩]
  | .rowCol =>
    [⟨"index2_t", "skel_index", "\x7b .row = (base + i) / w, .col = (base + i) % w \x7d"⟩]

/-- The locals in front of the loop: the two that every kernel has, and the proxies. -/
def outerLocals (f : UserFunction) : List KernelLocal :=
  [⟨"size_t", "i", "get_global_id(0)"⟩,
    ⟨"size_t", "gridSize", "get_local_size(0) * get_num_groups(0)"⟩] ++
  (f.containers.filter (·.placement == .beforeLoop)).map (·.proxyLocal)

/-- The locals in the loop: the index, and the proxies that change with every element. -/
def innerLocals (f : UserFunction) : List KernelLocal :=
  f.indexLocals ++ (f.containers.filter (·.placement == .perIteration)).map (·.proxyLocal)

/-- The statement of the index, if there is one. -/
theorem map_statement_indexLocals (f : UserFunction) :
    f.indexLocals.map (·.statement) = f.indexInitializer?.toList := by
  rw [indexInitializer?, ParamLists.assemble_eq, ParamLists.extend]
  unfold indexLocals
  cases f.indexing with
  | none => rfl
  | linear =>
    dsimp only
    decide
  | rowCol =>
    dsimp only
    decide

/-- The proxies that stand in one place are those of the containers that belong there. -/
theorem flatMap_proxy (place : Placement) (params : List ContainerParam) :
    (params.flatMap fun p => if p.placement = place then [p.initializer] else []) =
      ((params.filter (·.placement == place)).map (·.proxyLocal)).map (·.statement) := by
  induction params with
  | nil => rfl
  | cons p params ih =>
    rw [List.flatMap_cons, ih]
    by_cases h : p.placement = place
    · simp [h, p.statement_proxyLocal]
    · simp [h]

/-- The statements in front of the loop. -/
theorem map_statement_outerProxies (f : UserFunction) :
    ((f.containers.filter (·.placement == .beforeLoop)).map (·.proxyLocal)).map (·.statement) =
      f.outerProxies := by
  rw [outerProxies, ParamLists.assemble_eq, ParamLists.extend, ← flatMap_proxy]
  cases f.indexing <;> rfl

/-- The statements at the head of the loop. -/
theorem map_statement_innerProxies (f : UserFunction) :
    ((f.containers.filter (·.placement == .perIteration)).map (·.proxyLocal)).map (·.statement) =
      f.innerProxies := by
  rw [innerProxies, ParamLists.assemble_eq, ParamLists.extend, ← flatMap_proxy]
  cases f.indexing <;> rfl

end UserFunction

/-- The block of two lists of lines is made of their blocks. -/
theorem statementBlock_append (lines lines' : List String) (depth : Nat) :
    statementBlock (lines ++ lines') depth =
      statementBlock lines depth ++ statementBlock lines' depth := by
  simp [statementBlock]

/-- The body of a kernel declares its locals, in front of the loop and in it. -/
theorem KernelSource.bodyText_eq (f : UserFunction) :
    bodyText f =
      "\x7b\n" ++ statementBlock (f.outerLocals.map (·.statement)) 1 ++ "\n" ++
      "\twhile (i < n)\n" ++
      "\t\x7b\n" ++ statementBlock (f.innerLocals.map (·.statement)) 2 ++
      "\t\toutput[i] = " ++ f.uniqueName ++ "(" ++ ", ".intercalate f.callArgs ++ ");\n" ++
      "\t\ti += gridSize;\n" ++
      "\t\x7d\n" ++
      "\x7d\n" := by
  have hfixed : statementBlock ([⟨"size_t", "i", "get_global_id(0)"⟩,
      ⟨"size_t", "gridSize", "get_local_size(0) * get_num_groups(0)"⟩].map
        KernelLocal.statement) 1 = "\tsize_t i = get_global_id(0);\n" ++
          "\tsize_t gridSize = get_local_size(0) * get_num_groups(0);\n" := by
    decide
  rw [UserFunction.outerLocals, List.map_append, statementBlock_append, hfixed,
    f.map_statement_outerProxies, UserFunction.innerLocals, List.map_append, statementBlock_append,
    f.map_statement_indexLocals, f.map_statement_innerProxies]
  unfold bodyText
  simp only [String.append_assoc, -String.reduceAppend]

/-! ## Names that are made up -/

namespace ContainerKind

/-- The fields for which a container has a kernel parameter. -/
def fields (k : ContainerKind) : List String :=
  "data" :: k.indexFields ++ k.sizeFields

/-- The dimensions of a tensor, which are part of the names of its sizes. -/
def dimensions : ContainerKind → List String
  | tensor3 => ["i", "j", "k"]
  | tensor4 => ["i", "j", "k", "l"]
  | _ => []

/-- The list of kinds is complete. -/
theorem mem_all (k : ContainerKind) : k ∈ all := by
  cases k <;> decide

/-- The fields of a kind are different. -/
theorem nodup_fields (k : ContainerKind) : k.fields.Nodup := by
  cases k <;> decide

/-- A tensor has a size for each of its dimensions. -/
theorem mem_fields_of_mem_dimensions {k : ContainerKind} {d : String} (hd : d ∈ k.dimensions) :
    "size" ++ "_" ++ d ∈ k.fields := by
  have hall : ∀ k ∈ all, ∀ d ∈ k.dimensions, "size" ++ "_" ++ d ∈ k.fields := by decide
  exact hall k k.mem_all d hd

/-- A field continues another behind an underscore only if one is the size of a vector and the other
one of the sizes of a tensor. -/
theorem dimension_of_fields {k k' : ContainerKind} {field d : String} (hfield : field ∈ k.fields)
    (hfield' : field ++ "_" ++ d ∈ k'.fields) :
    k = .vector ∧ field = "size" ∧ d ∈ k'.dimensions := by
  -- There are eleven fields, of which only one goes on behind an underscore as others do.
  have hall : ∀ k ∈ all, ∀ k' ∈ all, ∀ field ∈ k.fields, ∀ field' ∈ k'.fields,
      (field ++ "_").toList.isPrefixOf field'.toList = true →
      k = .vector ∧ field = "size" ∧ ∃ d ∈ k'.dimensions, field' = field ++ "_" ++ d := by
    decide
  obtain ⟨hk, hsize, d', hd', heq⟩ := hall k k.mem_all k' k'.mem_all field hfield _ hfield'
    (by simp)
  obtain rfl : d = d' := by simpa using heq
  exact ⟨hk, hsize, hd'⟩

end ContainerKind

/-- A made-up name is the prefix, the field, an underscore and the name of the container. -/
theorem toList_fieldParam (field name : String) :
    (fieldParam field name).toList =
      Identifier.reservedPrefix.toList ++ (field.toList ++ '_' :: name.toList) := by
  simp [fieldParam, String.toList_append]

/-- A name that is made up is kept for the generator. -/
theorem isReserved_fieldParam (field name : String) :
    Identifier.isReserved (fieldParam field name) = true := by
  simp [Identifier.isReserved, toList_fieldParam]

/-- The prefix ends in an underscore, and the name of the container follows another one. -/
theorem two_le_count_fieldParam (field name : String) :
    2 ≤ (fieldParam field name).toList.count '_' := by
  have hprefix : Identifier.reservedPrefix.toList.count '_' = 1 := by decide
  rw [toList_fieldParam, List.count_append, List.count_append, List.count_cons_self, hprefix]
  omega

/-- If the one field goes on where the other ends, either it ends there too, or its rest is the
beginning of the other name. -/
theorem cases_of_fields {field field' name name' : String} {rest : List Char}
    (hfield : field'.toList = field.toList ++ rest)
    (hname : '_' :: name.toList = rest ++ '_' :: name'.toList) :
    (field = field' ∧ name = name') ∨
      ∃ d, field' = field ++ "_" ++ d ∧ name = d ++ "_" ++ name' := by
  cases rest with
  | nil =>
    refine .inl ⟨String.toList_inj.1 ?_, String.toList_inj.1 ?_⟩
    · simpa using hfield.symm
    · simpa using hname
  | cons c rest =>
    obtain ⟨rfl, hname⟩ := List.cons.inj hname
    refine .inr ⟨String.ofList rest, String.toList_inj.1 ?_, String.toList_inj.1 ?_⟩
    · simpa using hfield
    · simpa using hname

/-- A name that is made up can be read in two ways only if one field continues the other behind an
underscore. -/
theorem cases_of_fieldParam_eq {field field' name name' : String}
    (h : fieldParam field name = fieldParam field' name') :
    (field = field' ∧ name = name') ∨
    (∃ d, field' = field ++ "_" ++ d ∧ name = d ++ "_" ++ name') ∨
    ∃ d, field = field' ++ "_" ++ d ∧ name' = d ++ "_" ++ name := by
  have hchars := congrArg String.toList h
  rw [toList_fieldParam, toList_fieldParam, List.append_cancel_left_eq] at hchars
  rcases List.append_eq_append_iff.1 hchars with ⟨rest, hfield, hname⟩ | ⟨rest, hfield, hname⟩
  · rcases cases_of_fields hfield hname with hsame | hlonger
    · exact .inl hsame
    · exact .inr (.inl hlonger)
  · rcases cases_of_fields hfield hname with ⟨rfl, rfl⟩ | hlonger
    · exact .inl ⟨rfl, rfl⟩
    · exact .inr (.inr hlonger)

namespace ContainerParam

/-- The names of the kernel parameters of a container. -/
def fieldParams (p : ContainerParam) : List String :=
  p.kind.fields.map (fieldParam · p.name)

/-- The slots of a container are named as its fields are. -/
theorem map_name_slots (p : ContainerParam) : p.slots.map Slot.name = p.fieldParams := by
  simp [slots, fieldParams, ContainerKind.fields, Slot.name, Function.comp_def]

/-- The fields of one container have different names. -/
theorem nodup_fieldParams (p : ContainerParam) : p.fieldParams.Nodup :=
  p.kind.nodup_fields.map fun field field' h => by simpa [fieldParam] using h

/-- A vector clashes with a tensor if its name is a dimension and the name of the tensor, with an
underscore between them. -/
def ClashesWith (v t : ContainerParam) : Prop :=
  v.kind = .vector ∧ ∃ d ∈ t.kind.dimensions, v.name = d ++ "_" ++ t.name

/-- A container does not clash with itself, since its fields are different. -/
theorem not_clashesWith_self (p : ContainerParam) : ¬ p.ClashesWith p := by
  rintro ⟨hkind, d, hd, -⟩
  rw [hkind] at hd
  cases hd

/-- The size of the vector has the name of a size of the tensor. -/
theorem ClashesWith.exists_mem {v t : ContainerParam} (h : v.ClashesWith t) :
    ∃ name, name ∈ v.fieldParams ∧ name ∈ t.fieldParams := by
  obtain ⟨hkind, d, hd, hname⟩ := h
  refine ⟨fieldParam "size" v.name, List.mem_map_of_mem ?_, List.mem_map.2 ⟨"size" ++ "_" ++ d,
    ContainerKind.mem_fields_of_mem_dimensions hd, ?_⟩⟩
  · rw [hkind]
    decide
  · rw [hname, fieldParam, fieldParam]
    simp only [String.append_assoc, -String.reduceAppend]

/-- Two containers of different names have no kernel parameter of one name exactly if neither
clashes with the other. -/
theorem disjoint_fieldParams_iff {p q : ContainerParam} (hne : p.name ≠ q.name) :
    List.Disjoint p.fieldParams q.fieldParams ↔ ¬ p.ClashesWith q ∧ ¬ q.ClashesWith p := by
  constructor
  · intro hdisjoint
    refine ⟨fun h => ?_, fun h => ?_⟩
    · obtain ⟨name, hp, hq⟩ := h.exists_mem
      exact hdisjoint hp hq
    · obtain ⟨name, hq, hp⟩ := h.exists_mem
      exact hdisjoint hp hq
  · rintro ⟨hpq, hqp⟩ name hp hq
    obtain ⟨field, hfield, rfl⟩ := List.mem_map.1 hp
    obtain ⟨field', hfield', heq⟩ := List.mem_map.1 hq
    -- Where one field continues the other, the rest of it is a dimension of a tensor.
    rcases cases_of_fieldParam_eq heq with ⟨-, hsame⟩ | ⟨d, rfl, hname⟩ | ⟨d, rfl, hname⟩
    · exact hne hsame.symm
    · obtain ⟨hkind, -, hd⟩ := ContainerKind.dimension_of_fields hfield' hfield
      exact hqp ⟨hkind, d, hd, hname⟩
    · obtain ⟨hkind, -, hd⟩ := ContainerKind.dimension_of_fields hfield hfield'
      exact hpq ⟨hkind, d, hd, hname⟩

/-- The kernel parameters of containers of different names have different names exactly if no two
containers clash. -/
theorem nodup_flatMap_fieldParams_iff {params : List ContainerParam}
    (hnames : (params.map (·.name)).Nodup) :
    (params.flatMap (·.fieldParams)).Nodup ↔
      ∀ v ∈ params, ∀ t ∈ params, ¬ v.ClashesWith t := by
  have hpair : params.Pairwise (fun p q => p.name ≠ q.name) := List.pairwise_map.1 hnames
  rw [List.nodup_flatMap]
  constructor
  · rintro ⟨-, hdisjoint⟩ v hv t ht
    by_cases hvt : v = t
    · rw [hvt]
      exact t.not_clashesWith_self
    · have hapart : params.Pairwise (fun p q => ¬ p.ClashesWith q ∧ ¬ q.ClashesWith p) :=
        (hpair.and hdisjoint).imp fun h => (disjoint_fieldParams_iff h.1).1 h.2
      have : Std.Symm (fun p q : ContainerParam => ¬ p.ClashesWith q ∧ ¬ q.ClashesWith p) :=
        ⟨fun _ _ h => h.symm⟩
      exact (hapart.forall hv ht hvt).1
  · intro h
    exact ⟨fun p _ => p.nodup_fieldParams, hpair.imp_of_mem fun hp hq hne =>
      (disjoint_fieldParams_iff hne).2 ⟨h _ hp _ hq, h _ hq _ hp⟩⟩

end ContainerParam

/-! ## The names in a kernel -/

namespace UserFunction

/-- The names that a kernel declares: its parameters, and its locals in front of the loop and in
it. -/
def kernelNames (f : UserFunction) : List String :=
  (Signature.slots ⟨f.slots, f.returnType⟩).map Slot.name ++ f.outerLocals.map (·.name) ++
    f.innerLocals.map (·.name)

/-- The names that are declared in every kernel. -/
def fixedNames : List String :=
  ["output", "w", "n", "Vsize", "Hsize", "base", "i", "gridSize"]

/-- The user's names in a kernel. -/
def userNames (f : UserFunction) : List String :=
  f.elementwise.map (·.name) ++ f.containers.map (·.name) ++ f.scalars.map (·.name)

/-- A kernel declares the user's names, those that are made up for the containers, those of every
kernel, and the index. -/
theorem perm_kernelNames (f : UserFunction) :
    f.kernelNames.Perm (f.userNames ++ f.containers.flatMap (·.fieldParams) ++ fixedNames ++
      f.indexLocals.map (·.name)) := by
  have hslots : f.slots.map Slot.name = f.elementwise.map (·.name) ++
      f.containers.flatMap (·.fieldParams) ++ f.scalars.map (·.name) := by
    rw [slots, ParamLists.slots_assemble, argumentSlots]
    simp only [List.map_append, List.map_map, List.map_flatMap, ContainerParam.map_name_slots]
    rfl
  -- Every container has its proxy in front of the loop or in it.
  have hplaces : (f.containers.filter (·.placement == .beforeLoop) ++
      f.containers.filter (·.placement == .perIteration)).Perm f.containers := by
    have hother : (fun p : ContainerParam => p.placement == .perIteration) =
        fun p => !p.placement == .beforeLoop := by
      funext p
      cases p.placement <;> rfl
    rw [hother]
    exact List.filter_append_perm _ _
  have hlocals (ps : List ContainerParam) :
      (ps.map (·.proxyLocal)).map (·.name) = ps.map (·.name) := by
    rw [List.map_map]
    rfl
  -- Both sides have every name as often.
  refine List.perm_iff_count.2 fun x => ?_
  have hx := (hplaces.map (·.name)).count_eq x
  simp only [kernelNames, userNames, fixedNames, outerLocals, innerLocals, Signature.slots_eq,
    launchSizes, hslots, hlocals, List.map_append, List.count_append, List.map_cons, List.map_nil,
    Slot.name, List.count_cons, List.count_nil] at hx ⊢
  omega

/-- The other names in a kernel are pairwise different. They are kept for the generator, and have
fewer underscores than those that are made up. -/
theorem fixedNames_append_indexLocals (f : UserFunction) :
    (fixedNames ++ f.indexLocals.map (·.name)).Nodup ∧
      ∀ name ∈ fixedNames ++ f.indexLocals.map (·.name),
        Identifier.isReserved name = true ∧ name.toList.count '_' ≤ 1 := by
  have hindex : f.indexLocals.map (·.name) = [] ∨ f.indexLocals.map (·.name) = ["skel_index"] := by
    unfold indexLocals
    cases f.indexing with
    | none => exact .inl rfl
    | linear => exact .inr rfl
    | rowCol => exact .inr rfl
  rcases hindex with hindex | hindex <;> rw [hindex] <;> decide

/-- If the user's names are pairwise different and not kept for the generator, the names in the
kernel are pairwise different exactly if no two containers clash. -/
theorem nodup_kernelNames_iff {f : UserFunction} (hnodup : f.userNames.Nodup)
    (hfree : ∀ name ∈ f.userNames, Identifier.isReserved name = false) :
    f.kernelNames.Nodup ↔ ∀ v ∈ f.containers, ∀ t ∈ f.containers, ¬ v.ClashesWith t := by
  have hcontainers : (f.containers.map (·.name)).Nodup :=
    (List.nodup_append.1 (List.nodup_append.1 hnodup).1).2.1
  obtain ⟨hothers, hname⟩ := f.fixedNames_append_indexLocals
  have hmade : ∀ name ∈ f.containers.flatMap (·.fieldParams),
      Identifier.isReserved name = true ∧ 2 ≤ name.toList.count '_' := by
    intro name hmem
    obtain ⟨p, -, hp⟩ := List.mem_flatMap.1 hmem
    obtain ⟨field, -, rfl⟩ := List.mem_map.1 hp
    exact ⟨isReserved_fieldParam field p.name, two_le_count_fieldParam field p.name⟩
  rw [f.perm_kernelNames.nodup_iff, ← ContainerParam.nodup_flatMap_fieldParams_iff hcontainers,
    List.append_assoc, List.append_assoc, List.nodup_append, List.nodup_append]
  constructor
  · rintro ⟨-, ⟨hfields, -, -⟩, -⟩
    exact hfields
  · intro hfields
    refine ⟨hnodup, ⟨hfields, hothers, ?_⟩, ?_⟩
    · -- A name that is made up has one underscore more than the others.
      rintro name hfield _ hother rfl
      have := (hmade name hfield).2
      have := (hname name hother).2
      omega
    · -- The user's names are the only ones that are not kept for the generator.
      rintro name huser _ hother rfl
      have hkept : Identifier.isReserved name = true := by
        rcases List.mem_append.1 hother with hfield | hother
        · exact (hmade name hfield).1
        · exact (hname name hother).1
      rw [hfree name huser] at hkept
      cases hkept

end UserFunction

namespace MetadataGraph

/-- Assigning the sides keeps the names of the parameters. -/
theorem map_name_assignSides (varity : Nat) (params : List ElementParam) :
    (assignSides varity params).map (·.name) = params.map (·.name) := by
  apply List.ext_getElem?
  intro k
  simp [assignSides, Function.comp_def]

/-- The user's names in the kernel of a bound function are among the parameter names that were
validated. -/
theorem Valid.userNames_of_bind {g : MetadataGraph} {allowed : List String} {i : Instantiation}
    {f : UserFunction} (hg : g.Valid allowed) (hskel : i.skeleton = .mapPairs)
    (hbind : g.bind i = .ok f) :
    f.userNames.Nodup ∧ ∀ name ∈ f.userNames, Identifier.isReserved name = false := by
  have hpaired : i.skeleton.isPaired = true := by rw [hskel]; rfl
  obtain ⟨f₀, hfind, -, -, rfl⟩ := (bind_eq_ok_iff hpaired).1 hbind
  obtain ⟨hnodup, hfree⟩ := hg.paramNames (mem_of_function? hfind)
  -- Only the name of the index does not come into the kernel.
  have hparams : f₀.paramNames = (if f₀.isIndexed then [f₀.indexParam] else []) ++
      UserFunction.userNames { f₀ with
        elementwise := assignSides i.varity.toNat f₀.elementwise } := by
    simp only [UserFunction.paramNames, UserFunction.userNames, map_name_assignSides,
      List.append_assoc]
  rw [hparams] at hnodup hfree
  exact ⟨hnodup.sublist (List.sublist_append_right _ _),
    fun name hname => hfree name (List.mem_append_right _ hname)⟩

end MetadataGraph

/-- The names in the kernel of a cross product over valid metadata. The kernel declares the slots of
its signature, its locals in front of the loop and those in it. Their names are the user's, those
that are made up for the fields of the containers, those of every kernel and that of the index. They
are pairwise different exactly if there is no vector whose name is a dimension of a tensor, an
underscore and the name of that tensor. -/
theorem lower_names_distinct_iff {g : MetadataGraph} {allowed : List String} {i : Instantiation}
    {r : LoweringRequest} {a : Artifact} (hvalid : g.validate allowed = .ok [])
    (hskel : i.skeleton = .mapPairs) (hbind : g.bind i = .ok r.function)
    (h : Artifact.lower g r = .ok a) :
    let f := r.function
    let names := a.signature.slots.map Slot.name ++ f.outerLocals.map (·.name) ++
      f.innerLocals.map (·.name)
    (∃ definitions, a.kernelSource = definitions ++
      ("__kernel void " ++ r.names.kernel ++ "(" ++
      ", ".intercalate (a.signature.slots.map Slot.kernelParam) ++ ")\n" ++
      ("\x7b\n" ++ statementBlock (f.outerLocals.map (·.statement)) 1 ++ "\n" ++
      "\twhile (i < n)\n" ++
      "\t\x7b\n" ++ statementBlock (f.innerLocals.map (·.statement)) 2 ++
      "\t\toutput[i] = " ++ f.uniqueName ++ "(" ++ ", ".intercalate f.callArgs ++ ");\n" ++
      "\t\ti += gridSize;\n" ++
      "\t\x7d\n" ++
      "\x7d\n"))) ∧
    names.Perm (f.elementwise.map (·.name) ++ f.containers.map (·.name) ++
      f.scalars.map (·.name) ++
      f.containers.flatMap (fun p => ("data" :: p.kind.indexFields ++ p.kind.sizeFields).map
        fun field => "skel_" ++ field ++ "_" ++ p.name) ++
      ["output", "w", "n", "Vsize", "Hsize", "base", "i", "gridSize"] ++
      if f.isIndexed then ["skel_index"] else []) ∧
    (names.Nodup ↔ ∀ v ∈ f.containers, v.kind = .vector → ∀ t ∈ f.containers,
      ∀ d ∈ t.kind.dimensions, v.name ≠ d ++ "_" ++ t.name) := by
  obtain ⟨-, source, delim, htext, -, rfl⟩ := Artifact.lower_eq_ok_iff.1 h
  obtain ⟨callees, types, -, -, rfl⟩ := KernelSource.text_eq_ok_iff.1 htext
  obtain ⟨hnodup, hfree⟩ :=
    (MetadataGraph.validate_eq_nil_iff.1 hvalid).userNames_of_bind hskel hbind
  have hindex : r.function.indexLocals.map (·.name) =
      if r.function.isIndexed then ["skel_index"] else [] := by
    unfold UserFunction.indexLocals UserFunction.isIndexed
    cases r.function.indexing <;> rfl
  rw [Artifact.kernelSource_ofSource, Artifact.signature_ofSource]
  refine ⟨⟨KernelSource.definitionsText g r.function callees types r.preserveLines, ?_⟩, ?_, ?_⟩
  · rw [kernelText_eq, KernelSource.bodyText_eq]
  · rw [← hindex]
    exact r.function.perm_kernelNames
  · refine (UserFunction.nodup_kernelNames_iff hnodup hfree).trans ?_
    constructor
    · intro hclash v hv hkind t ht d hd hname
      exact hclash v hv t ht ⟨hkind, d, hd, hname⟩
    · rintro hnone v hv t ht ⟨hkind, d, hd, hname⟩
      exact hnone v hv hkind t ht d hd hname

/-- A type without dependencies. -/
def sampleType : UserType :=
  ⟨"row_float", "typedef float row_float;", []⟩

/-- A function of two elementwise parameters with some containers, which refers to the type or to
none. -/
def sampleCross (containers : List ContainerParam) (typed : Bool) : UserFunction where
  name := "f"
  uniqueName := "f"
  returnType := "float"
  elementwise := [⟨"a", "float", .vertical⟩, ⟨"b", "float", .horizontal⟩]
  containers := containers
  referencedTypes := if typed then [sampleType.name] else []
  body := "return a;"

/-- The function with its cross product, the type that it refers to, and some constants. -/
def sampleCrosses (containers : List ContainerParam) (typed : Bool)
    (constants : List UserConstant) : MetadataGraph where
  functions := [sampleCross containers typed]
  types := if typed then [sampleType] else []
  constants := constants
  instantiations := [⟨.mapPairs, "f", 1, 1⟩]
  functions_nodup := List.nodup_singleton _
  types_nodup := by cases typed <;> simp

/-- The request for the cross product. -/
def sampleCrossRequest (containers : List ContainerParam) (typed : Bool) : LoweringRequest where
  skeleton := .mapPairs
  function := sampleCross containers typed
  shape := ⟨1, 1⟩
  names := ⟨"k", "Wrapper_k"⟩
  outputDir := "out"
  preserveLines := false

section SampleCrosses

variable (containers : List ContainerParam) (typed : Bool) (constants : List UserConstant)

/-- The cross product binds to its function, whatever it carries along. -/
theorem bind_sampleCrosses :
    (sampleCrosses containers typed constants).bind ⟨.mapPairs, "f", 1, 1⟩ =
      .ok (sampleCross containers typed) := by
  cbv

/-- The function of the cross product calls nothing. -/
theorem callees_sampleCrosses :
    (sampleCrosses containers typed constants).callees (sampleCross containers typed) =
      .ok [] := by
  cbv

/-- The function needs the type that it refers to, and no other. -/
theorem typesFor_sampleCrosses :
    (sampleCrosses containers typed constants).typesFor (sampleCross containers typed) =
      .ok (if typed then [sampleType] else []) := by
  cases typed <;> cbv

/-- Validation looks at the names of the parameters and of the constants only. -/
theorem validate_sampleCrosses
    (hparams : MetadataGraph.paramErrors "f" [] ("a" :: "b" :: containers.map (·.name)) = [])
    (hconstants : ∀ c ∈ constants, Identifier.isValid c.name = true) :
    (sampleCrosses containers typed constants).validate [] = .ok [] := by
  refine MetadataGraph.validate_eq_nil_iff.2 ⟨?_, hconstants, ?_, ?_⟩
  · exact MetadataGraph.errorOf_eq_nil_iff.1 (by cases typed <;> cbv)
  · intro f hf
    obtain rfl := List.mem_singleton.1 hf
    have hnames : (sampleCross containers typed).paramNames =
        "a" :: "b" :: containers.map (·.name) := List.append_nil _
    simp only [MetadataGraph.functionErrors, List.append_eq_nil_iff, hnames]
    exact ⟨⟨⟨if_pos (show Identifier.isValid "f" = true by decide), hparams⟩,
      by cases typed <;> rfl⟩, rfl⟩
  · intro i hi
    obtain rfl := List.mem_singleton.1 hi
    exact ⟨_, _, bind_sampleCrosses containers typed constants,
      callees_sampleCrosses containers typed constants⟩

end SampleCrosses

/-- A vector and a tensor. -/
def sampleContainers (vector tensor : String) : List ContainerParam :=
  [⟨vector, "float", .vector⟩, ⟨tensor, "float", .tensor3⟩]

/-- The function with a vector and a tensor. -/
def sampleTensor (vector tensor : String) : UserFunction :=
  sampleCross (sampleContainers vector tensor) false

/-- The function with its cross product. -/
def sampleTensors (vector tensor : String) : MetadataGraph :=
  sampleCrosses (sampleContainers vector tensor) false []

/-- The request for the cross product. -/
def sampleTensorRequest (vector tensor : String) : LoweringRequest :=
  sampleCrossRequest (sampleContainers vector tensor) false

/-- A vector may well have an underscore and a dimension in its name. -/
theorem lower_names_distinct_iff_sample :
    ∃ a, Artifact.lower (sampleTensors "i_x" "y") (sampleTensorRequest "i_x" "y") = .ok a ∧
      (a.signature.slots.map Slot.name ++ (sampleTensor "i_x" "y").outerLocals.map (·.name) ++
        (sampleTensor "i_x" "y").innerLocals.map (·.name)).Nodup := by
  have hvalid : (sampleTensors "i_x" "y").validate [] = .ok [] :=
    validate_sampleCrosses _ _ _ (by decide) (by simp)
  have hlower := Artifact.lower_of_no_quote (g := sampleTensors "i_x" "y")
    (r := sampleTensorRequest "i_x" "y") rfl (callees_sampleCrosses _ _ _)
    (typesFor_sampleCrosses _ _ _) (by decide +kernel)
  have hbind : (sampleTensors "i_x" "y").bind ⟨.mapPairs, "f", 1, 1⟩ =
      .ok (sampleTensorRequest "i_x" "y").function := bind_sampleCrosses _ _ _
  obtain ⟨-, -, hnames⟩ := lower_names_distinct_iff hvalid rfl hbind hlower
  exact ⟨_, hlower, hnames.2 (by decide)⟩

/-- A vector and a tensor whose names are validated, and whose sizes have one name in the kernel. -/
theorem lower_names_clash :
    (sampleTensors "i_x" "x").validate [] = .ok [] ∧
    (sampleTensors "i_x" "x").bind ⟨.mapPairs, "f", 1, 1⟩ = .ok (sampleTensor "i_x" "x") ∧
    ∃ a, Artifact.lower (sampleTensors "i_x" "x") (sampleTensorRequest "i_x" "x") = .ok a ∧
      ¬ (a.signature.slots.map Slot.name ++ (sampleTensor "i_x" "x").outerLocals.map (·.name) ++
        (sampleTensor "i_x" "x").innerLocals.map (·.name)).Nodup := by
  have hlower := Artifact.lower_of_no_quote (g := sampleTensors "i_x" "x")
    (r := sampleTensorRequest "i_x" "x") rfl (callees_sampleCrosses _ _ _)
    (typesFor_sampleCrosses _ _ _) (by decide +kernel)
  refine ⟨validate_sampleCrosses _ _ _ (by decide) (by simp), bind_sampleCrosses _ _ _, _,
    hlower, ?_⟩
  rw [Artifact.signature_ofSource]
  decide

end KernelGen
