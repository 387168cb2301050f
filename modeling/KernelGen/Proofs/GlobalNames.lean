import KernelGen.Proofs.DefinitionOrder
import KernelGen.Proofs.KernelScope

/-!
# Global names and the names in a kernel

In front of the kernel stand definitions under names that the user has chosen: a macro for each
constant, and the functions under the names by which they are called. Validation compares the
parameters with the names that the generator uses in the kernel, and the constants and functions
with nothing. A constant `n` passes, and takes the place of the bound of the loop.

* `Block.globalName?`, `Block.defines_of_globalName?`, `KernelSource.filterMap_globalName?_blocks`:
  the names that the blocks of a kernel source define for the user.
* `KernelSource.mem_globalNames_iff`: which names these are, in terms of the metadata.
* `UserFunction.mem_kernelNames_iff`: the names that a kernel declares.
* `UserFunction.disjoint_kernelNames_of_free`: names that would pass for parameters of the function,
  had it no such parameter, do not meet those in the kernel.
-/

namespace KernelGen

open Relation (ReflTransGen)

/-! ## Names in front of the kernel -/

/-- The name that a block defines for the user: that of a macro or that of a function. -/
def Block.globalName? : Block → Option String
  | constant c => some c.name
  | function name _ => some name
  | _ => none

/-- The text of the block has the definition of that name in it. -/
theorem Block.defines_of_globalName? {b : Block} {name : String} (h : b.globalName? = some name)
    (preserveLines : Bool) : b.Defines preserveLines name := by
  cases b with
  | constant c =>
    obtain rfl := Option.some.inj h
    exact defines_constant c
  | function own f =>
    obtain rfl := Option.some.inj h
    exact defines_function own f
  | _ => cases h

namespace KernelSource

variable {g : MetadataGraph} {f : UserFunction} {callees : List Callee}

/-- The blocks define the constants, the functions that are called and the function itself. -/
theorem filterMap_globalName?_blocks (wantsDouble : Bool) (constants : List UserConstant)
    (types : List UserType) (keys : List ProxyKey) (callees : List Callee) (f : UserFunction)
    (kernel : String) :
    (blocks wantsDouble constants types keys callees f kernel).filterMap Block.globalName? =
      constants.map (·.name) ++ callees.map (·.name) ++ [f.uniqueName] := by
  -- The two parts that are not always there define nothing.
  cases wantsDouble <;> cases constants <;>
    simp [blocks, Block.globalName?, List.filterMap_cons, Function.comp_def]

/-- A name is defined if it is that of a constant or of the function, or if a function that is
reached calls a user function by it. -/
theorem mem_globalNames_iff (h : g.callees f = .ok callees) {name : String} :
    name ∈ g.constants.map (·.name) ++ callees.map (·.name) ++ [f.uniqueName] ↔
      (∃ c ∈ g.constants, c.name = name) ∨ name = f.uniqueName ∨
        (g.resolveCall? name).isSome ∧ ∃ k, ReflTransGen g.Calls f k ∧ name ∈ k.calls := by
  rw [List.mem_append, List.mem_append, List.mem_map, MetadataGraph.mem_names_callees_iff h,
    List.mem_singleton, or_assoc]
  exact or_congr_right or_comm

end KernelSource

/-! ## Names in the kernel -/

namespace UserFunction

/-- The index is the only local that not every kernel has. -/
theorem map_name_indexLocals (f : UserFunction) :
    f.indexLocals.map (·.name) = if f.isIndexed then ["skel_index"] else [] := by
  unfold indexLocals isIndexed
  cases f.indexing <;> rfl

/-- A kernel declares the user's names, those that are made up for the containers, those of every
kernel and the index. -/
theorem mem_kernelNames_iff {f : UserFunction} {name : String} :
    name ∈ f.kernelNames ↔
      name ∈ f.userNames ∨
        (∃ p ∈ f.containers, ∃ field ∈ p.kind.fields, name = fieldParam field p.name) ∨
        name ∈ fixedNames ∨ (f.isIndexed = true ∧ name = "skel_index") := by
  have hindex : name ∈ (if f.isIndexed then ["skel_index"] else []) ↔
      f.isIndexed = true ∧ name = "skel_index" := by
    cases f.isIndexed <;> simp
  rw [f.perm_kernelNames.mem_iff, map_name_indexLocals]
  simp only [List.mem_append, List.mem_flatMap, ContainerParam.fieldParams, List.mem_map, hindex,
    eq_comm (b := name), or_assoc]

/-- All but the user's names are kept for the generator. -/
theorem isReserved_of_mem_kernelNames {f : UserFunction} {name : String} (h : name ∈ f.kernelNames)
    (huser : name ∉ f.userNames) : Identifier.isReserved name = true := by
  rcases mem_kernelNames_iff.1 h with h | ⟨p, -, field, -, rfl⟩ | h | ⟨-, rfl⟩
  · exact absurd h huser
  · exact isReserved_fieldParam field p.name
  · exact (f.fixedNames_append_indexLocals.2 name (List.mem_append_left _ h)).1
  · decide

/-- The names that a kernel takes over are those of parameters. -/
theorem mem_paramNames_of_mem_userNames {f : UserFunction} {name : String}
    (h : name ∈ f.userNames) : name ∈ f.paramNames := by
  -- The parameters are these names and the index.
  rw [paramNames, List.append_assoc, List.append_assoc,
    ← List.append_assoc (f.elementwise.map _)]
  exact List.mem_append_right _ h

/-- Names that are not kept for the generator and are no parameters do not meet those in the
kernel. -/
theorem disjoint_kernelNames_of_free {f : UserFunction} {names : List String}
    (h : ∀ name ∈ names, Identifier.isReserved name = false ∧ name ∉ f.paramNames) :
    List.Disjoint names f.kernelNames := by
  apply List.disjoint_left.2
  intro name hname hkernel
  obtain ⟨hfree, hparam⟩ := h name hname
  have huser : name ∉ f.userNames := fun huser => hparam (mem_paramNames_of_mem_userNames huser)
  rw [isReserved_of_mem_kernelNames hkernel huser] at hfree
  cases hfree

end UserFunction

/-- The user's global names and the names in the kernel. A kernel source is the texts of its blocks,
of which the last is the kernel with its parameters and locals. The names that the texts of the
other blocks define for the user are those of the constants, that of the function, and those by
which functions that are reached call user functions. None of them is declared in the kernel exactly
if none is the name of a parameter that the kernel takes over, a name of every kernel, that of an
index that is there, or one that is made up for a field of a container. It is enough that all of
them are names that the generator does not keep for itself and that are no parameters of the
function. -/
theorem lower_globals_not_captured_iff {g : MetadataGraph} {r : LoweringRequest} {a : Artifact}
    (h : Artifact.lower g r = .ok a) :
    let f := r.function
    let names := a.signature.slots.map Slot.name ++ f.outerLocals.map (·.name) ++
      f.innerLocals.map (·.name)
    ∃ blocks : List Block,
      a.kernelSource = String.join (blocks.map (Block.text r.preserveLines)) ∧
      blocks.getLast? = some (.kernel r.names.kernel f) ∧
      (Block.kernel r.names.kernel f).text r.preserveLines =
        "__kernel void " ++ r.names.kernel ++ "(" ++
        ", ".intercalate (a.signature.slots.map Slot.kernelParam) ++ ")\n" ++
        ("\x7b\n" ++ statementBlock (f.outerLocals.map (·.statement)) 1 ++ "\n" ++
        "\twhile (i < n)\n" ++
        "\t\x7b\n" ++ statementBlock (f.innerLocals.map (·.statement)) 2 ++
        "\t\toutput[i] = " ++ f.uniqueName ++ "(" ++ ", ".intercalate f.callArgs ++ ");\n" ++
        "\t\ti += gridSize;\n" ++
        "\t\x7d\n" ++
        "\x7d\n") ∧
      (∀ (b : Block) (name : String),
        b.globalName? = some name → b.Defines r.preserveLines name) ∧
      let globals := blocks.filterMap Block.globalName?
      (∀ name, name ∈ globals ↔
        (∃ c ∈ g.constants, c.name = name) ∨ name = f.uniqueName ∨
          (g.resolveCall? name).isSome ∧ ∃ k, ReflTransGen g.Calls f k ∧ name ∈ k.calls) ∧
      (List.Disjoint globals names ↔ ∀ name ∈ globals,
        name ∉ f.elementwise.map (·.name) ++ f.containers.map (·.name) ++ f.scalars.map (·.name) ∧
        (∀ p ∈ f.containers, ∀ field ∈ "data" :: p.kind.indexFields ++ p.kind.sizeFields,
          name ≠ "skel_" ++ field ++ "_" ++ p.name) ∧
        name ∉ ["output", "w", "n", "Vsize", "Hsize", "base", "i", "gridSize"] ∧
        (f.isIndexed = true → name ≠ "skel_index")) ∧
      ((∀ name ∈ globals, Identifier.isReserved name = false ∧ name ∉ f.paramNames) →
        List.Disjoint globals names) := by
  obtain ⟨-, source, delim, htext, -, rfl⟩ := Artifact.lower_eq_ok_iff.1 h
  obtain ⟨callees, types, hcallees, -, rfl⟩ := KernelSource.text_eq_ok_iff.1 htext
  rw [Artifact.kernelSource_ofSource, Artifact.signature_ofSource]
  dsimp only
  refine ⟨_, (KernelSource.join_blocks g r.function callees types _ _).symm, ?_, ?_,
    fun _ _ hname => Block.defines_of_globalName? hname _, ?_, ?_, ?_⟩
  · exact List.getLast?_concat
  · rw [Block.text_kernel, kernelText_eq, KernelSource.bodyText_eq]
  · intro name
    rw [KernelSource.filterMap_globalName?_blocks]
    exact KernelSource.mem_globalNames_iff hcallees
  · rw [List.disjoint_left]
    refine forall₂_congr fun name _ => (not_congr UserFunction.mem_kernelNames_iff).trans ?_
    simp only [not_or, not_exists, not_and]
    rfl
  · exact UserFunction.disjoint_kernelNames_of_free

/-- The function with a vector and a tensor, its cross product, and a constant of some name. -/
def sampleConstants (name : String) : MetadataGraph :=
  sampleCrosses (sampleContainers "x" "y") false [⟨name, "int", "4"⟩]

/-- A constant with a capital letter for its name is not declared in the kernel. -/
theorem lower_globals_not_captured_iff_sample :
    ∃ a, Artifact.lower (sampleConstants "N") (sampleTensorRequest "x" "y") = .ok a ∧
      ∃ blocks : List Block,
        a.kernelSource = String.join (blocks.map (Block.text false)) ∧
        "N" ∈ blocks.filterMap Block.globalName? ∧
        List.Disjoint (blocks.filterMap Block.globalName?)
          (a.signature.slots.map Slot.name ++ (sampleTensor "x" "y").outerLocals.map (·.name) ++
            (sampleTensor "x" "y").innerLocals.map (·.name)) := by
  have hcallees : (sampleConstants "N").callees (sampleTensor "x" "y") = .ok [] :=
    callees_sampleCrosses _ _ _
  have hlower := Artifact.lower_of_no_quote (r := sampleTensorRequest "x" "y") rfl hcallees
    (typesFor_sampleCrosses _ _ _) (by decide +kernel)
  obtain ⟨blocks, htext, -, -, -, hglobals, -, hfree⟩ := lower_globals_not_captured_iff hlower
  have hmem : ∀ name ∈ blocks.filterMap Block.globalName?, name = "N" ∨ name = "f" := by
    intro name hname
    rcases (hglobals name).1 hname with ⟨c, hc, rfl⟩ | rfl | ⟨-, k, hk, hcall⟩
    · obtain rfl := List.mem_singleton.1 hc
      exact .inl rfl
    · exact .inr rfl
    · -- Nothing is called.
      rcases (MetadataGraph.exists_reached_iff (P := fun k => k.calls ≠ [])
        hcallees).1 ⟨k, hk, List.ne_nil_of_mem hcall⟩ with h | ⟨c, hc, -⟩
      · exact absurd rfl h
      · cases hc
  refine ⟨_, hlower, blocks, htext, (hglobals "N").2 (.inl ⟨_, List.mem_cons_self, rfl⟩),
    hfree fun name hname => ?_⟩
  rcases hmem name hname with rfl | rfl <;> decide

/-- A constant that is validated, and takes the place of the bound of the loop in the kernel. -/
theorem lower_constant_captured :
    (sampleConstants "n").validate [] = .ok [] ∧
    (sampleConstants "n").bind ⟨.mapPairs, "f", 1, 1⟩ = .ok (sampleTensor "x" "y") ∧
    ∃ a, Artifact.lower (sampleConstants "n") (sampleTensorRequest "x" "y") = .ok a ∧
      (∃ back, a.kernelSource = "#define n (4) // int\n" ++ back) ∧
      "n" ∈ a.signature.slots.map Slot.name := by
  have hlower := Artifact.lower_of_no_quote (g := sampleConstants "n")
    (r := sampleTensorRequest "x" "y") rfl (callees_sampleCrosses _ _ _)
    (typesFor_sampleCrosses _ _ _) (by decide +kernel)
  have hline : KernelSource.doublePart (sampleTensor "x" "y") [] ++
      KernelSource.constantPart (sampleConstants "n").constants =
        "#define n (4) // int\n" ++ "\n" := by
    decide
  refine ⟨validate_sampleCrosses _ _ _ (by decide) (by decide), bind_sampleCrosses _ _ _, _,
    hlower, ?_, ?_⟩
  · rw [Artifact.kernelSource_ofSource]
    unfold KernelSource.definitionsText
    rewrite [show (sampleTensorRequest "x" "y").function = sampleTensor "x" "y" from rfl, hline]
    simp only [String.append_assoc, -String.reduceAppend]
    exact ⟨_, rfl⟩
  · rw [Artifact.signature_ofSource]
    decide

end KernelGen
