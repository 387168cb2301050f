import KernelGen.Graph.Binding
import KernelGen.Proofs.ArgumentLists

/-!
# The call in the loop

The kernel calls a user function that is declared elsewhere in the same text. The arguments of the
call come from the pass over the parameters, their declaration from the function's own text, the
sides of the elementwise parameters from the binding of an instantiation, and the locals that the
call reads from initializers. Here all of them are brought to one list.

* `Passed`: one position of the call, with the parameter that receives it.
* `UserFunction.passed`: the positions of a call, by the number of vertical parameters.
* `bind_eq_ok_iff`: what a bound function of a paired skeleton is.
* `functionParams_eq`, `callArgs_eq_passed`: the declaration and the call list the positions.
* `KernelLocal`, `ContainerParam.proxyLocal`: a local of a kernel, and the one for a container.
* `declares_index`, `declares_initializer`: the locals that the call reads have the types of the
  parameters that receive them.
-/

namespace KernelGen

/-- One position of a call: the argument, and the parameter that receives it. -/
structure Passed where
  /-- The expression that is passed. -/
  argument : String
  /-- The type of the parameter. -/
  type : String
  /-- The name of the parameter. -/
  name : String
  deriving DecidableEq, Repr

/-- The declaration of the parameter. -/
def Passed.param (p : Passed) : String :=
  p.type ++ " " ++ p.name

/-- The position of an elementwise parameter: the first `varity` ones take the element of the row,
the others that of the column. -/
def ElementParam.passed (varity : Nat) (p : ElementParam) (k : Nat) : Passed :=
  ⟨p.name ++ if k < varity then "[i / Hsize]" else "[i % Hsize]", p.type, p.name⟩

/-- The position of a container: the local of the same name, which is its proxy. -/
def ContainerParam.passed (p : ContainerParam) : Passed :=
  ⟨p.name, (ProxyKey.of p).typeName, p.name⟩

/-- The position of a scalar. -/
def ScalarParam.passed (p : ScalarParam) : Passed :=
  ⟨p.name, p.type, p.name⟩

namespace UserFunction

/-- The position of the index, if a function has one. -/
def indexPassed (f : UserFunction) : List Passed :=
  match f.indexing with
  | .none => []
  | .linear => [⟨"skel_index", "index1_t", f.indexParam⟩]
  | .rowCol => [⟨"skel_index", "index2_t", f.indexParam⟩]

/-- The positions of a call: the index, the elementwise parameters, the containers, the scalars. -/
def passed (f : UserFunction) (varity : Nat) : List Passed :=
  f.indexPassed ++ (f.elementwise.zipIdx.map fun (p, k) => p.passed varity k) ++
    f.containers.map (·.passed) ++ f.scalars.map (·.passed)

end UserFunction

/-- A statement declares a variable of a type and gives it a value. -/
def Declares (statement type name : String) : Prop :=
  ∃ value, statement = type ++ " " ++ name ++ " = " ++ value ++ ";"

/-! ## Binding -/

namespace MetadataGraph

/-- Putting parameters on their sides keeps their number. -/
theorem length_assignSides (varity : Nat) (params : List ElementParam) :
    (assignSides varity params).length = params.length := by
  simp [assignSides]

/-- A parameter that was put on its side takes the element of its side. -/
theorem map_callArg_assignSides (varity : Nat) (params : List ElementParam) :
    (assignSides varity params).map (·.callArg) =
      (assignSides varity params).zipIdx.map fun (p, k) => (p.passed varity k).argument := by
  -- Both lists are read at one place, where the number of the parameter decides its side.
  apply List.ext_getElem?
  intro k
  simp only [assignSides, List.getElem?_map, List.getElem?_zipIdx, Option.map_map]
  refine congrArg (fun F => Option.map F params[k]?) (funext fun p => ?_)
  by_cases h : k < varity <;> simp [ElementParam.callArg, ElementParam.passed, h]

/-- Binding an instantiation of a paired skeleton finds a stored function with as many elementwise
parameters as the shape asks for, and puts them on their sides. -/
theorem bind_eq_ok_iff {g : MetadataGraph} {i : Instantiation} {f : UserFunction}
    (hpaired : i.skeleton.isPaired = true) :
    g.bind i = .ok f ↔
      ∃ f₀, g.function? i.function = some f₀ ∧
        i.varity.toNat + i.harity.toNat < Word.bound ∧
        f₀.elementwise.length = i.varity.toNat + i.harity.toNat ∧
        f = { f₀ with elementwise := assignSides i.varity.toNat f₀.elementwise } := by
  unfold bind
  cases g.function? i.function with
  | none => simp
  | some f₀ =>
    -- A shape that is too large for a word is refused before the parameters are counted.
    by_cases hbound : i.varity.toNat + i.harity.toNat < Word.bound
    · have hsum : (i.varity + i.harity).toNat = i.varity.toNat + i.harity.toNat := by
        rw [UInt64.toNat_add, Nat.mod_eq_of_lt hbound]
      by_cases hlength : f₀.elementwise.length = i.varity.toNat + i.harity.toNat
      · simp [hpaired, Shape.arity, Instantiation.shape, Word.add, hbound, hsum, hlength, eq_comm]
      · simp [hpaired, Shape.arity, Instantiation.shape, Word.add, hbound, hsum, hlength]
    · simp [hpaired, Shape.arity, Instantiation.shape, Word.add, hbound]

end MetadataGraph

/-! ## The call and the declaration -/

namespace UserFunction

/-- The call lists the index, the elements of the sides, the containers and the scalars. -/
theorem callArgs_eq (f : UserFunction) :
    f.callArgs = f.indexPassed.map (·.argument) ++ f.elementwise.map (·.callArg) ++
      f.containers.map (·.name) ++ f.scalars.map (·.name) := by
  have hindex : (ParamLists.ofIndexing f.indexing).callArgs = f.indexPassed.map (·.argument) := by
    unfold indexPassed
    cases f.indexing <;> rfl
  rw [callArgs, ParamLists.assemble_eq, ParamLists.extend, hindex]
  simp only [List.append_assoc]

/-- The declaration lists the parameters of the positions. -/
theorem functionParams_eq (f : UserFunction) (varity : Nat) :
    KernelSource.functionParams f = (f.passed varity).map (·.param) := by
  have helems : f.elementwise.map (fun p => p.type ++ " " ++ p.name) =
      (f.elementwise.zipIdx.map fun (p, k) => p.passed varity k).map (·.param) := by
    rw [List.map_map]
    apply List.ext_getElem?
    intro k
    simp [ElementParam.passed, Passed.param, Function.comp_def]
  simp only [KernelSource.functionParams, helems, passed, List.map_append, List.map_map,
    indexPassed]
  cases f.indexing <;> rfl

/-- Once the elementwise parameters are on their sides, the call passes the positions. -/
theorem callArgs_eq_passed {f : UserFunction} {varity : Nat} {params : List ElementParam}
    (hsides : f.elementwise = MetadataGraph.assignSides varity params) :
    f.callArgs = (f.passed varity).map (·.argument) := by
  rw [callArgs_eq, hsides, MetadataGraph.map_callArg_assignSides, ← hsides]
  simp only [passed, List.map_append, List.map_map]
  rfl

end UserFunction

/-! ## The locals that the call reads -/

/-- A local of a kernel. -/
structure KernelLocal where
  /-- The type. -/
  type : String
  /-- The name. -/
  name : String
  /-- The first value. -/
  value : String
  deriving DecidableEq, Repr

/-- The statement that declares a local. -/
def KernelLocal.statement (l : KernelLocal) : String :=
  l.type ++ " " ++ l.name ++ " = " ++ l.value ++ ";"

namespace UserFunction

/-- A function without an index has no local for it, and every other has one. -/
theorem indexInitializer?_eq_none_iff (f : UserFunction) :
    f.indexInitializer? = none ↔ f.indexing = .none := by
  rw [indexInitializer?, ParamLists.assemble_eq, ParamLists.extend]
  cases f.indexing <;> simp [ParamLists.ofIndexing]

/-- The local for the index has the type of the parameter that receives it. -/
theorem declares_index {f : UserFunction} {e : Passed} (he : e ∈ f.indexPassed) :
    ∃ statement, f.indexInitializer? = some statement ∧
      Declares statement e.type e.argument := by
  rw [indexInitializer?, ParamLists.assemble_eq, ParamLists.extend]
  cases hindexing : f.indexing with
  | none => simp [indexPassed, hindexing] at he
  | linear =>
    obtain rfl : e = ⟨"skel_index", "index1_t", f.indexParam⟩ := by
      simpa [indexPassed, hindexing] using he
    refine ⟨_, rfl, "\x7b .i = base + i \x7d", ?_⟩
    dsimp only
    decide
  | rowCol =>
    obtain rfl : e = ⟨"skel_index", "index2_t", f.indexParam⟩ := by
      simpa [indexPassed, hindexing] using he
    refine ⟨_, rfl, "\x7b .row = (base + i) / w, .col = (base + i) % w \x7d", ?_⟩
    dsimp only
    decide

end UserFunction

namespace ContainerParam

/-- The local that is the proxy of a container. -/
def proxyLocal (p : ContainerParam) : KernelLocal where
  type := (ProxyKey.of p).typeName
  name := p.name
  value := "\x7b " ++ ", ".intercalate (p.members.map fun (f, v) => "." ++ f ++ " = " ++ v) ++
    " \x7d"

theorem statement_proxyLocal (p : ContainerParam) : p.proxyLocal.statement = p.initializer := by
  have hopen : " = \x7b " = " = " ++ "\x7b " := by decide
  have hclose : " \x7d;" = " \x7d" ++ ";" := by decide
  rw [initializer, hopen, hclose]
  simp only [KernelLocal.statement, proxyLocal, String.append_assoc, -String.reduceAppend]

/-- The local for a container has the type of the parameter that receives it. -/
theorem declares_initializer (p : ContainerParam) :
    Declares p.initializer p.passed.type p.passed.argument :=
  ⟨p.proxyLocal.value, p.statement_proxyLocal.symm⟩

/-- Every container has one proxy, before the loop or inside it. -/
theorem perm_proxies (params : List ContainerParam) :
    (params.flatMap (·.outerProxy) ++ params.flatMap (·.innerProxy)).Perm
      (params.map (·.initializer)) := by
  induction params with
  | nil => exact .nil
  | cons p params ih =>
    cases hplace : p.placement with
    | beforeLoop =>
      simpa [outerProxy, innerProxy, hplace] using ih
    | perIteration =>
      simpa [outerProxy, innerProxy, hplace] using List.perm_middle.trans (ih.cons p.initializer)

end ContainerParam

/-- Every container of a function has one proxy, before the loop or inside it. -/
theorem UserFunction.perm_proxies (f : UserFunction) :
    (f.outerProxies ++ f.innerProxies).Perm (f.containers.map (·.initializer)) := by
  have hnone : (ParamLists.ofIndexing f.indexing).outerProxies = [] ∧
      (ParamLists.ofIndexing f.indexing).innerProxies = [] := by
    cases f.indexing <;> exact ⟨rfl, rfl⟩
  rw [outerProxies, innerProxies, ParamLists.assemble_eq, ParamLists.extend, hnone.1, hnone.2]
  exact ContainerParam.perm_proxies f.containers

/-- In a kernel source the declaration of the function comes first, then the locals and the call. -/
theorem KernelSource.text_call {g : MetadataGraph} {f : UserFunction} {kernel source : String}
    {preserveLines : Bool} (h : text g f kernel preserveLines = .ok source) :
    ∃ front body back, source =
      front ++ ("static " ++ f.returnType ++ " " ++ f.uniqueName ++ "(" ++
        ", ".intercalate (functionParams f) ++ ")") ++ body ++
      (statementBlock f.outerProxies 1 ++ "\n" ++
        "\twhile (i < n)\n" ++
        "\t\x7b\n" ++
        statementBlock f.indexInitializer?.toList 2 ++ statementBlock f.innerProxies 2 ++
        "\t\toutput[i] = " ++ f.uniqueName ++ "(" ++ ", ".intercalate f.callArgs ++ ");\n") ++
      back := by
  obtain ⟨callees, types, -, -, rfl⟩ := text_eq_ok_iff.1 h
  have hparen : ")\n\x7b\n" = ")" ++ "\n\x7b\n" := by decide
  refine ⟨doublePart f callees ++ constantPart g.constants ++ typePart types ++ indexTypes ++
      String.join (proxyDefinitions (containersOf f callees)) ++
      String.join (callees.map fun c => functionText c.function c.name preserveLines) ++
      linePart f preserveLines,
    "\n\x7b\n" ++ Text.trimmedEnd f.body ++ "\n\x7d\n\n" ++
      ("__kernel void " ++ kernel ++ "(" ++ leadingList f.kernelParams ++
      "__global " ++ f.returnType ++ " *output, " ++
      "size_t w, size_t n, size_t Vsize, size_t Hsize, size_t base" ++ ")\n" ++
      "\x7b\n" ++
      "\tsize_t i = get_global_id(0);\n" ++
      "\tsize_t gridSize = get_local_size(0) * get_num_groups(0);\n"),
    "\t\ti += gridSize;\n" ++ "\t\x7d\n" ++ "\x7d\n", ?_⟩
  have hdefinition : functionText f f.uniqueName preserveLines =
      linePart f preserveLines ++ "static " ++ f.returnType ++ " " ++ f.uniqueName ++ "(" ++
        ", ".intercalate (functionParams f) ++ ")\n\x7b\n" ++ Text.trimmedEnd f.body ++
        "\n\x7d\n\n" := rfl
  unfold definitionsText kernelText bodyText
  rewrite [hdefinition, hparen]
  simp only [String.append_assoc, -String.reduceAppend]

/-- The call of a bound function matches its declaration. The function has as many elementwise
parameters as the shape asks for, the call passes the positions and the declaration lists their
parameters; the index and every container are read from locals, which are declared with the types
of their parameters; and in every kernel source of the function this declaration, these locals and
this call stand in this order. -/
theorem bind_call_matches {g : MetadataGraph} {i : Instantiation} {f : UserFunction}
    (hskel : i.skeleton = .mapPairs) (hbind : g.bind i = .ok f) :
    let passed := f.passed i.varity.toNat
    f.elementwise.length = i.varity.toNat + i.harity.toNat ∧
    f.callArgs = passed.map (·.argument) ∧
    KernelSource.functionParams f = passed.map (·.param) ∧
    f.callArgs.length = (KernelSource.functionParams f).length ∧
    (f.indexInitializer? = none ↔ f.indexing = .none) ∧
    (∀ e ∈ f.indexPassed, ∃ statement, f.indexInitializer? = some statement ∧
      Declares statement e.type e.argument) ∧
    (f.outerProxies ++ f.innerProxies).Perm (f.containers.map (·.initializer)) ∧
    (∀ p ∈ f.containers, Declares p.initializer p.passed.type p.passed.argument) ∧
    ∀ kernel preserveLines source, KernelSource.text g f kernel preserveLines = .ok source →
      ∃ front body back, source =
        front ++ ("static " ++ f.returnType ++ " " ++ f.uniqueName ++ "(" ++
          ", ".intercalate (passed.map (·.param)) ++ ")") ++ body ++
        (statementBlock f.outerProxies 1 ++ "\n" ++
          "\twhile (i < n)\n" ++
          "\t\x7b\n" ++
          statementBlock f.indexInitializer?.toList 2 ++ statementBlock f.innerProxies 2 ++
          "\t\toutput[i] = " ++ f.uniqueName ++ "(" ++ ", ".intercalate (passed.map (·.argument)) ++
          ");\n") ++
        back := by
  have hpaired : i.skeleton.isPaired = true := by rw [hskel]; rfl
  obtain ⟨f₀, -, -, hlength, hf⟩ := (MetadataGraph.bind_eq_ok_iff hpaired).1 hbind
  have hsides : f.elementwise = MetadataGraph.assignSides i.varity.toNat f₀.elementwise := by
    rw [hf]
  have hargs := UserFunction.callArgs_eq_passed hsides
  have hparams := f.functionParams_eq i.varity.toNat
  refine ⟨?_, hargs, hparams, ?_, f.indexInitializer?_eq_none_iff,
    fun e he => UserFunction.declares_index he, f.perm_proxies,
    fun p _ => p.declares_initializer, ?_⟩
  · rw [hsides, MetadataGraph.length_assignSides, hlength]
  · rw [hargs, hparams, List.length_map, List.length_map]
  · intro kernel preserveLines source hsource
    rw [← hargs, ← hparams]
    exact KernelSource.text_call hsource

/-- A function with an index, two elementwise parameters, two containers and a scalar. -/
def sampleFunction : UserFunction where
  name := "blend"
  uniqueName := "blend_1"
  returnType := "float"
  indexing := .rowCol
  elementwise := [⟨"a", "float", .vertical⟩, ⟨"b", "int", .vertical⟩]
  containers := [⟨"m", "float", .matrix⟩, ⟨"r", "int", .matrixRow⟩]
  scalars := [⟨"s", "float"⟩]
  body := "return a * s;"

/-- The function as the cross product of one parameter on each side: what the call passes, and what
the declaration lists. -/
theorem bind_call_matches_sample :
    ∃ f, MetadataGraph.bind { functions := [sampleFunction] } ⟨.mapPairs, "blend_1", 1, 1⟩ = .ok f ∧
      f.callArgs = ["skel_index", "a[i / Hsize]", "b[i % Hsize]", "m", "r", "s"] ∧
      KernelSource.functionParams f =
        ["index2_t index", "float a", "int b", "skel_matrix_float m", "skel_matrix_row_int r",
          "float s"] := by
  have hbind : MetadataGraph.bind { functions := [sampleFunction] }
      ⟨.mapPairs, "blend_1", 1, 1⟩ = .ok { sampleFunction with
        elementwise := [⟨"a", "float", .vertical⟩, ⟨"b", "int", .horizontal⟩] } := by
    cbv
  obtain ⟨-, hargs, hparams, -⟩ := bind_call_matches rfl hbind
  refine ⟨_, hbind, ?_, ?_⟩
  · rw [hargs]
    decide
  · rw [hparams]
    decide

end KernelGen
