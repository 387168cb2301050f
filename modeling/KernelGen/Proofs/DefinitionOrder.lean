import KernelGen.Proofs.CallArguments
import KernelGen.Proofs.CallOrder
import KernelGen.Proofs.KernelText
import KernelGen.Proofs.RawLiteral
import KernelGen.Proofs.SortedLists

/-!
# The order of definitions in a kernel source

A kernel source is cut into blocks here, each of which is one definition. What a function needs is
spread over all the functions that it leads to: a struct or the pragma may be there only for a
function some calls away.

* `ProxyKey.before_iff`, `mem_proxyKeys_iff`: the order of the structs, and which there are.
* `Block`, `KernelSource.blocks`, `KernelSource.join_blocks`: the blocks of a source in order, which
  make up its text.
* `Block.Needs`, `KernelSource.dependenciesFirst_blocks`: what a block needs, and that all of it is
  there before.
* `Block.Uses`, `Block.Defines`, `Block.Needs.exists_name`: a block refers to what it needs by a
  name, and the text of the other block has the definition of that name in it.
* `UserFunction.Redeclares`, `MetadataGraph.exists_callees_of_redeclares`: functions whose
  containers are listed in another way call each other as before.

At the end stands what this says of a kernel source.
-/

namespace KernelGen

open Relation (TransGen ReflTransGen)

/-! ## Structs -/

/-- No two kinds of containers have the same place in the order of structs. -/
theorem ContainerKind.ordinal_injective : Function.Injective ContainerKind.ordinal := by
  intro a b h
  cases a <;> cases b <;> first | rfl | simp [ordinal] at h

namespace ProxyKey

/-- Structs are ordered by kind and then by type. -/
theorem before_iff {a b : ProxyKey} :
    before a b = true ↔ a.kind.ordinal < b.kind.ordinal ∨ a.kind = b.kind ∧ a.type < b.type := by
  simp [before, Text.before]

instance : IsStrictTotalOrder ProxyKey (fun a b => before a b = true) where
  irrefl a h := by
    rcases before_iff.1 h with h | ⟨-, h⟩
    · exact Nat.lt_irrefl _ h
    · exact lt_irrefl _ h
  trans a b c hab hbc := by
    rw [before_iff] at *
    rcases hab with hab | ⟨hab, hab'⟩
    · rcases hbc with hbc | ⟨hbc, -⟩
      · exact .inl (hab.trans hbc)
      · exact .inl (hbc ▸ hab)
    · rcases hbc with hbc | ⟨hbc, hbc'⟩
      · exact .inl (hab ▸ hbc)
      · exact .inr ⟨hab.trans hbc, hab'.trans hbc'⟩
  trichotomous a b hab hba := by
    rw [before_iff, not_or, not_and] at hab hba
    have hkind : a.kind = b.kind :=
      ContainerKind.ordinal_injective (Nat.le_antisymm (not_lt.1 hba.1) (not_lt.1 hab.1))
    have htype : a.type = b.type :=
      le_antisymm (not_lt.1 (hba.2 hkind.symm)) (not_lt.1 (hab.2 hkind))
    cases a
    cases b
    simp_all

/-- The definition of a struct starts with the struct type of its name. -/
theorem definition_eq_structText (key : ProxyKey) :
    ∃ members accessors, key.definition = structText members key.typeName ++ accessors := by
  obtain ⟨kind, type⟩ := key
  unfold definition
  cases kind <;> exact ⟨_, _, by simp only [String.append_assoc, -String.reduceAppend]; rfl⟩

end ProxyKey

namespace MetadataGraph

variable {g : MetadataGraph} {f : UserFunction} {callees : List Callee}

/-- The functions that are reached are the function itself and those that are listed. -/
theorem exists_reached_iff (h : g.callees f = .ok callees) {P : UserFunction → Prop} :
    (∃ k, ReflTransGen g.Calls f k ∧ P k) ↔ P f ∨ ∃ c ∈ callees, P c.function := by
  constructor
  · rintro ⟨k, hk, hP⟩
    rcases Relation.reflTransGen_iff_eq_or_transGen.1 hk with rfl | hk
    · exact .inl hP
    · obtain ⟨c, hc, rfl⟩ := (exists_mem_callees_iff h).2 hk
      exact .inr ⟨c, hc, hP⟩
  · rintro (hP | ⟨c, hc, hP⟩)
    · exact ⟨f, .refl, hP⟩
    · exact ⟨c.function, ((exists_mem_callees_iff h).1 ⟨c, hc, rfl⟩).to_reflTransGen, hP⟩

end MetadataGraph

namespace KernelSource

variable {g : MetadataGraph} {f : UserFunction} {callees : List Callee}

/-- There is a struct for every container of a function that is reached, and no other. -/
theorem mem_proxyKeys_iff (h : g.callees f = .ok callees) {key : ProxyKey} :
    key ∈ proxyKeys (containersOf f callees) ↔
      ∃ k, ReflTransGen g.Calls f k ∧ ∃ p ∈ k.containers, ProxyKey.of p = key := by
  rw [MetadataGraph.exists_reached_iff h, proxyKeys, mem_sortDistinct, List.mem_map]
  constructor
  · rintro ⟨p, hp, hkey⟩
    rcases List.mem_append.1 hp with hp | hp
    · exact .inl ⟨p, hp, hkey⟩
    · obtain ⟨c, hc, hp⟩ := List.mem_flatMap.1 hp
      exact .inr ⟨c, hc, p, hp, hkey⟩
  · rintro (⟨p, hp, hkey⟩ | ⟨c, hc, p, hp, hkey⟩)
    · exact ⟨p, List.mem_append_left _ hp, hkey⟩
    · exact ⟨p, List.mem_append_right _ (List.mem_flatMap.2 ⟨c, hc, hp⟩), hkey⟩

end KernelSource

/-! ## Blocks -/

/-- A piece of a kernel source. -/
inductive Block where
  /-- The pragma that enables double precision. -/
  | pragma
  /-- The line that defines a constant. -/
  | constant (c : UserConstant)
  /-- The blank line behind the constants. -/
  | blank
  /-- The definition of a user type. -/
  | type (t : UserType)
  /-- The structs with the position of an element. -/
  | indexTypes
  /-- The struct for a container kind and an element type, with its accessors. -/
  | proxy (key : ProxyKey)
  /-- The definition of a user function under a name. -/
  | function (name : String) (f : UserFunction)
  /-- The kernel for a user function. -/
  | kernel (name : String) (f : UserFunction)

namespace Block

/-- The line that points back to where a function was declared. -/
def lineDirective (preserveLines : Bool) (f : UserFunction) : String :=
  if preserveLines then
    f.location.elim "" fun loc =>
      "#line " ++ Decimal.numeral loc.line.toNat ++ " \"" ++ loc.file ++ "\"\n"
  else ""

/-- The struct of the index of a function, if it has one. -/
def indexParams (f : UserFunction) : List String :=
  match f.indexing with
  | .none => []
  | .linear => ["index1_t" ++ " " ++ f.indexParam]
  | .rowCol => ["index2_t" ++ " " ++ f.indexParam]

/-- The parameter list of a function: its index, its elements, the structs of its containers and its
scalars. -/
def parameters (f : UserFunction) : List String :=
  indexParams f ++ f.elementwise.map (fun p => p.type ++ " " ++ p.name) ++
    f.containers.map (fun p => (ProxyKey.of p).typeName ++ " " ++ p.name) ++
    f.scalars.map (fun p => p.type ++ " " ++ p.name)

/-- The text of a block. -/
def text (preserveLines : Bool) : Block → String
  | pragma => "#pragma OPENCL EXTENSION cl_khr_fp64: enable\n" ++ "\n"
  | constant c => "#define " ++ c.name ++ " (" ++ c.definition ++ ") // " ++ c.typeName ++ "\n"
  | blank => "\n"
  | type t => Text.trimmedEnd t.definition ++ "\n\n"
  | indexTypes =>
    ProxyKey.structText ["size_t i"] "index1_t" ++
      ProxyKey.structText ["size_t row", "size_t col"] "index2_t"
  | proxy key => key.definition
  | function name f =>
    lineDirective preserveLines f ++ "static " ++ f.returnType ++ " " ++ name ++ "(" ++
      ", ".intercalate (parameters f) ++ ")\n\x7b\n" ++ Text.trimmedEnd f.body ++ "\n\x7d\n\n"
  | kernel name f => KernelSource.kernelText f name

/-- The block of a kernel is the kernel text. -/
theorem text_kernel (preserveLines : Bool) (name : String) (f : UserFunction) :
    (kernel name f).text preserveLines = KernelSource.kernelText f name :=
  rfl

/-- The block of the index types is their text. -/
theorem text_indexTypes (preserveLines : Bool) :
    indexTypes.text preserveLines = KernelSource.indexTypes :=
  show indexTypes.text false = KernelSource.indexTypes by decide

/-- The definition of a function is the one that the generator writes. -/
theorem text_function (preserveLines : Bool) (name : String) (f : UserFunction) :
    (function name f).text preserveLines = KernelSource.functionText f name preserveLines := by
  have hparams : parameters f = KernelSource.functionParams f := by
    unfold parameters indexParams KernelSource.functionParams
    cases f.indexing <;> simp only [Indexing.typeName?]
  have hline : lineDirective preserveLines f = KernelSource.linePart f preserveLines := by
    unfold lineDirective KernelSource.linePart
    cases preserveLines <;> cases f.location <;> simp
  unfold KernelSource.functionText
  rewrite [← hparams, ← hline]
  rfl

/-- The text of a block has the definition of a name in it. -/
inductive Defines (preserveLines : Bool) (b : Block) (name : String) : Prop
  /-- The definition of a macro. -/
  | define (value rest : String)
      (h : b.text preserveLines = "#define " ++ name ++ " (" ++ value ++ ")" ++ rest)
  /-- The definition of a struct type. -/
  | struct (front members back : String)
      (h : b.text preserveLines =
        front ++ ("typedef struct \x7b\n" ++ members ++ "\x7d " ++ name ++ ";\n") ++ back)
  /-- The definition of a function. -/
  | function (front result params body : String)
      (h : b.text preserveLines = front ++ ("static " ++ result ++ " " ++ name ++ "(" ++ params ++
        ")\n\x7b\n" ++ body ++ "\n\x7d\n\n"))

/-- A block refers to a name that has to be defined. -/
inductive Uses (preserveLines : Bool) (b : Block) (name : String) : Prop
  /-- There is a parameter list with a parameter of the type. -/
  | param (front back var : String) (params : List String)
      (h : b.text preserveLines = front ++ "(" ++ ", ".intercalate params ++ ")\n\x7b\n" ++ back)
      (hmem : name ++ " " ++ var ∈ params)
  /-- It is a function with the name among its calls. -/
  | call (own : String) (f : UserFunction) (h : b = .function own f) (hmem : name ∈ f.calls)
  /-- A variable of the type is initialized. -/
  | initializer (front back var : String)
      (h : b.text preserveLines = front ++ (name ++ " " ++ var ++ " = ") ++ back)
  /-- The results are computed by a call. -/
  | main (front back : String)
      (h : b.text preserveLines = front ++ ("output[i] = " ++ name ++ "(") ++ back)

/-- What a block refers to. -/
inductive Needs (g : MetadataGraph) : Block → Block → Prop
  /-- A function names the struct of its index in its parameter list. -/
  | index {name : String} {f : UserFunction} : f.isIndexed = true →
      Needs g (function name f) indexTypes
  /-- A function names the struct of every container in its parameter list. -/
  | param {name : String} {f : UserFunction} {p : ContainerParam} : p ∈ f.containers →
      Needs g (function name f) (proxy (ProxyKey.of p))
  /-- A function calls others under the names in its calls. -/
  | call {name call : String} {f h : UserFunction} : call ∈ f.calls →
      g.resolveCall? call = some h → Needs g (function name f) (function call h)
  /-- The kernel names the struct of every container in an initializer. -/
  | initializer {name : String} {f : UserFunction} {p : ContainerParam} : p ∈ f.containers →
      Needs g (kernel name f) (proxy (ProxyKey.of p))
  /-- The kernel calls the function under its unique name. -/
  | main {name : String} {f : UserFunction} : Needs g (kernel name f) (function f.uniqueName f)

variable {preserveLines : Bool}

/-- The line of a constant defines its name. -/
theorem defines_constant (c : UserConstant) : (constant c).Defines preserveLines c.name := by
  have htext : (constant c).text preserveLines =
      "#define " ++ c.name ++ " (" ++ c.definition ++ ") // " ++ c.typeName ++ "\n" := rfl
  have hcomment : ") // " = ")" ++ " // " := by decide
  refine .define c.definition (" // " ++ c.typeName ++ "\n") (htext.trans ?_)
  rewrite [hcomment]
  simp only [String.append_assoc, -String.reduceAppend]

/-- The text of a function defines the name that it is written under. -/
theorem defines_function (name : String) (f : UserFunction) :
    (function name f).Defines preserveLines name := by
  have htext : (function name f).text preserveLines =
      lineDirective preserveLines f ++ "static " ++ f.returnType ++ " " ++ name ++ "(" ++
        ", ".intercalate (parameters f) ++ ")\n\x7b\n" ++ Text.trimmedEnd f.body ++
        "\n\x7d\n\n" := rfl
  refine .function (lineDirective preserveLines f) f.returnType (", ".intercalate (parameters f))
    (Text.trimmedEnd f.body) (htext.trans ?_)
  simp only [String.append_assoc, -String.reduceAppend]

/-- A block that has a struct type in it defines the name of the type. -/
theorem defines_of_structText {b : Block} {name : String} (front back : String)
    (members : List String)
    (h : b.text preserveLines = front ++ ProxyKey.structText members name ++ back) :
    b.Defines preserveLines name := by
  have hline : ";\n\n" = ";\n" ++ "\n" := by decide
  refine .struct front (String.join (members.map fun m => "\t" ++ m ++ ";\n")) ("\n" ++ back)
    (h.trans ?_)
  unfold ProxyKey.structText
  rewrite [hline]
  simp only [String.append_assoc, -String.reduceAppend]

/-- The text of a struct defines its type name. -/
theorem defines_proxy (key : ProxyKey) : (proxy key).Defines preserveLines key.typeName := by
  obtain ⟨members, accessors, hdefinition⟩ := key.definition_eq_structText
  refine defines_of_structText "" accessors members ?_
  rewrite [String.empty_append, ← hdefinition]
  rfl

/-- The struct of the index of a function is one of the two. -/
theorem exists_defines_indexTypes {f : UserFunction} (h : f.isIndexed = true) :
    ∃ type, indexTypes.Defines preserveLines type ∧ type ++ " " ++ f.indexParam ∈ parameters f := by
  have htext : indexTypes.text preserveLines =
      ProxyKey.structText ["size_t i"] "index1_t" ++
        ProxyKey.structText ["size_t row", "size_t col"] "index2_t" := rfl
  have hfirst : indexTypes.Defines preserveLines "index1_t" :=
    defines_of_structText "" _ _ (by rewrite [htext, String.empty_append]; rfl)
  have hsecond : indexTypes.Defines preserveLines "index2_t" :=
    defines_of_structText _ "" _ (by rewrite [htext, String.append_empty]; rfl)
  unfold UserFunction.isIndexed at h
  cases hindexing : f.indexing with
  | none => simp [hindexing] at h
  | linear => exact ⟨_, hfirst, by simp [parameters, indexParams, hindexing]⟩
  | rowCol => exact ⟨_, hsecond, by simp [parameters, indexParams, hindexing]⟩

/-- A function refers to the types in its parameter list. -/
theorem uses_of_mem_parameters {name type var : String} {f : UserFunction}
    (h : type ++ " " ++ var ∈ parameters f) : (function name f).Uses preserveLines type := by
  have htext : (function name f).text preserveLines =
      lineDirective preserveLines f ++ "static " ++ f.returnType ++ " " ++ name ++ "(" ++
        ", ".intercalate (parameters f) ++ ")\n\x7b\n" ++ Text.trimmedEnd f.body ++
        "\n\x7d\n\n" := rfl
  refine .param (lineDirective preserveLines f ++ "static " ++ f.returnType ++ " " ++ name)
    (Text.trimmedEnd f.body ++ "\n\x7d\n\n") var (parameters f) (htext.trans ?_) h
  simp only [String.append_assoc, -String.reduceAppend]

/-- Every line stands somewhere in its block. -/
theorem exists_statementBlock_eq {line : String} {lines : List String} (h : line ∈ lines)
    (depth : Nat) : ∃ front back, statementBlock lines depth = front ++ line ++ back := by
  obtain ⟨before, after, rfl⟩ := List.append_of_mem h
  refine ⟨statementBlock before depth ++ .ofList (List.replicate depth '\t'),
    "\n" ++ statementBlock after depth, ?_⟩
  simp only [statementBlock, List.map_append, List.map_cons, String.join_append, String.join_cons,
    String.append_assoc]

/-- A kernel has the structs of the containers before the loop or in it, and then the call. -/
theorem exists_kernelText_eq (f : UserFunction) (name : String) :
    ∃ head middle tail, KernelSource.kernelText f name =
      head ++ statementBlock f.outerProxies 1 ++ middle ++ statementBlock f.innerProxies 2 ++
        ("\t\t" ++ ("output[i] = " ++ f.uniqueName ++ "(")) ++ tail := by
  have hcall : "\t\toutput[i] = " = "\t\t" ++ "output[i] = " := by decide
  refine ⟨"__kernel void " ++ name ++ "(" ++ leadingList f.kernelParams ++
      "__global " ++ f.returnType ++ " *output, " ++
      "size_t w, size_t n, size_t Vsize, size_t Hsize, size_t base" ++ ")\n" ++ "\x7b\n" ++
      "\tsize_t i = get_global_id(0);\n" ++
      "\tsize_t gridSize = get_local_size(0) * get_num_groups(0);\n",
    "\n" ++ "\twhile (i < n)\n" ++ "\t\x7b\n" ++ statementBlock f.indexInitializer?.toList 2,
    ", ".intercalate f.callArgs ++ ");\n" ++ "\t\ti += gridSize;\n" ++ "\t\x7d\n" ++ "\x7d\n", ?_⟩
  unfold KernelSource.kernelText KernelSource.bodyText
  rewrite [hcall]
  simp only [String.append_assoc, -String.reduceAppend]

/-- The initializer of every container stands in the text of the kernel. -/
theorem exists_text_kernel_eq {f : UserFunction} {p : ContainerParam} (h : p ∈ f.containers)
    (name : String) :
    ∃ front back, (kernel name f).text preserveLines = front ++ p.initializer ++ back := by
  have hproxy : p.initializer ∈ f.outerProxies ++ f.innerProxies :=
    f.perm_proxies.mem_iff.2 (List.mem_map_of_mem h)
  obtain ⟨head, middle, tail, hkernel⟩ := exists_kernelText_eq f name
  rcases List.mem_append.1 hproxy with hproxy | hproxy
  · obtain ⟨front, back, hblock⟩ := exists_statementBlock_eq hproxy 1
    refine ⟨head ++ front, back ++ middle ++ statementBlock f.innerProxies 2 ++
      ("\t\t" ++ ("output[i] = " ++ f.uniqueName ++ "(")) ++ tail,
      (text_kernel preserveLines name f).trans (hkernel.trans ?_)⟩
    rewrite [hblock]
    simp only [String.append_assoc, -String.reduceAppend]
  · obtain ⟨front, back, hblock⟩ := exists_statementBlock_eq hproxy 2
    refine ⟨head ++ statementBlock f.outerProxies 1 ++ middle ++ front, back ++
      ("\t\t" ++ ("output[i] = " ++ f.uniqueName ++ "(")) ++ tail,
      (text_kernel preserveLines name f).trans (hkernel.trans ?_)⟩
    rewrite [hblock]
    simp only [String.append_assoc, -String.reduceAppend]

/-- What a block needs, it refers to by a name that the other block defines. -/
theorem Needs.exists_name {g : MetadataGraph} {b d : Block} (h : Needs g b d)
    (preserveLines : Bool) :
    ∃ name, b.Uses preserveLines name ∧ d.Defines preserveLines name := by
  cases h with
  | index hindex =>
    obtain ⟨type, hdefines, hmem⟩ := exists_defines_indexTypes hindex
    exact ⟨type, uses_of_mem_parameters hmem, hdefines⟩
  | @param _ f p hp =>
    have hmem : (ProxyKey.of p).typeName ++ " " ++ p.name ∈ parameters f :=
      List.mem_append_left _ (List.mem_append_right _ (List.mem_map.2 ⟨p, hp, rfl⟩))
    exact ⟨_, uses_of_mem_parameters hmem, defines_proxy _⟩
  | call hcall _ => exact ⟨_, .call _ _ rfl hcall, defines_function _ _⟩
  | @initializer name f p hp =>
    obtain ⟨front, back, htext⟩ := exists_text_kernel_eq hp name
    refine ⟨_, .initializer front (p.proxyLocal.value ++ ";" ++ back) p.name (htext.trans ?_),
      defines_proxy _⟩
    rewrite [← p.statement_proxyLocal]
    unfold KernelLocal.statement ContainerParam.proxyLocal
    simp only [String.append_assoc, -String.reduceAppend]
  | @main name f =>
    obtain ⟨head, middle, tail, hkernel⟩ := exists_kernelText_eq f name
    refine ⟨_, .main (head ++ statementBlock f.outerProxies 1 ++ middle ++
      statementBlock f.innerProxies 2 ++ "\t\t") tail ?_, defines_function _ _⟩
    refine hkernel.trans ?_
    simp only [String.append_assoc, -String.reduceAppend]

end Block

namespace KernelSource

/-- The blocks of a kernel source: the pragma if it is wanted, the constants with a blank line
behind them if there are any, the types, the index types, the structs, the functions that are
called, the function itself and the kernel. -/
def blocks (wantsDouble : Bool) (constants : List UserConstant) (types : List UserType)
    (keys : List ProxyKey) (callees : List Callee) (f : UserFunction) (kernel : String) :
    List Block :=
  (if wantsDouble then [Block.pragma] else []) ++ constants.map Block.constant ++
    (if constants.isEmpty then [] else [Block.blank]) ++ types.map Block.type ++
    [Block.indexTypes] ++ keys.map Block.proxy ++
    callees.map (fun c => Block.function c.name c.function) ++
    [Block.function f.uniqueName f] ++ [Block.kernel kernel f]

variable {g : MetadataGraph} {f : UserFunction} {callees : List Callee}

/-- The blocks make up the text. -/
theorem join_blocks (g : MetadataGraph) (f : UserFunction) (callees : List Callee)
    (types : List UserType) (kernel : String) (preserveLines : Bool) :
    String.join ((blocks (f.requiresDouble || callees.any (·.function.requiresDouble)) g.constants
        types (proxyKeys (containersOf f callees)) callees f kernel).map
          (Block.text preserveLines)) =
      definitionsText g f callees types preserveLines ++ kernelText f kernel := by
  have hdouble : String.join ((if f.requiresDouble || callees.any (·.function.requiresDouble) then
      [Block.pragma] else []).map (Block.text preserveLines)) = doublePart f callees := by
    unfold doublePart
    split
    · rw [List.map_singleton, String.join_cons, String.join_nil, String.append_empty]
      rfl
    · rfl
  have hconstants : String.join ((g.constants.map Block.constant).map (Block.text preserveLines)) ++
      String.join ((if g.constants.isEmpty then [] else [Block.blank]).map
        (Block.text preserveLines)) = constantPart g.constants := by
    rw [List.map_map]
    unfold constantPart
    split
    · next hempty =>
      rw [List.isEmpty_iff.1 hempty]
      rfl
    · rfl
  have hcallees : (callees.map fun c => Block.function c.name c.function).map
      (Block.text preserveLines) =
        callees.map fun c => functionText c.function c.name preserveLines := by
    rw [List.map_map]
    exact List.map_congr_left fun c _ => Block.text_function preserveLines c.name c.function
  -- All other parts are lists of definitions already.
  unfold blocks definitionsText
  rw [← hdouble, ← hconstants, ← hcallees, ← Block.text_function, ← Block.text_indexTypes
    preserveLines]
  simp only [List.map_append, String.join_append, String.append_assoc, List.map_map, typePart,
    proxyDefinitions, List.map_singleton, String.join_cons, String.join_nil, String.append_empty]
  rfl

/-- The pragma is among the blocks exactly if it is wanted. -/
theorem pragma_mem_blocks_iff {wantsDouble : Bool} {constants : List UserConstant}
    {types : List UserType} {keys : List ProxyKey} {kernel : String} :
    Block.pragma ∈ blocks wantsDouble constants types keys callees f kernel ↔
      wantsDouble = true := by
  cases wantsDouble <;> cases constants <;> simp [blocks]

/-- The pragma is wanted if a function that is reached computes in double precision. -/
theorem requiresDouble_iff (h : g.callees f = .ok callees) :
    (f.requiresDouble || callees.any (·.function.requiresDouble)) = true ↔
      ∃ k, ReflTransGen g.Calls f k ∧ k.requiresDouble = true := by
  rw [MetadataGraph.exists_reached_iff h, Bool.or_eq_true, List.any_eq_true]

/-- Every block comes after all that its text refers to. -/
theorem dependenciesFirst_blocks (h : g.callees f = .ok callees) (wantsDouble : Bool)
    (constants : List UserConstant) (types : List UserType) (kernel : String) :
    DependenciesFirst (Block.Needs g)
      (blocks wantsDouble constants types (proxyKeys (containersOf f callees)) callees f
        kernel) := by
  have hproxy {k : UserFunction} (hk : ReflTransGen g.Calls f k) {p : ContainerParam}
      (hp : p ∈ k.containers) : ProxyKey.of p ∈ proxyKeys (containersOf f callees) :=
    (mem_proxyKeys_iff h).2 ⟨k, hk, p, hp, rfl⟩
  unfold blocks
  -- The blocks are put together from the front; up to the structs none refers to another.
  refine DependenciesFirst.snoc (.snoc (.append ?_ ?_) ?_) ?_
  · intro front x back hsplit y hy
    have hx : x ∈ front ++ x :: back := by simp
    rw [← hsplit] at hx
    cases hy <;> simp at hx
  · intro front x back hsplit y hy
    obtain ⟨listed, rest, rfl, rfl, hrest⟩ := List.map_eq_append_iff.1 hsplit
    obtain ⟨c, later, rfl, rfl, -⟩ := List.map_eq_cons_iff.1 hrest
    obtain ⟨w, hfound, hvisit⟩ := MetadataGraph.visited_of_callees h
    have hc : ReflTransGen g.Calls f c.function :=
      ((MetadataGraph.exists_mem_callees_iff h).1 ⟨c, by simp, rfl⟩).to_reflTransGen
    cases hy with
    | index hindex => simp
    | param hp => simp [hproxy hc hp]
    | @call _ call _ k hcall hmeans =>
      -- The callees are in order among themselves.
      have hlisted : ⟨call, k⟩ ∈ listed :=
        hvisit.sound.ordered listed c later hfound ⟨call, k⟩ ⟨hcall, hmeans⟩
      exact List.mem_append_right _ (List.mem_map.2 ⟨_, hlisted, rfl⟩)
  · intro y hy
    cases hy with
    | index hindex => simp
    | param hp => simp [hproxy .refl hp]
    | call hcall hmeans =>
      have hlisted := MetadataGraph.mem_callees_of_call h .refl hcall hmeans
      exact List.mem_append_right _ (List.mem_map.2 ⟨_, hlisted, rfl⟩)
  · -- The kernel refers to the function's own structs and to the function in front of it.
    intro y hy
    cases hy with
    | initializer hp => simp [hproxy .refl hp]
    | main => simp

end KernelSource

/-! ## Containers listed in another way -/

/-- A function again, with its containers in another order or repeated. -/
def UserFunction.Redeclares (f f' : UserFunction) : Prop :=
  ∃ containers, f' = { f with containers := containers } ∧ ∀ p, p ∈ containers ↔ p ∈ f.containers

/-- Listing containers in another way can be undone. -/
theorem UserFunction.Redeclares.symm {f f' : UserFunction} (h : f.Redeclares f') :
    f'.Redeclares f := by
  obtain ⟨containers, rfl, hmem⟩ := h
  exact ⟨f.containers, rfl, fun p => (hmem p).symm⟩

namespace MetadataGraph

variable {g g' : MetadataGraph} {f f' k : UserFunction}

/-- A graph again, with the containers of each function in another order or repeated. -/
def Redeclares (g g' : MetadataGraph) : Prop :=
  List.Forall₂ UserFunction.Redeclares g.functions g'.functions

/-- Listing the containers of a graph in another way can be undone. -/
theorem Redeclares.symm (h : g.Redeclares g') : g'.Redeclares g :=
  (List.Forall₂.imp (fun _ _ => UserFunction.Redeclares.symm) h).flip

/-- A call means the same function as before. -/
theorem Redeclares.resolveCall? (h : g.Redeclares g') (call : String) :
    Option.Rel UserFunction.Redeclares (g.resolveCall? call) (g'.resolveCall? call) :=
  rel_resolveCall? (by rintro k _ ⟨_, rfl, -⟩; rfl) h (by rintro k _ ⟨_, rfl, -⟩; rfl) call

/-- The functions that are called are the same as before. -/
theorem Redeclares.calls (h : g.Redeclares g') (hf : f.Redeclares f') (hk : g.Calls f k) :
    ∃ k', g'.Calls f' k' ∧ k.Redeclares k' := by
  obtain ⟨call, hcall, hmeans⟩ := hk
  have hrel := h.resolveCall? call
  rw [hmeans] at hrel
  obtain ⟨containers, rfl, -⟩ := hf
  cases hmeans' : g'.resolveCall? call with
  | none =>
    rw [hmeans'] at hrel
    cases hrel
  | some k' =>
    rw [hmeans'] at hrel
    cases hrel with
    | some hk => exact ⟨k', ⟨call, hcall, hmeans'⟩, hk⟩

/-- Chains of calls are found again where containers are listed in another way. -/
theorem Redeclares.transGen (h : g.Redeclares g') (hf : f.Redeclares f')
    (hk : TransGen g.Calls f k) : ∃ k', TransGen g'.Calls f' k' ∧ k.Redeclares k' := by
  induction hk with
  | single hstep =>
    obtain ⟨k', hstep', hk'⟩ := h.calls hf hstep
    exact ⟨k', .single hstep', hk'⟩
  | tail _ hstep ih =>
    obtain ⟨m', hm', hm⟩ := ih
    obtain ⟨k', hstep', hk'⟩ := h.calls hm hstep
    exact ⟨k', hm'.tail hstep', hk'⟩

/-- What a function leads to, itself included, is found again where containers are listed in another
way. -/
theorem Redeclares.reflTransGen (h : g.Redeclares g') (hf : f.Redeclares f')
    (hk : ReflTransGen g.Calls f k) : ∃ k', ReflTransGen g'.Calls f' k' ∧ k.Redeclares k' := by
  rcases Relation.reflTransGen_iff_eq_or_transGen.1 hk with rfl | hk
  · exact ⟨f', .refl, hf⟩
  · obtain ⟨k', hk', hsame⟩ := h.transGen hf hk
    exact ⟨k', hk'.to_reflTransGen, hsame⟩

/-- The callees can be listed if they could be before: a cycle would be one in both graphs. -/
theorem exists_callees_of_redeclares (h : g.Redeclares g') (hf : f.Redeclares f')
    {callees : List Callee} (hcallees : g.callees f = .ok callees) :
    ∃ callees', g'.callees f' = .ok callees' := by
  cases hcallees' : g'.callees f' with
  | ok callees' => exact ⟨callees', rfl⟩
  | error e =>
    -- The walk came upon a cycle, which is carried back step by step.
    obtain ⟨k', -, hk', m', hcycle', hname'⟩ := onCycle_of_callees hcallees'
    obtain ⟨k, hk, hkk⟩ := h.symm.reflTransGen hf.symm hk'
    obtain ⟨m, hcycle, hmm⟩ := h.symm.transGen hkk hcycle'
    obtain ⟨_, rfl, -⟩ := hkk
    obtain ⟨_, rfl, -⟩ := hmm
    exact absurd ⟨_, hcycle, hname'⟩ (not_onCycle_of_callees hcallees hk)

/-- The structs that are needed are the same as before. -/
theorem proxyKeys_of_redeclares (h : g.Redeclares g') (hf : f.Redeclares f')
    {callees callees' : List Callee} (hcallees : g.callees f = .ok callees)
    (hcallees' : g'.callees f' = .ok callees') :
    proxyKeys (KernelSource.containersOf f' callees') =
      proxyKeys (KernelSource.containersOf f callees) := by
  have hmem {g g' : MetadataGraph} {f f' : UserFunction} (h : g.Redeclares g')
      (hf : f.Redeclares f') {key : ProxyKey}
      (hkey : ∃ k, ReflTransGen g.Calls f k ∧ ∃ p ∈ k.containers, ProxyKey.of p = key) :
      ∃ k, ReflTransGen g'.Calls f' k ∧ ∃ p ∈ k.containers, ProxyKey.of p = key := by
    obtain ⟨k, hk, p, hp, hkey⟩ := hkey
    obtain ⟨k', hk', containers, rfl, hsame⟩ := h.reflTransGen hf hk
    exact ⟨_, hk', p, (hsame p).2 hp, hkey⟩
  -- Both lists increase, so it is enough that they have the same members.
  have hsame (key : ProxyKey) : key ∈ proxyKeys (KernelSource.containersOf f' callees') ↔
      key ∈ proxyKeys (KernelSource.containersOf f callees) := by
    rw [KernelSource.mem_proxyKeys_iff hcallees', KernelSource.mem_proxyKeys_iff hcallees]
    exact ⟨hmem h.symm hf.symm, hmem h hf⟩
  unfold proxyKeys at hsame ⊢
  exact sortDistinct_congr fun key => by simpa only [mem_sortDistinct] using hsame key

end MetadataGraph

/-! ## Kernel sources -/

/-- A kernel source is the texts of its blocks, in which the line of a constant and the definition
of a function are written out. The pragma is there exactly if the function or one that it leads to
computes in double precision; the structs are those of the containers of these functions, each once
and by kind and then by type, and the initializers in the kernel are those of the containers of the
function. Every block comes after all that it needs, and what it needs it refers to by a name that
is defined there. The structs stay the same if containers are listed in another order or
repeated. -/
theorem kernelSource_defines_before_use {g : MetadataGraph} {r : LoweringRequest} {a : Artifact}
    (h : Artifact.lower g r = .ok a) :
    ∃ callees types wantsDouble, g.callees r.function = .ok callees ∧
      g.typesFor r.function = .ok types ∧
      let keys := proxyKeys (KernelSource.containersOf r.function callees)
      let blocks := KernelSource.blocks wantsDouble g.constants types keys callees r.function
        r.names.kernel
      a.kernelSource = String.join (blocks.map (Block.text r.preserveLines)) ∧
      (∀ c, (Block.constant c).text r.preserveLines =
        "#define " ++ c.name ++ " (" ++ c.definition ++ ") // " ++ c.typeName ++ "\n") ∧
      (∀ name f, (Block.function name f).text r.preserveLines =
        Block.lineDirective r.preserveLines f ++ "static " ++ f.returnType ++ " " ++ name ++ "(" ++
          ", ".intercalate (Block.indexParams f ++
            f.elementwise.map (fun p => p.type ++ " " ++ p.name) ++
            f.containers.map (fun p => (ProxyKey.of p).typeName ++ " " ++ p.name) ++
            f.scalars.map (fun p => p.type ++ " " ++ p.name)) ++
          ")\n\x7b\n" ++ Text.trimmedEnd f.body ++ "\n\x7d\n\n") ∧
      (Block.pragma ∈ blocks ↔
        ∃ k, ReflTransGen g.Calls r.function k ∧ k.requiresDouble = true) ∧
      (∀ key, key ∈ keys ↔
        ∃ k, ReflTransGen g.Calls r.function k ∧ ∃ p ∈ k.containers, key = ⟨p.kind, p.type⟩) ∧
      keys.Pairwise (fun x y =>
        x.kind.ordinal < y.kind.ordinal ∨ x.kind = y.kind ∧ x.type < y.type) ∧
      (∀ key : ProxyKey, ∃ members accessors,
        key.definition = ProxyKey.structText members key.typeName ++ accessors) ∧
      (r.function.outerProxies ++ r.function.innerProxies).Perm
        (r.function.containers.map (·.initializer)) ∧
      DependenciesFirst (Block.Needs g) blocks ∧
      (∀ b d, Block.Needs g b d →
        ∃ name, b.Uses r.preserveLines name ∧ d.Defines r.preserveLines name) ∧
      ∀ g' f', g.Redeclares g' → r.function.Redeclares f' →
        ∃ callees', g'.callees f' = .ok callees' ∧
          proxyKeys (KernelSource.containersOf f' callees') = keys := by
  obtain ⟨-, source, delim, htext, -, rfl⟩ := Artifact.lower_eq_ok_iff.1 h
  obtain ⟨callees, types, hcallees, htypes, rfl⟩ := KernelSource.text_eq_ok_iff.1 htext
  refine ⟨callees, types, _, hcallees, htypes,
    (KernelSource.join_blocks g r.function callees types _ _).symm, fun _ => rfl, fun _ _ => rfl,
    ?_, ?_, ?_, ProxyKey.definition_eq_structText, r.function.perm_proxies,
    KernelSource.dependenciesFirst_blocks hcallees _ _ _ _,
    fun _ _ hneeds => hneeds.exists_name _, ?_⟩
  · rw [KernelSource.pragma_mem_blocks_iff, KernelSource.requiresDouble_iff hcallees]
  · intro key
    simp only [KernelSource.mem_proxyKeys_iff hcallees, ProxyKey.of, eq_comm]
  · exact (pairwise_sortDistinct _).imp ProxyKey.before_iff.1
  · intro g' f' hg hf
    obtain ⟨callees', hcallees'⟩ := MetadataGraph.exists_callees_of_redeclares hg hf hcallees
    exact ⟨callees', hcallees', MetadataGraph.proxyKeys_of_redeclares hg hf hcallees hcallees'⟩

/-- A function that computes in double precision, with two containers. -/
def sampleLow : UserFunction where
  name := "low"
  uniqueName := "low_1"
  returnType := "float"
  requiresDouble := true
  containers := [⟨"u", "int", .matrix⟩, ⟨"v", "float", .vector⟩]
  body := "return 1;"

/-- A function that calls it. -/
def sampleMid : UserFunction where
  name := "mid"
  uniqueName := "mid_1"
  returnType := "float"
  calls := ["low_1"]
  body := "return low_1(0);"

/-- The cross product of a function with a container that calls the second one. -/
def sampleChainRequest : LoweringRequest where
  skeleton := .mapPairs
  function := {
    name := "top"
    uniqueName := "top_1"
    returnType := "float"
    containers := [⟨"m", "int", .matrix⟩]
    calls := ["mid"]
    body := "return mid(0);" }
  shape := ⟨1, 0⟩
  names := ⟨"k", "Wrapper_k"⟩
  outputDir := "out"
  preserveLines := false

/-- The three functions and a constant. -/
def sampleChain : MetadataGraph where
  functions := [sampleChainRequest.function, sampleMid, sampleLow]
  constants := [⟨"N", "int", "4"⟩]
  types := []
  types_nodup := List.nodup_nil

/-- The chain of two callees, the deepest first. -/
theorem callees_sampleChain :
    sampleChain.callees sampleChainRequest.function =
      .ok [⟨"low_1", sampleLow⟩, ⟨"mid", sampleMid⟩] := by
  cbv

/-- The chain refers to no type. -/
theorem typesFor_sampleChain : sampleChain.typesFor sampleChainRequest.function = .ok [] := by
  cbv

/-- The pragma and a struct are there only for the function two calls away, and before it. -/
theorem kernelSource_defines_before_use_sample :
    ∃ a, Artifact.lower sampleChain sampleChainRequest = .ok a ∧
      a.kernelSource = String.join ([
        .pragma, .constant ⟨"N", "int", "4"⟩, .blank, .indexTypes, .proxy ⟨.vector, "float"⟩,
        .proxy ⟨.matrix, "int"⟩, .function "low_1" sampleLow, .function "mid" sampleMid,
        .function "top_1" sampleChainRequest.function,
        .kernel "k" sampleChainRequest.function].map (Block.text false)) := by
  have htext := KernelSource.text_of_lists callees_sampleChain typesFor_sampleChain "k" false
  have hdelim := RawLiteral.delimiter_of_no_quote (RawLiteral.no_quote_of_bytes
    (show (KernelSource.definitionsText sampleChain sampleChainRequest.function
        [⟨"low_1", sampleLow⟩, ⟨"mid", sampleMid⟩] [] false ++
      KernelSource.kernelText sampleChainRequest.function "k").toByteArray.data.toList.contains 34
        = false by decide +kernel))
  have hlower := Artifact.lower_eq_ok_iff.2 ⟨rfl, _, _, htext, hdelim, rfl⟩
  obtain ⟨callees, types, wantsDouble, hcallees, htypes, hsource, -, -, hpragma, -⟩ :=
    kernelSource_defines_before_use hlower
  obtain rfl := Except.ok.inj (callees_sampleChain.symm.trans hcallees)
  obtain rfl := Except.ok.inj (typesFor_sampleChain.symm.trans htypes)
  refine ⟨_, hlower, hsource.trans ?_⟩
  -- The third function is reached, so the pragma is wanted.
  have hlow : ∃ k, ReflTransGen sampleChain.Calls sampleChainRequest.function k ∧
      k.requiresDouble = true :=
    (MetadataGraph.exists_reached_iff callees_sampleChain).2
      (.inr ⟨_, List.mem_cons_self, rfl⟩)
  have hkeys : proxyKeys (KernelSource.containersOf sampleChainRequest.function
      [⟨"low_1", sampleLow⟩, ⟨"mid", sampleMid⟩]) = [⟨.vector, "float"⟩, ⟨.matrix, "int"⟩] := by
    decide
  rw [KernelSource.pragma_mem_blocks_iff.1 (hpragma.2 hlow), hkeys]
  rfl

end KernelGen
