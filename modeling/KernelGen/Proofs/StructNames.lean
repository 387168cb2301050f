import KernelGen.Proofs.DefinitionOrder
import KernelGen.Proofs.KernelNames
import KernelGen.Proofs.KernelScope

/-!
# The names of structs

A kernel has one struct for each pair of a container kind and an element type, and the name of the
struct is made up of the two. Neither part can be read back for certain: the name of a kind may have
underscores, and everything in a type that is no letter or digit becomes one. So two pairs can get
one name, and the kernel then defines it twice.

* `Identifier.sanitize_of_isValid`: a type that is an identifier stays as it is.
* `ProxyKey.typeName_eq_iff`: the pairs that get one name.
* `ProxyKey.nodup_typeNames_iff`: when some pairs get pairwise different names.
* `KernelSource.exists_structs`: the structs in the text of a kernel source.
-/

namespace KernelGen

open Relation (ReflTransGen)

/-! ## Names that are read back -/

namespace Identifier

/-- No identifier starts with a digit. -/
theorem isDigit_of_isHead {c : Char} (h : isHead c = true) : c.isDigit = false := by
  rw [isHead, Bool.or_eq_true, beq_iff_eq] at h
  rcases h with h | rfl
  · simp only [Char.isAlpha, Char.isUpper, Char.isLower, Bool.or_eq_true, Bool.and_eq_true,
      decide_eq_true_eq, UInt32.le_iff_toNat_le, ge_iff_le] at h
    rw [← Bool.not_eq_true, Char.isDigit, Bool.and_eq_true, decide_eq_true_eq, decide_eq_true_eq,
      UInt32.le_iff_toNat_le, ge_iff_le, UInt32.le_iff_toNat_le]
    -- The letters are above the digits.
    change 65 ≤ c.toNat ∧ c.toNat ≤ 90 ∨ 97 ≤ c.toNat ∧ c.toNat ≤ 122 at h
    change ¬ (48 ≤ c.toNat ∧ c.toNat ≤ 57)
    omega
  · decide

/-- An identifier stays as it is. -/
theorem sanitize_of_isValid {s : String} (h : isValid s = true) : sanitize s = s := by
  have hchars : (s.toList.map fun c => if c.isAlphanum then c else '_') = s.toList := by
    refine (List.map_congr_left fun c hc => ?_).trans (List.map_id _)
    have hc := List.all_eq_true.1 (all_isTail_of_isValid h) c hc
    rw [isTail, Bool.or_eq_true, beq_iff_eq] at hc
    rcases hc with hc | rfl
    · exact if_pos hc
    · decide
  unfold sanitize
  rw [hchars]
  unfold isValid at h
  cases hs : s.toList with
  | nil => simp [hs] at h
  | cons c cs =>
    rw [hs, Bool.and_eq_true] at h
    -- No underscore is put in front, since an identifier does not begin with a digit.
    dsimp only
    rw [isDigit_of_isHead h.1, if_neg Bool.false_ne_true, ← hs, String.ofList_toList]

end Identifier

namespace ContainerKind

/-- The kinds of containers have different names. -/
theorem name_injective : Function.Injective name := by
  have hall : ∀ k ∈ all, ∀ k' ∈ all, k.name = k'.name → k = k' := by decide
  exact fun k k' h => hall k k.mem_all k' k'.mem_all h

/-- The name of a kind continues that of another behind an underscore only for the rows of a
matrix. -/
theorem row_of_name_eq {k k' : ContainerKind} {d : String} (h : k'.name = k.name ++ "_" ++ d) :
    k = .matrix ∧ k' = .matrixRow ∧ d = "row" := by
  have hall : ∀ k ∈ all, ∀ k' ∈ all, (k.name ++ "_").toList.isPrefixOf k'.name.toList = true →
      k = .matrix ∧ k' = .matrixRow := by
    decide
  obtain ⟨rfl, rfl⟩ := hall k k.mem_all k' k'.mem_all (by simp [h])
  have hrow : matrix.name ++ "_" ++ "row" = matrix.name ++ "_" ++ d := h
  exact ⟨rfl, rfl, ((String.append_right_inj _).1 hrow).symm⟩

end ContainerKind

namespace ProxyKey

open Identifier (sanitize)

/-- A matrix whose elements have a type of such a name that the struct could be one for rows. -/
def LooksLikeRow (m row : ProxyKey) : Prop :=
  m.kind = .matrix ∧ row.kind = .matrixRow ∧ sanitize m.type = "row_" ++ sanitize row.type

/-- A matrix that looks like a row gets the type name of the row. -/
theorem LooksLikeRow.typeName_eq {m row : ProxyKey} (h : m.LooksLikeRow row) :
    m.typeName = row.typeName := by
  obtain ⟨hm, hrow, htype⟩ := h
  have hname : ContainerKind.matrixRow.name = ContainerKind.matrix.name ++ "_" ++ "row" := by
    decide
  have hbar : "row_" = "row" ++ "_" := by decide
  rw [typeName, typeName, hm, hrow, htype, hname, hbar]
  simp only [String.append_assoc, -String.reduceAppend]

/-- Two structs have one name exactly if they are of one kind and their types become the same, or if
one is for a matrix and looks as if it were for the rows that the other is for. -/
theorem typeName_eq_iff {a b : ProxyKey} :
    a.typeName = b.typeName ↔
      (a.kind = b.kind ∧ sanitize a.type = sanitize b.type) ∨ a.LooksLikeRow b ∨
        b.LooksLikeRow a := by
  constructor
  · intro h
    have hparts : fieldParam a.kind.name (sanitize a.type) =
        fieldParam b.kind.name (sanitize b.type) := h
    rcases cases_of_fieldParam_eq hparts with ⟨hkind, htype⟩ | ⟨d, hkind, htype⟩ | ⟨d, hkind, htype⟩
    · exact .inl ⟨ContainerKind.name_injective hkind, htype⟩
    · obtain ⟨ha, hb, rfl⟩ := ContainerKind.row_of_name_eq hkind
      exact .inr (.inl ⟨ha, hb, htype⟩)
    · obtain ⟨hb, ha, rfl⟩ := ContainerKind.row_of_name_eq hkind
      exact .inr (.inr ⟨hb, ha, htype⟩)
  · rintro (⟨hkind, htype⟩ | hrow | hrow)
    · rw [typeName, typeName, hkind, htype]
    · exact hrow.typeName_eq
    · exact hrow.typeName_eq.symm

/-- Structs have pairwise different names exactly if no two of one kind have types that become the
same, and none looks like a struct for rows that is there too. -/
theorem nodup_typeNames_iff {keys : List ProxyKey} (hkeys : keys.Nodup) :
    (keys.map typeName).Nodup ↔
      (∀ a ∈ keys, ∀ b ∈ keys, a ≠ b → a.kind = b.kind → sanitize a.type ≠ sanitize b.type) ∧
        ∀ m ∈ keys, ∀ row ∈ keys, ¬ m.LooksLikeRow row := by
  rw [List.nodup_map_iff_inj_on hkeys]
  constructor
  · intro hinj
    refine ⟨fun a ha b hb hne hkind htype => hne ?_, fun m hm row hrow hlooks => ?_⟩
    · exact hinj a ha b hb (typeName_eq_iff.2 (.inl ⟨hkind, htype⟩))
    · -- The two are of different kinds, so that they cannot be one.
      have hkinds := congrArg kind (hinj m hm row hrow hlooks.typeName_eq)
      rw [hlooks.1, hlooks.2.1] at hkinds
      cases hkinds
  · rintro ⟨hsame, hlooks⟩ a ha b hb h
    rcases typeName_eq_iff.1 h with ⟨hkind, htype⟩ | hrow | hrow
    · by_contra hne
      exact hsame a ha b hb hne hkind htype
    · exact absurd hrow (hlooks a ha b hb)
    · exact absurd hrow (hlooks b hb a ha)

/-- If the types are identifiers, only a matrix can share the name of its struct, with rows. -/
theorem nodup_typeNames_iff_of_isValid {keys : List ProxyKey} (hkeys : keys.Nodup)
    (htypes : ∀ key ∈ keys, Identifier.isValid key.type = true) :
    (keys.map typeName).Nodup ↔
      ∀ type, ⟨.matrixRow, type⟩ ∈ keys → ⟨.matrix, "row_" ++ type⟩ ∉ keys := by
  have hkeep : ∀ key ∈ keys, sanitize key.type = key.type := fun key hkey =>
    Identifier.sanitize_of_isValid (htypes key hkey)
  rw [nodup_typeNames_iff hkeys]
  constructor
  · rintro ⟨-, hlooks⟩ type hrow hm
    refine hlooks _ hm _ hrow ⟨rfl, rfl, ?_⟩
    rw [hkeep _ hm, hkeep _ hrow]
  · intro hnone
    refine ⟨fun a ha b hb hne hkind htype => hne ?_, ?_⟩
    · rw [hkeep a ha, hkeep b hb] at htype
      obtain ⟨kind, type⟩ := a
      obtain ⟨kind', type'⟩ := b
      obtain rfl : kind = kind' := hkind
      obtain rfl : type = type' := htype
      rfl
    · rintro ⟨kind, type⟩ hm ⟨kind', type'⟩ hrow ⟨rfl, rfl, htype⟩
      rw [hkeep _ hm, hkeep _ hrow] at htype
      obtain rfl : type = "row_" ++ type' := htype
      exact hnone type' hrow hm

end ProxyKey

/-! ## Structs in a kernel source -/

/-- No struct is asked for twice. -/
theorem nodup_proxyKeys (params : List ContainerParam) : (proxyKeys params).Nodup := by
  have hsorted : (proxyKeys params).Pairwise fun a b => ProxyKey.before a b = true :=
    pairwise_sortDistinct _
  refine hsorted.imp ?_
  rintro a _ hlt rfl
  exact Std.Irrefl.irrefl (r := fun a b => ProxyKey.before a b = true) a hlt

/-- The structs stand one behind the other in the text. -/
theorem KernelSource.exists_structs (g : MetadataGraph) (f : UserFunction) (callees : List Callee)
    (types : List UserType) (kernel : String) (preserveLines : Bool) :
    ∃ front back, definitionsText g f callees types preserveLines ++ kernelText f kernel =
      front ++ String.join ((proxyKeys (containersOf f callees)).map ProxyKey.definition) ++
        back := by
  refine ⟨doublePart f callees ++ constantPart g.constants ++ typePart types ++ indexTypes,
    String.join (callees.map fun c => functionText c.function c.name preserveLines) ++
      functionText f f.uniqueName preserveLines ++ kernelText f kernel, ?_⟩
  unfold definitionsText proxyDefinitions
  simp only [String.append_assoc, -String.reduceAppend]

/-- The struct names of a kernel source. There is one struct for each pair of a kind and an element
type among the containers of the function and of all that it leads to, and its definition has its
name. The names are pairwise different exactly if no two types of one kind become the same, and no
matrix has a type that becomes `row_` in front of what the type of a matrix row becomes. If the
types are identifiers, the second can only happen for the types `row_t` and `t`, and the first
cannot. -/
theorem lower_struct_names_distinct_iff {g : MetadataGraph} {r : LoweringRequest} {a : Artifact}
    (h : Artifact.lower g r = .ok a) :
    ∃ keys : List ProxyKey,
      (∀ key, key ∈ keys ↔
        ∃ k, ReflTransGen g.Calls r.function k ∧ ∃ p ∈ k.containers, key = ⟨p.kind, p.type⟩) ∧
      keys.Nodup ∧
      (∃ front back, a.kernelSource =
        front ++ String.join (keys.map ProxyKey.definition) ++ back) ∧
      (∀ key ∈ keys, ∃ members accessors,
        key.definition = ProxyKey.structText members key.typeName ++ accessors) ∧
      ((keys.map ProxyKey.typeName).Nodup ↔
        (∀ x ∈ keys, ∀ y ∈ keys, x ≠ y → x.kind = y.kind →
          Identifier.sanitize x.type ≠ Identifier.sanitize y.type) ∧
        ∀ m ∈ keys, ∀ row ∈ keys, m.kind = .matrix → row.kind = .matrixRow →
          Identifier.sanitize m.type ≠ "row_" ++ Identifier.sanitize row.type) ∧
      ((∀ key ∈ keys, Identifier.isValid key.type = true) →
        ((keys.map ProxyKey.typeName).Nodup ↔
          ∀ type, ⟨.matrixRow, type⟩ ∈ keys → ⟨.matrix, "row_" ++ type⟩ ∉ keys)) := by
  obtain ⟨-, source, delim, htext, -, rfl⟩ := Artifact.lower_eq_ok_iff.1 h
  obtain ⟨callees, types, hcallees, -, rfl⟩ := KernelSource.text_eq_ok_iff.1 htext
  have hnodup := nodup_proxyKeys (KernelSource.containersOf r.function callees)
  refine ⟨_, fun key => ?_, hnodup, KernelSource.exists_structs g r.function callees types _ _,
    fun key _ => key.definition_eq_structText, ?_, ProxyKey.nodup_typeNames_iff_of_isValid hnodup⟩
  · simp only [KernelSource.mem_proxyKeys_iff hcallees, ProxyKey.of, eq_comm]
  · refine (ProxyKey.nodup_typeNames_iff hnodup).trans (and_congr_right fun _ => ?_)
    simp only [ProxyKey.LooksLikeRow, not_and]

/-- A matrix of some type and a row of a matrix of numbers. -/
def sampleMatrices (type : String) : List ContainerParam :=
  [⟨"m", type, .matrix⟩, ⟨"r", "float", .matrixRow⟩]

/-- The function with the matrix and the row, which refers to a type. -/
def sampleRow (type : String) : UserFunction :=
  sampleCross (sampleMatrices type) true

/-- The function, the type that it refers to, and its cross product. -/
def sampleRows (type : String) : MetadataGraph :=
  sampleCrosses (sampleMatrices type) true []

/-- The request for the cross product. -/
def sampleRowRequest (type : String) : LoweringRequest :=
  sampleCrossRequest (sampleMatrices type) true

/-- The structs are those of the matrix and of the row. -/
theorem mem_structs_sampleRows {type : String} {key : ProxyKey} :
    (∃ k, ReflTransGen (sampleRows type).Calls (sampleRow type) k ∧
      ∃ p ∈ k.containers, key = ⟨p.kind, p.type⟩) ↔
      key = ⟨.matrix, type⟩ ∨ key = ⟨.matrixRow, "float"⟩ := by
  have hcallees : (sampleRows type).callees (sampleRow type) = .ok [] := callees_sampleCrosses _ _ _
  rw [MetadataGraph.exists_reached_iff hcallees]
  simp [sampleRow, sampleCross, sampleMatrices]

/-- A matrix of numbers and a row of numbers have structs of different names. -/
theorem lower_struct_names_distinct_iff_sample :
    ∃ a, Artifact.lower (sampleRows "float") (sampleRowRequest "float") = .ok a ∧
      ∃ keys : List ProxyKey, (∃ front back, a.kernelSource =
        front ++ String.join (keys.map ProxyKey.definition) ++ back) ∧
        ⟨.matrix, "float"⟩ ∈ keys ∧ ⟨.matrixRow, "float"⟩ ∈ keys ∧
        (keys.map ProxyKey.typeName).Nodup := by
  have hlower := Artifact.lower_of_no_quote (g := sampleRows "float")
    (r := sampleRowRequest "float") rfl (callees_sampleCrosses _ _ _) (typesFor_sampleCrosses _ _ _)
    (by decide +kernel)
  obtain ⟨keys, hmem, -, htext, -, -, hnames⟩ := lower_struct_names_distinct_iff hlower
  have hkeys (key : ProxyKey) := (hmem key).trans mem_structs_sampleRows
  have htypes : ∀ key ∈ keys, Identifier.isValid key.type = true := by
    intro key hkey
    rcases (hkeys key).1 hkey with rfl | rfl <;> decide
  refine ⟨_, hlower, keys, htext, (hkeys _).2 (.inl rfl), (hkeys _).2 (.inr rfl),
    (hnames htypes).2 fun type _ hm => ?_⟩
  -- The type of the matrix does not begin as it would have to.
  rcases (hkeys _).1 hm with h | h
  · have hchars := congrArg (fun key => key.type.toList.head?) h
    simp at hchars
  · cases congrArg ProxyKey.kind h

/-- Metadata that is validated, and a kernel source that defines one name twice: first as the struct
of a matrix, and then as that of a row. -/
theorem lower_struct_name_twice :
    (sampleRows "row_float").validate [] = .ok [] ∧
    (sampleRows "row_float").bind ⟨.mapPairs, "f", 1, 1⟩ = .ok (sampleRow "row_float") ∧
    ∃ a, Artifact.lower (sampleRows "row_float") (sampleRowRequest "row_float") = .ok a ∧
      ∃ front middle back, a.kernelSource = front ++
        ProxyKey.structText ["__global row_float *data", "size_t rows", "size_t cols"]
          "skel_matrix_row_float" ++ middle ++
        ProxyKey.structText ["__global float *data", "size_t cols"]
          "skel_matrix_row_float" ++ back := by
  have hlower := Artifact.lower_of_no_quote (g := sampleRows "row_float")
    (r := sampleRowRequest "row_float") rfl (callees_sampleCrosses _ _ _)
    (typesFor_sampleCrosses _ _ _) (by decide +kernel)
  obtain ⟨accessors, hmatrix⟩ : ∃ accessors, ProxyKey.definition ⟨.matrix, "row_float"⟩ =
      ProxyKey.structText ["__global row_float *data", "size_t rows", "size_t cols"]
        "skel_matrix_row_float" ++ accessors :=
    ⟨ProxyKey.accessorText "row_float" "skel_matrix_row_float_at"
      "skel_matrix_row_float m, size_t row, size_t col" "m.data[row * m.cols + col]" ++ "\n",
      by decide +kernel⟩
  obtain ⟨accessors', hrow⟩ : ∃ accessors, ProxyKey.definition ⟨.matrixRow, "float"⟩ =
      ProxyKey.structText ["__global float *data", "size_t cols"] "skel_matrix_row_float" ++
        accessors :=
    ⟨ProxyKey.accessorText "float" "skel_matrix_row_float_at"
      "skel_matrix_row_float r, size_t col" "r.data[col]" ++ "\n", by decide +kernel⟩
  have hkeys : proxyKeys (KernelSource.containersOf (sampleRow "row_float") []) =
      [⟨.matrix, "row_float"⟩, ⟨.matrixRow, "float"⟩] := by
    decide
  obtain ⟨front, back, htext⟩ := KernelSource.exists_structs (sampleRows "row_float")
    (sampleRow "row_float") [] [sampleType] "k" false
  rw [hkeys, List.map_cons, List.map_singleton, String.join_cons, String.join_cons,
    String.join_nil, hmatrix, hrow] at htext
  refine ⟨validate_sampleCrosses _ _ _ (by decide) (by simp), bind_sampleCrosses _ _ _, _,
    hlower, front, accessors, accessors' ++ back, htext.trans ?_⟩
  simp only [String.append_assoc, String.append_empty, -String.reduceAppend]

end KernelGen
