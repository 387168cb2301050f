import KernelGen.Proofs.FileTrees

/-!
# Components of paths

Texts that name one path may differ in slashes that are doubled or stand at the end, and in single
dots. What counts is whether a path begins at the root, and its components in order.

* `Path.Same`: two texts name one path.
* `Path.names_join`, `Path.isAbsolute_join`: a path that is seen from a directory.
* `Path.of_parent?`, `Path.exists_parent?`: the path above another.
* `Path.same_join_iff`: a name in two directories is one path only if the directories are.
-/

namespace KernelGen

namespace Text

/-- The pieces of a split text do not hold the separator. -/
theorem notMem_of_mem_split {sep : Char} {cs piece : List Char} (h : piece ∈ split sep cs) :
    sep ∉ piece := by
  induction cs generalizing piece with
  | nil =>
    obtain rfl := List.mem_singleton.1 h
    exact List.not_mem_nil
  | cons c cs ih =>
    rw [split] at h
    split at h
    · rcases List.mem_cons.1 h with rfl | h
      · exact List.not_mem_nil
      · exact ih h
    · next hc =>
      cases hcs : split sep cs with
      | nil => exact absurd hcs (split_ne_nil sep cs)
      | cons first rest =>
        rw [hcs] at h
        rcases List.mem_cons.1 h with rfl | h
        · rw [List.mem_cons, not_or]
          exact ⟨Ne.symm hc, ih (hcs ▸ List.mem_cons_self)⟩
        · exact ih (hcs ▸ List.mem_cons_of_mem _ h)

/-- Pieces that are put together with a separator between them are cut apart again. -/
theorem split_intercalate {sep : Char} {pieces : List (List Char)} (hne : pieces ≠ [])
    (h : ∀ piece ∈ pieces, sep ∉ piece) : split sep ([sep].intercalate pieces) = pieces := by
  induction pieces with
  | nil => exact absurd rfl hne
  | cons first rest ih =>
    have hfirst := split_of_notMem (h first List.mem_cons_self)
    cases rest with
    | nil => rw [List.intercalate_singleton, hfirst]
    | cons second rest =>
      have hrest := ih (List.cons_ne_nil _ _) fun piece hpiece =>
        h piece (List.mem_cons_of_mem _ hpiece)
      rw [List.intercalate_cons_cons, List.append_assoc, List.singleton_append, split_append_cons,
        hfirst, hrest, List.singleton_append]

end Text

namespace Path

/-- Whether a piece that is not the first one says something. -/
def isStep (piece : List Char) : Bool :=
  !piece.isEmpty && piece != ['.']

/-- The components of a path, without their places. -/
def names (p : String) : List (List Char) :=
  (components p).map (·.1)

/-- Whether two texts name one path: both or neither begin at the root, and the components are the
same. -/
def Same (p q : String) : Prop :=
  isAbsolute p = isAbsolute q ∧ names p = names q

instance (p q : String) : Decidable (Same p q) :=
  inferInstanceAs (Decidable (_ ∧ _))

/-! ## Pieces and components -/

theorem pieces_ne_nil (p : String) : pieces p ≠ [] :=
  Text.split_ne_nil '/' p.toList

/-- The pieces of two paths with a slash between them. -/
theorem pieces_append (front p : String) :
    pieces (front ++ "/" ++ p) = pieces front ++ pieces p := by
  have hlist : (front ++ "/" ++ p).toList = front.toList ++ '/' :: p.toList := by simp
  rw [pieces, hlist, Text.split_append_cons]
  rfl

theorem components_eq (p : String) :
    components p = (pieces p).zipIdx.filter fun x => isComponent x.2 x.1 :=
  rfl

/-- The components behind the first piece. -/
theorem map_filter_zipIdx (pieces : List (List Char)) (k : Nat) :
    ((pieces.zipIdx (k + 1)).filter fun x => isComponent x.2 x.1).map (·.1) =
      pieces.filter isStep := by
  induction pieces generalizing k with
  | nil => rfl
  | cons piece pieces ih =>
    have hstep : isComponent (k + 1) piece = isStep piece := by simp [isComponent, isStep]
    rw [List.zipIdx_cons, List.filter_cons, List.filter_cons, hstep]
    split
    · rw [List.map_cons, ih]
    · exact ih (k + 1)

/-- The names of a path, from its pieces: the first counts unless it is empty. -/
theorem names_of_pieces {p : String} {first : List Char} {rest : List (List Char)}
    (h : pieces p = first :: rest) :
    names p = (if first.isEmpty then [] else [first]) ++ rest.filter isStep := by
  have hfirst : isComponent 0 first = !first.isEmpty := by simp [isComponent]
  have hrest := map_filter_zipIdx rest 0
  rw [names, components_eq, h, List.zipIdx_cons, List.filter_cons, hfirst]
  cases first.isEmpty with
  | true => exact hrest
  | false => exact congrArg (first :: ·) hrest

/-- Further pieces bring further components, but for the empty ones and single dots. -/
theorem names_of_pieces_append {p q : String} {more : List (List Char)}
    (h : pieces q = pieces p ++ more) : names q = names p ++ more.filter isStep := by
  cases hp : pieces p with
  | nil => exact absurd hp (pieces_ne_nil p)
  | cons first rest =>
    rw [hp, List.cons_append] at h
    rw [names_of_pieces h, names_of_pieces hp, List.filter_append, List.append_assoc]

/-- A path begins at the root exactly if its first piece is empty and not the only one. -/
theorem isAbsolute_iff {p : String} :
    isAbsolute p = true ↔ ∃ second rest, pieces p = [] :: second :: rest := by
  unfold isAbsolute pieces
  cases p.toList with
  | nil => simp [Text.split]
  | cons c cs =>
    rw [List.head?_cons, beq_iff_eq, Option.some_inj, Text.split]
    cases hcs : Text.split '/' cs with
    | nil => exact absurd hcs (Text.split_ne_nil '/' cs)
    | cons second rest =>
      by_cases hc : c = '/'
      · simp [hc]
      · simp [hc]

/-! ## Joining -/

/-- A path stays absolute, or relative, with more text behind it. -/
theorem isAbsolute_append {p : String} (hp : p ≠ "") (q : String) :
    isAbsolute (p ++ q) = isAbsolute p := by
  unfold isAbsolute
  cases h : p.toList with
  | nil => exact absurd (String.toList_eq_nil_iff.1 h) hp
  | cons c cs => rw [String.toList_append, h, List.cons_append, List.head?_cons, List.head?_cons]

/-- A relative path that is seen from a directory: the directory up to a slash at its end, a slash
and the path. -/
theorem exists_join_eq {dir p : String} (hdir : dir ≠ "") (hp : isAbsolute p = false) :
    ∃ front, join dir p = front ++ "/" ++ p ∧ names front = names dir ∧
      isAbsolute (front ++ "/") = isAbsolute dir := by
  have hempty : dir.isEmpty = false := by simpa using hdir
  unfold join
  rw [hp, hempty, Bool.or_self, if_neg Bool.false_ne_true]
  split
  · next hslash =>
    obtain ⟨front, hfront⟩ := List.getLast?_eq_some_iff.1 (beq_iff_eq.1 hslash)
    obtain rfl : dir = String.ofList front ++ "/" := by
      rw [← String.toList_inj, hfront]
      simp
    -- The piece behind the slash is empty.
    have hpieces : pieces (String.ofList front ++ "/") = pieces (String.ofList front) ++ [[]] := by
      have happend := pieces_append (String.ofList front) ""
      rwa [String.append_empty] at happend
    refine ⟨_, rfl, ?_, rfl⟩
    rw [names_of_pieces_append hpieces]
    exact (List.append_nil _).symm
  · exact ⟨dir, rfl, rfl, isAbsolute_append hdir "/"⟩

/-- The names of a path in a directory come behind those of the directory. -/
theorem names_join {dir p : String} (hdir : dir ≠ "") (hp : isAbsolute p = false) :
    names (join dir p) = names dir ++ (pieces p).filter isStep := by
  obtain ⟨front, hjoin, hnames, -⟩ := exists_join_eq hdir hp
  rw [hjoin, names_of_pieces_append (pieces_append front p), hnames]

/-- A relative path in a directory is absolute if the directory is. -/
theorem isAbsolute_join {dir p : String} (hdir : dir ≠ "") (hp : isAbsolute p = false) :
    isAbsolute (join dir p) = isAbsolute dir := by
  obtain ⟨front, hjoin, -, habsolute⟩ := exists_join_eq hdir hp
  rw [hjoin, isAbsolute_append (by simp), habsolute]

/-- A text that is the name of a file or directory: no slash, not empty and not a single dot. -/
def IsPlain (name : String) : Prop :=
  '/' ∉ name.toList ∧ name ≠ "" ∧ name ≠ "."

namespace IsPlain

variable {name : String} (h : IsPlain name)
include h

/-- A plain name is a relative path. -/
theorem isAbsolute_eq : isAbsolute name = false := by
  rw [← Bool.not_eq_true, isAbsolute, beq_iff_eq]
  exact fun hhead => h.1 (List.mem_of_mem_head? hhead)

theorem pieces_eq : pieces name = [name.toList] :=
  Text.split_of_notMem h.1

/-- A plain name is one step. -/
theorem isStep_eq : isStep name.toList = true := by
  have hempty : name.toList ≠ [] := fun hnil => h.2.1 (String.toList_eq_nil_iff.1 hnil)
  have hdot : name.toList ≠ ['.'] := fun hdot => h.2.2 (String.toList_inj.1 hdot)
  simp [isStep, hempty, hdot]

/-- A name in a directory is one more component. -/
theorem names_join (dir : String) : names (join dir name) = names dir ++ [name.toList] := by
  by_cases hdir : dir = ""
  · have hjoin : join dir name = name := by simp [join, hdir]
    have hempty : name.toList.isEmpty = false := by
      have hstep := h.isStep_eq
      rw [isStep, Bool.and_eq_true] at hstep
      simpa using hstep.1
    rw [hjoin, names_of_pieces h.pieces_eq, hempty, hdir]
    rfl
  · rw [Path.names_join hdir h.isAbsolute_eq, h.pieces_eq, List.filter_cons, h.isStep_eq,
      if_pos rfl, List.filter_nil]

theorem isAbsolute_join (dir : String) : isAbsolute (join dir name) = isAbsolute dir := by
  by_cases hdir : dir = ""
  · have hjoin : join dir name = name := by simp [join, hdir]
    rw [hjoin, h.isAbsolute_eq, hdir]
    rfl
  · exact Path.isAbsolute_join hdir h.isAbsolute_eq

end IsPlain

/-- A name in two directories is one path exactly if the directories are. -/
theorem same_join_iff {name : String} (h : IsPlain name) {dir dir' : String} :
    Same (join dir name) (join dir' name) ↔ Same dir dir' := by
  rw [Same, Same, h.isAbsolute_join, h.isAbsolute_join, h.names_join, h.names_join,
    List.append_cancel_right_eq]

/-! ## The path above -/

/-- The text up to a component is a path with the components up to there. -/
theorem components_upTo {p : String} {front back : List (List Char × Nat)} {piece : List Char}
    {k : Nat} (h : components p = front ++ (piece, k) :: back) :
    components (upTo p k) = front ++ [(piece, k)] ∧ isAbsolute (upTo p k) = isAbsolute p := by
  -- The pieces are cut where the component stands; between it and the one before nothing counts.
  rw [components_eq] at h
  obtain ⟨counted, others, hsplit, hcounted, hothers⟩ := List.filter_eq_append_iff.1 h
  obtain ⟨gap, rest, rfl, hgap, hpiece, -⟩ := List.filter_eq_cons_iff.1 hothers
  rw [← List.append_assoc] at hsplit
  obtain ⟨before, after, hpieces, hbefore, hafter⟩ := List.zipIdx_eq_append_iff.1 hsplit
  obtain ⟨piece', after, rfl, heq, -⟩ := List.zipIdx_eq_cons_iff.1 hafter.symm
  obtain ⟨rfl, rfl⟩ := Prod.mk.inj heq
  rw [Nat.zero_add]
  have hupTo : pieces (upTo p before.length) = before ++ [piece] := by
    have htake : (pieces p).take (before.length + 1) = before ++ [piece] := by
      rw [hpieces, List.take_length_add_append]
      rfl
    rw [upTo, htake, pieces, String.toList_ofList]
    refine Text.split_intercalate (by simp) fun piece' hmem => ?_
    rw [← htake] at hmem
    exact Text.notMem_of_mem_split (List.mem_of_mem_take hmem)
  constructor
  · have hlast : [(piece, before.length)].filter (fun x => isComponent x.2 x.1) =
        [(piece, before.length)] := by
      rw [Nat.zero_add] at hpiece
      exact List.filter_cons_of_pos hpiece
    rw [components_eq, hupTo, List.zipIdx_append, ← hbefore, List.filter_append, List.filter_append,
      hcounted, List.filter_eq_nil_iff.2 hgap, List.append_nil, Nat.zero_add, List.zipIdx_singleton,
      hlast]
  · -- The piece is not empty, so both begin at the root if there is an empty piece before it.
    have hne : piece ≠ [] := by
      rintro rfl
      simp [isComponent] at hpiece
    rw [Bool.eq_iff_iff, isAbsolute_iff, isAbsolute_iff, hupTo, hpieces]
    cases before with
    | nil => simp [hne]
    | cons first before => cases before <;> simp

/-- The path above another has all of its components but the last, and begins where it does. -/
theorem of_parent? {p q : String} (h : parent? p = some q) :
    names p ≠ [] ∧ names q = (names p).dropLast ∧ isAbsolute q = isAbsolute p := by
  unfold parent? at h
  split at h
  · cases h
  · next c hone =>
    obtain rfl := Option.some.inj h
    have hnames : names p = [c.1] := by
      rw [names, List.reverse_eq_iff.1 hone]
      rfl
    rw [hnames]
    split
    · next habsolute => exact ⟨by simp, rfl, habsolute.symm⟩
    · next habsolute => exact ⟨by simp, rfl, (Bool.eq_false_iff.2 habsolute).symm⟩
  · next last piece k more hmore =>
    obtain rfl := Option.some.inj h
    have hcomponents : components p = more.reverse ++ (piece, k) :: [last] := by
      rw [← List.reverse_reverse (components p), hmore]
      simp
    obtain ⟨hupTo, habsolute⟩ := components_upTo hcomponents
    refine ⟨by simp [names, hcomponents], ?_, habsolute⟩
    rw [names, names, hupTo, hcomponents, ← List.map_dropLast]
    simp

/-- There is a path above every path with components. -/
theorem exists_parent? {p : String} (h : names p ≠ []) : ∃ q, parent? p = some q := by
  unfold parent?
  split
  · next hnone =>
    rw [names, List.reverse_eq_nil_iff.1 hnone] at h
    exact absurd rfl h
  · exact ⟨_, rfl⟩
  · exact ⟨_, rfl⟩

end Path

end KernelGen
