import KernelGen.KernelName
import KernelGen.Proofs.Numerals

/-!
# Kernel names tell instantiations apart

A kernel name is read back from both ends: its two numerals stand behind the last underscores, and
the skeleton stands before the first underscore behind the output name. What is left is the user
function, which may be any text.

* `KernelNames.of_injective`: different instantiations have different kernel names.
* `Identifier.isValid_sanitize`, `isValid_kernel`, `isValid_wrapper`: the names are identifiers if
  the user function is one.
* `NameRegistry.after`: the registry in which some instantiations were registered. Registering one
  more answers by whether it is among them (`register_of_mem`, `register_of_notMem`), so a whole run
  never fails (`registerAll_after`).
-/

namespace KernelGen

/-! ## Reading a name back -/

/-- Two texts that are cut at their first occurrence of a character are equal only if their parts
are. -/
theorem append_cons_inj_first {c : Char} {a b a' b' : List Char} (ha : c ∉ a) (ha' : c ∉ a')
    (h : a ++ c :: b = a' ++ c :: b') : a = a' ∧ b = b' := by
  rcases List.append_eq_append_iff.1 h with ⟨d, rfl, hd⟩ | ⟨d, rfl, hd⟩
  · cases d with
    | nil => simpa using hd
    | cons e d =>
      obtain ⟨rfl, -⟩ := List.cons.inj hd
      simp at ha'
  · cases d with
    | nil => simpa using hd.symm
    | cons e d =>
      obtain ⟨rfl, -⟩ := List.cons.inj hd
      simp at ha

/-- Two texts that are cut at their last occurrence of a character are equal only if their parts
are. -/
theorem append_cons_inj_last {c : Char} {a b a' b' : List Char} (hb : c ∉ b) (hb' : c ∉ b')
    (h : a ++ c :: b = a' ++ c :: b') : a = a' ∧ b = b' := by
  have hrev : b.reverse ++ c :: a.reverse = b'.reverse ++ c :: a'.reverse := by
    simpa using congrArg List.reverse h
  have hparts := append_cons_inj_first (by simpa using hb) (by simpa using hb') hrev
  exact ⟨List.reverse_inj.1 hparts.2, List.reverse_inj.1 hparts.1⟩

/-- A numeral behind an underscore is read back from the end of a text. -/
theorem append_numeral_inj {a a' : List Char} {n n' : UInt64}
    (h : a ++ '_' :: (Word.numeral n).toList = a' ++ '_' :: (Word.numeral n').toList) :
    a = a' ∧ n = n' := by
  rw [Word.toList_numeral, Word.toList_numeral] at h
  obtain ⟨hfront, hdigits⟩ := append_cons_inj_last (Decimal.notMem_digits (by decide))
    (Decimal.notMem_digits (by decide)) h
  exact ⟨hfront, UInt64.toNat_inj.1 (Decimal.digits_injective hdigits)⟩

/-- The skeletons have different tags. -/
theorem Skeleton.kernelTag_injective : Function.Injective Skeleton.kernelTag := by
  intro s s' h
  have hname : s.name = s'.name := (String.append_left_inj "Kernel").1 h
  have hofName : ∀ t : Skeleton, Skeleton.ofName? t.name = some t := by
    intro t
    cases t <;> decide
  exact Option.some.inj (by rw [← hofName s, hname, hofName s'])

/-- No tag has an underscore, so a tag ends at the next one. -/
theorem Skeleton.notMem_kernelTag (s : Skeleton) : '_' ∉ s.kernelTag.toList := by
  cases s <;> decide

/-- The characters of a kernel name, cut at the underscores that matter. -/
theorem toList_kernelName (base : String) (s : Skeleton) (function : String) (shape : Shape) :
    (kernelName base s function shape).toList =
      (Identifier.sanitize base).toList ++ '_' ::
        (s.kernelTag.toList ++ '_' :: (function.toList ++ "_Varity".toList ++ '_' ::
          (Word.numeral shape.varity).toList ++ "_Harity".toList ++ '_' ::
            (Word.numeral shape.harity).toList)) := by
  have hvarity : "_Varity_".toList = "_Varity".toList ++ ['_'] := by decide
  have hharity : "_Harity_".toList = "_Harity".toList ++ ['_'] := by decide
  have hbar : "_".toList = ['_'] := by decide
  simp only [kernelName, String.toList_append, hvarity, hharity, hbar, List.append_assoc,
    List.cons_append, List.nil_append]

/-- Under one output name, different instantiations have different kernel names. -/
theorem KernelNames.of_injective {base : String} {i j : Instantiation}
    (h : (KernelNames.of base i).kernel = (KernelNames.of base j).kernel) : i = j := by
  obtain ⟨s, f, v, w⟩ := i
  obtain ⟨s', f', v', w'⟩ := j
  have hchars := congrArg String.toList h
  simp only [KernelNames.of, toList_kernelName, Instantiation.shape] at hchars
  -- The output name is the same, so it can be taken off.
  have hrest := (List.cons.inj (List.append_cancel_left hchars)).2
  -- From the front the skeleton, and from the back the two numerals.
  obtain ⟨htag, hrest⟩ := append_cons_inj_first s.notMem_kernelTag s'.notMem_kernelTag hrest
  obtain ⟨hvarity, hw⟩ := append_numeral_inj hrest
  obtain ⟨hfunction, hv⟩ := append_numeral_inj (List.append_cancel_right hvarity)
  have hs := Skeleton.kernelTag_injective (String.toList_inj.1 htag)
  have hf := String.toList_inj.1 (List.append_cancel_right hfunction)
  rw [hs, hf, hv, hw]

/-! ## Names as identifiers -/

namespace Identifier

theorem isTail_of_isHead {c : Char} (h : isHead c = true) : isTail c = true := by
  rw [isHead, Bool.or_eq_true] at h
  rw [isTail, Bool.or_eq_true, Char.isAlphanum, Bool.or_eq_true]
  exact h.imp_left .inl

/-- An identifier consists of letters, digits and underscores. -/
theorem all_isTail_of_isValid {s : String} (h : isValid s = true) : s.toList.all isTail = true := by
  unfold isValid at h
  cases hs : s.toList with
  | nil => rfl
  | cons c cs =>
    rw [hs, Bool.and_eq_true] at h
    rw [List.all_cons, Bool.and_eq_true]
    exact ⟨isTail_of_isHead h.1, h.2⟩

/-- An identifier with more characters that may stand inside one is an identifier. -/
theorem isValid_append {s t : String} (hs : isValid s = true) (ht : t.toList.all isTail = true) :
    isValid (s ++ t) = true := by
  unfold isValid at hs ⊢
  rw [String.toList_append]
  cases hchars : s.toList with
  | nil => simp [hchars] at hs
  | cons c cs =>
    rw [hchars, Bool.and_eq_true] at hs
    rw [List.cons_append]
    dsimp only
    rw [List.all_append, hs.1, hs.2, ht]
    rfl

/-- Every text becomes an identifier when it is sanitized. -/
theorem isValid_sanitize (s : String) : isValid (sanitize s) = true := by
  -- A letter or digit is kept, and every other character becomes an underscore.
  have htail : ∀ c : Char, isTail (if c.isAlphanum then c else '_') = true := by
    intro c
    by_cases hc : c.isAlphanum = true
    · simp [hc, isTail]
    · simp [hc, isTail]
  have hall (cs : List Char) :
      (cs.map fun c => if c.isAlphanum then c else '_').all isTail = true := by
    simp [htail]
  unfold sanitize
  cases hs : s.toList with
  | nil => decide
  | cons c cs =>
    have hcs := hall cs
    have hc := htail c
    rw [List.map_cons]
    dsimp only
    generalize (if c.isAlphanum then c else '_') = d at hc ⊢
    -- A digit in front is put behind an underscore, so that the first character is none.
    by_cases hd : d.isDigit = true
    · rw [if_pos hd, isValid, String.toList_ofList]
      simp [hcs, hc, isHead]
    · rw [if_neg hd, isValid, String.toList_ofList]
      have hhead : isHead d = true := by
        rw [isTail, Char.isAlphanum] at hc
        simpa [hd, isHead] using hc
      simp [hcs, hhead]

end Identifier

/-- The digits of a number can stand in an identifier. -/
theorem all_isTail_numeral (n : UInt64) : (Word.numeral n).toList.all Identifier.isTail = true := by
  rw [Word.toList_numeral, List.all_eq_true]
  intro c hc
  simp [Identifier.isTail, Char.isAlphanum, Decimal.isDigit_of_mem_digits hc]

/-- The kernel of a function whose name is an identifier has an identifier for a name. -/
theorem isValid_kernel (base : String) {i : Instantiation}
    (h : Identifier.isValid i.function = true) :
    Identifier.isValid (KernelNames.of base i).kernel = true := by
  have htag : i.skeleton.kernelTag.toList.all Identifier.isTail = true := by
    cases i.skeleton <;> decide
  have hbars : "_".toList.all Identifier.isTail = true ∧
      "_Varity_".toList.all Identifier.isTail = true ∧
      "_Harity_".toList.all Identifier.isTail = true := by
    decide
  -- The sanitized output name is an identifier, and the rest may stand inside one.
  simp only [KernelNames.of, kernelName, String.append_assoc]
  refine Identifier.isValid_append (Identifier.isValid_sanitize base) ?_
  simp only [String.toList_append, List.all_append, hbars.1, hbars.2.1, hbars.2.2, htag,
    Identifier.all_isTail_of_isValid h, all_isTail_numeral, Bool.and_self]

/-- The wrapper of a kernel has an identifier for a name if the kernel has. -/
theorem isValid_wrapper {kernel : String} (h : Identifier.isValid kernel = true) :
    Identifier.isValid (wrapperName kernel) = true :=
  Identifier.isValid_append (by decide) (Identifier.all_isTail_of_isValid h)

/-! ## Runs of the registry -/

namespace NameRegistry

/-- Registers some instantiations one after another: the outcomes, and the registry at the end. -/
def registerAll (r : NameRegistry) :
    List Instantiation → Except GenError (List Registration × NameRegistry)
  | [] => .ok ([], r)
  | i :: is =>
    match r.register i with
    | .error e => .error e
    | .ok (outcome, r) => (r.registerAll is).map fun (outcomes, r) => (outcome :: outcomes, r)

/-- The registry in which some instantiations were registered: each of them once, by its kernel
name. -/
def after (base : String) (is : List Instantiation) : NameRegistry :=
  ⟨base, is.eraseDups.map fun i => ((KernelNames.of base i).kernel, i)⟩

variable {base : String} {is seen : List Instantiation} {i : Instantiation}

/-- Among instantiations by their kernel names, a name leads to the one to which it belongs. -/
theorem lookup_kernel (base : String) (i : Instantiation) (js : List Instantiation) :
    (js.map fun j => ((KernelNames.of base j).kernel, j)).lookup (KernelNames.of base i).kernel =
      if i ∈ js then some i else none := by
  induction js with
  | nil => rfl
  | cons j js ih =>
    rw [List.map_cons, List.lookup_cons]
    by_cases hij : i = j
    · simp [hij]
    · have hname : ((KernelNames.of base i).kernel == (KernelNames.of base j).kernel) = false :=
        beq_false_of_ne fun h => hij (KernelNames.of_injective h)
      simp [hname, hij, ih]

/-- Every name is owned by the instantiation that it was made for, once that is registered. -/
theorem owner?_after (base : String) (is : List Instantiation) (i : Instantiation) :
    (after base is).owner? (KernelNames.of base i).kernel = if i ∈ is then some i else none := by
  simp only [owner?, after, lookup_kernel, List.mem_eraseDups]

theorem after_append_of_mem (h : i ∈ is) : after base (is ++ [i]) = after base is := by
  have hnone : [i].removeAll is = [] := by
    simp [List.removeAll, h]
  rw [after, after, List.eraseDups_append, hnone, List.eraseDups_nil, List.append_nil]

/-- Registering an instantiation again gives the names it has. -/
theorem register_of_mem (h : i ∈ is) :
    (after base is).register i = .ok (.existing (KernelNames.of base i), after base is) := by
  have howner := owner?_after base is i
  rw [if_pos h] at howner
  simp only [register, show (after base is).base = base from rfl, howner, if_true]

/-- Registering an instantiation for the first time gives it names of its own. -/
theorem register_of_notMem (h : i ∉ is) :
    (after base is).register i =
      .ok (.new (KernelNames.of base i), after base (is ++ [i])) := by
  have howner := owner?_after base is i
  rw [if_neg h] at howner
  have hnew : [i].removeAll is = [i] := by
    simp [List.removeAll, h]
  simp only [register, show (after base is).base = base from rfl, howner]
  simp [after, List.eraseDups_append, hnew, List.eraseDups_cons]

/-- What registering an instantiation answers when some were registered before. -/
def outcome (base : String) (seen : List Instantiation) (i : Instantiation) : Registration :=
  if i ∈ seen then .existing (KernelNames.of base i) else .new (KernelNames.of base i)

/-- One registration: the answer, and the registry with one more instantiation. -/
theorem register_after (base : String) (is : List Instantiation) (i : Instantiation) :
    (after base is).register i = .ok (outcome base is i, after base (is ++ [i])) := by
  by_cases h : i ∈ is
  · rw [register_of_mem h, outcome, if_pos h, after_append_of_mem h]
  · rw [register_of_notMem h, outcome, if_neg h]

/-- A run of registrations: every one is answered by what came before it. -/
theorem registerAll_after (base : String) (seen is : List Instantiation) :
    (after base seen).registerAll is =
      .ok ((is.zipIdx seen.length).map fun (i, k) => outcome base ((seen ++ is).take k) i,
        after base (seen ++ is)) := by
  -- The instantiations seen before grow with every step.
  induction is generalizing seen with
  | nil => simp [registerAll]
  | cons i is ih =>
    have hstep := ih (seen ++ [i])
    rw [List.append_assoc, List.singleton_append, List.length_append,
      List.length_singleton] at hstep
    have hfirst : (seen ++ i :: is).take seen.length = seen := List.take_left
    rw [registerAll, register_after]
    dsimp only
    rw [hstep, List.zipIdx_cons, List.map_cons, hfirst]
    rfl

end NameRegistry

end KernelGen
