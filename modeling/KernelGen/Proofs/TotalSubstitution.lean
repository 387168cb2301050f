import KernelGen.Proofs.DefinitionOrder
import KernelGen.Proofs.KernelNames
import KernelGen.Proofs.LiteralDecoding
import KernelGen.Proofs.Markers
import KernelGen.Proofs.TypeOrder

/-!
# No marker is left in generated text

Generated text is put together from user text, which may have loose braces anywhere, and from fixed
text, which has braces of its own. A marker could come about where two pieces meet. It does not,
since fixed text never has two opening braces in a row, and the character behind a user text is
never one that stands in a marker.

* `Unmarked`, `Sealed`: no marker stands in a text, and none comes about behind it either, if what
  follows has none.
* `Breaks`: a text begins with a character at which every marker in front of it has ended.
* `Block.sealed_text`: the blocks of a kernel source are sealed.
* `Artifact.sealed_hostText`: so is the host class around a kernel source without markers.
-/

namespace KernelGen

namespace Template

/-! ## Texts that can be put together -/

/-- A character that stands in some marker. -/
def isMarkerChar (c : Char) : Bool :=
  isNameTail c || c == '\x7b' || c == '\x7d'

/-- No marker stands in a text. -/
def Unmarked (s : String) : Prop :=
  MarkerFree s.toList

/-- No marker stands in a text, nor does one begin in it, if what follows has no marker. -/
def Sealed (s : String) : Prop :=
  ∀ rest, Unmarked rest → Unmarked (s ++ rest)

/-- A text begins with a character that stands in no marker. -/
def Breaks (s : String) : Prop :=
  ∃ c cs, s.toList = c :: cs ∧ isMarkerChar c = false

/-- Every character of a marker is one that stands in markers. -/
theorem isMarkerChar_of_mem {name : List Char} (h : isName name = true) {c : Char}
    (hc : c ∈ markerChars name) : isMarkerChar c = true := by
  have hcases : c = '\x7b' ∨ c ∈ name ∨ c = '\x7d' := by
    simpa [markerChars] using hc
  rcases hcases with rfl | hname | rfl
  · decide
  · rw [isMarkerChar, isNameTail_of_mem h c hname]
    rfl
  · decide

/-- A marker that begins in a text ends there, if what follows begins with another character. -/
theorem MarkerFree.append_cons {cs rest : List Char} {c : Char} (h : MarkerFree cs)
    (hc : isMarkerChar c = false) (hrest : MarkerFree (c :: rest)) :
    MarkerFree (cs ++ c :: rest) := by
  induction cs with
  | nil => exact hrest
  | cons d cs ih =>
    refine markerFree_cons_iff.2 ⟨?_, ih (markerFree_cons_iff.1 h).2⟩
    cases hm : marker? (d :: (cs ++ c :: rest)) with
    | none => rfl
    | some found =>
      obtain ⟨hname, heq⟩ := marker?_eq_some_iff.1 hm
      -- The marker lies in front of the character, since it cannot reach beyond it.
      have heq : (d :: cs) ++ c :: rest = markerChars found.1 ++ found.2 := heq
      rcases List.append_eq_append_iff.1 heq with ⟨more, hmarker, hback⟩ | ⟨more, hcs, -⟩
      · cases more with
        | nil => exact absurd ⟨hname, by simpa using hmarker.symm⟩ (h [] found.1 [])
        | cons e more =>
          obtain ⟨rfl, -⟩ := List.cons.inj hback
          have hmem := isMarkerChar_of_mem hname (c := c) (by simp [hmarker])
          rw [hc] at hmem
          cases hmem
      · exact absurd ⟨hname, by simpa using hcs⟩ (h [] found.1 more)

theorem unmarked_empty : Unmarked "" :=
  markerFree_nil

/-- User text and what follows it have no marker, if the latter begins with a character of none. -/
theorem Unmarked.append {s t : String} (hs : Unmarked s) (hbreaks : Breaks t) (ht : Unmarked t) :
    Unmarked (s ++ t) := by
  obtain ⟨c, cs, hlist, hc⟩ := hbreaks
  rw [Unmarked, hlist] at ht
  rw [Unmarked, String.toList_append, hlist]
  exact hs.append_cons hc ht

/-- Only the front of a text decides whether it ends the markers before it. -/
theorem Breaks.append {s : String} (h : Breaks s) (t : String) : Breaks (s ++ t) := by
  obtain ⟨c, cs, hlist, hc⟩ := h
  exact ⟨c, cs ++ t.toList, by rw [String.toList_append, hlist]; rfl, hc⟩

/-- A literal ends the markers before it if its first character does. -/
theorem breaks_ofList {c : Char} {cs : List Char} (h : isMarkerChar c = false) :
    Breaks (String.ofList (c :: cs)) :=
  ⟨c, cs, String.toList_ofList, h⟩

namespace Sealed

variable {s t : String}

/-- A sealed text has no marker. -/
theorem unmarked (h : Sealed s) : Unmarked s := by
  have hs := h "" unmarked_empty
  rwa [String.append_empty] at hs

/-- Sealed texts are sealed together. -/
theorem append (hs : Sealed s) (ht : Sealed t) : Sealed (s ++ t) := by
  intro rest hrest
  rw [String.append_assoc]
  exact hs _ (ht rest hrest)

/-- Fixed text is sealed. -/
theorem of_isClosed (h : isClosed s.toList = true) : Sealed s := by
  intro rest hrest
  rw [Unmarked, String.toList_append]
  generalize s.toList = cs at h
  induction cs with
  | nil => exact hrest
  | cons c cs ih =>
    have htail : isClosed cs = true := by
      rw [isClosed, Bool.and_eq_true] at h
      exact h.2
    exact markerFree_cons_iff.2 ⟨marker?_eq_none_of_isClosed h rest.toList, ih htail⟩

/-- A literal is sealed if its characters are closed. -/
theorem ofList {cs : List Char} (h : isClosed cs = true) : Sealed (String.ofList cs) :=
  of_isClosed (isClosed_ofList h)

/-- Text without opening braces is sealed. -/
theorem of_notMem (h : '\x7b' ∉ s.toList) : Sealed s := by
  apply of_isClosed
  generalize s.toList = cs at h
  induction cs with
  | nil => rfl
  | cons c cs ih =>
    rw [List.mem_cons, not_or] at h
    rw [isClosed, ih h.2, bne_iff_ne.2 (Ne.symm h.1)]
    rfl

/-- User text is sealed by what follows it. -/
theorem user (hs : Unmarked s) (hbreaks : Breaks t) (ht : Sealed t) : Sealed (s ++ t) := by
  intro rest hrest
  rw [String.append_assoc]
  exact hs.append (hbreaks.append rest) (ht rest hrest)

/-- Sealed texts are sealed one after the other. -/
theorem join {texts : List String} (h : ∀ s ∈ texts, Sealed s) : Sealed (String.join texts) := by
  induction texts with
  | nil => exact of_isClosed rfl
  | cons s texts ih =>
    rw [String.join_cons]
    exact (h s List.mem_cons_self).append (ih fun t ht => h t (List.mem_cons_of_mem s ht))

end Sealed

/-- No marker reaches over a comma in a list of user texts. -/
theorem Unmarked.intercalate {texts : List String} (h : ∀ s ∈ texts, Unmarked s) :
    Unmarked (", ".intercalate texts) := by
  induction texts with
  | nil => exact unmarked_empty
  | cons s texts ih =>
    cases texts with
    | nil =>
      rw [String.intercalate_singleton]
      exact h s List.mem_cons_self
    | cons t texts =>
      have hrest := ih fun u hu => h u (List.mem_cons_of_mem s hu)
      have hcomma : Sealed ", " := .of_isClosed (by decide)
      rw [String.intercalate_cons_cons, String.append_assoc]
      refine (h s List.mem_cons_self).append ?_ (hcomma _ hrest)
      exact (breaks_ofList (by decide)).append _

/-- Trimming the end of a text makes no marker. -/
theorem Unmarked.trimmedEnd {s : String} (h : Unmarked s) : Unmarked (Text.trimmedEnd s) := by
  intro front name back hat
  have hcut : s.toList = Text.trimEnd s.toList ++
      (s.toList.reverse.takeWhile Text.isBlank).reverse := by
    rw [Text.trimEnd, Text.dropEndWhile, ← List.reverse_append, List.takeWhile_append_dropWhile,
      List.reverse_reverse]
  rw [Text.trimmedEnd, String.toList_ofList] at hat
  have hwhole := hat.append [] (s.toList.reverse.takeWhile Text.isBlank).reverse
  rw [List.nil_append, ← hcut] at hwhole
  exact h _ _ _ hwhole

end Template

open Template (Unmarked Sealed Breaks)

/-! ## User text -/

/-- No text of a user function that can get into a kernel has a marker. -/
structure UserFunction.Unmarked (f : UserFunction) : Prop where
  /-- The unique name. -/
  uniqueName : Template.Unmarked f.uniqueName
  /-- The type of the result. -/
  returnType : Template.Unmarked f.returnType
  /-- The name of the index parameter. -/
  indexParam : Template.Unmarked f.indexParam
  /-- The body. -/
  body : Template.Unmarked f.body
  /-- The names of the functions that are called. -/
  calls : ∀ call ∈ f.calls, Template.Unmarked call
  /-- The names and types of the elementwise parameters. -/
  elementwise : ∀ p ∈ f.elementwise, Template.Unmarked p.name ∧ Template.Unmarked p.type
  /-- The names and types of the containers. -/
  containers : ∀ p ∈ f.containers, Template.Unmarked p.name ∧ Template.Unmarked p.type
  /-- The names and types of the scalars. -/
  scalars : ∀ p ∈ f.scalars, Template.Unmarked p.name ∧ Template.Unmarked p.type
  /-- The file of the declaration. -/
  file : ∀ loc ∈ f.location, Template.Unmarked loc.file

/-- No text of a graph that can get into a kernel has a marker. -/
structure MetadataGraph.Unmarked (g : MetadataGraph) : Prop where
  /-- The texts of the functions. -/
  functions : ∀ f ∈ g.functions, f.Unmarked
  /-- The definitions of the types. -/
  types : ∀ t ∈ g.types, Template.Unmarked t.definition
  /-- The names, types and values of the constants. -/
  constants : ∀ c ∈ g.constants, Template.Unmarked c.name ∧ Template.Unmarked c.typeName ∧
    Template.Unmarked c.definition

/-- No text of a request that can get into an artifact has a marker. -/
structure LoweringRequest.Unmarked (r : LoweringRequest) : Prop where
  /-- The name of the kernel. -/
  kernel : Template.Unmarked r.names.kernel
  /-- The name of the host class. -/
  wrapper : Template.Unmarked r.names.wrapper
  /-- The texts of the function. -/
  function : r.function.Unmarked

/-! ## Structs -/

/-- A sanitized text has no braces. -/
theorem Identifier.sealed_sanitize (s : String) : Sealed (sanitize s) := by
  refine .of_notMem fun hmem => ?_
  have htail := all_isTail_of_isValid (isValid_sanitize s)
  exact absurd (List.all_eq_true.1 htail _ hmem) (by decide)

namespace ProxyKey

/-- The name of a struct has no braces, whatever its element type is. -/
theorem sealed_typeName (k : ProxyKey) : Sealed k.typeName := by
  have hname : Sealed k.kind.name := .of_isClosed (by cases k.kind <;> decide)
  have hreserved : Sealed Identifier.reservedPrefix := .of_isClosed (by decide)
  have hbar : Sealed "_" := .of_isClosed (by decide)
  exact ((hreserved.append hname).append hbar).append (Identifier.sealed_sanitize k.type)

/-- The members of a struct are user texts with a semicolon behind each of them. -/
theorem sealed_structText {members : List String} {name : String}
    (hmembers : ∀ m ∈ members, Unmarked m) (hname : Sealed name) :
    Sealed (structText members name) := by
  have hlines : Sealed (String.join (members.map fun m => "\t" ++ m ++ ";\n")) := by
    refine .join fun line hline => ?_
    obtain ⟨m, hm, rfl⟩ := List.mem_map.1 hline
    rw [String.append_assoc]
    exact .append (.ofList (by decide))
      (.user (hmembers m hm) (Template.breaks_ofList (by decide)) (.ofList (by decide)))
  unfold structText
  exact .append (.append (.append (.append (.ofList (by decide)) hlines) (.ofList (by decide)))
    hname) (.ofList (by decide))

/-- The result type of an accessor is a user text with a blank behind it. -/
theorem sealed_accessorText {result name params value : String} (hresult : Unmarked result)
    (hname : Sealed name) (hparams : Sealed params) (hvalue : Sealed value) :
    Sealed (accessorText result name params value) := by
  unfold accessorText
  simp only [String.append_assoc, -String.reduceAppend]
  refine .append (.ofList (by decide)) (.user hresult ?_ ?_)
  · exact (Template.breaks_ofList (by decide)).append _
  · exact .append (.ofList (by decide)) (.append hname (.append (.ofList (by decide))
      (.append hparams (.append (.ofList (by decide)) (.append hvalue (.ofList (by decide)))))))

/-- In the definition of a struct, the element type is the only user text. -/
theorem sealed_definition {k : ProxyKey} (h : Unmarked k.type) : Sealed k.definition := by
  have hname := sealed_typeName k
  have hdata : Unmarked ("__global " ++ k.type ++ " *data") := by
    rw [String.append_assoc]
    exact (Sealed.append (.ofList (by decide))
      (.user h (Template.breaks_ofList (by decide)) (.ofList (by decide)))).unmarked
  obtain ⟨kind, type⟩ := k
  unfold definition
  -- The type stands in the struct and in front of accessors; all else is fixed.
  cases kind <;>
    repeat' first
      | with_reducible exact h
      | with_reducible exact hdata
      | with_reducible exact hname
      | with_reducible exact Sealed.ofList (by decide)
      | with_reducible exact (Sealed.ofList (by decide)).unmarked
      | with_reducible exact List.forall_mem_nil _
      | with_reducible refine List.forall_mem_cons.2 ⟨?_, ?_⟩
      | with_reducible refine sealed_structText ?_ ?_
      | with_reducible refine sealed_accessorText ?_ ?_ ?_ ?_
      | with_reducible refine Sealed.append ?_ ?_

end ProxyKey

/-! ## Parameters -/

/-- A blank between a type and a name keeps markers apart. -/
theorem Template.Unmarked.declaration {type name : String} (htype : Unmarked type)
    (hname : Unmarked name) : Unmarked (type ++ " " ++ name) := by
  have hblank : Sealed " " := .ofList (by decide)
  rw [String.append_assoc]
  exact htype.append ((breaks_ofList (by decide)).append name) (hblank name hname)

/-- The parameter for a field has the name of its container at the end. -/
theorem unmarked_fieldParam {field name : String} (hfield : Sealed field) (hname : Unmarked name) :
    Unmarked (fieldParam field name) := by
  have hreserved : Sealed Identifier.reservedPrefix := .of_isClosed (by decide)
  exact ((hreserved.append hfield).append (.ofList (by decide))) name hname

namespace ContainerKind

/-- The size fields have fixed names. -/
theorem sealed_sizeFields (k : ContainerKind) : ∀ field ∈ k.sizeFields, Sealed field := by
  have hclosed : ∀ field ∈ k.sizeFields, Template.isClosed field.toList = true := by
    cases k <;> decide
  exact fun field hfield => .of_isClosed (hclosed field hfield)

/-- The index fields have fixed names. -/
theorem sealed_indexFields (k : ContainerKind) : ∀ field ∈ k.indexFields, Sealed field := by
  have hclosed : ∀ field ∈ k.indexFields, Template.isClosed field.toList = true := by
    cases k <;> decide
  exact fun field hfield => .of_isClosed (hclosed field hfield)

end ContainerKind

namespace ContainerParam

variable {p : ContainerParam}

/-- The value of the elements is the parameter for them, or an offset from it. -/
theorem unmarked_dataValue (h : Unmarked p.name) : Unmarked p.dataValue := by
  have hdata : Unmarked (fieldParam "data" p.name) := unmarked_fieldParam (.ofList (by decide)) h
  have hcols : Unmarked (fieldParam "cols" p.name) := unmarked_fieldParam (.ofList (by decide)) h
  unfold dataValue
  dsimp only
  split
  · simp only [String.append_assoc, -String.reduceAppend]
    refine (Sealed.append (.ofList (by decide)) (.user hdata ?_ (.append (.ofList (by decide))
      (.user hcols ?_ (.ofList (by decide)))))).unmarked
    · exact (Template.breaks_ofList (by decide)).append _
    · exact Template.breaks_ofList (by decide)
  · exact hdata

/-- The members of a proxy have fixed names, and parameters for values. -/
theorem unmarked_members (h : Unmarked p.name) :
    ∀ m ∈ p.members, Sealed m.1 ∧ Unmarked m.2 := by
  intro m hm
  rw [members, List.cons_append, List.mem_cons, List.mem_append] at hm
  rcases hm with rfl | hm | hm
  · exact ⟨.ofList (by decide), unmarked_dataValue h⟩
  · obtain ⟨field, hfield, rfl⟩ := List.mem_map.1 hm
    have hsealed := p.kind.sealed_indexFields field hfield
    exact ⟨hsealed, unmarked_fieldParam hsealed h⟩
  · obtain ⟨field, hfield, rfl⟩ := List.mem_map.1 hm
    have hsealed := p.kind.sealed_sizeFields field hfield
    exact ⟨hsealed, unmarked_fieldParam hsealed h⟩

/-- An initializer ends with fixed text. -/
theorem sealed_initializer (h : Unmarked p.name) : Sealed p.initializer := by
  have hmembers : Unmarked (", ".intercalate
      (p.members.map fun m => "." ++ (m.1 ++ (" = " ++ m.2)))) := by
    refine .intercalate fun text htext => ?_
    obtain ⟨m, hm, rfl⟩ := List.mem_map.1 htext
    obtain ⟨hfield, hvalue⟩ := unmarked_members h m hm
    have hequals : Sealed " = " := .ofList (by decide)
    exact Sealed.ofList (by decide) _ (hfield _ (hequals _ hvalue))
  unfold initializer
  simp only [String.append_assoc, -String.reduceAppend]
  refine .append (ProxyKey.sealed_typeName _) (.append (.ofList (by decide)) (.user h ?_
    (.append (.ofList (by decide)) (.user hmembers ?_ (.ofList (by decide))))))
  · exact (Template.breaks_ofList (by decide)).append _
  · exact Template.breaks_ofList (by decide)

end ContainerParam

/-- No text of an argument has a marker. -/
def Slot.Unmarked : Slot → Prop
  | buffer name elemType => Template.Unmarked name ∧ Template.Unmarked elemType
  | size name => Template.Unmarked name
  | scalar name type => Template.Unmarked name ∧ Template.Unmarked type

namespace Slot

variable {s : Slot}

/-- A slot is declared in the kernel by its type and its name. -/
theorem Unmarked.kernelParam (h : s.Unmarked) : Template.Unmarked s.kernelParam := by
  cases s with
  | buffer name elemType =>
    have hstar : Sealed " *" := .ofList (by decide)
    unfold Slot.kernelParam
    simp only [String.append_assoc, -String.reduceAppend]
    refine Sealed.ofList (by decide) _ (h.2.append ?_ (hstar name h.1))
    exact (Template.breaks_ofList (by decide)).append _
  | size name => exact Sealed.ofList (by decide) _ h
  | scalar name type => exact h.2.declaration h.1

/-- A slot is declared in the host function by its type and its name. -/
theorem Unmarked.hostParam (h : s.Unmarked) : Template.Unmarked s.hostParam := by
  cases s with
  | buffer name elemType =>
    have hstar : Sealed "> *" := .ofList (by decide)
    unfold Slot.hostParam
    simp only [String.append_assoc, -String.reduceAppend]
    refine Sealed.ofList (by decide) _ (h.2.append ?_ (hstar name h.1))
    exact (Template.breaks_ofList (by decide)).append _
  | size name => exact Sealed.ofList (by decide) _ h
  | scalar name type => exact h.2.declaration h.1

/-- The host passes a slot on by its name. -/
theorem Unmarked.hostArg (h : s.Unmarked) : Template.Unmarked s.hostArg := by
  cases s with
  | buffer name elemType =>
    have hpointer : Sealed "->getDeviceDataPointer()" := .ofList (by decide)
    exact h.1.append (Template.breaks_ofList (by decide)) hpointer.unmarked
  | size name => exact h
  | scalar name type => exact h.1

end Slot

namespace UserFunction.Unmarked

variable {f : UserFunction}

/-- The slots of a function have its user texts in them, and no others. -/
theorem slots (h : f.Unmarked) : ∀ s ∈ f.slots, s.Unmarked := by
  intro s hs
  rw [UserFunction.slots, ParamLists.slots_assemble, argumentSlots, List.mem_append,
    List.mem_append] at hs
  rcases hs with (hs | hs) | hs
  · obtain ⟨p, hp, rfl⟩ := List.mem_map.1 hs
    exact h.elementwise p hp
  · obtain ⟨p, hp, hs⟩ := List.mem_flatMap.1 hs
    obtain ⟨hname, htype⟩ := h.containers p hp
    rw [ContainerParam.slots, List.cons_append, List.mem_cons, List.mem_append] at hs
    rcases hs with rfl | hs | hs
    · exact ⟨unmarked_fieldParam (.ofList (by decide)) hname, htype⟩
    · obtain ⟨field, hfield, rfl⟩ := List.mem_map.1 hs
      exact ⟨unmarked_fieldParam (p.kind.sealed_indexFields field hfield) hname,
        (Sealed.ofList (by decide)).unmarked⟩
    · obtain ⟨field, hfield, rfl⟩ := List.mem_map.1 hs
      exact unmarked_fieldParam (p.kind.sealed_sizeFields field hfield) hname
  · obtain ⟨p, hp, rfl⟩ := List.mem_map.1 hs
    exact h.scalars p hp

/-- No parameter of the kernel has a marker. -/
theorem kernelParams (h : f.Unmarked) : ∀ s ∈ f.kernelParams, Template.Unmarked s := by
  intro param hparam
  rw [UserFunction.kernelParams, ParamLists.kernelParams_assemble] at hparam
  obtain ⟨s, hs, rfl⟩ := List.mem_map.1 hparam
  exact (h.slots s hs).kernelParam

/-- No parameter of the host function has a marker. -/
theorem hostParams (h : f.Unmarked) : ∀ s ∈ f.hostParams, Template.Unmarked s := by
  intro param hparam
  rw [UserFunction.hostParams, ParamLists.hostParams_assemble] at hparam
  obtain ⟨s, hs, rfl⟩ := List.mem_map.1 hparam
  exact (h.slots s hs).hostParam

/-- No argument that the host passes on has a marker. -/
theorem kernelArgs (h : f.Unmarked) : ∀ s ∈ f.kernelArgs, Template.Unmarked s := by
  intro arg harg
  rw [UserFunction.kernelArgs, ParamLists.kernelArgs_assemble] at harg
  obtain ⟨s, hs, rfl⟩ := List.mem_map.1 harg
  exact (h.slots s hs).hostArg

/-- No argument of the call has a marker. -/
theorem callArgs (h : f.Unmarked) : ∀ s ∈ f.callArgs, Template.Unmarked s := by
  intro arg harg
  simp only [callArgs_eq, List.mem_append] at harg
  rcases harg with ((harg | harg) | harg) | harg
  · -- The local of the index is the same for all functions.
    obtain ⟨e, he, rfl⟩ := List.mem_map.1 harg
    unfold indexPassed at he
    split at he
    · cases he
    · obtain rfl := List.mem_singleton.1 he
      exact (Sealed.ofList (by decide)).unmarked
    · obtain rfl := List.mem_singleton.1 he
      exact (Sealed.ofList (by decide)).unmarked
  · obtain ⟨p, hp, rfl⟩ := List.mem_map.1 harg
    have hname := (h.elementwise p hp).1
    unfold ElementParam.callArg
    split
    · exact hname.append (Template.breaks_ofList (by decide)) (Sealed.ofList (by decide)).unmarked
    · exact hname.append (Template.breaks_ofList (by decide)) (Sealed.ofList (by decide)).unmarked
  · obtain ⟨p, hp, rfl⟩ := List.mem_map.1 harg
    exact (h.containers p hp).1
  · obtain ⟨p, hp, rfl⟩ := List.mem_map.1 harg
    exact (h.scalars p hp).1

/-- No initializer of a proxy has a marker. -/
theorem proxies (h : f.Unmarked) :
    ∀ s ∈ f.outerProxies ++ f.innerProxies, Template.Unmarked s := by
  intro s hs
  obtain ⟨p, hp, rfl⟩ := List.mem_map.1 (f.perm_proxies.mem_iff.1 hs)
  exact (ContainerParam.sealed_initializer (h.containers p hp).1).unmarked

/-- No parameter in the definition of a function has a marker. -/
theorem functionParams (h : f.Unmarked) :
    ∀ s ∈ KernelSource.functionParams f, Template.Unmarked s := by
  intro s hs
  simp only [KernelSource.functionParams, List.mem_append] at hs
  rcases hs with ((hs | hs) | hs) | hs
  · unfold Indexing.typeName? at hs
    cases hindexing : f.indexing <;>
      simp only [hindexing, List.mem_singleton, List.not_mem_nil] at hs
    · subst hs
      exact (Sealed.ofList (by decide)).unmarked.declaration h.indexParam
    · subst hs
      exact (Sealed.ofList (by decide)).unmarked.declaration h.indexParam
  · obtain ⟨p, hp, rfl⟩ := List.mem_map.1 hs
    exact (h.elementwise p hp).2.declaration (h.elementwise p hp).1
  · obtain ⟨p, hp, rfl⟩ := List.mem_map.1 hs
    exact (ProxyKey.sealed_typeName _).unmarked.declaration (h.containers p hp).1
  · obtain ⟨p, hp, rfl⟩ := List.mem_map.1 hs
    exact (h.scalars p hp).2.declaration (h.scalars p hp).1

end UserFunction.Unmarked

/-- The index is initialized by fixed text. -/
theorem sealed_indexInitializer (f : UserFunction) :
    ∀ s ∈ f.indexInitializer?.toList, Sealed s := by
  have hindex : f.indexInitializer? = (ParamLists.ofIndexing f.indexing).indexInitializer? := by
    rw [UserFunction.indexInitializer?, ParamLists.assemble_eq]
    rfl
  have hlocal : Sealed indexLocal := .of_isClosed (by decide)
  rw [hindex]
  cases f.indexing with
  | none => exact List.forall_mem_nil _
  | linear =>
    intro s hs
    obtain rfl := List.mem_singleton.1 hs
    exact .append (.append (.ofList (by decide)) hlocal) (.ofList (by decide))
  | rowCol =>
    intro s hs
    obtain rfl := List.mem_singleton.1 hs
    exact .append (.append (.ofList (by decide)) hlocal) (.ofList (by decide))

/-- A list of parameters has a comma behind each of them. -/
theorem sealed_leadingList {items : List String} (h : ∀ s ∈ items, Unmarked s) :
    Sealed (leadingList items) := by
  refine .join fun text htext => ?_
  obtain ⟨item, hitem, rfl⟩ := List.mem_map.1 htext
  exact .user (h item hitem) (Template.breaks_ofList (by decide)) (.ofList (by decide))

/-- A block of statements has a line feed behind each of them. -/
theorem sealed_statementBlock {lines : List String} (h : ∀ s ∈ lines, Unmarked s) (depth : Nat) :
    Sealed (statementBlock lines depth) := by
  have htabs : Sealed (String.ofList (List.replicate depth '\t')) := by
    refine .of_notMem fun hmem => ?_
    rw [String.toList_ofList] at hmem
    exact absurd (List.eq_of_mem_replicate hmem) (by decide)
  refine .join fun text htext => ?_
  obtain ⟨line, hline, rfl⟩ := List.mem_map.1 htext
  rw [String.append_assoc]
  exact .append htabs
    (.user (h line hline) (Template.breaks_ofList (by decide)) (.ofList (by decide)))

/-! ## The texts -/

/-- The line that points back to a declaration ends with fixed text. -/
theorem sealed_linePart {f : UserFunction} (h : f.Unmarked) (preserveLines : Bool) :
    Sealed (KernelSource.linePart f preserveLines) := by
  unfold KernelSource.linePart
  split
  · next loc hloc =>
    have hnumeral : Sealed (Decimal.numeral loc.line.toNat) := by
      refine .of_notMem fun hmem => ?_
      rw [Decimal.numeral, String.toList_ofList] at hmem
      exact Decimal.notMem_digits (by decide) hmem
    simp only [String.append_assoc, -String.reduceAppend]
    exact .append (.ofList (by decide)) (.append hnumeral (.append (.ofList (by decide))
      (.user (h.file loc hloc) (Template.breaks_ofList (by decide)) (.ofList (by decide)))))
  · exact .of_isClosed rfl

/-- The definition of a function ends with fixed text. -/
theorem sealed_functionText {f : UserFunction} (h : f.Unmarked) {name : String}
    (hname : Unmarked name) (preserveLines : Bool) :
    Sealed (KernelSource.functionText f name preserveLines) := by
  have hline := sealed_linePart h preserveLines
  have hreturn := h.returnType
  have hparams := Template.Unmarked.intercalate h.functionParams
  have hbody := h.body.trimmedEnd
  -- Behind each of these texts there is fixed text, and its first character stands in no marker.
  unfold KernelSource.functionText
  simp only [String.append_assoc, -String.reduceAppend]
  repeat' first
    | with_reducible exact Sealed.ofList (by decide)
    | with_reducible refine Sealed.append (Sealed.ofList (by decide)) ?_
    | with_reducible refine Sealed.append hline ?_
    | with_reducible refine Sealed.user (by assumption) ?_ ?_
    | with_reducible exact Template.breaks_ofList (by decide)
    | with_reducible exact (Template.breaks_ofList (by decide)).append _

/-- The kernel ends with fixed text, and each user text in it is followed by some. -/
theorem sealed_kernelText {f : UserFunction} (h : f.Unmarked) {kernel : String}
    (hkernel : Unmarked kernel) : Sealed (KernelSource.kernelText f kernel) := by
  have hparams := sealed_leadingList h.kernelParams
  have hreturn := h.returnType
  have hname := h.uniqueName
  have hargs := Template.Unmarked.intercalate h.callArgs
  have hindex := sealed_statementBlock (fun s hs => (sealed_indexInitializer f s hs).unmarked) 2
  have houter := sealed_statementBlock
    (fun s hs => h.proxies s (List.mem_append_left f.innerProxies hs)) 1
  have hinner := sealed_statementBlock
    (fun s hs => h.proxies s (List.mem_append_right f.outerProxies hs)) 2
  unfold KernelSource.kernelText KernelSource.bodyText
  simp only [String.append_assoc, -String.reduceAppend]
  repeat' first
    | with_reducible exact Sealed.ofList (by decide)
    | with_reducible refine Sealed.append (Sealed.ofList (by decide)) ?_
    | with_reducible refine Sealed.append (by assumption) ?_
    | with_reducible refine Sealed.user (by assumption) ?_ ?_
    | with_reducible exact Template.breaks_ofList (by decide)
    | with_reducible exact (Template.breaks_ofList (by decide)).append _

/-- No user text of a block has a marker. -/
def Block.Unmarked : Block → Prop
  | constant c => Template.Unmarked c.name ∧ Template.Unmarked c.typeName ∧
      Template.Unmarked c.definition
  | type t => Template.Unmarked t.definition
  | proxy key => Template.Unmarked key.type
  | function name f => Template.Unmarked name ∧ f.Unmarked
  | kernel name f => Template.Unmarked name ∧ f.Unmarked
  | _ => True

/-- Whatever the user texts of a block are, no marker comes about in it or behind it. -/
theorem Block.sealed_text {b : Block} (h : b.Unmarked) (preserveLines : Bool) :
    Sealed (b.text preserveLines) := by
  cases b with
  | pragma =>
    have hpragma : Sealed KernelSource.doublePragma := .of_isClosed (by decide)
    exact hpragma.append (.ofList (by decide))
  | blank => exact .ofList (by decide)
  | indexTypes =>
    have hsealed : Sealed KernelSource.indexTypes :=
      .append (.ofList (by decide)) (.ofList (by decide))
    rwa [text_indexTypes]
  | constant c =>
    obtain ⟨hname, htype, hdefinition⟩ := h
    have htext : (constant c).text preserveLines =
      "#define " ++ c.name ++ " (" ++ c.definition ++ ") // " ++ c.typeName ++ "\n" := rfl
    rewrite [htext]
    simp only [String.append_assoc, -String.reduceAppend]
    repeat' first
      | with_reducible exact Sealed.ofList (by decide)
      | with_reducible refine Sealed.append (Sealed.ofList (by decide)) ?_
      | with_reducible refine Sealed.user (by assumption) ?_ ?_
      | with_reducible exact Template.breaks_ofList (by decide)
      | with_reducible exact (Template.breaks_ofList (by decide)).append _
  | type t =>
    exact .user (Template.Unmarked.trimmedEnd h) (Template.breaks_ofList (by decide))
      (.ofList (by decide))
  | proxy key => exact ProxyKey.sealed_definition h
  | function name f =>
    rewrite [text_function]
    exact sealed_functionText h.2 h.1 preserveLines
  | kernel name f => exact sealed_kernelText h.2 h.1

namespace MetadataGraph.Unmarked

variable {g : MetadataGraph} {f : UserFunction} {list : List Callee}

/-- The functions that are called are stored, and their names come from calls. -/
theorem callees (hg : g.Unmarked) (hf : f.Unmarked) (h : g.callees f = .ok list) :
    ∀ c ∈ list, Template.Unmarked c.name ∧ c.function.Unmarked := by
  intro c hc
  have hname := (mem_names_callees_iff h).1 (List.mem_map_of_mem hc)
  obtain ⟨-, k, hk, hcall⟩ := hname
  have hreached {k : UserFunction} (hk : Relation.ReflTransGen g.Calls f k) : k.Unmarked := by
    cases hk with
    | refl => exact hf
    | tail _ hstep =>
      obtain ⟨_, -, hmeans⟩ := hstep
      exact hg.functions _ (mem_of_resolveCall? hmeans)
  refine ⟨(hreached hk).calls _ hcall, hreached ?_⟩
  exact ((exists_mem_callees_iff h).1 ⟨c, hc, rfl⟩).to_reflTransGen

/-- The blocks of a kernel source have the user texts of the metadata in them, and no others. -/
theorem blocks (hg : g.Unmarked) (hf : f.Unmarked) {types : List UserType} {kernel : String}
    (hkernel : Template.Unmarked kernel) (hcallees : g.callees f = .ok list)
    (htypes : g.typesFor f = .ok types) (wantsDouble : Bool) :
    ∀ b ∈ KernelSource.blocks wantsDouble g.constants types
      (proxyKeys (KernelSource.containersOf f list)) list f kernel, b.Unmarked := by
  have hcalled := hg.callees hf hcallees
  intro b hb
  simp only [KernelSource.blocks, List.mem_append, List.mem_singleton] at hb
  rcases hb with (((((((hb | hb) | hb) | hb) | rfl) | hb) | hb) | rfl) | rfl
  · cases wantsDouble with
    | false => cases hb
    | true =>
      obtain rfl := List.mem_singleton.1 hb
      trivial
  · obtain ⟨c, hc, rfl⟩ := List.mem_map.1 hb
    exact hg.constants c hc
  · split at hb
    · cases hb
    · obtain rfl := List.mem_singleton.1 hb
      trivial
  · obtain ⟨t, ht, rfl⟩ := List.mem_map.1 hb
    obtain ⟨d, _, roots, -, -, -, rfl⟩ := of_typesFor htypes
    obtain ⟨v, -, rfl⟩ := List.mem_map.1 ht
    exact hg.types _ (List.get_mem g.types v)
  · trivial
  · obtain ⟨key, hkey, rfl⟩ := List.mem_map.1 hb
    rw [proxyKeys, mem_sortDistinct] at hkey
    obtain ⟨p, hp, rfl⟩ := List.mem_map.1 hkey
    rcases List.mem_append.1 hp with hp | hp
    · exact (hf.containers p hp).2
    · obtain ⟨c, hc, hp⟩ := List.mem_flatMap.1 hp
      exact ((hcalled c hc).2.containers p hp).2
  · obtain ⟨c, hc, rfl⟩ := List.mem_map.1 hb
    exact hcalled c hc
  · exact ⟨hf.uniqueName, hf⟩
  · exact ⟨hkernel, hf⟩

end MetadataGraph.Unmarked

/-- No marker comes about in a kernel source. -/
theorem KernelSource.sealed_text {g : MetadataGraph} {f : UserFunction} {kernel source : String}
    {preserveLines : Bool} (h : text g f kernel preserveLines = .ok source) (hg : g.Unmarked)
    (hf : f.Unmarked) (hkernel : Unmarked kernel) : Sealed source := by
  obtain ⟨callees, types, hcallees, htypes, rfl⟩ := text_eq_ok_iff.1 h
  rw [← join_blocks]
  refine .join fun text htext => ?_
  obtain ⟨b, hb, rfl⟩ := List.mem_map.1 htext
  exact b.sealed_text (hg.blocks hf hkernel hcallees htypes _ b hb) preserveLines

/-- A delimiter has no braces. -/
theorem RawLiteral.sealed_delimiter {source delim : String} (h : delimiter source = .ok delim) :
    Sealed delim := by
  refine .of_notMem ?_
  rcases (delimiter_eq_ok h).1 with ⟨n, -, -, hhashes⟩ | ⟨k, hnumbered, -⟩
  · rw [hhashes]
    exact fun hmem => absurd (List.eq_of_mem_replicate hmem) (by decide)
  · rw [hnumbered, List.mem_append, not_or]
    exact ⟨by decide, Decimal.notMem_digits (by decide)⟩

/-- No marker comes about in the host class around a kernel source. -/
theorem Artifact.sealed_hostText {f : UserFunction} {names : KernelNames} {delim source : String}
    (hf : f.Unmarked) (hkernel : Unmarked names.kernel) (hwrapper : Unmarked names.wrapper)
    (hdelim : Sealed delim) (hsource : Sealed source) :
    Sealed (hostText f names delim source) := by
  have hparams := sealed_leadingList hf.hostParams
  have hargs := sealed_leadingList hf.kernelArgs
  have hreturn := hf.returnType
  have hbuffer : Sealed hostBuffer := .of_isClosed (by decide)
  -- The kernel source is sealed, so it need not be followed by such a character.
  unfold hostText buildText launchText enqueueText
  simp only [String.append_assoc, -String.reduceAppend]
  repeat' first
    | with_reducible exact Sealed.ofList (by decide)
    | with_reducible refine Sealed.append (Sealed.ofList (by decide)) ?_
    | with_reducible refine Sealed.append (by assumption) ?_
    | with_reducible refine Sealed.user (by assumption) ?_ ?_
    | with_reducible exact Template.breaks_ofList (by decide)
    | with_reducible exact (Template.breaks_ofList (by decide)).append _

/-- If no user text has a marker, then none is left in the kernel source or in the fragment of an
artifact, and none has come about in them where texts meet. -/
theorem lower_leaves_no_marker {g : MetadataGraph} {r : LoweringRequest} {a : Artifact}
    (h : Artifact.lower g r = .ok a) (hg : g.Unmarked) (hr : r.Unmarked) :
    Template.findMarker a.kernelSource = none ∧ Template.findMarker a.sourceText = none := by
  obtain ⟨-, source, delim, hsource, hdelim, rfl⟩ := Artifact.lower_eq_ok_iff.1 h
  have hsealed := KernelSource.sealed_text hsource hg hr.function hr.kernel
  have hhost := Artifact.sealed_hostText hr.function hr.kernel hr.wrapper
    (RawLiteral.sealed_delimiter hdelim) hsealed
  exact ⟨Template.findMarker_eq_none_iff.2 hsealed.unmarked,
    Template.findMarker_eq_none_iff.2 hhost.unmarked⟩

/-- A request with pieces of markers in its texts. -/
def sampleBraces : LoweringRequest where
  skeleton := .mapPairs
  function := {
    name := "scale"
    uniqueName := "SCALE\x7d\x7d"
    returnType := "\x7b\x7bFLOAT"
    elementwise := [⟨"A\x7d\x7d", "\x7b\x7b", .vertical⟩]
    containers := [⟨"\x7b\x7bM", "\x7b\x7bINT", .matrixRow⟩]
    body := "\x7b\x7breturn \x7b\x7bA\x7d; \x7d\x7d\x7b\x7b" }
  shape := ⟨1, 0⟩
  names := ⟨"\x7b\x7bK", "\x7b\x7b\x7b"⟩
  outputDir := "out"
  preserveLines := false

/-- The pieces are never joined. -/
theorem lower_leaves_no_marker_sample :
    ∃ a, Artifact.lower { constants := [⟨"\x7b\x7bPI", "\x7d\x7d", "\x7b\x7b3"⟩] } sampleBraces =
        .ok a ∧
      Template.findMarker a.kernelSource = none ∧ Template.findMarker a.sourceText = none := by
  let g : MetadataGraph := { constants := [⟨"\x7b\x7bPI", "\x7d\x7d", "\x7b\x7b3"⟩] }
  have hcallees : g.callees sampleBraces.function = .ok [] := by cbv
  have htypes : g.typesFor sampleBraces.function = .ok [] := by cbv
  have htext := KernelSource.text_of_lists hcallees htypes "\x7b\x7bK" false
  have hdelim := RawLiteral.delimiter_of_no_quote (RawLiteral.no_quote_of_bytes
    (show (KernelSource.definitionsText g sampleBraces.function [] [] false ++
      KernelSource.kernelText sampleBraces.function
        "\x7b\x7bK").toByteArray.data.toList.contains 34 = false by decide +kernel))
  have hlower := Artifact.lower_eq_ok_iff.2 ⟨rfl, _, _, htext, hdelim, rfl⟩
  have hfree {cs : List Char} (h : Template.findMarker? cs = none) :
      Unmarked (String.ofList cs) := by
    rw [Unmarked, String.toList_ofList]
    exact Template.findMarker?_eq_none_iff.1 h
  refine ⟨_, hlower, lower_leaves_no_marker hlower ⟨by simp [g], by simp [g], ?_⟩
    ⟨hfree (by decide), hfree (by decide), ?_⟩⟩
  · intro c hc
    obtain rfl := List.mem_singleton.1 hc
    exact ⟨hfree (by decide), hfree (by decide), hfree (by decide)⟩
  · refine ⟨hfree (by decide), hfree (by decide), hfree (by decide), hfree (by decide), ?_, ?_, ?_,
      ?_, ?_⟩
    · exact List.forall_mem_nil _
    · exact List.forall_mem_singleton.2 ⟨hfree (by decide), hfree (by decide)⟩
    · exact List.forall_mem_singleton.2 ⟨hfree (by decide), hfree (by decide)⟩
    · exact List.forall_mem_nil _
    · simp [sampleBraces]

end KernelGen
