import KernelGen.Error
import KernelGen.Text.Search
import KernelGen.Text.Sorted

/-!
# Templates

A marker is a name in double braces; a name has capital letters, digits and underscores and does
not begin with a digit. Every other brace is plain text. A template is its text cut at its markers,
and rendering puts a value in the place of each marker. A value is copied as it is and never
searched for markers.
-/

namespace KernelGen

namespace Template

/-- A capital letter or an underscore. -/
def isNameHead (c : Char) : Bool :=
  c.isUpper || c == '_'

/-- A capital letter, a digit or an underscore. -/
def isNameTail (c : Char) : Bool :=
  c.isUpper || c.isDigit || c == '_'

/-- The marker with a name. -/
def marker (name : String) : String :=
  "\x7b\x7b" ++ name ++ "\x7d\x7d"

/-- A name of a marker. -/
def isName : List Char → Bool
  | [] => false
  | c :: cs => isNameHead c && cs.all isNameTail

/-- The name of the marker whose opening braces stand before a text, and what follows the marker. It
is what stands before the next closing braces, if that is a name. -/
def slotAt? (cs : List Char) : Option (List Char × List Char) :=
  match Text.cut? ['\x7d', '\x7d'] cs with
  | none => none
  | some (name, rest) => if isName name then some (name, rest) else none

/-- What follows a marker is shorter than the text after its opening braces. -/
theorem length_of_slotAt? {cs name rest : List Char} (h : slotAt? cs = some (name, rest)) :
    rest.length < cs.length := by
  unfold slotAt? at h
  split at h
  · cases h
  · next hcut =>
    split at h
    · have hlength := Text.length_of_cut? hcut
      obtain ⟨rfl, rfl⟩ := Prod.mk.inj (Option.some.inj h)
      simp only [List.length_cons, List.length_nil] at hlength
      omega
    · cases h

/-- A piece of a template. -/
inductive Segment where
  /-- Text that is copied. -/
  | text (cs : List Char)
  /-- The place of a value. -/
  | slot (name : List Char)
  deriving DecidableEq, Repr

/-- Some plain text as a segment, unless it is empty. -/
def textSegment (cs : List Char) : List Segment :=
  if cs.isEmpty then [] else [.text cs]

/-- The segments of a text behind plain text that has been read. The search goes on behind a marker,
or at the second of two opening braces that open none. -/
def splitFrom (literal rest : List Char) : List Segment :=
  match _hcut : Text.cut? ['\x7b', '\x7b'] rest with
  | none => textSegment (literal ++ rest)
  | some (before, after) =>
    match _hslot : slotAt? after with
    | some (name, rest') => textSegment (literal ++ before) ++ .slot name :: splitFrom [] rest'
    | none => splitFrom (literal ++ before ++ ['\x7b']) ('\x7b' :: after)
termination_by rest.length
decreasing_by
  all_goals
    have hlength := Text.length_of_cut? _hcut
    simp only [List.length_cons, List.length_nil] at hlength ⊢
  · have hrest := length_of_slotAt? _hslot
    omega
  · omega

/-- The name of the first marker of a text, with the same search. -/
def firstMarker? (rest : List Char) : Option (List Char) :=
  match _hcut : Text.cut? ['\x7b', '\x7b'] rest with
  | none => none
  | some (_, after) =>
    match slotAt? after with
    | some (name, _) => some name
    | none => firstMarker? ('\x7b' :: after)
termination_by rest.length
decreasing_by
  have hlength := Text.length_of_cut? _hcut
  simp only [List.length_cons, List.length_nil] at hlength ⊢
  omega

end Template

/-- A text with places for values. -/
structure Template where
  /-- The name of the template, for messages. -/
  name : String
  /-- Its pieces in order. -/
  segments : List Template.Segment
  deriving DecidableEq, Repr

/-- Values for the slots of a template. -/
abbrev Bindings := List (String × String)

namespace Template

/-- The template with a given text. -/
def parse (name text : String) : Template :=
  ⟨name, splitFrom [] text.toList⟩

/-- The names of the slots, in order of occurrence. -/
def slotNames (t : Template) : List String :=
  t.segments.filterMap fun
    | .slot name => some (String.ofList name)
    | .text _ => none

/-- The names of the slots, in increasing order and each once. -/
def slots (t : Template) : List String :=
  sortDistinct Text.before t.slotNames

/-- The text of some segments with values in the slots; the leftmost slot without one is an
error. -/
def fill (template : String) (bindings : Bindings) : List Segment → Except GenError (List Char)
  | [] => .ok []
  | .text cs :: segments => (fill template bindings segments).map (cs ++ ·)
  | .slot name :: segments =>
    match bindings.lookup (String.ofList name) with
    | none => .error (.unresolvedSlot template (String.ofList name))
    | some value => (fill template bindings segments).map (value.toList ++ ·)

/-- The text of a template with values in its slots. A value for which there is no slot is an error,
the least such name first; so is a slot without a value. -/
def render (t : Template) (bindings : Bindings) : Except GenError String :=
  match Text.least? ((bindings.map (·.1)).filter fun name => !t.slotNames.contains name) with
  | some name => .error (.unusedBinding t.name name)
  | none => (fill t.name bindings t.segments).map String.ofList

/-- The name of the leftmost marker of a text. -/
def findMarker (text : String) : Option String :=
  (firstMarker? text.toList).map String.ofList

end Template

end KernelGen
