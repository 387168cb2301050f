import KernelGen.Error
import KernelGen.Manifest.Document
import KernelGen.Span
import KernelGen.Text.Search

/-!
# Diagnostics

What the user is told about a problem: a message, the place in the manifest that it is about, notes
and advice. A generation error is located by the name it blames, at the first place where that name
stands in quotes.
-/

namespace KernelGen

/-- How bad a problem is. -/
inductive Severity where
  | error
  | warning
  deriving DecidableEq, Repr

/-- A problem as it is shown to the user. -/
structure Diagnostic where
  /-- How bad it is. -/
  severity : Severity := .error
  /-- What it is. -/
  message : String
  /-- Where it is. -/
  span : Span := .dummy
  /-- Circumstances, the outermost first. -/
  notes : List String := []
  /-- Advice. -/
  help : Option String := none
  deriving DecidableEq, Repr

namespace Diagnostic

/-- A diagnostic with one more note. -/
def withNote (d : Diagnostic) (note : String) : Diagnostic :=
  { d with notes := d.notes ++ [note] }

/-- A diagnostic with some advice in place of any other. -/
def withHelp (d : Diagnostic) (help : String) : Diagnostic :=
  { d with help := some help }

/-- The first place in a text where a name stands in double quotes. -/
def locate? (source name : String) : Option Span :=
  match Text.cut? ('"' :: name.toList ++ ['"']) source.toList with
  | none => none
  | some (before, _) =>
    some (Span.starting (Text.byteLength before + 1) (Text.byteLength name.toList))

/-- The name that an error blames. -/
def culprit? : GenError → Option String
  | .unknownFunction name => some name
  | .typeCycle name => some name
  | .recursiveCall name => some name
  | .shapeMismatch _ function _ _ _ _ => some function
  | .reservedName function _ => some function
  | .duplicateParam function _ => some function
  | .unknownUserType _ name => some name
  | .disallowedCall _ callee => some callee
  | .invalidIdentifier _ name => some name
  | _ => none

/-- One note for each wrapper of an error, the outermost first. -/
def wrapperNotes : GenError → List String
  | .instantiation backend skeleton function varity harity source =>
    ("while generating " ++ backend ++ " " ++ skeleton.name ++ " for '" ++ function ++
      "' (Varity " ++ Word.numeral varity ++ ", Harity " ++ Word.numeral harity ++ ")") ::
      wrapperNotes source
  | _ => []

/-- The advice for an error. -/
def advice? : GenError → Option String
  | .disallowedCall _ _ => some "add the function to `--fnames` to allow it"
  | _ => none

/-- What the user is told about a generation error. -/
def ofError (e : GenError) (source : String) : Diagnostic where
  message := e.root.message
  span := ((culprit? e.root).bind (locate? source)).getD .dummy
  notes := wrapperNotes e
  help := advice? e.root

/-- The span of the byte before a reported place. -/
def placeSpan (source : List Char) (p : Text.Place) : Except Abort Span := do
  let offset ← Text.byteOffset source p
  let next ← Word.add offset 1
  let stop := max (min next (UInt64.ofNat (Text.byteLength source))) offset
  return ⟨0, offset.toUInt32, stop.toUInt32⟩

/-- What the user is told about a text that a reader refuses. -/
def ofRefusal (r : Manifest.Refusal) (source : String) : Except Abort Diagnostic := do
  let span ← placeSpan source.toList r.place
  return {
    message := "invalid manifest: " ++ r.text
    span
    help := some "manifests are produced by the front-end; regenerate it" }

/-- What the user is told about a file that cannot be read. -/
def unreadable (path reason : String) : Diagnostic :=
  { message := "cannot read '" ++ path ++ "': " ++ reason }

end Diagnostic

/-- The metadata that a reader finds in the text of a manifest. -/
def parseManifestWith (read : String → Except Manifest.Refusal Manifest) (source : String) :
    Except Abort (Except Diagnostic MetadataGraph) :=
  match read source with
  | .ok m => .ok (.ok m.toGraph)
  | .error r => return .error (← Diagnostic.ofRefusal r source)

/-- The metadata in the text of a manifest. The places that `Manifest.ofText` reports lie in the
text, so that nothing is broken off for a text whose length is a word. -/
def parseManifest (source : String) : Except Diagnostic MetadataGraph :=
  match parseManifestWith Manifest.ofText source with
  | .ok result => result
  | .error reason => .error { message := reason.message }

end KernelGen
