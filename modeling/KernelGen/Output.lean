import KernelGen.Blake3
import KernelGen.FileTree
import KernelGen.Generation
import KernelGen.Text.Hex

/-!
# Writing the output

A run writes every fragment and then the main file. A file whose content has the digest of the new
text is left alone, so that a second run changes nothing.
-/

namespace KernelGen

/-- Whether a file had to be written. -/
inductive WriteOutcome where
  | written
  | unchanged
  deriving DecidableEq, Repr

/-- The name of an outcome. -/
def WriteOutcome.name : WriteOutcome → String
  | .written => "written"
  | .unchanged => "unchanged"

/-- The bytes of a text. -/
def textBytes (s : String) : List UInt8 :=
  Text.bytes s.toList

/-- The digest of an artifact's text, in hexadecimal. -/
def Artifact.fingerprint (a : Artifact) : String :=
  String.ofList (Text.hexBytes (Blake3.hash (textBytes a.sourceText)))

namespace FileTree

/-- Whether a path leads to a file whose content has the digest of `content`. -/
def holds (t : FileTree) (path : String) (content : List UInt8) : Bool :=
  match t.read path with
  | .error _ => false
  | .ok old => Blake3.hash old == Blake3.hash content

/-- Writes a text to a file, with the directories above it, unless it is there. The tree after a
failure holds what was made before it. -/
def writeIfChanged (t : FileTree) (path text : String) :
    Except GenError WriteOutcome × FileTree :=
  let content := textBytes text
  if t.holds path content then (.ok .unchanged, t)
  else
    let parent := (Path.parent? path).getD ""
    match t.makeAllDirectories parent with
    | (.error e, t) => (.error (.io parent e.message), t)
    | (.ok (), t) =>
      match t.write path content with
      | .error e => (.error (.io path e.message), t)
      | .ok t => (.ok .written, t)

/-- Writes some texts one after the other and stops at the first failure: the outcomes so far, the
failure, and the tree. -/
def writeAll (t : FileTree) : List (String × String) →
    List (String × WriteOutcome) × Option GenError × FileTree
  | [] => ([], none, t)
  | (path, text) :: outputs =>
    match t.writeIfChanged path text with
    | (.error e, t) => ([], some e, t)
    | (.ok outcome, t) =>
      let (outcomes, failure, t) := t.writeAll outputs
      ((path, outcome) :: outcomes, failure, t)

end FileTree

namespace Generation

/-- The files of a run: the fragments, and then the main file. -/
def outputs (o : Options) (artifacts : List Artifact) : List (String × String) :=
  artifacts.map (fun a => (a.outputPath, a.sourceText)) ++
    [(o.mainOutput, mainFragment o artifacts)]

/-- What a run did. -/
structure Summary where
  /-- The artifacts. -/
  artifacts : List Artifact
  /-- The path of the main file. -/
  mainOutput : String
  /-- The outcome for each file, in order. -/
  outcomes : List (String × WriteOutcome)

/-- The number of files with an outcome. -/
def Summary.count (s : Summary) (w : WriteOutcome) : Nat :=
  (s.outcomes.filter (·.2 == w)).length

/-- Generates everything and writes it: the summary, or why it failed, and the tree after it. -/
def run (g : MetadataGraph) (o : Options) (t : FileTree) : Except Failure Summary × FileTree :=
  match generateAll g o with
  | .error e => (.error e, t)
  | .ok artifacts =>
    match t.writeAll (outputs o artifacts) with
    | (_, some e, t) => (.error (.error e), t)
    | (outcomes, none, t) => (.ok ⟨artifacts, o.mainOutput, outcomes⟩, t)

end Generation

end KernelGen
