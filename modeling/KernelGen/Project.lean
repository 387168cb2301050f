import KernelGen.Diagnostic
import KernelGen.FileTree
import KernelGen.Options
import KernelGen.Text.Blank
import KernelGen.Text.Search

/-!
# Project files

Settings that hold for a whole project stand in a file in one of the directories above a manifest.
The file has sections; the one called `generator` counts, and of its lines those of the form
`key = value` with a known key. Everything else is passed over.
-/

namespace KernelGen

/-- The settings of a project. -/
structure Project where
  /-- The directory of the project file. -/
  rootDir : String := ""
  /-- The directory of the output, as seen from the project file. -/
  dir : Option String := none
  /-- The name of the output. -/
  name : Option String := none
  /-- The backends to enable. -/
  backends : List Backend := []
  /-- The functions that may be called. -/
  fnames : List String := []
  /-- Whether generated functions point back to their declarations. -/
  preserveLines : Option Bool := none
  deriving DecidableEq, Repr

namespace Project

/-- The name of a project file. -/
def fileName : String := "skelc.toml"

/-- What can be wrong with the settings. -/
inductive SettingError where
  | unknownBackend (flag : String)
  | preserveLines (value : String)
  deriving DecidableEq, Repr

/-- The text of what is wrong. -/
def SettingError.message : SettingError → String
  | unknownBackend flag => "unknown backend '" ++ flag ++ "'"
  | preserveLines value => "preserve_lines must be true or false, got '" ++ value ++ "'"

/-- The text between brackets, if a text begins and ends with them. -/
def bracketed? : List Char → Option (List Char)
  | '[' :: cs => if cs.getLast? = some ']' then some cs.dropLast else none
  | _ => none

/-- A text without quotes at its ends. -/
def unquote (cs : List Char) : List Char :=
  Text.strip '"' cs

/-- The strings of a list in brackets, with commas between them; anything else has none. Empty
strings do not count. -/
def stringList (cs : List Char) : List String :=
  match bracketed? (Text.trim cs) with
  | none => []
  | some inner =>
    (((Text.split ',' inner).map fun part => unquote (Text.trim part)).filter
      (!·.isEmpty)).map String.ofList

/-- The backends with some flags, or the first flag that no backend has. -/
def backendsOf : List String → Except SettingError (List Backend)
  | [] => .ok []
  | flag :: flags =>
    match Backend.ofFlag? flag with
    | none => .error (.unknownBackend flag)
    | some b => (backendsOf flags).map (b :: ·)

/-- The settings with one more line of the generator's section. -/
def assign (p : Project) (key value : List Char) : Except SettingError Project :=
  match String.ofList (unquote (Text.trim key)) with
  | "dir" => .ok { p with dir := some (String.ofList (unquote value)) }
  | "name" => .ok { p with name := some (String.ofList (unquote value)) }
  | "fnames" => .ok { p with fnames := stringList value }
  | "backends" =>
    (backendsOf (stringList value)).map fun bs => { p with backends := p.backends ++ bs }
  | "preserve_lines" =>
    match String.ofList value with
    | "true" => .ok { p with preserveLines := some true }
    | "false" => .ok { p with preserveLines := some false }
    | other => .error (.preserveLines other)
  | _ => .ok p

/-- Where a reader of the file stands: in a section, with the settings so far. -/
structure Progress where
  /-- The section. -/
  area : List Char := []
  /-- The settings. -/
  settings : Project

/-- Reads one line. -/
def readLine (s : Progress) (line : List Char) : Except SettingError Progress :=
  let line := Text.trim line
  if line.isEmpty || line.head? == some '#' then .ok s
  else
    match bracketed? line with
    | some name => .ok { s with area := Text.trim name }
    | none =>
      if s.area != "generator".toList then .ok s
      else
        match Text.cutAt? '=' line with
        | none => .ok s
        | some (key, value) =>
          (s.settings.assign key (Text.trim value)).map fun p => { s with settings := p }

/-- Reads some lines. -/
def readLines : Progress → List (List Char) → Except SettingError Progress
  | s, [] => .ok s
  | s, line :: lines =>
    match readLine s line with
    | .error e => .error e
    | .ok s => readLines s lines

/-- The settings in the text of a project file. -/
def parse (content rootDir : String) : Except SettingError Project :=
  (readLines ⟨[], { rootDir := rootDir }⟩ (Text.split '\n' content.toList)).map (·.settings)

/-- The settings in a project file. -/
def load (t : FileTree) (path : String) : Except Diagnostic Project :=
  match t.readText path with
  | .error e => .error (Diagnostic.unreadable path e.message)
  | .ok content =>
    match parse content ((Path.parent? path).getD ".") with
    | .ok p => .ok p
    | .error e =>
      .error ({ message := e.message : Diagnostic }.withNote ("in '" ++ path ++ "'"))

/-- Where the project file of a directory may be: there, or in a directory above. -/
def candidates (dir : String) : List String :=
  (Path.ancestors dir).map (Path.join · fileName)

/-- The nearest project file at or above a directory. -/
def find? (t : FileTree) (dir : String) : Option String :=
  (candidates dir).find? t.exists?

/-- The options with the settings of a project. -/
def apply (p : Project) (o : Options) : Options :=
  let o : Options := { o with
    dir := (p.dir.map (Path.join p.rootDir)).getD o.dir
    name := p.name.getD o.name
    preserveLines := p.preserveLines.getD o.preserveLines }
  (o.enable p.backends).allow p.fnames

end Project

end KernelGen
