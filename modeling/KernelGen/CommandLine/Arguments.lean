import KernelGen.Options

/-!
# Command line arguments

What the words of a command line ask for. Options begin with two dashes and stand anywhere after
the command; a value follows its option or is joined to it by an equals sign. Every option may be
given once, and paths are not empty. The words are taken from left to right, and the first that is
wrong or asks for help decides.
-/

namespace KernelGen.CommandLine

/-- What to do. -/
inductive Command where
  /-- Generate everything. -/
  | gen
  /-- Look for problems. -/
  | check
  /-- List the names of the kernels. -/
  | names
  deriving DecidableEq, Repr

/-- The command with a name. -/
def Command.ofName? : String → Option Command
  | "gen" => some .gen
  | "check" => some .check
  | "names" => some .names
  | _ => none

/-- The options of a command that have no value. -/
def Command.switches : Command → List String
  | .names => common ++ ["wrappers"]
  | _ => common
where
  /-- Those that every command has. -/
  common : List String :=
    ["verbose", "silent", "opencl", "cuda", "openmp", "mpi", "starpu-mpi", "override-extension",
      "no-preserve-lines"]

/-- The options that have a value. -/
def valued : List String := ["dir", "name", "fnames"]

/-- The words of a command line, sorted out. -/
structure Arguments where
  /-- The switches that were given. -/
  switches : List String := []
  /-- The options with a value. -/
  values : List (String × String) := []
  /-- The word that is no option, which is the path of the manifest. -/
  manifest : Option String := none
  deriving DecidableEq, Repr

namespace Arguments

/-- The arguments with one more switch. -/
def addSwitch (a : Arguments) (name : String) : Option Arguments :=
  if a.switches.contains name then none else some { a with switches := a.switches ++ [name] }

/-- The arguments with one more option. The directory is a path. -/
def addValue (a : Arguments) (name value : String) : Option Arguments :=
  if (a.values.lookup name).isSome || (name == "dir" && value.isEmpty) then none
  else some { a with values := a.values ++ [(name, value)] }

/-- The arguments with one more word that is no option. -/
def addWord (a : Arguments) (w : String) : Option Arguments :=
  if a.manifest.isSome || w.isEmpty then none else some { a with manifest := some w }

end Arguments

/-- A command that can be carried out. -/
structure Invocation where
  /-- The command. -/
  command : Command
  /-- The path of the manifest. -/
  manifest : String
  /-- The switches that were given. -/
  switches : List String
  /-- The options with a value. -/
  values : List (String × String)
  deriving DecidableEq, Repr

/-- What a command line asks for. -/
inductive Request where
  /-- The words make no sense. -/
  | usageError
  /-- The version of the program. -/
  | version
  /-- How to use the program. -/
  | help
  /-- A command. -/
  | run (i : Invocation)
  deriving DecidableEq, Repr

/-- Whether a word can be no value because it looks like an option. -/
def looksLikeOption (w : String) : Bool :=
  match w.toList with
  | '-' :: _ :: _ => true
  | _ => false

/-- The name and the joined value of an option. -/
def optionParts (cs : List Char) : String × Option String :=
  let name := cs.takeWhile (· != '=')
  match cs.dropWhile (· != '=') with
  | [] => (String.ofList name, none)
  | _ :: value => (String.ofList name, some (String.ofList value))

/-- How the words after a command are sorted out. -/
inductive Sorted where
  | arguments (a : Arguments)
  | help
  | usageError
  deriving DecidableEq, Repr

/-- Sorts out the words after a command. After two dashes alone no word is an option. -/
def sortWords (c : Command) (a : Arguments) : List String → Sorted
  | [] => .arguments a
  | w :: ws =>
    match w.toList with
    | ['-', '-'] =>
      match ws.foldlM Arguments.addWord a with
      | some a => .arguments a
      | none => .usageError
    | '-' :: '-' :: cs =>
      let (name, joined) := optionParts cs
      if c.switches.contains name then
        match joined, a.addSwitch name with
        | none, some a => sortWords c a ws
        | _, _ => .usageError
      else if valued.contains name then
        match joined, ws with
        | some value, ws =>
          match a.addValue name value with
          | some a => sortWords c a ws
          | none => .usageError
        | none, [] => .usageError
        | none, value :: ws =>
          if looksLikeOption value then .usageError
          else
            match a.addValue name value with
            | some a => sortWords c a ws
            | none => .usageError
      else if name = "help" ∧ joined.isNone then .help
      else .usageError
    | '-' :: 'h' :: _ => .help
    | '-' :: _ :: _ => .usageError
    | _ =>
      match a.addWord w with
      | some a => sortWords c a ws
      | none => .usageError

/-- What a command with the words after it asks for. A manifest is needed. -/
def commandRequest (c : Command) (switches ws : List String) : Request :=
  match sortWords c {} ws with
  | .usageError => .usageError
  | .help => .help
  | .arguments a =>
    match a.manifest with
    | some manifest => .run ⟨c, manifest, switches ++ a.switches, a.values⟩
    | none => .usageError

/-- What the words after `help` ask for: help in general, or on one command. -/
def helpRequest : List String → Request
  | [] => .help
  | [w] => if w = "help" ∨ (Command.ofName? w).isSome then .help else .usageError
  | _ => .usageError

/-- What a command line asks for, given the switches that came before. -/
def requestFrom (switches : List String) : List String → Request
  | [] => .usageError
  | w :: ws =>
    if w = "--verbose" ∨ w = "--silent" then
      let name := String.ofList (w.toList.drop 2)
      if switches.contains name then .usageError else requestFrom (switches ++ [name]) ws
    else if w = "--version" then .version
    else if w = "--help" then .help
    else if w = "help" then helpRequest ws
    else
      match Command.ofName? w with
      | some c => commandRequest c switches ws
      | none =>
        match w.toList with
        | '-' :: 'V' :: _ => .version
        | '-' :: 'h' :: _ => .help
        | _ => .usageError

/-- What a command line asks for. -/
def request (args : List String) : Request :=
  requestFrom [] args

namespace Invocation

/-- Whether a switch was given. -/
def has (i : Invocation) (switch : String) : Bool :=
  i.switches.contains switch

/-- The directory from which the project file is looked for. -/
def startDir (i : Invocation) : String :=
  (Path.parent? i.manifest).getD "."

/-- The options with what was given on the command line. -/
def apply (i : Invocation) (o : Options) : Options :=
  let o : Options := { o with
    dir := (i.values.lookup "dir").getD o.dir
    name := (i.values.lookup "name").getD o.name
    overrideExtension := o.overrideExtension || i.has "override-extension"
    preserveLines := o.preserveLines && !i.has "no-preserve-lines" }
  let o := o.enable (Backend.all.filter fun b => i.has b.flag)
  match i.values.lookup "fnames" with
  | none => o
  | some names => o.allowCalls names

end Invocation

end KernelGen.CommandLine
