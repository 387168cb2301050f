import KernelGen.CommandLine.Arguments
import KernelGen.CommandLine.Log
import KernelGen.Project
import KernelGen.Report

/-!
# Carrying out a command

A command reads the manifest and the project file from a file tree, does its work, and leaves a tree
behind together with what it printed and its exit code.
-/

namespace KernelGen.CommandLine

/-- What a command leaves behind. -/
structure Outcome where
  /-- The exit code. -/
  code : Nat
  /-- What was printed as the result. -/
  stdout : String := ""
  /-- What was printed besides. -/
  stderr : String := ""
  /-- The files. -/
  tree : FileTree

/-- The report of a diagnostic, as it is printed. -/
def reportText (d : Diagnostic) (file source : String) : String :=
  match Report.render d file source with
  | .ok text => text
  | .error r => r.message ++ "\n"

/-- The reports of some errors about a manifest. -/
def reportErrors (errors : List GenError) (file source : String) : String :=
  String.join (errors.map fun e => reportText (Diagnostic.ofError e source) file source)

/-- The metadata and the text in a manifest file. -/
def loadManifest (t : FileTree) (path : String) : Except Diagnostic (MetadataGraph × String) :=
  match t.readText path with
  | .error e => .error (Diagnostic.unreadable path e.message)
  | .ok source => (parseManifest source).map fun g => (g, source)

/-- All that a command works on. -/
structure Loaded where
  /-- The path of the manifest. -/
  manifest : String
  /-- Its text. -/
  source : String
  /-- The metadata in it. -/
  graph : MetadataGraph
  /-- The options from the project file and the command line. -/
  options : Options

/-- Loads what a command works on: the log, and the result or the report of the failure. -/
def loadInput (t : FileTree) (i : Invocation) : List LogLine × Except String Loaded :=
  let failure (d : Diagnostic) (path : String) : String :=
    reportText d path ((t.readText path).toOption.getD "")
  match loadManifest t i.manifest with
  | .error d => ([], .error (failure d i.manifest))
  | .ok (g, source) =>
    match Project.find? t i.startDir with
    | none => ([], .ok ⟨i.manifest, source, g, i.apply {}⟩)
    | some path =>
      let log := [⟨.debug, "using " ++ path⟩]
      match Project.load t path with
      | .error d => (log, .error (failure d path))
      | .ok p => (log, .ok ⟨i.manifest, source, g, i.apply (p.apply {})⟩)

/-- The paths from which a command reads. -/
def inputPaths (i : Invocation) : List String :=
  i.manifest :: Project.candidates i.startDir

/-- The paths to which a command may write, given what it reads. -/
def outputPaths (t : FileTree) (i : Invocation) : List String :=
  match (loadInput t i).2 with
  | .error _ => []
  | .ok l =>
    match Generation.generateAll l.graph l.options with
    | .error _ => []
    | .ok artifacts => (Generation.outputs l.options artifacts).map (·.1)

/-- A text filled up with blanks to a width. -/
def padRight (width : Nat) (s : String) : String :=
  s ++ String.ofList (List.replicate (width - s.length) ' ')

/-- The lines that a generation begins with. -/
def banner (o : Options) : List LogLine :=
  let info (text : String) : LogLine := ⟨.info, text⟩
  [info "# ==================================== #",
    info "~   skelc skeleton kernel generator    ~",
    info "# ------------------------------------ #"] ++
  Backend.all.map (fun b =>
    info ("   " ++ padRight 17 (b.displayName ++ " gen:") ++ " " ++
      if o.isEnabled b then "ON" else "OFF")) ++
  [info ("   Main output file:  " ++ o.mainOutput),
    info "# ==================================== #"]

/-- The exit code of a command that was broken off. -/
def abortCode : Nat := 101

/-- Generates everything. -/
def runGen (display : List LogLine → String) (t : FileTree) (l : Loaded) : Outcome :=
  let head := display (banner l.options)
  match Generation.check l.graph l.options with
  | .error r => { code := abortCode, stderr := head ++ r.message ++ "\n", tree := t }
  | .ok errors =>
    let head := head ++ display (checkLog l.graph l.options)
    if !errors.isEmpty then
      { code := 1, stderr := head ++ reportErrors errors l.manifest l.source, tree := t }
    else
      let head := head ++ display (generateLog l.graph l.options)
      match Generation.generateAll l.graph l.options with
      | .error (.abort r) => { code := abortCode, stderr := head ++ r.message ++ "\n", tree := t }
      | .error (.error e) =>
        { code := 1, stderr := head ++ reportErrors [e] l.manifest l.source, tree := t }
      | .ok artifacts =>
        let (outcomes, failure, t) := t.writeAll (Generation.outputs l.options artifacts)
        let head := head ++ display (outcomes.map writeLine)
        match failure with
        | some e =>
          { code := 1, stderr := head ++ reportErrors [e] l.manifest l.source, tree := t }
        | none =>
          let summary : Generation.Summary := ⟨artifacts, l.options.mainOutput, outcomes⟩
          let last : LogLine := ⟨.info,
            Decimal.numeral artifacts.length ++ " artifact(s): " ++
              Decimal.numeral (summary.count .written) ++ " written, " ++
              Decimal.numeral (summary.count .unchanged) ++ " unchanged"⟩
          { code := 0, stderr := head ++ display [last], tree := t }

/-- Looks for problems. -/
def runCheck (display : List LogLine → String) (t : FileTree) (l : Loaded) : Outcome :=
  match Generation.check l.graph l.options with
  | .error r => { code := abortCode, stderr := r.message ++ "\n", tree := t }
  | .ok errors =>
    let head := display (checkLog l.graph l.options)
    if errors.isEmpty then
      { code := 0
        stderr := head ++ "OK: " ++ l.manifest ++ " (" ++
          Decimal.numeral l.graph.functions.length ++ " function(s), " ++
          Decimal.numeral l.graph.instantiations.length ++ " instantiation(s))\n"
        tree := t }
    else
      { code := 1
        stderr := head ++ reportErrors errors l.manifest l.source ++ "error: " ++
          Decimal.numeral errors.length ++ " problem(s) in " ++ l.manifest ++ "\n"
        tree := t }

/-- Lists the names of the kernels. -/
def runNames (display : List LogLine → String) (wrappers : Bool) (t : FileTree) (l : Loaded) :
    Outcome :=
  let head := display (plannedLog l.graph l.options)
  match Generation.plan l.graph l.options with
  | .error e => { code := 1, stderr := head ++ reportErrors [e] l.manifest l.source, tree := t }
  | .ok jobs =>
    let line (j : Generation.Job) : String :=
      if wrappers then
        j.names.kernel ++ "\t" ++ j.names.wrapper ++ "\t" ++ j.instantiation.function ++ "\n"
      else j.names.kernel ++ "\n"
    { code := 0, stdout := String.join (jobs.map line), stderr := head, tree := t }

/-- Carries out a command. -/
def runInvocation (t : FileTree) (i : Invocation) : Outcome :=
  let display := renderLog (Level.shown (i.has "verbose") (i.has "silent"))
  let (log, loaded) := loadInput t i
  let start := display log
  match loaded with
  | .error report => { code := 1, stderr := start ++ report, tree := t }
  | .ok l =>
    let outcome :=
      match i.command with
      | .gen => runGen display t l
      | .check => runCheck display t l
      | .names => runNames display (i.has "wrappers") t l
    { outcome with stderr := start ++ outcome.stderr }

/-- How to use the program. -/
def usageText : String :=
  "Usage: skelc [--verbose] [--silent] <gen|check|names> [OPTIONS] <MANIFEST>\n"

/-- Runs the program with some arguments on a file tree. -/
def run (t : FileTree) (args : List String) : Outcome :=
  match request args with
  | .usageError => { code := 2, stderr := usageText, tree := t }
  | .version => { code := 0, stdout := "skelc 0.1.0\n", tree := t }
  | .help => { code := 0, stdout := usageText, tree := t }
  | .run i => runInvocation t i

end KernelGen.CommandLine
