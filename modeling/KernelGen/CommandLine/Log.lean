import KernelGen.Output

/-!
# The log

What a run tells on the way, each line with its weight. Which lines are shown depends on how much
the user wants to know.
-/

namespace KernelGen.CommandLine

/-- The weight of a line. -/
inductive Level where
  | warning
  | info
  | debug
  deriving DecidableEq, Repr

/-- The least weight comes last. -/
def Level.rank : Level → Nat
  | .warning => 0
  | .info => 1
  | .debug => 2

/-- The least weight that is shown: everything if the user asks for it, otherwise all but the
details, and only warnings if the user wants silence. -/
def Level.shown (verbose silent : Bool) : Level :=
  if verbose then .debug else if silent then .warning else .info

/-- A line of the log. -/
structure LogLine where
  /-- Its weight. -/
  level : Level
  /-- Its text. -/
  text : String
  deriving DecidableEq, Repr

/-- A line as it is shown. -/
def LogLine.render (l : LogLine) : String :=
  (match l.level with
    | .warning => "warning: "
    | .info => ""
    | .debug => "debug: ") ++ l.text ++ "\n"

/-- The lines of a log that are shown. -/
def renderLog (least : Level) (log : List LogLine) : String :=
  String.join ((log.filter fun l => l.level.rank ≤ least.rank).map (·.render))

open Generation

/-- The warnings about backends for which there is nothing to generate. -/
def backendLog (g : MetadataGraph) : List Backend → List LogLine
  | [] => []
  | b :: bs =>
    if !b.needsKernels || b.hasLowering then backendLog g bs
    else if g.instantiations.isEmpty then
      ⟨.warning, b.displayName ++ " generation requested, but there is nothing to generate"⟩ ::
        backendLog g bs
    else []

/-- A line for each instantiation that was planned before. -/
def planLog : NameRegistry → List Instantiation → List LogLine
  | _, [] => []
  | r, i :: is =>
    match r.register i with
    | .error _ => []
    | .ok (.new _, r) => planLog r is
    | .ok (.existing names, r) =>
      ⟨.debug, names.kernel ++ ": already generated"⟩ :: planLog r is

/-- What planning tells. -/
def plannedLog (g : MetadataGraph) (o : Options) : List LogLine :=
  planLog ⟨o.name, []⟩ g.instantiations

/-- What a check tells. -/
def checkLog (g : MetadataGraph) (o : Options) : List LogLine :=
  backendLog g o.backends ++ plannedLog g o

/-- What the generation of one kernel tells. -/
def jobLog (g : MetadataGraph) (b : Backend) (j : Job) : List LogLine :=
  match g.bind j.instantiation with
  | .error _ => []
  | .ok f =>
    ⟨.debug, "lowering " ++ j.names.kernel ++ " for " ++ b.displayName⟩ ::
      match j.instantiation.skeleton, g.callees f with
      | .mapPairs, .ok callees =>
        [⟨.debug, j.names.kernel ++ ": " ++ Decimal.numeral f.kernelParams.length ++
          " kernel params, " ++
          Decimal.numeral (proxyKeys (KernelSource.containersOf f callees)).length ++
          " proxies"⟩]
      | _, _ => []

/-- What the generation of some kernels tells, up to the first that fails. -/
def jobsLog (g : MetadataGraph) (o : Options) : List (Backend × Job) → List LogLine
  | [] => []
  | (b, j) :: jobs =>
    jobLog g b j ++
      match lowerJob g o b j with
      | .ok _ => jobsLog g o jobs
      | .error _ => []

/-- What the generation of all kernels tells, if the metadata is in order. -/
def generateLog (g : MetadataGraph) (o : Options) : List LogLine :=
  match kernelBackends g o, plan g o with
  | .ok bs, .ok jobs =>
    checkLog g o ++ jobsLog g o (bs.flatMap fun b => jobs.map fun j => (b, j))
  | .ok _, .error _ => checkLog g o
  | .error _, _ => backendLog g o.backends

/-- What writing a file tells. -/
def writeLine : String × WriteOutcome → LogLine
  | (path, .written) => ⟨.info, "wrote " ++ path⟩
  | (path, .unchanged) => ⟨.debug, "unchanged: " ++ path⟩

end KernelGen.CommandLine
