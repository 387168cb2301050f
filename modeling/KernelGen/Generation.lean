import KernelGen.Graph.Validation
import KernelGen.Kernel.Artifact
import KernelGen.Options

/-!
# Generation

From the metadata and the options to the artifacts. `plan` lists the distinct instantiations with
their names, `check` lists all that is wrong, and `generateAll` gives the artifacts or the first
error. `mainFragment` is the text of the main file, which includes the fragments.
-/

namespace KernelGen.Generation

/-- An instantiation with its names. -/
structure Job where
  /-- The instantiation. -/
  instantiation : Instantiation
  /-- The names of its kernel and host class. -/
  names : KernelNames
  deriving DecidableEq, Repr

/-- The distinct ones of some instantiations, in order, with their names. -/
def planFrom : NameRegistry → List Instantiation → Except GenError (List Job)
  | _, [] => .ok []
  | r, i :: is =>
    match r.register i with
    | .error e => .error e
    | .ok (.new names, r) => (planFrom r is).map (⟨i, names⟩ :: ·)
    | .ok (.existing _, r) => planFrom r is

/-- The kernels to generate. -/
def plan (g : MetadataGraph) (o : Options) : Except GenError (List Job) :=
  planFrom ⟨o.name, []⟩ g.instantiations

/-- The backends for which kernels are to be generated. A backend that needs kernels and has no
generator is an error, unless there is nothing to generate. -/
def kernelBackendsOf (g : MetadataGraph) : List Backend → Except GenError (List Backend)
  | [] => .ok []
  | b :: bs =>
    if !b.needsKernels then kernelBackendsOf g bs
    else if b.hasLowering then (kernelBackendsOf g bs).map (b :: ·)
    else if g.instantiations.isEmpty then kernelBackendsOf g bs
    else .error (.unsupportedBackend b.displayName)

/-- The enabled backends for which kernels are to be generated. -/
def kernelBackends (g : MetadataGraph) (o : Options) : Except GenError (List Backend) :=
  kernelBackendsOf g o.backends

/-- All that is wrong with the metadata under some options. -/
def check (g : MetadataGraph) (o : Options) : Except Abort (List GenError) :=
  (g.validate o.allowedCalls).map fun errors =>
    errors ++ MetadataGraph.errorOf (kernelBackends g o) ++ MetadataGraph.errorOf (plan g o)

/-- The request for a bound function. -/
def Job.request (j : Job) (o : Options) (f : UserFunction) : LoweringRequest where
  skeleton := j.instantiation.skeleton
  function := f
  shape := j.instantiation.shape
  names := j.names
  outputDir := o.dir
  preserveLines := o.preserveLines

/-- An error, with the instantiation in which it happened. -/
def Job.wrap (j : Job) (b : Backend) (e : GenError) : GenError :=
  let i := j.instantiation
  .instantiation b.displayName i.skeleton i.function i.varity i.harity e

/-- The artifact of a job. -/
def lowerJob (g : MetadataGraph) (o : Options) (b : Backend) (j : Job) :
    Except Failure Artifact :=
  match g.bind j.instantiation with
  | .error (.error e) => .error (.error (j.wrap b e))
  | .error (.abort r) => .error (.abort r)
  | .ok f =>
    match Artifact.lower g (j.request o f) with
    | .error e => .error (.error (j.wrap b e))
    | .ok a => .ok a

/-- The artifacts of all jobs for one backend after the other. No job depends on another, so they
can be done in any order; where several of them fail, the failure of the first stands for that of
any one of them. -/
def lowerAll (g : MetadataGraph) (o : Options) (bs : List Backend) (jobs : List Job) :
    Except Failure (List Artifact) :=
  (bs.flatMap fun b => jobs.map fun j => (b, j)).mapM fun (b, j) => lowerJob g o b j

/-- The artifacts, or what went wrong first. -/
def generateAll (g : MetadataGraph) (o : Options) : Except Failure (List Artifact) :=
  match g.validate o.allowedCalls with
  | .error r => .error (.abort r)
  | .ok (e :: _) => .error (.error e)
  | .ok [] =>
    match kernelBackends g o with
    | .error e => .error (.error e)
    | .ok bs =>
      match plan g o with
      | .error e => .error (.error e)
      | .ok jobs => lowerAll g o bs jobs

/-- The text of the main file: a macro for each backend, and the fragments. -/
def mainFragment (o : Options) (artifacts : List Artifact) : String :=
  "// Generated by skelc. Do not edit.\n#define SKEL_PRECOMPILED 1\n" ++
  String.join (o.backends.map fun b => "#define " ++ b.define ++ " 1\n") ++
  (if artifacts.isEmpty then "" else "\n") ++
  String.join (artifacts.map fun a => "#include \"" ++ a.fileName ++ "\"\n")

end KernelGen.Generation
