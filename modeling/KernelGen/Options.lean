import KernelGen.Backend
import KernelGen.Path
import KernelGen.Text.Sorted

/-!
# Generator options

Which backends to generate for, where the output goes, and what user functions may call.
-/

namespace KernelGen

/-- The functions that may always be called. -/
def defaultAllowedCalls : List String :=
  ["exp", "exp2", "exp2f", "sqrt", "abs", "fabs", "max", "fmax", "pow", "log", "log2", "log10",
    "sin", "sinh", "asin", "asinh", "cos", "cosh", "acos", "acosh", "tan", "tanh", "atan",
    "atanh", "round", "ceil", "floor", "erf", "printf"]

/-- What a run is asked to do. -/
structure Options where
  /-- The directory of the output. -/
  dir : String := "."
  /-- The name of the output. -/
  name : String := "skel_out"
  /-- The enabled backends, in order. -/
  backends : List Backend := []
  /-- Whether the main file gets the output name without an extension. -/
  overrideExtension : Bool := false
  /-- Whether generated functions point back to their declarations. -/
  preserveLines : Bool := true
  /-- The functions that may be called, in order. -/
  allowedCalls : List String := sortDistinct Text.before defaultAllowedCalls
  /-- No backend is enabled twice, and they are in the order of all backends. -/
  backends_sublist : backends.Sublist Backend.all := by decide
  deriving DecidableEq, Repr

namespace Options

/-- Whether a backend is enabled. -/
def isEnabled (o : Options) (b : Backend) : Bool :=
  o.backends.contains b

/-- Enables some backends. -/
def enable (o : Options) (bs : List Backend) : Options :=
  { o with
    backends := Backend.all.filter fun b => o.backends.contains b || bs.contains b
    backends_sublist := List.filter_sublist }

/-- Allows some functions to be called. -/
def allow (o : Options) (names : List String) : Options :=
  { o with allowedCalls := sortDistinct Text.before (o.allowedCalls ++ names) }

/-- Allows the functions named in a text, with blanks between the names. -/
def allowCalls (o : Options) (names : String) : Options :=
  o.allow ((Text.words names.toList).map String.ofList)

/-- The path of the main file. -/
def mainOutput (o : Options) : String :=
  let file :=
    if o.overrideExtension then o.name
    else if o.isEnabled .cuda then o.name ++ ".cu"
    else o.name ++ ".cpp"
  Path.join o.dir file

end Options

end KernelGen
