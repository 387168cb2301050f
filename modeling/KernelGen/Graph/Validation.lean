import KernelGen.Identifier
import KernelGen.Graph.Binding
import KernelGen.Graph.TypeOrder

/-!
# Validation

All that can be found wrong with the metadata before any kernel is generated, in a fixed order: the
type graph, the constants, the functions one by one, and the instantiations one by one.
-/

namespace KernelGen.MetadataGraph

/-- The error that a result is, as a list. -/
def errorOf {α : Type} : Except GenError α → List GenError
  | .ok _ => []
  | .error e => [e]

/-- The errors of the constants. -/
def constantErrors (g : MetadataGraph) : List GenError :=
  (g.constants.filter fun c => !Identifier.isValid c.name).map fun c =>
    .invalidIdentifier "constant" c.name

/-- The errors of a function's parameter names, those in `declared` having come before. -/
def paramErrors (function : String) : List String → List String → List GenError
  | _, [] => []
  | declared, param :: params =>
    let errors :=
      if param ∈ declared then [.duplicateParam function param]
      else if !Identifier.isValid param then [.invalidIdentifier "parameter" param]
      else if Identifier.isReserved param then [.reservedName function param]
      else []
    errors ++ paramErrors function (param :: declared) params

/-- The errors of one function: its name, its parameters, its types and its calls. -/
def functionErrors (g : MetadataGraph) (allowed : List String) (f : UserFunction) :
    List GenError :=
  (if Identifier.isValid f.uniqueName then [] else [.invalidIdentifier "function" f.uniqueName]) ++
  paramErrors f.uniqueName [] f.paramNames ++
  (f.referencedTypes.filter fun name => (g.type? name).isNone).map
    (fun name => .unknownUserType f.uniqueName name) ++
  (f.calls.filter fun callee => (g.resolveCall? callee).isNone && !allowed.contains callee).map
    (fun callee => .disallowedCall f.uniqueName callee)

/-- The error of one instantiation, if it has one. -/
def instantiationErrors (g : MetadataGraph) (i : Instantiation) : Except Abort (List GenError) :=
  match g.bind i with
  | .ok f => .ok (errorOf (g.callees f))
  | .error (.error e) => .ok [e]
  | .error (.abort r) => .error r

/-- All errors of the metadata, given the names that may be called without being user functions. -/
def validate (g : MetadataGraph) (allowed : List String) : Except Abort (List GenError) :=
  match g.instantiations.mapM g.instantiationErrors with
  | .error r => .error r
  | .ok errors =>
    .ok (errorOf g.typeGraph ++ g.constantErrors ++
      g.functions.flatMap (g.functionErrors allowed) ++ errors.flatten)

end KernelGen.MetadataGraph
