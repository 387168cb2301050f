import KernelGen.Skeleton

/-!
# Generation errors

Every way in which the metadata, a template or the disk can make generation fail. An error names
its cause; `message` gives its text. `root` looks through the wrappers that say which kernel was
being generated.
-/

namespace KernelGen

/-- What went wrong. -/
inductive GenError where
  /-- A slot of a template has no value. -/
  | unresolvedSlot (template slot : String)
  /-- A value was given for a slot that the template does not have. -/
  | unusedBinding (template binding : String)
  /-- An instantiation names a function that does not exist. -/
  | unknownFunction (name : String)
  /-- The function has `found` elementwise parameters and not `expected`. -/
  | shapeMismatch (skeleton : Skeleton) (function : String)
      (varity harity expected found : UInt64)
  /-- A function or type refers to a type that does not exist. -/
  | unknownUserType (owner name : String)
  /-- A type depends on itself. -/
  | typeCycle (name : String)
  /-- A function calls one that is neither a user function nor allowed. -/
  | disallowedCall (function callee : String)
  /-- A name is no identifier; `what` says what it names. -/
  | invalidIdentifier (what name : String)
  /-- A parameter has a name that is kept for the generator. -/
  | reservedName (function param : String)
  /-- Two parameters have one name. -/
  | duplicateParam (function param : String)
  /-- A function calls itself through others. -/
  | recursiveCall (name : String)
  /-- The backend has no generator for the skeleton. -/
  | unsupportedSkeleton (skeleton : Skeleton) (backend : String)
  /-- Every delimiter of at most `limit` characters occurs in the kernel source. -/
  | rawDelimiter (limit : UInt64)
  /-- The backend has no generator at all. -/
  | unsupportedBackend (backend : String)
  /-- Two instantiations would get one kernel name. -/
  | nameCollision (name first second : String)
  /-- A file could not be written. -/
  | io (path reason : String)
  /-- `source` happened while one instantiation was being generated. -/
  | instantiation (backend : String) (skeleton : Skeleton) (function : String)
      (varity harity : UInt64) (source : GenError)
  deriving DecidableEq, Repr

namespace GenError

/-- The text of an error. -/
def message : GenError → String
  | unresolvedSlot template slot =>
    "template '" ++ template ++ "' slot '" ++ slot ++ "' has no value"
  | unusedBinding template binding =>
    "template '" ++ template ++ "' has no slot named '" ++ binding ++ "'"
  | unknownFunction name => "unknown user function '" ++ name ++ "'"
  | shapeMismatch skeleton function varity harity expected found =>
    skeleton.name ++ " over '" ++ function ++ "' needs " ++ Word.numeral expected ++
      " elementwise parameters (Varity " ++ Word.numeral varity ++ " + Harity " ++
      Word.numeral harity ++ "), found " ++ Word.numeral found
  | unknownUserType owner name => "'" ++ owner ++ "' references unknown user type '" ++ name ++ "'"
  | typeCycle name => "user types form a dependency cycle through '" ++ name ++ "'"
  | disallowedCall function callee =>
    "user function '" ++ function ++ "' calls '" ++ callee ++
      "', which is not allowed in user functions"
  | invalidIdentifier what name => what ++ " '" ++ name ++ "' is not a valid kernel identifier"
  | reservedName function param =>
    "parameter '" ++ param ++ "' of '" ++ function ++ "' uses a reserved name"
  | duplicateParam function param =>
    "parameter '" ++ param ++ "' of '" ++ function ++ "' is declared more than once"
  | recursiveCall name => "user function '" ++ name ++ "' calls itself through other user functions"
  | unsupportedSkeleton skeleton backend =>
    "no " ++ backend ++ " generator for skeleton " ++ skeleton.name
  | rawDelimiter limit =>
    "no raw string delimiter of at most " ++ Word.numeral limit ++
      " characters avoids the kernel source"
  | unsupportedBackend backend => "backend '" ++ backend ++ "' has no kernel generator"
  | nameCollision name first second =>
    "kernel name '" ++ name ++ "' is produced by both '" ++ first ++ "' and '" ++ second ++ "'"
  | io path reason => "cannot write '" ++ path ++ "': " ++ reason
  | instantiation backend skeleton function varity harity source =>
    backend ++ " " ++ skeleton.name ++ " for '" ++ function ++ "' (Varity " ++
      Word.numeral varity ++ ", Harity " ++ Word.numeral harity ++ "): " ++ source.message

/-- The error behind all wrappers. -/
def root : GenError → GenError
  | instantiation _ _ _ _ _ source => source.root
  | e => e

end GenError

/-- Why an operation gave no result: an error, or arithmetic that left the machine word. -/
inductive Failure where
  | error (cause : GenError)
  | abort (reason : Abort)
  deriving DecidableEq, Repr

/-- The result of an operation that can only fail, seen as one that can also be broken off. -/
def Failure.ofError {α : Type} : Except GenError α → Except Failure α
  | .ok a => .ok a
  | .error e => .error (.error e)

end KernelGen
