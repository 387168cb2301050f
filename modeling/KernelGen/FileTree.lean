import KernelGen.Path
import KernelGen.Text.Utf8

/-!
# File trees

A tree of directories and regular files, below one root directory that is always there. A path is
walked piece by piece, from the root if it begins with a slash and from the working directory if it
does not: every piece but the last must be a directory, a dot stays where it is, two dots go up, and
a slash at the end asks for a directory. A name has at most 255 bytes, a path fewer than 4096, and
neither holds a NUL character.
-/

namespace KernelGen

/-- Why an operation on files failed. -/
inductive FileError where
  | notFound
  | alreadyExists
  | notDirectory
  | isDirectory
  | nameTooLong
  /-- The bytes of a file are no text. -/
  | notText
  /-- A path holds a NUL character. -/
  | nulInPath
  deriving DecidableEq, Repr

/-- The text of a failure. -/
def FileError.message : FileError → String
  | notFound => "No such file or directory (os error 2)"
  | alreadyExists => "File exists (os error 17)"
  | notDirectory => "Not a directory (os error 20)"
  | isDirectory => "Is a directory (os error 21)"
  | nameTooLong => "File name too long (os error 36)"
  | notText => "stream did not contain valid UTF-8"
  | nulInPath => "file name contained an unexpected NUL byte"

/-- What a name in a directory stands for. -/
inductive Entry where
  | directory
  | file (content : List UInt8)
  deriving DecidableEq, Repr

/-- The names on the way from the root. -/
abbrev Location := List String

/-- A tree of directories and files. -/
structure FileTree where
  /-- The entries below the root, each with its location. -/
  entries : List (Location × Entry) := []
  /-- The directory from which relative paths start. -/
  workingDir : Location := []
  deriving DecidableEq, Repr

namespace FileTree

/-- What stands at a location. -/
def entry? (t : FileTree) (l : Location) : Option Entry :=
  if l.isEmpty then some .directory else t.entries.lookup l

/-- Whether a location is a directory. -/
def isDirectoryAt (t : FileTree) (l : Location) : Bool :=
  t.entry? l == some .directory

/-- Puts an entry at a location, in place of what was there. -/
def set (t : FileTree) (l : Location) (e : Entry) : FileTree :=
  { t with entries := t.entries.filter (·.1 != l) ++ [(l, e)] }

/-- The pieces of a path that say where to go. -/
def pieces (path : String) : List String :=
  ((Path.pieces path).filter (!·.isEmpty)).map String.ofList

/-- Whether a path asks for a directory by a slash at its end. -/
def endsInSlash (path : String) : Bool :=
  path.toList.getLast? == some '/'

/-- The most bytes that a name has. -/
def maxNameSize : Nat := 255

/-- The number of bytes that a path may not reach. -/
def pathLimit : Nat := 4096

/-- What is wrong with a path by itself, whatever the tree. -/
def pathFault? (path : String) : Option FileError :=
  if path.toList.contains '\x00' then some .nulInPath
  else if path.isEmpty then some .notFound
  else if pathLimit ≤ path.utf8ByteSize then some .nameTooLong
  else none

/-- Where a path starts. -/
def origin (t : FileTree) (path : String) : Location :=
  if Path.isAbsolute path then [] else t.workingDir

/-- One step from a location. -/
def step (t : FileTree) (l : Location) (piece : String) : Except FileError Location :=
  if !t.isDirectoryAt l then .error .notDirectory
  else if piece = "." then .ok l
  else if piece = ".." then .ok l.dropLast
  else if maxNameSize < piece.utf8ByteSize then .error .nameTooLong
  else if (t.entry? (l ++ [piece])).isSome then .ok (l ++ [piece])
  else .error .notFound

/-- The location at the end of some steps. -/
def walk (t : FileTree) : Location → List String → Except FileError Location
  | l, [] => .ok l
  | l, piece :: pieces =>
    match t.step l piece with
    | .error e => .error e
    | .ok l => t.walk l pieces

/-- The location of something that is there. -/
def resolve (t : FileTree) (path : String) : Except FileError Location :=
  match pathFault? path with
  | some e => .error e
  | none => t.walk (t.origin path) (pieces path ++ if endsInSlash path then ["."] else [])

/-- Where something is to be made: in a directory under a name, or in the place of a directory that
is there. -/
inductive Place where
  | under (dir : Location) (name : String)
  | existing (dir : Location)
  deriving DecidableEq, Repr

/-- Where a path would make something. -/
def place (t : FileTree) (path : String) : Except FileError Place :=
  match pathFault? path with
  | some e => .error e
  | none =>
    match (pieces path).reverse with
    | [] => .ok (.existing (t.origin path))
    | last :: before =>
      match t.walk (t.origin path) before.reverse with
      | .error e => .error e
      | .ok dir =>
        if !t.isDirectoryAt dir then .error .notDirectory
        else if last = "." then .ok (.existing dir)
        else if last = ".." then .ok (.existing dir.dropLast)
        else .ok (.under dir last)

/-- Whether a path leads to something. -/
def exists? (t : FileTree) (path : String) : Bool :=
  (t.resolve path).toOption.isSome

/-- Whether a path leads to a directory. -/
def isDirectory (t : FileTree) (path : String) : Bool :=
  (t.resolve path).toOption.any t.isDirectoryAt

/-- The bytes of a file. -/
def read (t : FileTree) (path : String) : Except FileError (List UInt8) :=
  match t.resolve path with
  | .error e => .error e
  | .ok l =>
    match t.entry? l with
    | some (.file content) => .ok content
    | some .directory => .error .isDirectory
    | none => .error .notFound

/-- The text of a file. -/
def readText (t : FileTree) (path : String) : Except FileError String :=
  match t.read path with
  | .error e => .error e
  | .ok bytes =>
    match Text.decode? bytes with
    | some cs => .ok (String.ofList cs)
    | none => .error .notText

/-- Makes a directory. -/
def makeDirectory (t : FileTree) (path : String) : Except FileError FileTree :=
  match t.place path with
  | .error e => .error e
  | .ok (.existing _) => .error .alreadyExists
  | .ok (.under dir name) =>
    if maxNameSize < name.utf8ByteSize then .error .nameTooLong
    else if (t.entry? (dir ++ [name])).isSome then .error .alreadyExists
    else .ok (t.set (dir ++ [name]) .directory)

/-- Makes a directory and those above it that are missing, given the paths to try from the longest
to the shortest. What was made before a failure stays. -/
def makeDirectories (t : FileTree) : List String → Except FileError Unit × FileTree
  | [] => (.ok (), t)
  | path :: above =>
    match t.makeDirectory path with
    | .ok t => (.ok (), t)
    | .error .notFound =>
      match t.makeDirectories above with
      | (.error e, t) => (.error e, t)
      | (.ok (), t) =>
        match t.makeDirectory path with
        | .ok t => (.ok (), t)
        | .error e => if t.isDirectory path then (.ok (), t) else (.error e, t)
    | .error e => if t.isDirectory path then (.ok (), t) else (.error e, t)

/-- Makes a directory and those above it that are missing. -/
def makeAllDirectories (t : FileTree) (path : String) : Except FileError Unit × FileTree :=
  t.makeDirectories ((Path.ancestors path).filter (!·.isEmpty))

/-- Writes a file, in place of the one that was there. -/
def write (t : FileTree) (path : String) (content : List UInt8) : Except FileError FileTree :=
  match t.place path with
  | .error e => .error e
  | .ok (.existing _) => .error .isDirectory
  | .ok (.under dir name) =>
    if endsInSlash path then .error .isDirectory
    else if maxNameSize < name.utf8ByteSize then .error .nameTooLong
    else if t.isDirectoryAt (dir ++ [name]) then .error .isDirectory
    else .ok (t.set (dir ++ [name]) (.file content))

/-- A tree without what a path leads to and all below it. -/
def remove (t : FileTree) (path : String) : FileTree :=
  match t.resolve path with
  | .error _ => t
  | .ok l => { t with entries := t.entries.filter fun (k, _) => !l.isPrefixOf k }

/-- Puts a file into a tree, with the directories above it. -/
def put (t : FileTree) (path : String) (content : List UInt8) : FileTree :=
  let t := (t.makeAllDirectories ((Path.parent? path).getD "")).2
  (t.write path content).toOption.getD t

/-- The regular files below the root, each with the names on the way to it. -/
def files (t : FileTree) : List (Location × List UInt8) :=
  t.entries.filterMap fun (l, e) =>
    match e with
    | .file content => some (l, content)
    | .directory => none

end FileTree

end KernelGen
