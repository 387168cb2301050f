import KernelGen.CommandLine.Session

/-!
# The program

Shows a command the part of the file system that it works on, carries it out, and makes the changes
that it left.
-/

namespace KernelGen.Program

/-- The path of a location from the root. -/
def absolutePath (l : Location) : String :=
  "/" ++ String.intercalate "/" l

/-- What stands at a location. -/
def probe (l : Location) : IO (Option Entry) := do
  match ← (IO.FS.readBinFile (absolutePath l)).toBaseIO with
  | .ok bytes => return some (.file bytes.toList)
  | .error (.inappropriateType ..) => return some .directory
  | .error _ => return none

/-- A tree with what is found on the way from a location along the pieces of a path. -/
def lookAlong (t : FileTree) (l : Location) : List String → IO FileTree
  | [] => return t
  | piece :: pieces => do
    let l := if piece = "." then l else if piece = ".." then l.dropLast else l ++ [piece]
    if (t.entry? l).isSome then lookAlong t l pieces
    else
      match ← probe l with
      | none => return t
      | some e => lookAlong (t.set l e) l pieces

/-- A tree with what is found along some paths. -/
def look (t : FileTree) : List String → IO FileTree
  | [] => return t
  | path :: paths => do
    look (← lookAlong t (t.origin path) (FileTree.pieces path)) paths

/-- The part of the file system that some words of a command line are about. -/
def snapshot (args : List String) : IO FileTree := do
  let here := FileTree.pieces (← IO.currentDir).toString
  let t ← lookAlong {} [] here
  let t := { t with workingDir := here }
  match CommandLine.request args with
  | .run i => do
    let t ← look t (CommandLine.inputPaths i)
    look t (CommandLine.outputPaths t i)
  | _ => return t

/-- Makes the entries of a tree that an older tree does not have. -/
def update (old : FileTree) : List (Location × Entry) → IO Unit
  | [] => return
  | (l, e) :: entries => do
    if old.entry? l != some e then
      match e with
      | .directory => IO.FS.createDirAll (absolutePath l)
      | .file content => IO.FS.writeBinFile (absolutePath l) ⟨content.toArray⟩
    update old entries

end KernelGen.Program

open KernelGen in
/-- Carries out the command that some words ask for. -/
def main (args : List String) : IO UInt32 := do
  let t ← Program.snapshot args
  let outcome := CommandLine.run t args
  Program.update t outcome.tree.entries
  IO.print outcome.stdout
  IO.eprint outcome.stderr
  return outcome.code.toUInt32
