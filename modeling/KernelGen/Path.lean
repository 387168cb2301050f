import KernelGen.Text.Blank

/-!
# Paths

A path is its text; nothing is normalised. Its components are the pieces between slashes that say
something: empty pieces do not, and a single dot does so only at the very beginning.
-/

namespace KernelGen.Path

/-- Whether a path begins at the root. -/
def isAbsolute (p : String) : Bool :=
  p.toList.head? == some '/'

/-- The path `p` as seen from `dir`. -/
def join (dir p : String) : String :=
  if isAbsolute p || dir.isEmpty then p
  else if dir.toList.getLast? == some '/' then dir ++ p
  else dir ++ "/" ++ p

/-- The pieces of a path between slashes. -/
def pieces (p : String) : List (List Char) :=
  Text.split '/' p.toList

/-- Whether the piece at a place says something. -/
def isComponent (k : Nat) (piece : List Char) : Bool :=
  !piece.isEmpty && (k == 0 || piece != ['.'])

/-- The places of the components among the pieces, each with its piece. -/
def components (p : String) : List (List Char × Nat) :=
  (pieces p).zipIdx.filter fun (piece, k) => isComponent k piece

/-- The text made of the pieces up to a place. -/
def upTo (p : String) (k : Nat) : String :=
  String.ofList (['/'].intercalate ((pieces p).take (k + 1)))

/-- The path without its last component, if it has one. -/
def parent? (p : String) : Option String :=
  match (components p).reverse with
  | [] => none
  | [_] => some (if isAbsolute p then "/" else "")
  | _ :: (_, k) :: _ => some (upTo p k)

/-- A path and the paths above it, at most `fuel` of them. -/
def climb : Nat → String → List String
  | 0, _ => []
  | fuel + 1, p =>
    p :: match parent? p with
      | none => []
      | some above => climb fuel above

/-- A path and the paths above it, from the longest to the shortest: it cannot have more of them
than it has characters, but for itself and the empty one. -/
def ancestors (p : String) : List String :=
  climb (p.length + 2) p

/-- The last component, if it is a name. -/
def fileName? (p : String) : Option String :=
  match (components p).getLast? with
  | none => none
  | some (piece, _) =>
    if piece == ['.'] || piece == ['.', '.'] then none else some (String.ofList piece)

end KernelGen.Path
