/-!
# Identifiers

Which texts are identifiers of the kernel language, which of them the generator keeps for itself,
and how any text is turned into a part of an identifier.
-/

namespace KernelGen.Identifier

/-- The beginning of every name that the generator makes up. -/
def reservedPrefix : String := "skel_"

/-- The names of the parameters and locals of every kernel. -/
def kernelLocals : List String :=
  ["i", "n", "w", "gridSize", "output", "Vsize", "Hsize", "base"]

/-- A letter or an underscore. -/
def isHead (c : Char) : Bool :=
  c.isAlpha || c == '_'

/-- A letter, a digit or an underscore. -/
def isTail (c : Char) : Bool :=
  c.isAlphanum || c == '_'

/-- Whether a text is an identifier: a letter or underscore, then letters, digits, underscores,
all of them ASCII. -/
def isValid (s : String) : Bool :=
  match s.toList with
  | [] => false
  | c :: cs => isHead c && cs.all isTail

/-- Whether a name is kept for the generator. -/
def isReserved (s : String) : Bool :=
  reservedPrefix.toList.isPrefixOf s.toList || kernelLocals.contains s

/-- A text with an underscore for every character that is no ASCII letter or digit, and one more
in front if the result would be empty or begin with a digit. -/
def sanitize (s : String) : String :=
  let cs := s.toList.map fun c => if c.isAlphanum then c else '_'
  match cs with
  | [] => "_"
  | c :: _ => String.ofList (if c.isDigit then '_' :: cs else cs)

end KernelGen.Identifier
