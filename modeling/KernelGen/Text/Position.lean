import KernelGen.Text.Utf8
import KernelGen.Word

/-!
# Positions in a text

A place in a text is a byte index, or a line and a column. Lines count from one and end with a line
feed; a column is the number of bytes between the start of the line and the place. A reader hands
the line and the column over as machine words, and the way back to a byte index is computed in
words.
-/

namespace KernelGen.Text

/-- A line with a column. -/
structure Position where
  /-- The number of the line, from one. -/
  line : Nat
  /-- The number of bytes before the place on its line. -/
  column : Nat
  deriving DecidableEq, Repr

/-- The position `k` bytes further on than `p`, where the text `cs` begins at `p`. -/
def advance (p : Position) : List Char → Nat → Position
  | [], _ => p
  | c :: cs, k =>
    if k < c.utf8Size then { p with column := p.column + k }
    else if c = '\n' then advance ⟨p.line + 1, 0⟩ cs (k - 1)
    else advance { p with column := p.column + c.utf8Size } cs (k - c.utf8Size)

/-- The position of a byte index. -/
def positionAt (source : List Char) (index : Nat) : Position :=
  advance ⟨1, 0⟩ source index

/-- The number of bytes in the first `n` lines of a text, their line feeds included. -/
def linesLength : Nat → List Char → Nat
  | 0, _ => 0
  | _, [] => 0
  | n + 1, c :: cs =>
    if c = '\n' then 1 + linesLength n cs else c.utf8Size + linesLength (n + 1) cs

/-- A line with a column in words, as a reader reports them. Line zero stands for no place. -/
structure Place where
  /-- The number of the line, from one. -/
  line : UInt64
  /-- The number of bytes before the place on its line. -/
  column : UInt64
  deriving DecidableEq, Repr

/-- The place that is reported for a position. -/
def Position.place (p : Position) : Place :=
  ⟨UInt64.ofNat p.line, UInt64.ofNat p.column⟩

/-- The byte index of the character before a reported place, clipped to the text. The start of the
line and the column are added before the sum is clipped. -/
def byteOffset (source : List Char) (p : Place) : Except Abort UInt64 :=
  if p.line = 0 then .ok 0
  else
    (Word.add (UInt64.ofNat (linesLength (p.line.toNat - 1) source))
      (Word.saturatingSub p.column 1)).map (min · (UInt64.ofNat (byteLength source)))

end KernelGen.Text
