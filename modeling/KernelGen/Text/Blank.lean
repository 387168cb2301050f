/-!
# Blank characters

Which characters count as white space, and the cuts that go by them: trimming, words and lines.
Texts are lists of characters here, so that every cut is a cut of a list.
-/

namespace KernelGen.Text

/-- The characters with the Unicode property `White_Space`. -/
def isBlank (c : Char) : Bool :=
  let n := c.toNat
  (9 ≤ n && n ≤ 13) || n == 0x20 || n == 0x85 || n == 0xA0 || n == 0x1680 ||
    (0x2000 ≤ n && n ≤ 0x200A) || n == 0x2028 || n == 0x2029 || n == 0x202F || n == 0x205F ||
    n == 0x3000

/-- A text without its leading blanks. -/
def trimStart (cs : List Char) : List Char :=
  cs.dropWhile isBlank

/-- A text without the characters at its end that satisfy `p`. -/
def dropEndWhile (p : Char → Bool) (cs : List Char) : List Char :=
  (cs.reverse.dropWhile p).reverse

/-- A text without its trailing blanks. -/
def trimEnd (cs : List Char) : List Char :=
  dropEndWhile isBlank cs

/-- A text without the blanks at its two ends. -/
def trim (cs : List Char) : List Char :=
  trimEnd (trimStart cs)

/-- A text without the characters equal to `q` at its two ends. -/
def strip (q : Char) (cs : List Char) : List Char :=
  dropEndWhile (· == q) (cs.dropWhile (· == q))

/-- The pieces of a text between the occurrences of `sep`: one more than there are of those. -/
def split (sep : Char) : List Char → List (List Char)
  | [] => [[]]
  | c :: cs =>
    if c = sep then [] :: split sep cs
    else
      match split sep cs with
      | [] => [[c]]
      | piece :: pieces => (c :: piece) :: pieces

/-- The pieces of a text between single blanks, the empty ones included. -/
def splitBlank : List Char → List (List Char)
  | [] => [[]]
  | c :: cs =>
    if isBlank c then [] :: splitBlank cs
    else
      match splitBlank cs with
      | [] => [[c]]
      | piece :: pieces => (c :: piece) :: pieces

/-- The words of a text: its maximal runs of characters that are not blank. -/
def words (cs : List Char) : List (List Char) :=
  (splitBlank cs).filter (fun piece => !piece.isEmpty)

/-- The text without its trailing blanks, as a string. -/
def trimmedEnd (s : String) : String :=
  String.ofList (trimEnd s.toList)

end KernelGen.Text
