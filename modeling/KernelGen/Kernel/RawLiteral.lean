import KernelGen.Text.Search
import KernelGen.Decimal.Natural
import KernelGen.Error

/-!
# Raw string literals

A raw string literal ends at the first closing parenthesis that is followed by its delimiter and a
quote. The delimiter of a text is the first candidate for which this does not happen inside the
text: three to sixteen number signs, then `skel` with a number, as long as it fits in sixteen
characters.
-/

namespace KernelGen.RawLiteral

/-- The greatest length of a delimiter. -/
def maxLength : Nat := 16

/-- How many numbered candidates fit. -/
def numberedCount : Nat := 1000000000000

/-- The candidate with a number. -/
def numbered (k : Nat) : List Char :=
  "skel".toList ++ Decimal.digits k

/-- The candidates made of number signs. -/
def hashes : List (List Char) :=
  (List.range (maxLength - 2)).map fun k => List.replicate (k + 3) '#'

/-- What closes a literal with a delimiter. -/
def closing (delim : List Char) : List Char :=
  ')' :: delim ++ ['"']

/-- Whether a literal with this delimiter would end inside the text. -/
def collides (source delim : List Char) : Bool :=
  Text.occurs (closing delim) source

/-- The first numbered candidate from `k` on that does not collide. -/
def findNumbered (source : List Char) (k : Nat) : Option (List Char) :=
  if k < numberedCount then
    if collides source (numbered k) then findNumbered source (k + 1) else some (numbered k)
  else none
termination_by numberedCount - k

/-- The delimiter of a text. -/
def delimiter (source : String) : Except GenError String :=
  let cs := source.toList
  match hashes.find? (fun d => !collides cs d) with
  | some d => .ok (String.ofList d)
  | none =>
    match findNumbered cs 0 with
    | some d => .ok (String.ofList d)
    | none => .error (.rawDelimiter (UInt64.ofNat maxLength))

end KernelGen.RawLiteral
