import KernelGen.Decimal.Natural
import KernelGen.Diagnostic
import KernelGen.Text.Blank
import KernelGen.Text.Width

/-!
# Reports

The text in which a diagnostic is shown: the message, the lines of the source that it is about with
a marker under the marked range, then advice and the last note. A range on one line is underlined;
one over several lines has a bar along their left side.

The two ends of a span count characters here.
-/

namespace KernelGen.Report

/-- A line of a source text. -/
structure Line where
  /-- The number of characters before it. -/
  start : Nat
  /-- Its characters, those that end the line included. -/
  chars : List Char

namespace Line

/-- The number of characters up to the end of a line. -/
def stop (l : Line) : Nat :=
  l.start + l.chars.length

/-- The characters that are shown. -/
def shown (l : Line) : List Char :=
  Text.trimEnd l.chars

end Line

/-- Whether a character ends a line. -/
def endsLine (c : Char) : Bool :=
  c == '\r' || c == '\n' || c.toNat == 0x0B || c.toNat == 0x0C || c.toNat == 0x85 ||
    c.toNat == 0x2028 || c.toNat == 0x2029

/-- The lines of a text, each with what ends it. A carriage return and the line feed after it end
one line together. -/
def cutLines : List Char → List (List Char)
  | [] => []
  | c :: cs =>
    if c = '\r' ∧ cs.head? = some '\n' then
      match cutLines cs with
      | [] => [[c]]
      | line :: lines => (c :: line) :: lines
    else if endsLine c then [c] :: cutLines cs
    else
      match cutLines cs with
      | [] => [[c]]
      | line :: lines => (c :: line) :: lines

/-- Lines with the numbers of characters before them, of which there are `start` before the
first. -/
def placeLines (start : Nat) : List (List Char) → List Line
  | [] => []
  | chars :: lines => ⟨start, chars⟩ :: placeLines (start + chars.length) lines

/-- The lines of a text. -/
def linesOf (source : List Char) : List Line :=
  placeLines 0 (cutLines source)

/-- The place of the line that holds an offset: the last line that does not start after it. -/
def lineIndex (lines : List Line) (offset : Nat) : Nat :=
  (lines.takeWhile fun l => l.start ≤ offset).length - 1

/-- The number of columns that a character takes at a place of its line. -/
def columnWidth (k : Nat) (c : Char) : Nat :=
  if c = '\t' then 4 - k % 4 else if Text.isBlank c then 1 else Text.displayWidth c

/-- A character as it is shown at a place of its line. -/
def shownChar (k : Nat) (c : Char) : List Char :=
  if Text.isBlank c then List.replicate (columnWidth k c) ' ' else [c]

/-- A line as it is shown. -/
def shownText (l : Line) : List Char :=
  l.shown.zipIdx.flatMap fun (c, k) => shownChar k c

/-- The number of columns at each of the first `n` places of a line. -/
def widths (l : Line) (n : Nat) : List Nat :=
  let ws := (l.shown.zipIdx.map fun (c, k) => columnWidth k c).take n
  ws ++ List.replicate (n - ws.length) 1

/-- A character followed by filling, over some columns. -/
def headed (w : Nat) (head fill : Char) : List Char :=
  match w with
  | 0 => []
  | n + 1 => head :: List.replicate n fill

/-- The marked range, in characters, and its message. -/
structure Label where
  /-- The first character. -/
  start : Nat
  /-- The character after the last. -/
  stop : Nat
  /-- The message. -/
  message : List Char

/-- The last character of a range, or its place if it is empty. -/
def Label.last (l : Label) : Nat :=
  max (l.stop - 1) l.start

/-- The row under a line that underlines the range. -/
def underline (line : Line) (l : Label) (arrow places : Nat) : List Char :=
  (widths line places).zipIdx.flatMap fun (w, k) =>
    let inside : Bool := l.start ≤ line.start + k && line.start + k < l.stop
    if k = arrow then if inside then headed w '┬' '─' else headed w '│' ' '
    else List.replicate w (if inside then '─' else ' ')

/-- The row under the underline that leads to the message. -/
def pointer (line : Line) (arrow places : Nat) : List Char :=
  (widths line places).zipIdx.flatMap fun (w, k) =>
    if k = arrow then headed w '╰' '─' else List.replicate w (if arrow < k then '─' else ' ')

/-- The margins of the rows, for line numbers of some width. -/
structure Margins where
  /-- The width of the line numbers. -/
  width : Nat

namespace Margins

/-- Some blanks. -/
def blanks (n : Nat) : List Char :=
  List.replicate n ' '

/-- The margin of a line of the source. -/
def source (m : Margins) (number : Nat) : List Char :=
  let ds := Decimal.digits number
  ' ' :: blanks (m.width - ds.length) ++ ds ++ " │ ".toList

/-- The margin of every other row. -/
def other (m : Margins) : List Char :=
  blanks (m.width + 2) ++ "│ ".toList

/-- The margin where lines are left out. -/
def skipped (m : Margins) : List Char :=
  blanks (m.width + 2) ++ "┆ ".toList

end Margins

/-- The rows of a range on one line. -/
def inlineRows (m : Margins) (line : Line) (number : Nat) (l : Label) : List (List Char) :=
  if line.stop < l.stop then [m.other]
  else
    let arrow := max ((l.start + l.stop) / 2) l.start - line.start
    let places := l.stop - line.start + 2
    [m.source number ++ shownText line,
      m.other ++ underline line l arrow places,
      m.other ++ pointer line arrow places ++ ' ' :: l.message]

/-- The rows of a range over several lines, of which `lines` are those after the first, numbered
from `number`; `skipping` says whether the line before was left out. All lines are left out up to
the one that holds the last character, which has the message under it. -/
def laterRows (m : Margins) (l : Label) : Nat → Bool → List Line → List (List Char)
  | _, _, [] => []
  | number, skipping, line :: lines =>
    if l.last < line.stop then
      let columns := (widths line (line.chars.length + 2)).sum
      [m.source number ++ "├─▶ ".toList ++ shownText line,
        m.other ++ "│   ".toList ++ Margins.blanks columns,
        m.other ++ "╰───".toList ++ List.replicate columns '─' ++ ' ' :: l.message]
    else
      (if skipping then [] else [m.skipped ++ "┆   ".toList]) ++
        laterRows m l (number + 1) true lines

/-- The rows of the source, and the indentation of what follows them. -/
def sourceRows (m : Margins) (lines : List Line) (l : Label) : List (List Char) × List Char :=
  let first := lineIndex lines l.start
  let last := lineIndex lines l.last
  match (lines.drop first).take (last - first + 1) with
  | [] => ([], [])
  | [line] => (inlineRows m line (first + 1) l, [])
  | line :: later =>
    let bar : Bool := (lines[1]?).any fun second => second.start == l.start
    ((m.source (first + 1) ++ "╭─▶ ".toList ++ shownText line) ::
        laterRows m l (first + 2) false later,
      if bar then "│   ".toList else Margins.blanks 4)

/-- The rows of a remark below the source. -/
def remarkRows (margin : List Char) (title : String) : Option String → List (List Char)
  | none => []
  | some text => [margin, margin ++ title.toList ++ ": ".toList ++ text.toList]

/-- The rows below the message. There are none if the range is not in the source. -/
def bodyRows (d : Diagnostic) (file : String) (source : List Char) : List (List Char) :=
  let l : Label := ⟨d.span.start.toNat, d.span.stop.toNat, d.message.toList⟩
  let lines := linesOf source
  if lines.isEmpty || source.length < l.start || (l.start < l.stop && source.length < l.last) then
    []
  else
    let first := lineIndex lines l.start
    let start := ((lines[first]?).map (·.start)).getD 0
    let m : Margins := ⟨(Decimal.digits (lineIndex lines l.last + 1)).length⟩
    let (rows, indent) := sourceRows m lines l
    let margin := m.other ++ indent
    (Margins.blanks (m.width + 2) ++ "╭─[".toList ++ file.toList ++ ':' ::
        Decimal.digits (first + 1) ++ ':' :: Decimal.digits (l.start - start + 1) ++ [']']) ::
      (Margins.blanks (m.width + 2) ++ ['│']) :: rows ++
      remarkRows margin "Help" d.help ++ remarkRows margin "Note" d.notes.getLast? ++
      [List.replicate (m.width + 2) '─' ++ ['╯']]

/-- The title of a report. -/
def title : Severity → String
  | .error => "Error"
  | .warning => "Warning"

/-- The text of a diagnostic about a source in a file. -/
def render (d : Diagnostic) (file source : String) : Except Abort String :=
  if d.span.stop < d.span.start then .error .reversedLabel
  else
    let head := (title d.severity).toList ++ ": ".toList ++ d.message.toList
    .ok (String.ofList ((head :: bodyRows d file source.toList).flatMap (· ++ ['\n'])))

end KernelGen.Report
