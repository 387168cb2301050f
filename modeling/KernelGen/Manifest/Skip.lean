import KernelGen.Manifest.Scan

/-!
# Values that are passed over

The value of an unknown field is not read but must be well formed. Strings are checked for their
shape only and numbers for their grammar only, and lists and objects may be nested to any depth: the
open ones are kept on a stack.
-/

namespace KernelGen.Manifest

/-- Passes over a string, after its opening quote. -/
def skipString (cs : List Char) : Except Fault (List Char) :=
  match cs with
  | [] => .error (.before .endInString [])
  | c :: tail =>
    if c = '"' then .ok tail
    else if c = '\\' then
      match tail with
      | [] => .error (.before .endInString [])
      | d :: rest =>
        if (shortEscape? d).isSome then skipString rest
        else if d = 'u' then
          match _h : readHex rest with
          | .error f => .error f
          | .ok (_, rest) => skipString rest
        else .error (.within .invalidEscape (d :: rest))
    else if c.toNat < 0x20 then .error (.before .controlCharacter cs)
    else skipString tail
termination_by cs.length
decreasing_by
  · simp only [List.length_cons]
    omega
  · have := length_of_readHex _h
    simp only [List.length_cons]
    omega
  · exact Nat.lt_succ_self _

/-- Passes over an exponent, after its letter. -/
def skipExponent (cs : List Char) : Except Fault (List Char) :=
  let cs :=
    match cs with
    | '+' :: cs | '-' :: cs => cs
    | cs => cs
  match cs with
  | [] => .error (.before .invalidNumber [])
  | c :: tail =>
    if c.isDigit then .ok (tail.dropWhile Char.isDigit)
    else .error (.within .invalidNumber cs)

/-- Passes over the digits after a decimal point, and what follows them. -/
def skipFraction (cs : List Char) : Except Fault (List Char) :=
  match cs with
  | [] => .error (.within .invalidNumber [])
  | c :: _ =>
    if c.isDigit then
      match cs.dropWhile Char.isDigit with
      | 'e' :: rest | 'E' :: rest => skipExponent rest
      | rest => .ok rest
    else .error (.within .invalidNumber cs)

/-- Passes over a number, after its sign. -/
def skipNumber (cs : List Char) : Except Fault (List Char) :=
  match cs with
  | [] => .error (.before .invalidNumber [])
  | c :: tail =>
    if !c.isDigit then .error (.within .invalidNumber cs)
    else if c = '0' ∧ tail.head?.any Char.isDigit then .error (.within .invalidNumber tail)
    else
      match (if c = '0' then tail else tail.dropWhile Char.isDigit) with
      | '.' :: rest => skipFraction rest
      | 'e' :: rest | 'E' :: rest => skipExponent rest
      | rest => .ok rest

/-- A list or object that has been opened and not closed. -/
inductive Enclosure where
  | list
  | object
  deriving DecidableEq, Repr

/-- What stands at the front of a text: a value of one piece, which has been passed over, or the
beginning of a list or object. -/
def skipSimple (cs : List Char) : Except Fault (Option Enclosure × List Char) :=
  let simple (r : Except Fault (List Char)) : Except Fault (Option Enclosure × List Char) :=
    r.map fun rest => (none, rest)
  match cs with
  | [] => .error (.within .endInValue [])
  | c :: tail =>
    if c = 'n' then simple (word "ull".toList tail)
    else if c = 't' then simple (word "rue".toList tail)
    else if c = 'f' then simple (word "alse".toList tail)
    else if c = '-' then simple (skipNumber tail)
    else if c.isDigit then simple (skipNumber cs)
    else if c = '"' then simple (skipString tail)
    else if c = '[' then .ok (some .list, tail)
    else if c = '\x7b' then .ok (some .object, tail)
    else .error (.within .expectedValue cs)

/-- Passes over the key of an object and its colon. -/
def skipKey (cs : List Char) : Except Fault (List Char) :=
  match skipSpace cs with
  | [] => .error (.within .endInObject [])
  | '"' :: rest =>
    match skipString rest with
    | .error f => .error f
    | .ok rest =>
      match skipSpace rest with
      | [] => .error (.within .endInObject [])
      | ':' :: rest => .ok rest
      | rest => .error (.within .expectedColon rest)
  | rest => .error (.within .keyNotString rest)

/-- Closes lists and objects as long as they end. `afterItem` says whether an item has just ended;
then a comma must come before the next one. The result is the stack of what is still open and the
rest, in front of the next item, or with an empty stack when everything is closed. -/
def closeEnclosures (afterItem : Bool) : List Enclosure → List Char →
    Except Fault (List Enclosure × List Char)
  | [], cs => .ok ([], cs)
  | inner :: outer, cs =>
    match skipSpace cs with
    | [] =>
      .error (.within (match inner with | .list => .endInList | .object => .endInObject) [])
    | c :: rest =>
      if c = ',' ∧ afterItem then .ok (inner :: outer, rest)
      else if (c = ']' ∧ inner = .list) ∨ (c = '\x7d' ∧ inner = .object) then
        closeEnclosures true outer rest
      else if afterItem then
        .error (.within
          (match inner with | .list => .expectedListComma | .object => .expectedObjectComma)
          (c :: rest))
      else .ok (inner :: outer, c :: rest)

/-- Passes over what is left of a value, given what is open around it. Every step passes at least
one character, so `fuel` characters of text are enough steps. -/
def skipNested : Nat → List Enclosure → List Char → Except Fault (List Char)
  | 0, _, cs => .ok cs
  | fuel + 1, stack, cs =>
    match skipSimple (skipSpace cs) with
    | .error f => .error f
    | .ok (opened, rest) =>
      match closeEnclosures opened.isNone (opened.toList ++ stack) rest with
      | .error f => .error f
      | .ok ([], rest) => .ok rest
      | .ok (.list :: outer, rest) => skipNested fuel (.list :: outer) rest
      | .ok (.object :: outer, rest) =>
        match skipKey rest with
        | .error f => .error f
        | .ok rest => skipNested fuel (.object :: outer) rest

/-- Passes over one value. -/
def skipValue (cs : List Char) : Except Fault (List Char) :=
  skipNested (cs.length + 1) [] cs

end KernelGen.Manifest
