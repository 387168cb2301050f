import KernelGen.Decimal.Layout
import KernelGen.Text.Quoted
import KernelGen.Text.Utf8

/-!
# Faults of a manifest

What can be wrong with the text of a manifest, and where. A fault records how many bytes of the
text come after the place that it blames, so that a reader of a part of the text need not know
where the part begins.
-/

namespace KernelGen.Manifest

/-- A value that stands where another kind of value was expected. -/
inductive Found where
  | null
  | boolean (b : Bool)
  | integer (z : Int)
  | float (v : Decimal.Value)
  | string (cs : List Char)
  | sequence
  | map
  deriving DecidableEq, Repr

/-- Numbers in messages are positional down to five places after the point and up to sixteen digits
before it; exponents have a sign, and of two equally near decimals the even one is taken. -/
def floatLayout : Decimal.Layout := ⟨-5, 15, true, .even⟩

/-- The description of a value. -/
def Found.describe : Found → String
  | null => "null"
  | boolean b => "boolean `" ++ (if b then "true" else "false") ++ "`"
  | integer z => "integer `" ++ Decimal.signedNumeral z ++ "`"
  | float v => "floating point `" ++ floatLayout.text Decimal.double v ++ "`"
  | string cs => "string " ++ String.ofList (Text.quoted cs)
  | sequence => "sequence"
  | map => "map"

/-- What is wrong. -/
inductive Cause where
  /-- The text ends where a value should stand. -/
  | endInValue
  /-- The text ends inside a list. -/
  | endInList
  /-- The text ends inside an object. -/
  | endInObject
  /-- The text ends inside a string. -/
  | endInString
  | expectedValue
  | expectedIdent
  | expectedColon
  | expectedListComma
  | expectedObjectComma
  | keyNotString
  | trailingComma
  | trailingCharacters
  | invalidNumber
  | numberOutOfRange
  | controlCharacter
  | invalidEscape
  /-- An escape denotes half of a surrogate pair, and the other half is not where it should be. -/
  | loneSurrogate
  /-- After the first half of a surrogate pair there is no second escape. -/
  | unfinishedPair
  /-- A value of another kind than the expected one. -/
  | invalidType (found : Found) (expected : String)
  /-- An integer that is out of range. -/
  | invalidValue (z : Int) (expected : String)
  /-- A list with too few fields. -/
  | invalidLength (length : Nat) (expected : String)
  | unknownField (name : String) (expected : List String)
  | unknownVariant (name : String) (expected : List String)
  | missingField (name : String)
  | duplicateField (name : String)
  deriving DecidableEq, Repr

/-- A list of names to choose from. -/
def oneOf (names : List String) : String :=
  "one of " ++ String.intercalate ", " (names.map fun n => "`" ++ n ++ "`")

/-- The text of a cause. -/
def Cause.message : Cause → String
  | endInValue => "EOF while parsing a value"
  | endInList => "EOF while parsing a list"
  | endInObject => "EOF while parsing an object"
  | endInString => "EOF while parsing a string"
  | expectedValue => "expected value"
  | expectedIdent => "expected ident"
  | expectedColon => "expected `:`"
  | expectedListComma => "expected `,` or `]`"
  | expectedObjectComma => "expected `,` or `\x7d`"
  | keyNotString => "key must be a string"
  | trailingComma => "trailing comma"
  | trailingCharacters => "trailing characters"
  | invalidNumber => "invalid number"
  | numberOutOfRange => "number out of range"
  | controlCharacter => "control character (\\u0000-\\u001F) found while parsing a string"
  | invalidEscape => "invalid escape"
  | loneSurrogate => "lone leading surrogate in hex escape"
  | unfinishedPair => "unexpected end of hex escape"
  | invalidType found expected => "invalid type: " ++ found.describe ++ ", expected " ++ expected
  | invalidValue z expected =>
    "invalid value: " ++ (Found.integer z).describe ++ ", expected " ++ expected
  | invalidLength length expected =>
    "invalid length " ++ Decimal.numeral length ++ ", expected " ++ expected
  | unknownField name expected => "unknown field `" ++ name ++ "`, expected " ++ oneOf expected
  | unknownVariant name expected => "unknown variant `" ++ name ++ "`, expected " ++ oneOf expected
  | missingField name => "missing field `" ++ name ++ "`"
  | duplicateField name => "duplicate field `" ++ name ++ "`"

/-- A cause with its place. -/
structure Fault where
  /-- What is wrong. -/
  cause : Cause
  /-- The number of bytes after the place. -/
  left : Nat
  deriving DecidableEq, Repr

/-- The fault that is noticed before the text `rest`. -/
def Fault.before (cause : Cause) (rest : List Char) : Fault :=
  ⟨cause, Text.byteLength rest⟩

/-- The fault that lies in the first byte of the text `rest`, or at its end if it is empty. -/
def Fault.within (cause : Cause) (rest : List Char) : Fault :=
  ⟨cause, Text.byteLength rest - 1⟩

/-- Reads a value from the front of a text and leaves the rest. -/
abbrev Reader (α : Type) : Type :=
  List Char → Except Fault (α × List Char)

end KernelGen.Manifest
