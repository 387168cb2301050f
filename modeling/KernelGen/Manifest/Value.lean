import KernelGen.Manifest.Number
import KernelGen.Manifest.Skip

/-!
# Typed values

Readers for the values that a manifest holds: strings, truth values, words, lists, names of a fixed
choice and records. A record is written as an object with named fields, in any order, or as a list
of its fields in order. Fields that are not required may be left out, in a list only at its end.
-/

namespace KernelGen.Manifest

/-- The fault that a value of the wrong kind is; the value begins `cs`. -/
def wrongKind (expected : String) (cs : List Char) : Fault :=
  let wrong (found : Found) (rest : List Char) : Fault :=
    .before (.invalidType found expected) rest
  match cs with
  | [] => .within .endInValue []
  | c :: tail =>
    if c = 'n' then
      match word "ull".toList tail with
      | .error f => f
      | .ok rest => wrong .null rest
    else if c = 't' then
      match word "rue".toList tail with
      | .error f => f
      | .ok rest => wrong (.boolean true) rest
    else if c = 'f' then
      match word "alse".toList tail with
      | .error f => f
      | .ok rest => wrong (.boolean false) rest
    else if c = '-' then
      match readNumber true tail with
      | .error f => f
      | .ok (n, rest) => wrong n.found rest
    else if c.isDigit then
      match readNumber false cs with
      | .error f => f
      | .ok (n, rest) => wrong n.found rest
    else if c = '"' then
      match readChars tail with
      | .error f => f
      | .ok (s, rest) => wrong (.string s) rest
    else if c = '[' then wrong .sequence cs
    else if c = '\x7b' then wrong .map cs
    else .within .expectedValue cs

/-- Reads a string. -/
def string : Reader String := fun cs =>
  match skipSpace cs with
  | '"' :: rest =>
    match readChars rest with
    | .error f => .error f
    | .ok (s, rest) => .ok (String.ofList s, rest)
  | cs => .error (wrongKind "a string" cs)

/-- Reads a truth value. -/
def boolean : Reader Bool := fun cs =>
  match skipSpace cs with
  | 't' :: rest => (word "rue".toList rest).map fun rest => (true, rest)
  | 'f' :: rest => (word "alse".toList rest).map fun rest => (false, rest)
  | cs => .error (wrongKind "a boolean" cs)

/-- Reads a natural number below `bound`; `kind` names the type in messages. -/
def natural (kind : String) (bound : Nat) : Reader Nat := fun cs =>
  let accept (r : Except Fault (Number × List Char)) : Except Fault (Nat × List Char) :=
    match r with
    | .error f => .error f
    | .ok (.natural n, rest) =>
      if n < bound then .ok (n, rest) else .error (.before (.invalidValue n kind) rest)
    | .ok (.negative n, rest) => .error (.before (.invalidValue (-(n : Int)) kind) rest)
    | .ok (.float v, rest) => .error (.before (.invalidType (.float v) kind) rest)
  match skipSpace cs with
  | '-' :: rest => accept (readNumber true rest)
  | cs =>
    match cs with
    | c :: _ => if c.isDigit then accept (readNumber false cs) else .error (wrongKind kind cs)
    | [] => .error (wrongKind kind [])

/-- Reads a word of 64 bits. -/
def word64 : Reader UInt64 := fun cs =>
  (natural "usize" 18446744073709551616 cs).map fun (n, rest) => (UInt64.ofNat n, rest)

/-- Reads a word of 32 bits. -/
def word32 : Reader UInt32 := fun cs =>
  (natural "u32" 4294967296 cs).map fun (n, rest) => (UInt32.ofNat n, rest)

/-- Goes to the next item of a list: `none` if the list ends here, and the text in front of the item
if it does not. Before an item that is not the first there is a comma. -/
def nextItem (first : Bool) (cs : List Char) : Except Fault (Option (List Char)) :=
  match skipSpace cs with
  | [] => .error (.within .endInList [])
  | c :: rest =>
    if c = ']' then .ok none
    else if first then .ok (some (c :: rest))
    else if c = ',' then
      match skipSpace rest with
      | [] => .error (.within .endInValue [])
      | ']' :: rest => .error (.within .trailingComma (']' :: rest))
      | rest => .ok (some rest)
    else .error (.within .expectedListComma (c :: rest))

/-- Closes a list of which all items have been read. -/
def closeList (cs : List Char) : Except Fault (List Char) :=
  match skipSpace cs with
  | [] => .error (.within .endInList [])
  | ']' :: rest => .ok rest
  | ',' :: rest =>
    match skipSpace rest with
    | ']' :: rest => .error (.within .trailingComma (']' :: rest))
    | rest => .error (.within .trailingCharacters rest)
  | cs => .error (.within .trailingCharacters cs)

/-- Reads the items of a list and its end. Every item takes at least one character, so `fuel`
characters of text are enough steps. -/
def items {α : Type} (item : Reader α) : Nat → Bool → Reader (List α)
  | 0, _, cs => .error (.within .endInList cs)
  | fuel + 1, first, cs =>
    match nextItem first cs with
    | .error f => .error f
    | .ok none => (closeList cs).map fun rest => ([], rest)
    | .ok (some cs) =>
      match item cs with
      | .error f => .error f
      | .ok (a, rest) =>
        match items item fuel false rest with
        | .error f => .error f
        | .ok (as, rest) => .ok (a :: as, rest)

/-- Reads a list. -/
def list {α : Type} (item : Reader α) : Reader (List α) := fun cs =>
  match skipSpace cs with
  | '[' :: rest => items item (rest.length + 1) true rest
  | cs => .error (wrongKind "a sequence" cs)

/-- Passes over the colon after a key. -/
def colon (cs : List Char) : Except Fault (List Char) :=
  match skipSpace cs with
  | [] => .error (.within .endInObject [])
  | ':' :: rest => .ok rest
  | cs => .error (.within .expectedColon cs)

/-- The choice with a name, or the fault that the name is; the name ends before `rest`. -/
def choose {α : Type} (choices : List (String × α)) (name : String) (rest : List Char) :
    Except Fault α :=
  match choices.lookup name with
  | some a => .ok a
  | none => .error (.before (.unknownVariant name (choices.map (·.1))) rest)

/-- Reads the word `null`. -/
def null (cs : List Char) : Except Fault (List Char) :=
  match skipSpace cs with
  | 'n' :: rest => word "ull".toList rest
  | cs => .error (wrongKind "unit" cs)

/-- Reads a name of a fixed choice, as a string or as the key of an object that holds `null`. -/
def choice {α : Type} (choices : List (String × α)) : Reader α := fun cs =>
  match skipSpace cs with
  | [] => .error (.within .endInValue [])
  | '"' :: rest =>
    match readChars rest with
    | .error f => .error f
    | .ok (name, rest) => (choose choices (String.ofList name) rest).map fun a => (a, rest)
  | '\x7b' :: rest =>
    match skipSpace rest with
    | [] => .error (.within .endInObject [])
    | '\x7d' :: rest => .error (.within .expectedValue ('\x7d' :: rest))
    | '"' :: rest => do
      let (name, rest) ← readChars rest
      let a ← choose choices (String.ofList name) rest
      let rest ← colon rest
      let rest ← null rest
      match skipSpace rest with
      | [] => .error (.before .endInObject [])
      | '\x7d' :: rest => .ok (a, rest)
      | rest => .error (.before .expectedValue rest)
    | rest => .error (.within .keyNotString rest)
  | cs => .error (.within .expectedValue cs)

/-- Reads `null` or a value. -/
def optional {α : Type} (item : Reader α) : Reader (Option α) := fun cs =>
  match skipSpace cs with
  | 'n' :: rest => (word "ull".toList rest).map fun rest => (none, rest)
  | cs => (item cs).map fun (a, rest) => (some a, rest)

/-- A field of a record. -/
structure Field (ρ : Type) where
  /-- Its name. -/
  key : String
  /-- Whether it must be there. -/
  required : Bool
  /-- Reads its value and tells how to put it into a record. -/
  read : Reader (ρ → ρ)

/-- The field whose value is read by `item` and put into a record by `set`. -/
def field {ρ α : Type} (key : String) (required : Bool) (item : Reader α) (set : ρ → α → ρ) :
    Field ρ where
  key := key
  required := required
  read := fun cs => (item cs).map fun (a, rest) => (fun r => set r a, rest)

/-- A kind of record. -/
structure Record (ρ : Type) where
  /-- The name of the kind, for messages. -/
  name : String
  /-- Its fields in order. -/
  fields : List (Field ρ)
  /-- A record in which every field has its default. -/
  blank : ρ
  /-- Whether unknown fields are refused; otherwise they are passed over. -/
  strict : Bool := false

/-- Where a reader notices that an object cannot be right: behind the white space that follows, and
behind the closing brace if there is one. -/
def afterClosing (cs : List Char) : List Char :=
  match skipSpace cs with
  | '\x7d' :: rest => rest
  | cs => cs

/-- Goes to the next key of an object: `none` if the object ends here, and the text behind the
key's opening quote if it does not. -/
def nextKey (first : Bool) (cs : List Char) : Except Fault (Option (List Char)) :=
  match skipSpace cs with
  | [] => .error (.within .endInObject [])
  | c :: rest =>
    if c = '\x7d' then .ok none
    else if first then
      if c = '"' then .ok (some rest) else .error (.within .keyNotString (c :: rest))
    else if c = ',' then
      match skipSpace rest with
      | [] => .error (.within .endInValue [])
      | '"' :: rest => .ok (some rest)
      | '\x7d' :: rest => .error (.within .trailingComma ('\x7d' :: rest))
      | rest => .error (.within .keyNotString rest)
    else .error (.within .expectedObjectComma (c :: rest))

namespace Record

variable {ρ : Type}

/-- The first required field that is not among those seen. -/
def missing? (k : Record ρ) (seen : List String) : Option String :=
  (k.fields.find? fun f => f.required && !seen.contains f.key).map (·.key)

/-- Reads the fields of an object and its end. Every field takes at least one character, so `fuel`
characters of text are enough steps. -/
def readFields (k : Record ρ) : Nat → List String → ρ → Reader ρ
  | 0, _, _, cs => .error (.within .endInObject cs)
  | fuel + 1, seen, r, cs =>
    match nextKey seen.isEmpty cs with
    | .error f => .error f
    | .ok none =>
      match k.missing? seen with
      | some key => .error (.before (.missingField key) (afterClosing cs))
      | none => .ok (r, afterClosing cs)
    | .ok (some cs) =>
      match readChars cs with
      | .error f => .error f
      | .ok (name, rest) =>
        let key := String.ofList name
        match k.fields.find? (·.key == key) with
        | some f =>
          if seen.contains key then
            .error (.before (.duplicateField key) (afterClosing rest))
          else
            match colon rest with
            | .error f => .error f
            | .ok rest =>
              match f.read rest with
              | .error f => .error f
              | .ok (put, rest) => k.readFields fuel (key :: seen) (put r) rest
        | none =>
          if k.strict then
            .error (.before (.unknownField key (k.fields.map (·.key))) (afterClosing rest))
          else
            match colon rest with
            | .error f => .error f
            | .ok rest =>
              match skipValue rest with
              | .error f => .error f
              | .ok rest => k.readFields fuel (key :: seen) r rest

/-- Reads the fields of a list from the `n`-th on, and its end. -/
def readItems (k : Record ρ) : Nat → List (Field ρ) → ρ → Reader ρ
  | _, [], r, cs => (closeList cs).map fun rest => (r, rest)
  | n, f :: fields, r, cs =>
    match nextItem (n == 0) cs with
    | .error f => .error f
    | .ok none =>
      match (f :: fields).findIdx? (·.required) with
      | some i =>
        let expected := "struct " ++ k.name ++ " with " ++ Decimal.numeral k.fields.length ++
          " elements"
        match closeList cs with
        | .error f => .error f
        | .ok rest => .error (.before (.invalidLength (n + i) expected) rest)
      | none => (closeList cs).map fun rest => (r, rest)
    | .ok (some cs) =>
      match f.read cs with
      | .error f => .error f
      | .ok (put, rest) => k.readItems (n + 1) fields (put r) rest

/-- Reads a record. -/
def read (k : Record ρ) : Reader ρ := fun cs =>
  match skipSpace cs with
  | '\x7b' :: rest => k.readFields (rest.length + 1) [] k.blank rest
  | '[' :: rest => k.readItems 0 k.fields k.blank rest
  | cs => .error (wrongKind ("struct " ++ k.name) cs)

end Record

end KernelGen.Manifest
