import KernelGen.Manifest.Fault
import KernelGen.Text.Hex

/-!
# The smallest parts of a manifest

White space, the three words, and strings with their escapes.
-/

namespace KernelGen.Manifest

/-- The characters that may stand between any two parts. -/
def isSpace (c : Char) : Bool :=
  c == ' ' || c == '\t' || c == '\n' || c == '\r'

/-- A text without the white space in front. -/
def skipSpace (cs : List Char) : List Char :=
  cs.dropWhile isSpace

/-- Reads the rest of a word. -/
def word : List Char → List Char → Except Fault (List Char)
  | [], cs => .ok cs
  | _ :: _, [] => .error (.before .endInValue [])
  | w :: ws, c :: cs => if c = w then word ws cs else .error (.within .expectedIdent (c :: cs))

/-- The number that four hexadecimal digits denote. -/
def hexQuad? (a b c d : Char) : Option Nat :=
  match Text.hexValue? a, Text.hexValue? b, Text.hexValue? c, Text.hexValue? d with
  | some w, some x, some y, some z => some (((w * 16 + x) * 16 + y) * 16 + z)
  | _, _, _, _ => none

/-- Reads the four digits of an escape. Four bytes must be left, whatever they are. -/
def readHex : Reader Nat := fun cs =>
  if Text.byteLength cs < 4 then .error (.before .endInString [])
  else
    match cs with
    | a :: b :: c :: d :: rest =>
      match hexQuad? a b c d with
      | some n => .ok (n, rest)
      | none => .error ⟨.invalidEscape, Text.byteLength cs - 4⟩
    | _ => .error ⟨.invalidEscape, Text.byteLength cs - 4⟩

/-- Reads the second half of a surrogate pair, of which the first is `high`. -/
def readLowSurrogate (high : Nat) : Reader Char := fun cs =>
  match cs with
  | [] => .error (.before .endInString [])
  | '\\' :: cs =>
    match cs with
    | [] => .error (.before .endInString [])
    | 'u' :: cs =>
      match readHex cs with
      | .error f => .error f
      | .ok (low, rest) =>
        if 0xDC00 ≤ low ∧ low ≤ 0xDFFF then
          .ok (Char.ofNat (0x10000 + (high - 0xD800) * 1024 + (low - 0xDC00)), rest)
        else .error (.before .loneSurrogate rest)
    | cs => .error (.within .unfinishedPair cs)
  | cs => .error (.within .unfinishedPair cs)

/-- Reads the character of an escape with digits, after its `u`. -/
def readUnicode : Reader Char := fun cs =>
  match readHex cs with
  | .error f => .error f
  | .ok (n, rest) =>
    if 0xDC00 ≤ n ∧ n ≤ 0xDFFF then .error (.before .loneSurrogate rest)
    else if 0xD800 ≤ n ∧ n ≤ 0xDBFF then readLowSurrogate n rest
    else .ok (Char.ofNat n, rest)

/-- The character that a letter denotes after a backslash. -/
def shortEscape? (c : Char) : Option Char :=
  if c = '"' ∨ c = '\\' ∨ c = '/' then some c
  else if c = 'b' then some (Char.ofNat 8)
  else if c = 'f' then some (Char.ofNat 12)
  else if c = 'n' then some '\n'
  else if c = 'r' then some '\r'
  else if c = 't' then some '\t'
  else none

/-- Reads the character of an escape, after its backslash. -/
def readEscape : Reader Char := fun cs =>
  match cs with
  | [] => .error (.before .endInString [])
  | c :: rest =>
    match shortEscape? c with
    | some d => .ok (d, rest)
    | none => if c = 'u' then readUnicode rest else .error (.within .invalidEscape cs)

/-- Four digits are taken from the text. -/
theorem length_of_readHex {cs rest : List Char} {n : Nat} (h : readHex cs = .ok (n, rest)) :
    rest.length < cs.length := by
  unfold readHex at h
  split at h
  · cases h
  · split at h
    · split at h
      · injection h with h
        injection h with _ h
        subst h
        simp only [List.length_cons]
        omega
      · cases h
    · cases h

/-- The second half of a pair is taken from the text. -/
theorem length_of_readLowSurrogate {cs rest : List Char} {high : Nat} {c : Char}
    (h : readLowSurrogate high cs = .ok (c, rest)) : rest.length < cs.length := by
  unfold readLowSurrogate at h
  split at h
  · cases h
  · split at h
    · cases h
    · split at h
      · cases h
      · next hx =>
        split at h
        · injection h with h
          injection h with _ h
          subst h
          have := length_of_readHex hx
          simp only [List.length_cons]
          omega
        · cases h
    · cases h
  · cases h

/-- An escape by number takes something from the text. -/
theorem length_of_readUnicode {cs rest : List Char} {c : Char}
    (h : readUnicode cs = .ok (c, rest)) : rest.length < cs.length := by
  unfold readUnicode at h
  split at h
  · cases h
  · next hx =>
    have := length_of_readHex hx
    split at h
    · cases h
    · split at h
      · have := length_of_readLowSurrogate h
        omega
      · injection h with h
        injection h with _ h
        subst h
        assumption

/-- Every escape takes something from the text. -/
theorem length_of_readEscape {cs rest : List Char} {c : Char}
    (h : readEscape cs = .ok (c, rest)) : rest.length < cs.length := by
  unfold readEscape at h
  split at h
  · cases h
  · split at h
    · injection h with h
      injection h with _ h
      subst h
      exact Nat.lt_succ_self _
    · split at h
      · have := length_of_readUnicode h
        simp only [List.length_cons]
        omega
      · cases h

/-- Reads the characters of a string up to its closing quote, after its opening quote. -/
def readChars (cs : List Char) : Except Fault (List Char × List Char) :=
  match cs with
  | [] => .error (.before .endInString [])
  | c :: tail =>
    if c = '"' then .ok ([], tail)
    else if c = '\\' then
      match _h : readEscape tail with
      | .error f => .error f
      | .ok (d, rest) =>
        match readChars rest with
        | .error f => .error f
        | .ok (s, rest) => .ok (d :: s, rest)
    else if c.toNat < 0x20 then .error (.within .controlCharacter cs)
    else
      match readChars tail with
      | .error f => .error f
      | .ok (s, rest) => .ok (c :: s, rest)
termination_by cs.length
decreasing_by
  · have := length_of_readEscape _h
    simp only [List.length_cons]
    omega
  · exact Nat.lt_succ_self _

end KernelGen.Manifest
