/-!
# UTF-8

The bytes of a text, and the text of a run of bytes. `bytes` is the encoding and `byteLength` its
length. `decode?` reads well-formed bytes only; `decodeLossy` reads any bytes and puts U+FFFD for
each maximal part of a sequence that cannot be continued.
-/

namespace KernelGen.Text

/-- How many bytes the encoding of a text takes. -/
def byteLength : List Char → Nat
  | [] => 0
  | c :: cs => c.utf8Size + byteLength cs

/-- The encoding of one character. -/
def charBytes (c : Char) : List UInt8 :=
  let n := c.toNat
  let tail (k : Nat) : UInt8 := (0x80 + n / Nat.pow 64 k % 64).toUInt8
  if n < 0x80 then [n.toUInt8]
  else if n < 0x800 then [(0xC0 + n / 64).toUInt8, tail 0]
  else if n < 0x10000 then [(0xE0 + n / 4096).toUInt8, tail 1, tail 0]
  else [(0xF0 + n / 262144).toUInt8, tail 2, tail 1, tail 0]

/-- The encoding of a text. -/
def bytes (cs : List Char) : List UInt8 :=
  cs.flatMap charBytes

/-- What the first byte of a sequence announces. -/
inductive Lead where
  /-- A character of one byte. -/
  | single
  /-- A sequence with `tails` further bytes, the next of them between `low` and `high`; the bits of
  the first byte give `value`. -/
  | multi (value tails low high : Nat)
  /-- No sequence begins with this byte. -/
  | invalid

/-- The sequence that a first byte announces. -/
def Lead.of (b : Nat) : Lead :=
  if b < 0x80 then .single
  else if b < 0xC2 then .invalid
  else if b < 0xE0 then .multi (b - 0xC0) 1 0x80 0xBF
  else if b = 0xE0 then .multi 0 2 0xA0 0xBF
  else if b = 0xED then .multi 0xD 2 0x80 0x9F
  else if b < 0xF0 then .multi (b - 0xE0) 2 0x80 0xBF
  else if b = 0xF0 then .multi 0 3 0x90 0xBF
  else if b < 0xF4 then .multi (b - 0xF0) 3 0x80 0xBF
  else if b = 0xF4 then .multi 4 3 0x80 0x8F
  else .invalid

/-- Where a reader of bytes stands: between characters, or inside a sequence. -/
inductive Progress where
  /-- Between characters. -/
  | start
  /-- `tails` bytes are still due, the next of them between `low` and `high`. -/
  | inside (value tails low high : Nat)

/-- The character for a part of the input that is no character. -/
def replacement : Char := Char.ofNat 0xFFFD

/-- The outcome of reading one byte: the characters it completes, where `none` stands for a
malformed part, and the state after it. -/
def Progress.step (p : Progress) (byte : UInt8) : List (Option Char) × Progress :=
  let b := byte.toNat
  let fresh : List (Option Char) × Progress :=
    match Lead.of b with
    | .single => ([some (Char.ofNat b)], .start)
    | .multi value tails low high => ([], .inside value tails low high)
    | .invalid => ([none], .start)
  match p with
  | .start => fresh
  | .inside value tails low high =>
    if low ≤ b ∧ b ≤ high then
      let value := value * 64 + b % 64
      if tails ≤ 1 then ([some (Char.ofNat value)], .start)
      else ([], .inside value (tails - 1) 0x80 0xBF)
    else (none :: fresh.1, fresh.2)

/-- The characters of a run of bytes, `none` standing for each malformed part. -/
def decodeFrom : Progress → List UInt8 → List (Option Char)
  | .start, [] => []
  | .inside .., [] => [none]
  | p, b :: bs =>
    let (out, p) := p.step b
    out ++ decodeFrom p bs

/-- The text that some bytes encode, if they are well formed. -/
def decode? (bs : List UInt8) : Option (List Char) :=
  (decodeFrom .start bs).mapM id

/-- The text of any bytes, with U+FFFD for each malformed part. -/
def decodeLossy (bs : List UInt8) : List Char :=
  (decodeFrom .start bs).map (·.getD replacement)

end KernelGen.Text
