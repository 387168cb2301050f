/-!
# Spans

A span marks a range of bytes in one of the source texts. The dummy span marks nothing.
-/

namespace KernelGen

/-- A range of bytes in a source text. -/
structure Span where
  /-- The number of the text. -/
  fileId : UInt16 := 0
  /-- The first byte. -/
  start : UInt32 := 0
  /-- The byte after the last. -/
  stop : UInt32 := 0
  deriving DecidableEq, Repr

namespace Span

/-- The span that marks nothing. -/
def dummy : Span := {}

/-- The number of bytes in a span. -/
def length (s : Span) : Nat :=
  s.stop.toNat - s.start.toNat

/-- Whether a span has no bytes. -/
def isEmpty (s : Span) : Bool :=
  s.length == 0

/-- The span of `length` bytes that begins at a byte index of the first text. -/
def starting (start length : Nat) : Span :=
  ⟨0, UInt32.ofNat start, UInt32.ofNat (start + length)⟩

end Span

end KernelGen
