/-!
# BLAKE3

The 256-bit BLAKE3 digest of a list of bytes. The input is cut into chunks of 1024 bytes and a chunk
into blocks of 64; the chaining values of the chunks are the leaves of a binary tree in which every
left subtree is a full one. The digest is the output of the root.
-/

namespace KernelGen.Blake3

/-- The initial chaining value. -/
def iv : Array UInt32 :=
  #[0x6A09E667, 0xBB67AE85, 0x3C6EF372, 0xA54FF53A, 0x510E527F, 0x9B05688C, 0x1F83D9AB, 0x5BE0CD19]

/-- The order in which the message words of one round are taken in the next. -/
def schedule : Array Nat :=
  #[2, 6, 3, 10, 7, 0, 4, 13, 1, 11, 12, 5, 9, 14, 15, 8]

/-- The flag of a chunk's first block. -/
def chunkStart : UInt32 := 1

/-- The flag of a chunk's last block. -/
def chunkEnd : UInt32 := 2

/-- The flag of an inner node of the tree. -/
def parentNode : UInt32 := 4

/-- The flag of the root. -/
def rootNode : UInt32 := 8

/-- A word rotated to the right. -/
def rotateRight (x : UInt32) (k : UInt32) : UInt32 :=
  (x >>> k) ||| (x <<< (32 - k))

/-- Mixes two message words into the four state words of a column or diagonal. -/
def mix (s : Array UInt32) (a b c d : Nat) (x y : UInt32) : Array UInt32 :=
  let va := s.getD a 0 + s.getD b 0 + x
  let vd := rotateRight (s.getD d 0 ^^^ va) 16
  let vc := s.getD c 0 + vd
  let vb := rotateRight (s.getD b 0 ^^^ vc) 12
  let va := va + vb + y
  let vd := rotateRight (vd ^^^ va) 8
  let vc := vc + vd
  let vb := rotateRight (vb ^^^ vc) 7
  (((s.setIfInBounds a va).setIfInBounds b vb).setIfInBounds c vc).setIfInBounds d vd

/-- The columns and diagonals of the state. -/
def quarters : List (Nat × Nat × Nat × Nat) :=
  [(0, 4, 8, 12), (1, 5, 9, 13), (2, 6, 10, 14), (3, 7, 11, 15),
    (0, 5, 10, 15), (1, 6, 11, 12), (2, 7, 8, 13), (3, 4, 9, 14)]

/-- One round: the message words are mixed in pairs into the columns and then the diagonals. -/
def round (s m : Array UInt32) : Array UInt32 :=
  quarters.zipIdx.foldl
    (fun s ((a, b, c, d), k) => mix s a b c d (m.getD (2 * k) 0) (m.getD (2 * k + 1) 0)) s

/-- Some rounds, the message words being rearranged between them. -/
def rounds : Nat → Array UInt32 → Array UInt32 → Array UInt32
  | 0, s, _ => s
  | k + 1, s, m => rounds k (round s m) (schedule.map fun i => m.getD i 0)

/-- What is left of a node of the tree to be compressed. -/
structure Node where
  /-- The chaining value before its last block. -/
  chaining : Array UInt32
  /-- The words of its last block. -/
  block : Array UInt32
  /-- The number of its chunk. -/
  counter : Nat
  /-- The number of bytes in its last block. -/
  length : Nat
  /-- What kind of block it is. -/
  flags : UInt32

/-- The first eight words that come out of a compression. -/
def Node.compress (n : Node) : Array UInt32 :=
  let start := n.chaining ++ iv.extract 0 4 ++
    #[n.counter.toUInt32, (n.counter / 4294967296).toUInt32, n.length.toUInt32, n.flags]
  let out := rounds 7 start n.block
  (Array.range 8).map fun k => out.getD k 0 ^^^ out.getD (k + 8) 0

/-- The words of some bytes, the least significant byte first, as many as are asked for; missing
bytes count as zero. -/
def words : Nat → List UInt8 → List UInt32
  | 0, _ => []
  | k + 1, bs =>
    let b (i : Nat) : UInt32 := (bs.getD i 0).toUInt32
    (b 0 ||| b 1 <<< 8 ||| b 2 <<< 16 ||| b 3 <<< 24) :: words k (bs.drop 4)

/-- The bytes of a word, the least significant first. -/
def wordBytes (w : UInt32) : List UInt8 :=
  [w.toUInt8, (w >>> 8).toUInt8, (w >>> 16).toUInt8, (w >>> 24).toUInt8]

/-- The pieces of some bytes of at most `size` bytes each; the first piece is there even if it is
empty, and `count` bounds the number of the others. -/
def pieces (size : Nat) : Nat → List UInt8 → List (List UInt8)
  | 0, bs => [bs]
  | count + 1, bs =>
    if bs.length ≤ size then [bs] else bs.take size :: pieces size count (bs.drop size)

/-- Works off the blocks of a chunk and leaves the last one to be compressed. -/
def chunkBlocks (counter : Nat) (chaining : Array UInt32) (flags : UInt32) :
    List (List UInt8) → Node
  | [] => ⟨chaining, (words 16 []).toArray, counter, 0, flags ||| chunkEnd⟩
  | [last] => ⟨chaining, (words 16 last).toArray, counter, last.length, flags ||| chunkEnd⟩
  | block :: blocks =>
    let node : Node := ⟨chaining, (words 16 block).toArray, counter, 64, flags⟩
    chunkBlocks counter node.compress 0 blocks

/-- The leaf of a chunk. -/
def chunk (counter : Nat) (bs : List UInt8) : Node :=
  chunkBlocks counter iv chunkStart (pieces 64 16 bs)

/-- The inner node above two others. -/
def parent (left right : Node) : Node :=
  ⟨iv, left.compress ++ right.compress, 0, 64, parentNode⟩

/-- The greatest power of two below `n`, for `n` above one, starting from the power `p`; `fuel`
bounds the number of doublings. -/
def powerBelow : Nat → Nat → Nat → Nat
  | 0, p, _ => p
  | fuel + 1, p, n => if 2 * p < n then powerBelow fuel (2 * p) n else p

/-- The tree over some leaves; `depth` bounds its height. -/
def tree : Nat → List Node → Option Node
  | _, [] => none
  | _, [leaf] => some leaf
  | 0, leaf :: _ => some leaf
  | depth + 1, leaves =>
    let k := powerBelow leaves.length 1 leaves.length
    match tree depth (leaves.take k), tree depth (leaves.drop k) with
    | some l, some r => some (parent l r)
    | l, _ => l

/-- The digest of some bytes. -/
def hash (bs : List UInt8) : List UInt8 :=
  let leaves := (pieces 1024 bs.length bs).zipIdx.map fun (c, k) => chunk k c
  match tree leaves.length leaves with
  | none => []
  | some root => ({ root with flags := root.flags ||| rootNode }.compress).toList.flatMap wordBytes

end KernelGen.Blake3
