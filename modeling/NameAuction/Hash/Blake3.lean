import NameAuction.Hash.Block
import NameAuction.Id

/-!
# BLAKE3

The unkeyed digest of thirty-two bytes.  The input is cut into chunks of 1024 bytes, each chunk is a
chain of blocks, and the chunks are the leaves of a binary tree whose inner nodes join two chaining
values.  `Node` is a last compression that has not been run yet: run plainly it gives the chaining value
that the parent takes, and run as the root it gives the digest.
-/

namespace NameAuction.Hash.Blake3

/-- Four words side by side; the compression works on four such rows at once. -/
structure Row where
  x : UInt32
  y : UInt32
  z : UInt32
  w : UInt32

namespace Row

def map₂ (f : UInt32 → UInt32 → UInt32) (r s : Row) : Row :=
  ⟨f r.x s.x, f r.y s.y, f r.z s.z, f r.w s.w⟩

def map (f : UInt32 → UInt32) (r : Row) : Row := ⟨f r.x, f r.y, f r.z, f r.w⟩

def add : Row → Row → Row := map₂ (· + ·)

def xor : Row → Row → Row := map₂ (· ^^^ ·)

/-- The row turned left by one place. -/
def turn (r : Row) : Row := ⟨r.y, r.z, r.w, r.x⟩

def toList (r : Row) : List UInt32 := [r.x, r.y, r.z, r.w]

end Row

/-- The sixteen words of the working state, and of a message block. -/
structure Square where
  a : Row
  b : Row
  c : Row
  d : Row

structure ChainingValue where
  low : Row
  high : Row

def ChainingValue.initial : ChainingValue where
  low := ⟨0x6A09E667, 0xBB67AE85, 0x3C6EF372, 0xA54FF53A⟩
  high := ⟨0x510E527F, 0x9B05688C, 0x1F83D9AB, 0x5BE0CD19⟩

/-- A step on all four columns: `m` and `n` hold the message words of the first and second half. -/
def mix (s : Square) (m n : Row) : Square :=
  let a := (s.a.add s.b).add m
  let d := (s.d.xor a).map (rotateRight · 16)
  let c := s.c.add d
  let b := (s.b.xor c).map (rotateRight · 12)
  let a := (a.add b).add n
  let d := (d.xor a).map (rotateRight · 8)
  let c := c.add d
  let b := (b.xor c).map (rotateRight · 7)
  ⟨a, b, c, d⟩

/-- A round mixes the columns and then the diagonals. -/
def round (s : Square) (m : Square) : Square :=
  let s := mix s ⟨m.a.x, m.a.z, m.b.x, m.b.z⟩ ⟨m.a.y, m.a.w, m.b.y, m.b.w⟩
  let s := ⟨s.a, s.b.turn, s.c.turn.turn, s.d.turn.turn.turn⟩
  let s := mix s ⟨m.c.x, m.c.z, m.d.x, m.d.z⟩ ⟨m.c.y, m.c.w, m.d.y, m.d.w⟩
  ⟨s.a, s.b.turn.turn.turn, s.c.turn.turn, s.d.turn⟩

/-- The order in which the next round takes the message words. -/
def permute (m : Square) : Square where
  a := ⟨m.a.z, m.b.z, m.a.w, m.c.z⟩
  b := ⟨m.b.w, m.a.x, m.b.x, m.d.y⟩
  c := ⟨m.a.y, m.c.w, m.d.x, m.b.y⟩
  d := ⟨m.c.y, m.d.z, m.d.w, m.c.x⟩

def rounds : (count : Nat) → Square → Square → Square
  | 0, s, _ => s
  | count + 1, s, m => rounds count (round s m) (permute m)

def rowOf (words : List UInt32) (start : Nat) : Row :=
  let word (i : Nat) := words[start + i]?.getD 0
  ⟨word 0, word 1, word 2, word 3⟩

/-- The message words of a block of at most sixty-four bytes. -/
def messageOf (block : Bytes) : Square :=
  let words := littleEndianWords (padRight 64 block)
  ⟨rowOf words 0, rowOf words 4, rowOf words 8, rowOf words 12⟩

/-! ### Flags of a compression -/

def chunkStart : UInt32 := 1

def chunkEnd : UInt32 := 2

def parentNode : UInt32 := 4

def rootNode : UInt32 := 8

/-- A compression with everything but the root flag settled. -/
structure Node where
  input : ChainingValue
  message : Square
  counter : UInt64
  length : UInt32
  flags : UInt32

def Node.run (node : Node) (further : UInt32) : ChainingValue :=
  let iv := ChainingValue.initial
  let start : Square :=
    ⟨node.input.low, node.input.high, iv.low,
      ⟨node.counter.toUInt32, (node.counter >>> 32).toUInt32, node.length, node.flags ||| further⟩⟩
  let s := rounds 7 start node.message
  ⟨s.a.xor s.c, s.b.xor s.d⟩

def Node.chainingValue (node : Node) : ChainingValue := node.run 0

def Node.digest (node : Node) : Bytes :=
  let out := node.run rootNode
  (out.low.toList ++ out.high.toList).flatMap fun word => Bytes.littleEndian 4 word.toNat

/-- The last compression of a chunk whose remaining blocks are `block :: blocks`. -/
def chunkBlocks (counter : UInt64) (input : ChainingValue) (flags : UInt32) :
    Bytes → List Bytes → Node
  | block, [] => ⟨input, messageOf block, counter, block.length.toUInt32, flags ||| chunkEnd⟩
  | block, next :: blocks =>
    let node : Node := ⟨input, messageOf block, counter, block.length.toUInt32, flags⟩
    chunkBlocks counter node.chainingValue 0 next blocks

/-- The last compression of a chunk of at most 1024 bytes. -/
def chunk (counter : UInt64) (bytes : Bytes) : Node :=
  match piecesOf 64 bytes with
  | [] => chunkBlocks counter .initial chunkStart [] []
  | block :: blocks => chunkBlocks counter .initial chunkStart block blocks

def parent (left right : Node) : Node :=
  let l := left.chainingValue
  let r := right.chainingValue
  ⟨.initial, ⟨l.low, l.high, r.low, r.high⟩, 0, 64, parentNode⟩

def joinPairs : List Node → List Node
  | left :: right :: rest => parent left right :: joinPairs rest
  | rest => rest

/-- Joins neighbours until one node is left; `depth` bounds the height of the tree. -/
def joinAll : (depth : Nat) → List Node → Option Node
  | 0, nodes => nodes.head?
  | depth + 1, nodes =>
    match nodes with
    | [root] => some root
    | nodes => joinAll depth (joinPairs nodes)

def chunks (bytes : Bytes) : List Node :=
  (piecesOf 1024 bytes).mapIdx fun i piece => chunk i.toUInt64 piece

/-- The root of the tree over the whole input; the empty input is one empty chunk. -/
def root (bytes : Bytes) : Node :=
  (joinAll bytes.length (chunks bytes)).getD (chunk 0 [])

def hash (bytes : Bytes) : Digest :=
  ⟨(root bytes).digest, by simp [Node.digest, Row.toList]⟩

end NameAuction.Hash.Blake3
