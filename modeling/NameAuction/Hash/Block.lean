import NameAuction.Bytes

/-!
# Blocks and words of a digest

Both digests cut their input into pieces of a fixed length, read each piece as words of thirty-two
bits, and mix the words by sums, rotations and bitwise operations.
-/

namespace NameAuction.Hash

def rotateRight (word count : UInt32) : UInt32 :=
  (word >>> count) ||| (word <<< (32 - count))

/-- The first `count` pieces of `size` bytes each; the last one may be shorter. -/
def pieces (size : Nat) : (count : Nat) → Bytes → List Bytes
  | 0, _ => []
  | count + 1, bytes => bytes.take size :: pieces size count (bytes.drop size)

def piecesOf (size : Nat) (bytes : Bytes) : List Bytes :=
  pieces size ((bytes.length + size - 1) / size) bytes

def padRight (size : Nat) (bytes : Bytes) : Bytes :=
  bytes ++ List.replicate (size - bytes.length) 0

/-- The words of a text of bytes, four bytes a word, the highest byte first. -/
def bigEndianWords : Bytes → List UInt32
  | a :: b :: c :: d :: rest =>
    ((a.toUInt32 <<< 24) ||| (b.toUInt32 <<< 16) ||| (c.toUInt32 <<< 8) ||| d.toUInt32)
      :: bigEndianWords rest
  | _ => []

/-- The words of a text of bytes, four bytes a word, the lowest byte first. -/
def littleEndianWords : Bytes → List UInt32
  | a :: b :: c :: d :: rest =>
    (a.toUInt32 ||| (b.toUInt32 <<< 8) ||| (c.toUInt32 <<< 16) ||| (d.toUInt32 <<< 24))
      :: littleEndianWords rest
  | _ => []

end NameAuction.Hash
