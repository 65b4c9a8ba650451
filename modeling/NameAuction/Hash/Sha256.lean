import NameAuction.Hash.Block
import NameAuction.Id

/-!
# SHA-256

The digest of FIPS 180-4 over byte strings, and its first twenty bytes, by which names and commitments
are known.
-/

namespace NameAuction.Hash.Sha256

structure State where
  a : UInt32
  b : UInt32
  c : UInt32
  d : UInt32
  e : UInt32
  f : UInt32
  g : UInt32
  h : UInt32

def State.initial : State where
  a := 0x6a09e667
  b := 0xbb67ae85
  c := 0x3c6ef372
  d := 0xa54ff53a
  e := 0x510e527f
  f := 0x9b05688c
  g := 0x1f83d9ab
  h := 0x5be0cd19

def State.add (s t : State) : State :=
  ⟨s.a + t.a, s.b + t.b, s.c + t.c, s.d + t.d, s.e + t.e, s.f + t.f, s.g + t.g, s.h + t.h⟩

def State.toBytes (s : State) : Bytes :=
  [s.a, s.b, s.c, s.d, s.e, s.f, s.g, s.h].flatMap fun word => Bytes.bigEndian 4 word.toNat

def roundConstants : List UInt32 := [
  0x428a2f98, 0x71374491, 0xb5c0fbcf, 0xe9b5dba5, 0x3956c25b, 0x59f111f1, 0x923f82a4, 0xab1c5ed5,
  0xd807aa98, 0x12835b01, 0x243185be, 0x550c7dc3, 0x72be5d74, 0x80deb1fe, 0x9bdc06a7, 0xc19bf174,
  0xe49b69c1, 0xefbe4786, 0x0fc19dc6, 0x240ca1cc, 0x2de92c6f, 0x4a7484aa, 0x5cb0a9dc, 0x76f988da,
  0x983e5152, 0xa831c66d, 0xb00327c8, 0xbf597fc7, 0xc6e00bf3, 0xd5a79147, 0x06ca6351, 0x14292967,
  0x27b70a85, 0x2e1b2138, 0x4d2c6dfc, 0x53380d13, 0x650a7354, 0x766a0abb, 0x81c2c92e, 0x92722c85,
  0xa2bfe8a1, 0xa81a664b, 0xc24b8b70, 0xc76c51a3, 0xd192e819, 0xd6990624, 0xf40e3585, 0x106aa070,
  0x19a4c116, 0x1e376c08, 0x2748774c, 0x34b0bcb5, 0x391c0cb3, 0x4ed8aa4a, 0x5b9cca4f, 0x682e6ff3,
  0x748f82ee, 0x78a5636f, 0x84c87814, 0x8cc70208, 0x90befffa, 0xa4506ceb, 0xbef9a3f7, 0xc67178f2]

/-- Puts `count` more words before a schedule that is written latest word first. -/
def extendSchedule : (count : Nat) → List UInt32 → List UInt32
  | 0, latest => latest
  | count + 1, latest =>
    let word (i : Nat) := latest[i]?.getD 0
    let low := word 14
    let high := word 1
    let sigma0 := rotateRight low 7 ^^^ rotateRight low 18 ^^^ (low >>> 3)
    let sigma1 := rotateRight high 17 ^^^ rotateRight high 19 ^^^ (high >>> 10)
    extendSchedule count ((sigma1 + word 6 + sigma0 + word 15) :: latest)

def round (s : State) (input : UInt32 × UInt32) : State :=
  let sum1 := rotateRight s.e 6 ^^^ rotateRight s.e 11 ^^^ rotateRight s.e 25
  let choice := (s.e &&& s.f) ^^^ (~~~s.e &&& s.g)
  let first := s.h + sum1 + choice + input.1 + input.2
  let sum0 := rotateRight s.a 2 ^^^ rotateRight s.a 13 ^^^ rotateRight s.a 22
  let majority := (s.a &&& s.b) ^^^ (s.a &&& s.c) ^^^ (s.b &&& s.c)
  ⟨first + (sum0 + majority), s.a, s.b, s.c, s.d + first, s.e, s.f, s.g⟩

/-- Takes one block of sixty-four bytes into the state. -/
def compress (s : State) (block : Bytes) : State :=
  let schedule := (extendSchedule 48 (bigEndianWords block).reverse).reverse
  s.add ((roundConstants.zip schedule).foldl round s)

/-- The input with a one bit, zeros and its length in bits, a whole number of blocks. -/
def padded (bytes : Bytes) : Bytes :=
  bytes ++ 0x80 :: List.replicate ((119 - bytes.length % 64) % 64) 0
    ++ Bytes.bigEndian 8 (8 * bytes.length)

def hash (bytes : Bytes) : Bytes :=
  ((piecesOf 64 (padded bytes)).foldl compress State.initial).toBytes

theorem length_hash (bytes : Bytes) : (hash bytes).length = 32 := by
  simp [hash, State.toBytes]

end Sha256

/-- The first twenty bytes of the SHA-256 digest. -/
def shortDigest (bytes : Bytes) : Block 20 :=
  ⟨(Sha256.hash bytes).take 20, by simp [Sha256.length_hash]⟩

end NameAuction.Hash
