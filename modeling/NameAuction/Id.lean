import NameAuction.Hex

/-!
# Identifiers

Names, sealed bids and accounts are all known by twenty bytes.  One type serves the three kinds, so a
commitment can never be taken for a name; what differs is how a wrong length is reported and what the
identifier is called.  Digests of thirty-two bytes share the underlying type of blocks.
-/

namespace NameAuction

/-- A byte string of a fixed length. -/
structure Block (size : Nat) where
  bytes : Bytes
  length_bytes : bytes.length = size
deriving DecidableEq

namespace Block

variable {size : Nat}

def ofBytes? (bytes : Bytes) : Option (Block size) :=
  if h : bytes.length = size then some ⟨bytes, h⟩ else none

def zero : Block size := ⟨List.replicate size 0, List.length_replicate⟩

instance : Inhabited (Block size) := ⟨zero⟩

def toHex (block : Block size) : String := Hex.encode block.bytes

theorem bytes_injective {a b : Block size} (h : a.bytes = b.bytes) : a = b := by
  cases a; cases b; simp_all

end Block

abbrev Digest := Block 32

/-- What an identifier stands for. -/
inductive IdKind
  | name
  | commitment
  | account
deriving DecidableEq

inductive IdFault
  | hex (fault : HexFault)
  | length (kind : IdKind) (given : Nat)
deriving DecidableEq

/-- The twenty bytes by which a name, a sealed bid or an account is known. -/
structure Id (kind : IdKind) extends Block 20
deriving DecidableEq

/-- The digest of a second-level name, or of a child label. -/
abbrev NameId := Id .name

/-- The digest that hides a bid until it is revealed. -/
abbrev Commitment := Id .commitment

abbrev Account := Id .account

namespace Id

variable {kind : IdKind}

def ofBytes {kind : IdKind} (bytes : Bytes) : Except IdFault (Id kind) :=
  match Block.ofBytes? bytes with
  | some block => .ok ⟨block⟩
  | none => .error (.length kind bytes.length)

def ofHex {kind : IdKind} (text : String) : Except IdFault (Id kind) :=
  match Hex.decode text with
  | .ok bytes => ofBytes bytes
  | .error fault => .error (.hex fault)

def zero : Id kind := ⟨Block.zero⟩

instance : Inhabited (Id kind) := ⟨zero⟩

def toHex (id : Id kind) : String := id.toBlock.toHex

instance : ToString (Id kind) := ⟨toHex⟩

/-- The identifier with the title of its kind, as listings for a reader show it. -/
def inspect : {kind : IdKind} → Id kind → String
  | .name, id => "NameHash(" ++ id.toHex ++ ")"
  | .commitment, id => "BidHash(" ++ id.toHex ++ ")"
  | .account, id => "Address(" ++ id.toHex ++ ")"

theorem bytes_injective {a b : Id kind} (h : a.bytes = b.bytes) : a = b := by
  obtain ⟨a⟩ := a
  obtain ⟨b⟩ := b
  exact congrArg Id.mk (Block.bytes_injective h)

/-! ### Order

Identifiers are ordered as their bytes are. -/

instance : Ord (Id kind) := ⟨compareOn (·.bytes)⟩

instance : Std.TransOrd (Id kind) :=
  inferInstanceAs (Std.TransCmp (compareOn fun id : Id kind => id.bytes))

instance : Std.LawfulEqOrd (Id kind) where
  eq_of_compare h := bytes_injective (Std.LawfulEqOrd.eq_of_compare h)

end Id

end NameAuction
