import NameAuction.Bundle
import NameAuction.Id
import NameAuction.Name

/-!
# Values as bytes

`Layout` says how a type is written as bytes and read back from the start of a byte string.  Words have
their fixed width, lowest byte first; a text or list has its length in eight bytes before it; an
alternative has its number in four bytes before it; an optional value has a byte that says whether it
comes; and the fields of a record follow one another.  What follows a value is not looked at.
-/

namespace NameAuction

/-- Reads a value from the start of a byte string and leaves the rest. -/
abbrev Reader (α : Type) := StateT Bytes Option α

/-- The bytes of a value, and its reading. -/
class Layout (α : Type) where
  write : α → Bytes
  read : Reader α

namespace Layout

def take (count : Nat) : Reader Bytes := fun bytes =>
  if count ≤ bytes.length then some (bytes.take count, bytes.drop count) else none

def refuse {α : Type} : Reader α := fun _ => none

/-- A value that may be missing, as the outcome of reading. -/
def accept {α : Type} (value : Option α) : Reader α := fun bytes => value.map (·, bytes)

/-- Reads the start of a byte string; what follows the value is ignored. -/
def ofBytes? {α : Type} [Layout α] (bytes : Bytes) : Option α := (read.run bytes).map (·.1)

def writeNat (width n : Nat) : Bytes := Bytes.littleEndian width n

def readNat (width : Nat) : Reader Nat := Bytes.ofLittleEndian <$> take width

def writeTag (n : Nat) : Bytes := writeNat 4 n

def readTag : Reader Nat := readNat 4

def writeLength (n : Nat) : Bytes := writeNat 8 n

def readLength : Reader Nat := readNat 8

def readMany {α : Type} [Layout α] : (count : Nat) → Reader (List α)
  | 0 => pure []
  | count + 1 => do
    let value ← read
    let rest ← readMany count
    pure (value :: rest)

/-- The layout of a type that is another one in different clothes. -/
abbrev via {α β : Type} [Layout β] (toFields : α → β) (ofFields : β → α) : Layout α where
  write value := write (toFields value)
  read := ofFields <$> read

end Layout

open Layout

instance {size : Nat} : Layout (Word size) where
  write word := writeNat size word.toNat
  read := do accept (Word.ofNat? (← readNat size))

instance : Layout Bool where
  write flag := [if flag then 1 else 0]
  read := do
    match ← take 1 with
    | [0] => pure false
    | [1] => pure true
    | _ => refuse

instance : Layout String where
  write text := writeLength (Bytes.ofText text).length ++ Bytes.ofText text
  read := do
    let length ← readLength
    accept (Bytes.text? (← take length))

instance {α : Type} [Layout α] : Layout (List α) where
  write values := writeLength values.length ++ values.flatMap write
  read := do readMany (← readLength)

instance {α : Type} [Layout α] : Layout (Option α) where
  write
    | none => [0]
    | some value => 1 :: write value
  read := do
    match ← take 1 with
    | [0] => pure none
    | [1] => some <$> read
    | _ => refuse

instance {α β : Type} [Layout α] [Layout β] : Layout (α × β) where
  write pair := write pair.1 ++ write pair.2
  read := do
    let first ← read
    let second ← read
    pure (first, second)

instance {size : Nat} : Layout (Block size) where
  write block := block.bytes
  read := do accept (Block.ofBytes? (← take size))

instance {kind : IdKind} : Layout (Id kind) := via Id.toBlock Id.mk

instance : Layout Name := via Name.text Name.mk

instance : Layout Coin := via (fun coin => (coin.denom, coin.amount)) fun (denom, amount) =>
  ⟨denom, amount⟩

/-- Like a document, bytes cannot smuggle in a list of coins that is no bundle. -/
instance : Layout Bundle where
  write bundle := write bundle.coins
  read := do accept (Bundle.ofCoins (← read)).toOption

end NameAuction
