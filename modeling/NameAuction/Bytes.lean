/-!
# Bytes

A byte string is a `List UInt8`, ordered as a dictionary is: byte by byte, a string before its own
extensions.  The two writings of a number in a fixed count of bytes are here, with the readings that
undo them, and the bytes of a text.
-/

namespace NameAuction

abbrev Bytes := List UInt8

namespace Bytes

/-! ### Numbers in a fixed count of bytes -/

/-- The last `width` base-256 digits of a number, highest first. -/
def bigEndian : (width : Nat) → Nat → Bytes
  | 0, _ => []
  | width + 1, n => UInt8.ofNat (n / Nat.pow 256 width) :: bigEndian width n

/-- The last `width` base-256 digits of a number, lowest first. -/
def littleEndian : (width : Nat) → Nat → Bytes
  | 0, _ => []
  | width + 1, n => UInt8.ofNat n :: littleEndian width (n / 256)

def ofBigEndian : Bytes → Nat
  | [] => 0
  | byte :: rest => byte.toNat * Nat.pow 256 rest.length + ofBigEndian rest

def ofLittleEndian : Bytes → Nat
  | [] => 0
  | byte :: rest => byte.toNat + 256 * ofLittleEndian rest

@[simp] theorem length_bigEndian (width n : Nat) : (bigEndian width n).length = width := by
  induction width with
  | zero => rfl
  | succ width ih => simp [bigEndian, ih]

@[simp] theorem length_littleEndian (width n : Nat) : (littleEndian width n).length = width := by
  induction width generalizing n with
  | zero => rfl
  | succ width ih => simp [littleEndian, ih]

/-! ### Texts -/

def ofText (text : String) : Bytes := text.toByteArray.data.toList

/-- Reads UTF-8; a sequence that encodes no text is refused. -/
def text? (bytes : Bytes) : Option String := String.fromUTF8? ⟨bytes.toArray⟩

end Bytes

end NameAuction
