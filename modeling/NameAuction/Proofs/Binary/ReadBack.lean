import Mathlib.Algebra.Ring.Nat
import NameAuction.Binary.Record

/-!
# Reading back what was written

A value reads back if reading its bytes, whatever follows them, gives the value and leaves what follows.
Words, identifiers and phases always do (`Word.readsBack`, `Id.readsBack`, `Phase.readsBack`).  A text does
if its length fits in eight bytes (`Text.Fits.readsBack`), which that of every text in a memory of that
address width does, and a record does if its texts do (`Auction.Fits.readsBack`, `Bid.Fits.readsBack`,
`Registration.Fits.readsBack`).
-/

namespace NameAuction

/-! ### Numbers -/

theorem Word.lt_pow {size : Nat} (word : Word size) : word.toNat < 256 ^ size := word.toNat_lt

namespace Bytes

theorem bigEndian_succ (width n : Nat) :
    bigEndian (width + 1) n = UInt8.ofNat (n / 256 ^ width) :: bigEndian width n := rfl

theorem ofLittleEndian_littleEndian {width n : Nat} (h : n < 256 ^ width) :
    ofLittleEndian (littleEndian width n) = n := by
  induction width generalizing n with
  | zero =>
    have hn : n = 0 := by simpa using h
    rw [hn]
    rfl
  | succ width ih =>
    have hlow : (UInt8.ofNat n).toNat = n % 256 := UInt8.toNat_ofNat'
    have hdiv : n / 256 < 256 ^ width := by
      rw [Nat.pow_succ] at h
      omega
    rw [littleEndian, ofLittleEndian, hlow, ih hdiv]
    omega

theorem ofBigEndian_bigEndian (width n : Nat) :
    ofBigEndian (bigEndian width n) = n % 256 ^ width := by
  induction width with
  | zero => simp [bigEndian, ofBigEndian, Nat.mod_one]
  | succ width ih =>
    have hhigh : (UInt8.ofNat (n / 256 ^ width)).toNat = n / 256 ^ width % 256 :=
      UInt8.toNat_ofNat'
    have hstep : ofBigEndian (bigEndian (width + 1) n) =
        n / 256 ^ width % 256 * 256 ^ width + ofBigEndian (bigEndian width n) := by
      rw [← hhigh, bigEndian_succ, ofBigEndian, length_bigEndian]
      rfl
    rw [hstep, ih, Nat.pow_succ, Nat.mod_mul, Nat.mul_comm (256 ^ width), Nat.add_comm]

theorem ofBigEndian_lt (bytes : Bytes) : ofBigEndian bytes < 256 ^ bytes.length := by
  induction bytes with
  | nil => simp [ofBigEndian]
  | cons byte rest ih =>
    have hbyte : byte.toNat < 256 := byte.toNat_lt
    have hmul := Nat.mul_le_mul_right (256 ^ rest.length) (Nat.le_of_lt_succ hbyte)
    have hread : ofBigEndian (byte :: rest) = byte.toNat * 256 ^ rest.length + ofBigEndian rest := rfl
    rw [hread, List.length_cons, Nat.pow_succ]
    omega

theorem ofBigEndian_injective {a b : Bytes} (hlength : a.length = b.length)
    (h : ofBigEndian a = ofBigEndian b) : a = b := by
  induction a generalizing b with
  | nil => exact (List.length_eq_zero_iff.mp hlength.symm).symm
  | cons byte rest ih =>
    cases b with
    | nil => cases hlength
    | cons byte' rest' =>
      have hrest : rest.length = rest'.length := Nat.succ.inj hlength
      have hread : byte.toNat * 256 ^ rest.length + ofBigEndian rest =
          byte'.toNat * 256 ^ rest.length + ofBigEndian rest' := by
        rw [ofBigEndian, ofBigEndian, ← hrest] at h
        exact h
      have hlow := ofBigEndian_lt rest
      have hlow' := ofBigEndian_lt rest'
      rw [← hrest] at hlow'
      -- the highest byte is the quotient, the rest is the remainder
      have hquotient := congrArg (· / 256 ^ rest.length) hread
      have hremainder := congrArg (· % 256 ^ rest.length) hread
      have hpos : 0 < 256 ^ rest.length := Nat.pow_pos (by decide)
      simp only [Nat.mul_add_div hpos, Nat.mul_comm _ (256 ^ rest.length), Nat.div_eq_of_lt hlow,
        Nat.div_eq_of_lt hlow', Nat.add_zero] at hquotient
      simp only [Nat.mul_comm _ (256 ^ rest.length), Nat.mul_add_mod, Nat.mod_eq_of_lt hlow,
        Nat.mod_eq_of_lt hlow'] at hremainder
      rw [UInt8.toNat_inj.mp hquotient, ih hrest hremainder]

/-- **The bytes of a number that was read from bytes are those bytes.** -/
theorem bigEndian_ofBigEndian (bytes : Bytes) : bigEndian bytes.length (ofBigEndian bytes) = bytes := by
  refine ofBigEndian_injective (length_bigEndian ..) ?_
  rw [ofBigEndian_bigEndian, Nat.mod_eq_of_lt (ofBigEndian_lt bytes)]

theorem text?_ofText (text : String) : text? (ofText text) = some text := by
  have hbytes : (⟨(ofText text).toArray⟩ : ByteArray) = text.toByteArray := by
    rw [ofText, Array.toArray_toList]
  rw [text?, hbytes, String.fromUTF8?, dif_pos text.isValidUTF8]
  rfl

end Bytes

/-! ### Values -/

namespace Layout

/-- Reading the bytes of the value gives the value and leaves what follows them. -/
def ReadsBack {α : Type} [Layout α] (value : α) : Prop :=
  ∀ rest, (read : Reader α) (write value ++ rest) = some (value, rest)

theorem ReadsBack.ofBytes?_write {α : Type} [Layout α] {value : α} (h : ReadsBack value) :
    ofBytes? (write value) = some value := by
  have hread := h []
  rw [List.append_nil] at hread
  show ((read : Reader α) (write value)).map (·.1) = some value
  rw [hread]
  rfl

theorem ReadsBack.injective {α : Type} [Layout α] {a b : α} (ha : ReadsBack a) (hb : ReadsBack b)
    (h : write a = write b) : a = b := by
  have hread := ha.ofBytes?_write
  rw [h, hb.ofBytes?_write] at hread
  exact (Option.some.inj hread).symm

theorem bind_eq_some {α β : Type} {x : Reader α} {f : α → Reader β} {bytes rest : Bytes} {value : α}
    (hx : x bytes = some (value, rest)) : (x >>= f) bytes = f value rest := by
  show (x bytes).bind (fun result => f result.1 result.2) = _
  rw [hx]
  rfl

theorem map_eq_some {α β : Type} {x : Reader α} {f : α → β} {bytes rest : Bytes} {value : α}
    (hx : x bytes = some (value, rest)) : (f <$> x) bytes = some (f value, rest) := by
  show (x bytes).bind (fun result => some (f result.1, result.2)) = _
  rw [hx]
  rfl

theorem take_append {bytes : Bytes} {count : Nat} (h : bytes.length = count) (rest : Bytes) :
    take count (bytes ++ rest) = some (bytes, rest) := by
  subst h
  rw [take, if_pos (by simp), List.take_left, List.drop_left]

theorem readNat_writeNat {width n : Nat} (h : n < 256 ^ width) (rest : Bytes) :
    readNat width (writeNat width n ++ rest) = some (n, rest) := by
  have htake := take_append (Bytes.length_littleEndian width n) rest
  have hread := map_eq_some (f := Bytes.ofLittleEndian) htake
  rw [Bytes.ofLittleEndian_littleEndian h] at hread
  exact hread

theorem readTag_writeTag {n : Nat} (h : n < 256 ^ 4) (rest : Bytes) :
    readTag (writeTag n ++ rest) = some (n, rest) := readNat_writeNat h rest

/-- A type in different clothes reads back as the other one does. -/
theorem ReadsBack.via {α β : Type} [Layout β] {toFields : α → β} {ofFields : β → α}
    (hinv : ∀ value, ofFields (toFields value) = value) {value : α} (h : ReadsBack (toFields value)) :
    @ReadsBack α (Layout.via toFields ofFields) value := by
  intro rest
  have hread := map_eq_some (f := ofFields) (h rest)
  rw [hinv] at hread
  exact hread

theorem ReadsBack.prod {α β : Type} [Layout α] [Layout β] {a : α} {b : β} (ha : ReadsBack a)
    (hb : ReadsBack b) : ReadsBack (a, b) := by
  intro rest
  show (read >>= fun first => read >>= fun second => pure (first, second))
    ((write a ++ write b) ++ rest) = _
  rw [List.append_assoc, bind_eq_some (ha _), bind_eq_some (hb _)]
  rfl

theorem ReadsBack.none {α : Type} [Layout α] : ReadsBack (none : Option α) := fun _ => rfl

theorem ReadsBack.some {α : Type} [Layout α] {value : α} (h : ReadsBack value) :
    ReadsBack (some value) := by
  intro rest
  have htake := @take_append [1] 1 rfl (write value ++ rest)
  exact (bind_eq_some htake).trans (map_eq_some (h rest))

end Layout

open Layout

theorem Word.readsBack {size : Nat} (word : Word size) : ReadsBack word := by
  intro rest
  refine (bind_eq_some (readNat_writeNat word.toNat_lt rest)).trans ?_
  rw [accept, Word.ofNat?_eq_some_iff.mpr rfl]
  rfl

theorem Block.readsBack {size : Nat} (block : Block size) : ReadsBack block := by
  intro rest
  refine (bind_eq_some (take_append block.length_bytes rest)).trans ?_
  rw [accept, Block.ofBytes?, dif_pos block.length_bytes]
  rfl

theorem Id.readsBack {kind : IdKind} (id : Id kind) : ReadsBack id :=
  ReadsBack.via (fun _ => rfl) id.toBlock.readsBack

theorem Phase.readsBack (phase : Phase) : ReadsBack phase := by
  intro rest
  cases phase with
  | bid => exact bind_eq_some (readTag_writeTag (by decide) rest)
  | reveal => exact bind_eq_some (readTag_writeTag (by decide) rest)

/-! ### Texts and records -/

/-- The length of a text fits in the eight bytes in which it is written. -/
def Text.Fits (text : String) : Prop := text.utf8ByteSize < 256 ^ 8

theorem Text.Fits.readsBack {text : String} (h : Fits text) : ReadsBack text := by
  intro rest
  have hlength : (Bytes.ofText text).length = text.utf8ByteSize := by
    rw [Bytes.ofText, Array.length_toList]
    rfl
  have hfits : (Bytes.ofText text).length < 256 ^ 8 := by
    rw [hlength]
    exact h
  show (readLength >>= fun length => take length >>= fun bytes => accept (Bytes.text? bytes))
    ((writeLength (Bytes.ofText text).length ++ Bytes.ofText text) ++ rest) = _
  rw [List.append_assoc, readLength, writeLength, bind_eq_some (readNat_writeNat hfits _),
    bind_eq_some (take_append rfl _), accept, Bytes.text?_ofText]
  rfl

theorem Name.readsBack {name : Name} (h : Text.Fits name.text) : ReadsBack name :=
  ReadsBack.via (fun _ => rfl) h.readsBack

def Coin.Fits (coin : Coin) : Prop := Text.Fits coin.denom

theorem Coin.Fits.readsBack {coin : Coin} (h : coin.Fits) : ReadsBack coin :=
  ReadsBack.via (fun _ => rfl) (ReadsBack.prod (Text.Fits.readsBack h) coin.amount.readsBack)

theorem TopBid.readsBack {top : TopBid} (h : top.amount.Fits) : ReadsBack top :=
  ReadsBack.via (fun _ => rfl) (ReadsBack.prod top.bidder.readsBack h.readsBack)

structure Auction.Fits (auction : Auction) : Prop where
  name : Text.Fits auction.name.text
  topBid : ∀ top, auction.topBid = some top → top.amount.Fits

theorem Auction.Fits.readsBack {auction : Auction} (h : auction.Fits) : ReadsBack auction := by
  have htop : ReadsBack auction.topBid := by
    cases hcase : auction.topBid with
    | none => exact ReadsBack.none
    | some top => exact (TopBid.readsBack (h.topBid top hcase)).some
  refine ReadsBack.via (fun _ => rfl) ?_
  exact (Name.readsBack h.name).prod (auction.phase.readsBack.prod
    (auction.endTime.readsBack.prod htop))

def Bid.Fits (bid : Bid) : Prop := bid.deposit.Fits

theorem Bid.Fits.readsBack {bid : Bid} (h : bid.Fits) : ReadsBack bid :=
  ReadsBack.via (fun _ => rfl)
    (bid.commitment.readsBack.prod ((Coin.Fits.readsBack h).prod bid.bidder.readsBack))

def Registration.Fits (registration : Registration) : Prop := Text.Fits registration.name.text

theorem Registration.Fits.readsBack {registration : Registration} (h : registration.Fits) :
    ReadsBack registration :=
  ReadsBack.via (fun _ => rfl)
    ((Name.readsBack h).prod (registration.owner.readsBack.prod registration.endTime.readsBack))

end NameAuction
