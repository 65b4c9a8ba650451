import NameAuction.Proofs.Binary.ReadBack
import NameAuction.Proofs.Store.Span
import NameAuction.Store.Queue
import NameAuction.Store.Record

/-!
# Slots

A slot is a place of the store that a record or a queue entry has: its kind and the identifiers in its
key.  Every slot has a key of its own (`Slot.key_injective`), the value that belongs there is read back
from its bytes (`Slot.Fits`), and the spans that the store scans pick slots by kind and by name
(`Slot.startsWith_bidsOn`, `Slot.startsWith_resolutionsOf`, `Slot.dueSpan_contains`).
-/

namespace NameAuction

/-- The places of the store. -/
inductive Slot
  | auction (id : NameId)
  | bid (id : NameId) (bidder : Account)
  | registration (id : NameId)
  | resolution (id child : NameId)
  | reverse (account : Account)
  | queued (kind : QueueKind) (due : Due)
deriving DecidableEq

namespace Slot

abbrev Value : Slot → Type
  | .auction _ => Auction
  | .bid _ _ => Bid
  | .registration _ => Registration
  | .resolution _ _ => Account
  | .reverse _ => NameId
  | .queued _ _ => Unit

def key : Slot → Bytes
  | .auction id => Key.auction id
  | .bid id bidder => Key.bid id bidder
  | .registration id => Key.registration id
  | .resolution id child => Key.resolution id child
  | .reverse account => Key.reverse account
  | .queued kind due => kind.queue.key due

def bytes : (slot : Slot) → slot.Value → Bytes
  | .auction _, record => Layout.write (α := Auction) record
  | .bid _ _, record => Layout.write (α := Bid) record
  | .registration _, record => Layout.write (α := Registration) record
  | .resolution _ _, account => Block.bytes account.toBlock
  | .reverse _, id => Block.bytes id.toBlock
  | .queued _ due, () => due.id.bytes

/-- A value that belongs into the slot and reads back from its bytes. -/
def Fits : (slot : Slot) → slot.Value → Prop
  | .auction _, record => Auction.Fits record
  | .bid _ bidder, record => Bid.bidder record = bidder ∧ Bid.Fits record
  | .registration _, record => Registration.Fits record
  | .resolution _ _, _ => True
  | .reverse _, _ => True
  | .queued _ _, _ => True

def region : Slot → UInt8
  | .auction _ => Key.auctions
  | .bid _ _ => Key.bids
  | .registration _ => Key.registrations
  | .resolution _ _ => Key.resolutions
  | .reverse _ => Key.reverses
  | .queued kind _ => kind.queue.region

def tail : Slot → Bytes
  | .auction id => id.bytes
  | .bid id bidder => id.bytes ++ bidder.bytes
  | .registration id => id.bytes
  | .resolution id child => id.bytes ++ child.bytes
  | .reverse account => account.bytes
  | .queued _ due => Bytes.bigEndian 8 due.time.toNat ++ due.id.bytes

theorem key_eq (slot : Slot) : slot.key = slot.region :: slot.tail := by
  cases slot <;> rfl

end Slot

/-! ### Keys are taken apart again -/

theorem Id.ofBytes_bytes {kind : IdKind} (id : Id kind) : Id.ofBytes id.bytes = .ok id := by
  rw [ofBytes, Block.ofBytes?, dif_pos id.length_bytes]

theorem Id.bytes_of_ofBytes {kind : IdKind} {bytes : Bytes} {id : Id kind}
    (h : Fault.lift .id (Id.ofBytes bytes) = .ok id) : id.bytes = bytes := by
  unfold ofBytes Block.ofBytes? at h
  split at h
  · rename_i block hblock
    split at hblock
    · cases hblock
      cases h
      rfl
    · cases hblock
  · cases h

theorem QueueKind.region_injective {a b : QueueKind} (h : a.queue.region = b.queue.region) :
    a = b := by
  cases a <;> cases b <;> first | rfl | exact absurd h (by decide)

theorem Due.key_length (queue : Queue) (due : Due) : (queue.key due).length = 29 := by
  simp [Queue.key, Key.queued, Key.queueTime, due.id.length_bytes]

theorem Word.ofBigEndian_bigEndian {size : Nat} (word : Word size) :
    Bytes.ofBigEndian (Bytes.bigEndian size word.toNat) = word.toNat := by
  rw [Bytes.ofBigEndian_bigEndian, Nat.mod_eq_of_lt word.lt_pow]

theorem Bytes.take_append_of_length {a b : Bytes} {count : Nat} (h : a.length = count) :
    (a ++ b).take count = a := by
  subst h
  exact List.take_left

theorem Bytes.drop_append_of_length {a b : Bytes} {count : Nat} (h : a.length = count) :
    (a ++ b).drop count = b := by
  subst h
  exact List.drop_left

theorem Queue.ofKey_key (queue : Queue) (due : Due) : Queue.ofKey (queue.key due) = .ok due := by
  have hdrop : (queue.key due).drop 9 = due.id.bytes :=
    Bytes.drop_append_of_length (a := Key.queueTime queue.region due.time) (by simp [Key.queueTime])
  have htime : ((queue.key due).drop 1).take 8 = Bytes.bigEndian 8 due.time.toNat :=
    Bytes.take_append_of_length (Bytes.length_bigEndian ..)
  have hword : Word.ofNat? (Bytes.ofBigEndian (Bytes.bigEndian 8 due.time.toNat)) = some due.time :=
    Word.ofNat?_eq_some_iff.mpr (Word.ofBigEndian_bigEndian due.time).symm
  rw [Queue.ofKey, htime, hword, hdrop, Id.ofBytes_bytes, ensure, if_pos (Due.key_length queue due)]
  rfl

theorem Queue.length_of_ofKey {key : Bytes} {due : Due} (h : Queue.ofKey key = .ok due) :
    key.length = 29 := by
  obtain ⟨u, hlength, -⟩ := Except.bind_eq_ok_iff.mp h
  exact ensure_eq_ok_iff.mp hlength

theorem Queue.key_of_ofKey {queue : Queue} {key : Bytes} {due : Due} (h : Queue.ofKey key = .ok due)
    (hregion : key.head? = some queue.region) : queue.key due = key := by
  have hlength := length_of_ofKey h
  obtain ⟨u, -, h⟩ := Except.bind_eq_ok_iff.mp h
  obtain ⟨time, htime, h⟩ := Except.bind_eq_ok_iff.mp h
  obtain ⟨id, hid, h⟩ := Except.bind_eq_ok_iff.mp h
  obtain rfl := Except.ok.inj h
  obtain ⟨tail, rfl⟩ := List.head?_eq_some_iff.mp hregion
  have htail : tail.length = 28 := Nat.succ.inj hlength
  have hid : id.bytes = tail.drop 8 := Id.bytes_of_ofBytes hid
  have hread : time.toNat = Bytes.ofBigEndian (tail.take 8) :=
    Word.ofNat?_eq_some_iff.mp (demand_eq_ok_iff.mp htime)
  have height : (tail.take 8).length = 8 := by rw [List.length_take, htail]; rfl
  have htime : Bytes.bigEndian 8 time.toNat = tail.take 8 := by
    have hback := Bytes.bigEndian_ofBigEndian (tail.take 8)
    rw [height, ← hread] at hback
    exact hback
  show queue.region :: (Bytes.bigEndian 8 time.toNat ++ id.bytes) = _
  rw [htime, hid, List.take_append_drop]

theorem Key.length_of_split {kind : IdKind} {shape : Key.Shape} {region : UInt8} {key : Bytes}
    {ids : NameId × Id kind} (h : Key.split shape region key = .ok ids) : key.length = 41 := by
  obtain ⟨u, hlength, -⟩ := Except.bind_eq_ok_iff.mp h
  exact (ensure_eq_ok_iff.mp hlength).1

theorem Key.split_append {kind : IdKind} (shape : Key.Shape) (region : UInt8) (id : NameId)
    (other : Id kind) : Key.split shape region (region :: (id.bytes ++ other.bytes)) = .ok (id, other) := by
  have hlength : (region :: (id.bytes ++ other.bytes)).length = 41 := by
    simp [id.length_bytes, other.length_bytes]
  have hfirst : ((region :: (id.bytes ++ other.bytes)).drop 1).take 20 = id.bytes :=
    Bytes.take_append_of_length id.length_bytes
  have hsecond : (region :: (id.bytes ++ other.bytes)).drop 21 = other.bytes :=
    Bytes.drop_append_of_length id.length_bytes
  rw [Key.split, hfirst, hsecond, Id.ofBytes_bytes, Id.ofBytes_bytes, ensure,
    if_pos ⟨hlength, rfl⟩]
  rfl

theorem Id.eq_of_append_eq {kind : IdKind} {a b : Id kind} {rest rest' : Bytes}
    (h : a.bytes ++ rest = b.bytes ++ rest') : a = b ∧ rest = rest' := by
  have hlen : a.bytes.length = b.bytes.length := by rw [a.length_bytes, b.length_bytes]
  obtain ⟨hid, hrest⟩ := List.append_inj h hlen
  exact ⟨Id.bytes_injective hid, hrest⟩

theorem Queue.key_injective {queue : Queue} {a b : Due} (h : queue.key a = queue.key b) : a = b := by
  have ha := queue.ofKey_key a
  rw [h, queue.ofKey_key b] at ha
  exact (Except.ok.inj ha).symm

namespace Slot

/-! ### Regions -/

theorem region_eq_auctions {slot : Slot} :
    slot.region = Key.auctions ↔ ∃ id, slot = .auction id := by
  cases slot with
  | auction id => simp [region]
  | queued kind _ => cases kind <;> exact ⟨fun h => absurd h (by simp only [region]; decide), nofun⟩
  | _ => exact ⟨fun h => absurd h (by simp only [region]; decide), nofun⟩

theorem region_eq_bids {slot : Slot} :
    slot.region = Key.bids ↔ ∃ id bidder, slot = .bid id bidder := by
  cases slot with
  | bid id bidder => simp [region]
  | queued kind _ => cases kind <;> exact ⟨fun h => absurd h (by simp only [region]; decide), nofun⟩
  | _ => exact ⟨fun h => absurd h (by simp only [region]; decide), nofun⟩

theorem region_eq_registrations {slot : Slot} :
    slot.region = Key.registrations ↔ ∃ id, slot = .registration id := by
  cases slot with
  | registration id => simp [region]
  | queued kind _ => cases kind <;> exact ⟨fun h => absurd h (by simp only [region]; decide), nofun⟩
  | _ => exact ⟨fun h => absurd h (by simp only [region]; decide), nofun⟩

theorem region_eq_resolutions {slot : Slot} :
    slot.region = Key.resolutions ↔ ∃ id child, slot = .resolution id child := by
  cases slot with
  | resolution id child => simp [region]
  | queued kind _ => cases kind <;> exact ⟨fun h => absurd h (by simp only [region]; decide), nofun⟩
  | _ => exact ⟨fun h => absurd h (by simp only [region]; decide), nofun⟩

theorem region_eq_reverses {slot : Slot} :
    slot.region = Key.reverses ↔ ∃ account, slot = .reverse account := by
  cases slot with
  | reverse account => simp [region]
  | queued kind _ => cases kind <;> exact ⟨fun h => absurd h (by simp only [region]; decide), nofun⟩
  | _ => exact ⟨fun h => absurd h (by simp only [region]; decide), nofun⟩

theorem region_eq_queue {slot : Slot} {kind : QueueKind} :
    slot.region = kind.queue.region ↔ ∃ due, slot = .queued kind due := by
  cases slot with
  | queued kind' due =>
    constructor
    · intro h
      obtain rfl := QueueKind.region_injective h
      exact ⟨due, rfl⟩
    · rintro ⟨due', h⟩
      cases h
      rfl
  | _ => cases kind <;> exact ⟨fun h => absurd h (by simp only [region]; decide), nofun⟩

/-- **Different slots have different keys.**  The first byte tells the kinds apart, and the identifiers and
the time have a fixed length. -/
theorem key_injective {a b : Slot} (h : a.key = b.key) : a = b := by
  have hcons := h
  rw [key_eq, key_eq] at hcons
  obtain ⟨hregion, htail⟩ := List.cons.inj hcons
  cases a with
  | auction id =>
    obtain ⟨id', rfl⟩ := region_eq_auctions.mp hregion.symm
    rw [Id.bytes_injective htail]
  | bid id bidder =>
    obtain ⟨id', bidder', rfl⟩ := region_eq_bids.mp hregion.symm
    obtain ⟨rfl, hrest⟩ := Id.eq_of_append_eq htail
    rw [Id.bytes_injective hrest]
  | registration id =>
    obtain ⟨id', rfl⟩ := region_eq_registrations.mp hregion.symm
    rw [Id.bytes_injective htail]
  | resolution id child =>
    obtain ⟨id', child', rfl⟩ := region_eq_resolutions.mp hregion.symm
    obtain ⟨rfl, hrest⟩ := Id.eq_of_append_eq htail
    rw [Id.bytes_injective hrest]
  | reverse account =>
    obtain ⟨account', rfl⟩ := region_eq_reverses.mp hregion.symm
    rw [Id.bytes_injective htail]
  | queued kind due =>
    obtain ⟨due', rfl⟩ := region_eq_queue.mp hregion.symm
    rw [Queue.key_injective h]

theorem bytes_injective {slot : Slot} {a b : slot.Value} (ha : slot.Fits a) (hb : slot.Fits b)
    (h : slot.bytes a = slot.bytes b) : a = b := by
  cases slot with
  | auction id => exact (Auction.Fits.readsBack ha).injective (Auction.Fits.readsBack hb) h
  | bid id bidder => exact (Bid.Fits.readsBack ha.2).injective (Bid.Fits.readsBack hb.2) h
  | registration id =>
    exact (Registration.Fits.readsBack ha).injective (Registration.Fits.readsBack hb) h
  | resolution id child => exact Id.bytes_injective h
  | reverse account => exact Id.bytes_injective h
  | queued kind due => rfl

/-! ### What the spans pick -/

theorem startsWith_region {region : UInt8} {slot : Slot} :
    [region] <+: slot.key ↔ slot.region = region := by
  rw [key_eq, List.cons_prefix_cons]
  simp [eq_comm]

theorem prefix_append_iff {kind : IdKind} {id id' : Id kind} {rest : Bytes} :
    id.bytes <+: id'.bytes ++ rest ↔ id' = id := by
  constructor
  · rintro ⟨more, hmore⟩
    exact (Id.eq_of_append_eq hmore).1.symm
  · rintro rfl
    exact List.prefix_append ..

theorem startsWith_bidsOn {id : NameId} {slot : Slot} :
    Key.bidsOn id <+: slot.key ↔ ∃ bidder, slot = .bid id bidder := by
  rw [key_eq, Key.bidsOn, List.cons_prefix_cons]
  constructor
  · rintro ⟨hregion, htail⟩
    obtain ⟨id', bidder, rfl⟩ := region_eq_bids.mp hregion.symm
    rw [prefix_append_iff.mp htail]
    exact ⟨bidder, rfl⟩
  · rintro ⟨bidder, rfl⟩
    exact ⟨rfl, prefix_append_iff.mpr rfl⟩

theorem startsWith_resolutionsOf {id : NameId} {slot : Slot} :
    Key.resolutionsOf id <+: slot.key ↔ ∃ child, slot = .resolution id child := by
  rw [key_eq, Key.resolutionsOf, List.cons_prefix_cons]
  constructor
  · rintro ⟨hregion, htail⟩
    obtain ⟨id', child, rfl⟩ := region_eq_resolutions.mp hregion.symm
    rw [prefix_append_iff.mp htail]
    exact ⟨child, rfl⟩
  · rintro ⟨child, rfl⟩
    exact ⟨rfl, prefix_append_iff.mpr rfl⟩

end Slot

/-! ### The order of queue entries -/

/-- Of two numbers in base `base` the higher digits count first. -/
theorem Bytes.then_compare_eq {base high high' low low' : Nat} (hlow : low < base)
    (hlow' : low' < base) :
    (compare high high').then (compare low low') =
      compare (base * high + low) (base * high' + low') := by
  rcases Nat.lt_trichotomy high high' with h | rfl | h
  · have hmul := Nat.mul_le_mul_left base (Nat.succ_le_of_lt h)
    have hlt : base * high + low < base * high' + low' := by
      rw [Nat.mul_succ] at hmul
      omega
    rw [Nat.compare_eq_lt.mpr h, Nat.compare_eq_lt.mpr hlt]
    rfl
  · rw [Std.ReflOrd.compare_self]
    rcases Nat.lt_trichotomy low low' with h | rfl | h
    · rw [Nat.compare_eq_lt.mpr h, Nat.compare_eq_lt.mpr (Nat.add_lt_add_left h _)]
      rfl
    · rw [Std.ReflOrd.compare_self, Std.ReflOrd.compare_self]
      rfl
    · rw [Nat.compare_eq_gt.mpr h, Nat.compare_eq_gt.mpr (Nat.add_lt_add_left h _)]
      rfl
  · have hmul := Nat.mul_le_mul_left base (Nat.succ_le_of_lt h)
    have hlt : base * high' + low' < base * high + low := by
      rw [Nat.mul_succ] at hmul
      omega
    rw [Nat.compare_eq_gt.mpr h, Nat.compare_eq_gt.mpr hlt]
    rfl

theorem Bytes.compare_ofNat (a b : Nat) :
    compare (UInt8.ofNat a) (UInt8.ofNat b) = compare (a % 256) (b % 256) := by
  have ha : (UInt8.ofNat a).toNat = a % 256 := UInt8.toNat_ofNat'
  have hb : (UInt8.ofNat b).toNat = b % 256 := UInt8.toNat_ofNat'
  rcases Nat.lt_trichotomy (a % 256) (b % 256) with h | h | h
  · rw [Nat.compare_eq_lt.mpr h]
    exact Std.compare_eq_lt.mpr (UInt8.lt_iff_toNat_lt.mpr (by omega))
  · have heq : UInt8.ofNat a = UInt8.ofNat b := UInt8.toNat_inj.mp (by omega)
    rw [heq, h, Std.ReflOrd.compare_self, Std.ReflOrd.compare_self]
  · rw [Nat.compare_eq_gt.mpr h]
    exact Std.compare_eq_gt.mpr (UInt8.lt_iff_toNat_lt.mpr (by omega))

theorem Bytes.compare_append_of_length {a a' b b' : Bytes} (h : a.length = a'.length) :
    compare (a ++ b) (a' ++ b') = (compare a a').then (compare b b') := by
  induction a generalizing a' with
  | nil =>
    obtain rfl : a' = [] := List.length_eq_zero_iff.mp h.symm
    rfl
  | cons byte rest ih =>
    cases a' with
    | nil => cases h
    | cons byte' rest' =>
      rw [List.cons_append, List.cons_append, List.compare_cons_cons, List.compare_cons_cons,
        ih (Nat.succ.inj h), Ordering.then_assoc]

/-- **Numbers sort as their highest-first bytes do.** -/
theorem Bytes.compare_bigEndian (width a b : Nat) :
    compare (bigEndian width a) (bigEndian width b) =
      compare (a % 256 ^ width) (b % 256 ^ width) := by
  induction width with
  | zero => simp [bigEndian, Nat.mod_one]
  | succ width ih =>
    have hpos : 0 < 256 ^ width := Nat.pow_pos (by decide)
    rw [bigEndian_succ, bigEndian_succ, List.compare_cons_cons, ih, compare_ofNat,
      then_compare_eq (Nat.mod_lt a hpos) (Nat.mod_lt b hpos), Nat.pow_succ, Nat.mod_mul,
      Nat.mod_mul, Nat.add_comm, Nat.add_comm (b % 256 ^ width)]

theorem Word.compare_bigEndian {size : Nat} (a b : Word size) :
    compare (Bytes.bigEndian size a.toNat) (Bytes.bigEndian size b.toNat) =
      compare a.toNat b.toNat := by
  rw [Bytes.compare_bigEndian, Nat.mod_eq_of_lt a.lt_pow, Nat.mod_eq_of_lt b.lt_pow]

/-- The order of queue entries: by time, and at one time by name. -/
def Due.Before (a b : Due) : Prop :=
  a.time.toNat < b.time.toNat ∨ a.time = b.time ∧ compare a.id b.id = .lt

instance : DecidableRel Due.Before := fun a b =>
  inferInstanceAs (Decidable (a.time.toNat < b.time.toNat ∨ a.time = b.time ∧ compare a.id b.id = .lt))

theorem Queue.compare_key (queue : Queue) (a b : Due) :
    compare (queue.key a) (queue.key b) =
      (compare a.time.toNat b.time.toNat).then (compare a.id b.id) := by
  have hlen : (Bytes.bigEndian 8 a.time.toNat).length = (Bytes.bigEndian 8 b.time.toNat).length := by
    rw [Bytes.length_bigEndian, Bytes.length_bigEndian]
  rw [← Word.compare_bigEndian a.time b.time]
  show compare (queue.region :: (Bytes.bigEndian 8 a.time.toNat ++ a.id.bytes))
    (queue.region :: (Bytes.bigEndian 8 b.time.toNat ++ b.id.bytes)) = _
  rw [List.compare_cons_cons, Std.ReflOrd.compare_self, Bytes.compare_append_of_length hlen]
  rfl

theorem Queue.compare_key_lt_iff (queue : Queue) {a b : Due} :
    compare (queue.key a) (queue.key b) = .lt ↔ a.Before b := by
  rw [Queue.compare_key, Due.Before, Ordering.then_eq_lt, Nat.compare_eq_lt, Nat.compare_eq_eq,
    Word.ext_iff]

theorem Due.Before.trans {a b c : Due} (hab : a.Before b) (hbc : b.Before c) : a.Before c := by
  rw [← Queue.compare_key_lt_iff QueueKind.bid.queue] at hab hbc ⊢
  exact Std.TransCmp.lt_trans hab hbc

theorem Due.Before.ne {a b : Due} (h : a.Before b) : b ≠ a := by
  rintro rfl
  rw [← Queue.compare_key_lt_iff QueueKind.bid.queue] at h
  exact Bytes.compare_self_ne_lt _ h

theorem Queue.head?_of_dueSpan {queue : Queue} {now : Time} {key : Bytes}
    (h : (queue.dueSpan now).contains key = true) : key.head? = some queue.region := by
  simp only [dueSpan, dueStop, Span.contains, Bool.and_eq_true, Bytes.below_afterAll?_iff] at h
  obtain ⟨hstart, hstop⟩ := h
  cases key with
  | nil => exact absurd hstart (by simp)
  | cons byte rest =>
    rw [List.compare_cons_cons] at hstart
    rw [Key.queueTime, List.length_cons, List.take_succ_cons, List.compare_cons_cons] at hstop
    cases hcmp : compare queue.region byte with
    | lt =>
      rw [Std.OrientedOrd.eq_swap, hcmp] at hstop
      exact absurd hstop (by simp)
    | eq =>
      rw [Std.LawfulEqOrd.eq_of_compare hcmp]
      rfl
    | gt =>
      rw [hcmp] at hstart
      exact absurd hstart (by simp)

/-- The key of an entry is in the due span once its time has come. -/
theorem Queue.dueSpan_contains_key {queue : Queue} {now : Time} {due : Due} :
    (queue.dueSpan now).contains (queue.key due) = true ↔ due.time ≤ now := by
  have hlength : (Key.queueTime queue.region now).length = 9 := by simp [Key.queueTime]
  have htake : (Bytes.bigEndian 8 due.time.toNat ++ due.id.bytes).take 8 =
      Bytes.bigEndian 8 due.time.toNat := Bytes.take_append_of_length (Bytes.length_bigEndian ..)
  have hkey : queue.key due = queue.region :: (Bytes.bigEndian 8 due.time.toNat ++ due.id.bytes) := rfl
  simp only [dueSpan, dueStop, Span.contains, Bool.and_eq_true, Bytes.below_afterAll?_iff, hlength]
  rw [hkey, Key.queueTime, List.take_succ_cons, htake, List.compare_cons_cons, List.compare_cons_cons,
    Std.ReflOrd.compare_self, Word.compare_bigEndian]
  constructor
  · rintro ⟨-, hstop⟩
    exact Nat.isLE_compare.mp hstop
  · intro hle
    exact ⟨List.isLE_compare_nil_left, Nat.isLE_compare.mpr hle⟩

/-- **The due span picks the entries of its queue whose time has come.** -/
theorem Slot.dueSpan_contains {kind : QueueKind} {now : Time} {slot : Slot} :
    (kind.queue.dueSpan now).contains slot.key = true ↔
      ∃ due, slot = .queued kind due ∧ due.time ≤ now := by
  constructor
  · intro h
    have hhead := Queue.head?_of_dueSpan h
    rw [key_eq] at hhead
    obtain ⟨due, rfl⟩ := region_eq_queue.mp (Option.some.inj hhead)
    exact ⟨due, rfl, Queue.dueSpan_contains_key.mp h⟩
  · rintro ⟨due, rfl, hle⟩
    exact Queue.dueSpan_contains_key.mpr hle

theorem Queue.dueSpanAfter_contains {queue : Queue} {now : Time} {cursor : Due} {key : Bytes} :
    (queue.dueSpanAfter now cursor).contains key = true ↔
      (queue.dueSpan now).contains key = true ∧ compare (queue.key cursor) key = .lt := by
  have hstart : (compare (queue.dueSpan now).start (queue.key cursor)).isLE :=
    Bytes.isLE_compare_append [queue.region] _
  exact Span.contains_from_successor hstart

theorem Slot.dueSpanAfter_contains {kind : QueueKind} {now : Time} {cursor : Due} {slot : Slot} :
    (kind.queue.dueSpanAfter now cursor).contains slot.key = true ↔
      ∃ due, slot = .queued kind due ∧ due.time ≤ now ∧ cursor.Before due := by
  rw [Queue.dueSpanAfter_contains, Slot.dueSpan_contains]
  constructor
  · rintro ⟨⟨due, rfl, hle⟩, hlt⟩
    exact ⟨due, rfl, hle, (Queue.compare_key_lt_iff _).mp hlt⟩
  · rintro ⟨due, rfl, hle, hbefore⟩
    exact ⟨⟨due, rfl, hle⟩, (Queue.compare_key_lt_iff _).mpr hbefore⟩

end NameAuction
