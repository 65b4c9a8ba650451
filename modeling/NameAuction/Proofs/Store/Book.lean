import Mathlib.Logic.Function.Basic
import NameAuction.Proofs.Store.Contents
import NameAuction.Proofs.Store.Slot

/-!
# Books

A book says what is in each slot.  A store keeps a book if it holds the bytes of every value under the key
of its slot, and nothing else (`Store.Keeps`).  Then every typed reading of the store is a reading of the
book (`Keeps.auction?` and its likes), and every typed write writes to one slot (`Keeps.put`,
`Keeps.delete`).
-/

namespace NameAuction

/-- What is in each slot. -/
def Book := (slot : Slot) → Option slot.Value

namespace Book

def blank : Book := fun _ => none

def set (book : Book) (slot : Slot) (value : Option slot.Value) : Book :=
  Function.update book slot value

@[simp] theorem set_self (book : Book) (slot : Slot) (value : Option slot.Value) :
    book.set slot value slot = value := Function.update_self ..

@[simp] theorem set_of_ne (book : Book) {slot other : Slot} (value : Option slot.Value)
    (h : other ≠ slot) : book.set slot value other = book other := Function.update_of_ne h ..

theorem set_comm (book : Book) {slot other : Slot} (hne : slot ≠ other) (value : Option slot.Value)
    (value' : Option other.Value) :
    (book.set slot value).set other value' = (book.set other value').set slot value := by
  unfold set
  exact Function.update_comm hne value value' book

theorem set_set (book : Book) (slot : Slot) (value value' : Option slot.Value) :
    (book.set slot value).set slot value' = book.set slot value' := Function.update_idem ..

end Book

/-- The store holds what the book says and nothing else. -/
structure Store.Keeps (store : Store) (book : Book) : Prop where
  get?_key : ∀ slot : Slot, store.get? slot.key = (book slot).map slot.bytes
  exists_slot : ∀ key bytes, store.get? key = some bytes → ∃ slot : Slot, slot.key = key
  fits : ∀ (slot : Slot) (value : slot.Value), book slot = some value → slot.Fits value

namespace Store.Keeps

variable {store : Store} {book : Book}

/-! ### Writes -/

theorem blank : Store.empty.Keeps .blank where
  get?_key _ := Std.ExtTreeMap.getElem?_empty
  exists_slot key bytes h := by
    have hnone : Store.empty.get? key = none := Std.ExtTreeMap.getElem?_empty
    rw [hnone] at h
    cases h
  fits _ _ h := by cases h

theorem set (h : store.Keeps book) (slot : Slot) (value : Option slot.Value)
    (hfits : ∀ v, value = some v → slot.Fits v) :
    (store.set slot.key (value.map slot.bytes)).Keeps (book.set slot value) where
  get?_key other := by
    rw [get?_set]
    by_cases heq : other = slot
    · subst heq
      rw [if_pos rfl, Book.set_self]
    · rw [if_neg fun hkey => heq (Slot.key_injective hkey).symm, Book.set_of_ne book value heq,
        h.get?_key]
  exists_slot key bytes hget := by
    rw [get?_set] at hget
    by_cases hkey : slot.key = key
    · exact ⟨slot, hkey⟩
    · rw [if_neg hkey] at hget
      exact h.exists_slot key bytes hget
  fits other v hv := by
    by_cases heq : other = slot
    · subst heq
      rw [Book.set_self] at hv
      exact hfits v hv
    · rw [Book.set_of_ne book value heq] at hv
      exact h.fits other v hv

theorem put (h : store.Keeps book) (slot : Slot) {value : slot.Value} (hfits : slot.Fits value) :
    (store.put slot.key (slot.bytes value)).Keeps (book.set slot (some value)) :=
  h.set slot (some value) fun v hv => by cases hv; exact hfits

theorem delete (h : store.Keeps book) (slot : Slot) :
    (store.delete slot.key).Keeps (book.set slot none) :=
  h.set slot none nofun

theorem of_get?_eq (h : store.Keeps book) {other : Store}
    (hget : ∀ key, other.get? key = store.get? key) : other.Keeps book where
  get?_key slot := (hget slot.key).trans (h.get?_key slot)
  exists_slot key bytes hkey := h.exists_slot key bytes ((hget key).symm.trans hkey)
  fits := h.fits

theorem layer (h : store.Keeps book) : store.layer.Keeps book := h.of_get?_eq (get?_layer store)

theorem unique {other : Book} (h : store.Keeps book) (h' : store.Keeps other) : book = other := by
  funext slot
  have hget := (h.get?_key slot).symm.trans (h'.get?_key slot)
  cases hb : book slot with
  | none =>
    rw [hb] at hget
    cases ho : other slot with
    | none => rfl
    | some value => rw [ho] at hget; cases hget
  | some value =>
    rw [hb] at hget
    cases ho : other slot with
    | none => rw [ho] at hget; cases hget
    | some value' =>
      rw [ho] at hget
      exact congrArg some (Slot.bytes_injective (h.fits slot value hb) (h'.fits slot value' ho)
        (Option.some.inj hget))

/-! ### Reading one slot -/

theorem has_key (h : store.Keeps book) (slot : Slot) : store.has slot.key = (book slot).isSome := by
  rw [Store.has, h.get?_key, Option.isSome_map]

theorem record?_eq {α : Type} [Layout α] {key : Bytes} {found : Option α}
    (hget : store.get? key = found.map Layout.write)
    (hread : ∀ value, found = some value → Layout.ReadsBack value) :
    store.record? key = .ok found := by
  rw [Store.record?, hget]
  cases found with
  | none => rfl
  | some value =>
    show (Store.decode (Layout.write value)).map some = _
    rw [Store.decode, (hread value rfl).ofBytes?_write]
    rfl

theorem id?_eq {kind : IdKind} {key : Bytes} {found : Option (Id kind)}
    (hget : store.get? key = found.map fun id => id.bytes) : store.id? key = .ok found := by
  rw [Store.id?, hget]
  cases found with
  | none => rfl
  | some id =>
    show (do return some (← Id.ofBytes id.bytes) : Except Fault (Option (Id kind))) = _
    rw [Id.ofBytes_bytes]
    rfl

theorem auction? (h : store.Keeps book) (id : NameId) :
    store.auction? id = .ok (book (.auction id)) :=
  record?_eq (h.get?_key (.auction id)) fun value hv =>
    Auction.Fits.readsBack (h.fits (.auction id) value hv)

theorem bid? (h : store.Keeps book) (id : NameId) (bidder : Account) :
    store.bid? id bidder = .ok (book (.bid id bidder)) :=
  record?_eq (h.get?_key (.bid id bidder)) fun value hv =>
    Bid.Fits.readsBack (h.fits (.bid id bidder) value hv).2

theorem registration? (h : store.Keeps book) (id : NameId) :
    store.registration? id = .ok (book (.registration id)) :=
  record?_eq (h.get?_key (.registration id)) fun value hv =>
    Registration.Fits.readsBack (h.fits (.registration id) value hv)

theorem resolution? (h : store.Keeps book) (id child : NameId) :
    store.resolution? id child = .ok (book (.resolution id child)) :=
  id?_eq (h.get?_key (.resolution id child))

theorem reverse? (h : store.Keeps book) (account : Account) :
    store.reverse? account = .ok (book (.reverse account)) :=
  id?_eq (h.get?_key (.reverse account))

theorem auction_eq (h : store.Keeps book) {id : NameId} {found : Option Auction}
    (hread : store.auction? id = .ok found) : book (.auction id) = found :=
  Except.ok.inj ((h.auction? id).symm.trans hread)

theorem bid_eq (h : store.Keeps book) {id : NameId} {bidder : Account} {found : Option Bid}
    (hread : store.bid? id bidder = .ok found) : book (.bid id bidder) = found :=
  Except.ok.inj ((h.bid? id bidder).symm.trans hread)

theorem registration_eq (h : store.Keeps book) {id : NameId} {found : Option Registration}
    (hread : store.registration? id = .ok found) : book (.registration id) = found :=
  Except.ok.inj ((h.registration? id).symm.trans hread)

theorem hasAuction (h : store.Keeps book) (id : NameId) :
    store.hasAuction id = (book (.auction id)).isSome := h.has_key (.auction id)

theorem hasRegistration (h : store.Keeps book) (id : NameId) :
    store.hasRegistration id = (book (.registration id)).isSome := h.has_key (.registration id)

theorem bidder_eq (h : store.Keeps book) {id : NameId} {bidder : Account} {bid : Bid}
    (hbid : book (.bid id bidder) = some bid) : bid.bidder = bidder :=
  (h.fits (.bid id bidder) bid hbid).1

end Store.Keeps

end NameAuction
