import NameAuction.Binary.Record
import NameAuction.Fault

/-!
# Records in the store

Reading and writing auctions, bids, registrations and resolutions under their keys.  Records are held in
their byte layout; an account or a name that a resolution leads to is held as its twenty bytes.  Reading
fails where the bytes or a key are not what a write would have left.
-/

namespace NameAuction

/-- The two identifiers of a key that has two. -/
def Key.split {kind : IdKind} (shape : Key.Shape) (region : UInt8) (key : Bytes) :
    Except Fault (NameId × Id kind) := do
  ensure (key.length = 41 ∧ key.head? = some region) (.corrupt (.key shape key))
  return (← Id.ofBytes ((key.drop 1).take 20), ← Id.ofBytes (key.drop 21))

def Key.splitResolution (key : Bytes) : Except Fault (NameId × NameId) :=
  split .resolution resolutions key

def Key.splitBid (key : Bytes) : Except Fault (NameId × Account) := split .bid bids key

namespace Store

def decode {α : Type} [Layout α] (bytes : Bytes) : Except Fault α :=
  demand (Layout.ofBytes? bytes) .codec

/-- The record under a key, if there is one. -/
def record? {α : Type} [Layout α] (store : Store) (key : Bytes) : Except Fault (Option α) :=
  match store.get? key with
  | some bytes => (decode bytes).map some
  | none => .ok none

def id? {kind : IdKind} (store : Store) (key : Bytes) : Except Fault (Option (Id kind)) :=
  match store.get? key with
  | some bytes => do return some (← Id.ofBytes bytes)
  | none => return none

/-- The records of a region whose keys hold one name, in the order of names. -/
def recordsIn {α : Type} [Layout α] (store : Store) (region : UInt8) :
    Except Fault (List (NameId × α)) :=
  (store.startingWith [region]).mapM fun entry => do
    let id ← Id.ofBytes (entry.1.drop 1)
    return (id, ← decode entry.2)

/-! ### Auctions -/

def auction? (store : Store) (id : NameId) : Except Fault (Option Auction) :=
  store.record? (Key.auction id)

def hasAuction (store : Store) (id : NameId) : Bool := store.has (Key.auction id)

def auctions (store : Store) : Except Fault (List (NameId × Auction)) :=
  store.recordsIn Key.auctions

def setAuction (store : Store) (id : NameId) (auction : Auction) : Store :=
  store.put (Key.auction id) (Layout.write auction)

def deleteAuction (store : Store) (id : NameId) : Store := store.delete (Key.auction id)

/-! ### Bids -/

def bid? (store : Store) (id : NameId) (bidder : Account) : Except Fault (Option Bid) :=
  store.record? (Key.bid id bidder)

def bidsOn (store : Store) (id : NameId) : Except Fault (List Bid) :=
  (store.startingWith (Key.bidsOn id)).mapM fun entry => decode entry.2

def hasBids (store : Store) (id : NameId) : Bool :=
  (store.first? (.startingWith (Key.bidsOn id))).isSome

def bids (store : Store) : Except Fault (List (NameId × Bid)) :=
  (store.startingWith [Key.bids]).mapM fun entry => do
    let (id, _) ← Key.splitBid entry.1
    return (id, ← decode entry.2)

def setBid (store : Store) (id : NameId) (bid : Bid) : Store :=
  store.put (Key.bid id bid.bidder) (Layout.write bid)

def deleteBid (store : Store) (id : NameId) (bidder : Account) : Store :=
  store.delete (Key.bid id bidder)

/-! ### Registrations -/

def registration? (store : Store) (id : NameId) : Except Fault (Option Registration) :=
  store.record? (Key.registration id)

def hasRegistration (store : Store) (id : NameId) : Bool := store.has (Key.registration id)

def registrations (store : Store) : Except Fault (List (NameId × Registration)) :=
  store.recordsIn Key.registrations

def setRegistration (store : Store) (id : NameId) (registration : Registration) : Store :=
  store.put (Key.registration id) (Layout.write registration)

def deleteRegistration (store : Store) (id : NameId) : Store :=
  store.delete (Key.registration id)

/-! ### Resolutions

A resolution leads from a name and a child to an account, and a reverse entry leads from the account to
the name. -/

def resolution? (store : Store) (id child : NameId) : Except Fault (Option Account) :=
  store.id? (Key.resolution id child)

/-- The children of one name with their accounts, in the order of children. -/
def resolutionsOf (store : Store) (id : NameId) : Except Fault (List (NameId × Account)) :=
  (store.startingWith (Key.resolutionsOf id)).mapM fun entry => do
    let (_, child) ← Key.splitResolution entry.1
    return (child, ← Id.ofBytes entry.2)

def resolutions (store : Store) : Except Fault (List Resolution) :=
  (store.startingWith [Key.resolutions]).mapM fun entry => do
    let (id, child) ← Key.splitResolution entry.1
    return ⟨id, child, ← Id.ofBytes entry.2⟩

def setResolution (store : Store) (id child : NameId) (account : Account) : Store :=
  store.put (Key.resolution id child) account.bytes

def deleteResolution (store : Store) (id child : NameId) : Store :=
  store.delete (Key.resolution id child)

def reverse? (store : Store) (account : Account) : Except Fault (Option NameId) :=
  store.id? (Key.reverse account)

def setReverse (store : Store) (account : Account) (id : NameId) : Store :=
  store.put (Key.reverse account) id.bytes

def deleteReverse (store : Store) (account : Account) : Store :=
  store.delete (Key.reverse account)

end Store

end NameAuction
