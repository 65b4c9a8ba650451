import NameAuction.Command
import NameAuction.Store.Record

/-!
# Queries

Questions about the records of a store, and their answers.  Nothing is changed by asking.
-/

namespace NameAuction

inductive AuctionFilter
  | all
  | name (name : Name)
  | phase (phase : Phase)
deriving DecidableEq

inductive Query
  | auctions (filter : AuctionFilter)
  | bids (name : Name) (bidder : Option Account)
  | registration (name : Name)
  | resolution (name : Name)
  | reverse (account : Account)
  | params
deriving DecidableEq

inductive Answer
  | auctions (auctions : List Auction)
  | bids (bids : List Bid)
  | registration (registration : Registration)
  | resolution (account : Account)
  | reverse (registration : Registration)
  | params (params : Params)
deriving DecidableEq

namespace Query

/-- The identifier of a proper second-level name. -/
def idOf (name : Name) : Except Fault NameId := do
  name.checkLevels [2] (.queryLevels [2])
  name.id

def auctionsIn (store : Store) : AuctionFilter → Except Fault (List Auction)
  | .name name => do
    let id ← idOf name
    return (← store.auction? id).toList
  | .phase phase => do
    return ((← store.auctions).map (·.2)).filter (·.phase = phase)
  | .all => do
    return (← store.auctions).map (·.2)

def bidsIn (store : Store) (name : Name) (bidder : Option Account) : Except Fault (List Bid) := do
  let id ← idOf name
  match bidder with
  | some bidder => return (← store.bid? id bidder).toList
  | none => store.bidsOn id

def registrationIn (store : Store) (name : Name) : Except Fault Registration := do
  let id ← idOf name
  demand (← store.registration? id) .noRegistration

def resolutionIn (store : Store) (name : Name) : Except Fault Account := do
  name.checkLevels [2, 3] (.queryLevels [2, 3])
  let (id, child) ← name.ids
  demand (← store.resolution? id child) .noResolution

/-- The registration of the name that leads to an account. -/
def reverseIn (store : Store) (account : Account) : Except Fault Registration := do
  let id ← demand (← store.reverse? account) (.noReverse account)
  demand (← store.registration? id) .noRegistration

def run (store : Store) (params : Params) : Query → Except Fault Answer
  | .auctions filter => do return .auctions (← auctionsIn store filter)
  | .bids name bidder => do return .bids (← bidsIn store name bidder)
  | .registration name => do return .registration (← registrationIn store name)
  | .resolution name => do return .resolution (← resolutionIn store name)
  | .reverse account => do return .reverse (← reverseIn store account)
  | .params => return .params params

end Query

end NameAuction
