import NameAuction.Store.Queue
import NameAuction.Store.Record

/-!
# Loading and saving a genesis

`Genesis.check` says whether records fit together, `Genesis.seed` writes them to a store together with the
queues and reverse entries that follow from them, and `Genesis.ofStore` reads them back in the order of
keys.
-/

namespace NameAuction.Genesis

/-! ### Checking -/

def checkName (name : Name) : Except GenesisFault Unit :=
  match name.check with
  | .error flaw => .error (.badName name flaw)
  | .ok () => .ok ()

def secondLevelId (name : Name) (root : String) : Except Fault NameId := do
  checkName name
  ensure (name.levels = 2) (.genesis (.notSecondLevel name))
  let parts ← name.parts
  ensure (parts.root = root) (.genesis (.wrongRoot name root))
  name.id

/-- An auction has a top bid only once bids are revealed, and then it has one or a bid to reveal. -/
def checkPhase (withBids : List NameId) (id : NameId) (auction : Auction) :
    Except GenesisFault Unit :=
  match auction.phase, auction.topBid with
  | .bid, some _ => .error (.earlyTopBid auction.name)
  | .reveal, none => ensure (id ∈ withBids) (.revealWithoutBids auction.name)
  | _, _ => .ok ()

/-- Checks auctions in order and lists their names; `seen` are those of the auctions before. -/
def checkAuctions (root : String) (withBids seen : List NameId) :
    List Auction → Except Fault (List NameId)
  | [] => .ok seen
  | auction :: rest => do
    let id ← secondLevelId auction.name root
    ensure (id ∉ seen) (.genesis (.repeatedAuction auction.name))
    checkPhase withBids id auction
    checkAuctions root withBids (id :: seen) rest

def checkRegistrations (root : String) (auctions seen : List NameId) :
    List Registration → Except Fault (List NameId)
  | [] => .ok seen
  | registration :: rest => do
    let id ← secondLevelId registration.name root
    ensure (id ∉ auctions) (.genesis (.auctionAndRegistration registration.name))
    ensure (id ∉ seen) (.genesis (.repeatedRegistration registration.name))
    checkRegistrations root auctions (id :: seen) rest

/-- Checks that bids are on auctions, and no two of them by one bidder on one name. -/
def checkBids (auctions : List NameId) (seen : List (NameId × Account)) :
    List PlacedBid → Except GenesisFault Unit
  | [] => .ok ()
  | placed :: rest => do
    ensure (placed.id ∈ auctions) (.bidWithoutAuction placed.id)
    ensure ((placed.id, placed.bid.bidder) ∉ seen) (.repeatedBid placed.bid.bidder placed.id)
    checkBids auctions ((placed.id, placed.bid.bidder) :: seen) rest

/-- Checks that resolutions are below registrations, that no child comes twice and that no account
does. -/
def checkResolutions (registrations : List NameId) (seen : List (NameId × NameId))
    (accounts : List Account) : List Resolution → Except GenesisFault Unit
  | [] => .ok ()
  | resolution :: rest => do
    ensure (resolution.id ∈ registrations) (.resolutionWithoutRegistration resolution.id)
    ensure ((resolution.id, resolution.child) ∉ seen) (.repeatedResolution resolution.id)
    ensure (resolution.account ∉ accounts) (.repeatedAccount resolution.account)
    checkResolutions registrations ((resolution.id, resolution.child) :: seen)
      (resolution.account :: accounts) rest

/-- What is wrong with a genesis: its parameters, auctions, registrations, bids and resolutions are
looked at in this order. -/
def check (genesis : Genesis) : Except Fault Unit := do
  genesis.params.check
  let withBids := genesis.bids.map (·.id)
  let auctions ← checkAuctions genesis.params.root withBids [] genesis.auctions
  let registrations ← checkRegistrations genesis.params.root auctions [] genesis.registrations
  checkBids auctions [] genesis.bids
  checkResolutions registrations [] [] genesis.resolutions

/-! ### Writing -/

def phaseQueue : Phase → Queue
  | .bid => QueueKind.bid.queue
  | .reveal => QueueKind.reveal.queue

def seedAuction (store : Store) (auction : Auction) : Except Fault Store := do
  let id ← auction.name.id
  return (store.setAuction id auction).enqueue (phaseQueue auction.phase) ⟨auction.endTime, id⟩

def seedBid (store : Store) (placed : PlacedBid) : Store := store.setBid placed.id placed.bid

def seedRegistration (store : Store) (registration : Registration) : Except Fault Store := do
  let id ← registration.name.id
  return (store.setRegistration id registration).enqueue QueueKind.registration.queue
    ⟨registration.endTime, id⟩

/-- Writes a resolution and its reverse entry. -/
def seedResolution (store : Store) (resolution : Resolution) : Store :=
  (store.setResolution resolution.id resolution.child resolution.account).setReverse
    resolution.account resolution.id

/-- Writes everything that a genesis holds and what follows from it; a genesis that does not pass its
check writes nothing. -/
def seed (genesis : Genesis) (store : Store) : Except Fault Store := do
  genesis.check
  let store ← genesis.auctions.foldlM seedAuction store
  let store := genesis.bids.foldl seedBid store
  let store ← genesis.registrations.foldlM seedRegistration store
  return genesis.resolutions.foldl seedResolution store

/-! ### Reading -/

/-- The genesis that holds every record of a store, in the order of keys. -/
def ofStore (store : Store) (params : Params) : Except Fault Genesis := do
  let auctions ← store.auctions
  let bids ← store.bids
  let registrations ← store.registrations
  let resolutions ← store.resolutions
  return ⟨params, auctions.map (·.2), bids.map fun (id, bid) => ⟨id, bid⟩,
    registrations.map (·.2), resolutions⟩

end NameAuction.Genesis
