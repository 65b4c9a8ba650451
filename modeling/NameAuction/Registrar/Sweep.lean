import NameAuction.Registrar.Handlers

/-!
# Sweeping the queues

A sweep advances everything that is due: auctions whose bid phase is over, then auctions whose reveal
phase is over, then registrations that have ended.  Each pass takes the first entry that is due off its
queue, handles it, and goes on with the first one after it, so entries are handled in the order of time
and name and none of them twice.

A queue entry without a record that agrees with it ends the sweep with a fault.
-/

namespace NameAuction.Registrar

open Turn

def dequeue? (store : Store) (queue : Queue) : Option Due → Store
  | none => store
  | some due => store.dequeue queue due

/-- Takes the next due entry off a queue: the first one, or the first after `cursor`. -/
def takeDue (setting : Setting) (queue : Queue) (cursor : Option Due) : Step (Option Due) := do
  let due ← look fun store => store.dueFrom queue setting.now cursor
  change fun store => dequeue? store queue due
  return due

/-- Handles the due entries of a queue from `cursor` on; `bound` is above their number. -/
def sweepFrom (setting : Setting) (queue : Queue) (settle : Due → Step Unit) :
    (bound : Nat) → Option Due → Step Unit
  | 0, _ => throw (Fault.defect .unfinishedSweep)
  | bound + 1, cursor => do
    match ← takeDue setting queue cursor with
    | none => pure ()
    | some due => do
      settle due
      sweepFrom setting queue settle bound (some due)

/-- Handles all due entries of a queue.  An entry that is handled leaves the queue, so what the queue
holds at the start bounds their number. -/
def sweepQueue (setting : Setting) (queue : Queue) (settle : Due → Step Unit) : Step Unit := do
  let entries ← look fun store => .ok (store.range (queue.dueSpan setting.now))
  sweepFrom setting queue settle (entries.length + 1) none

def corrupt (kind : QueueKind) (due : Due) (flaw : QueueFlaw) : Fault :=
  .corrupt (.queue kind due.time due.id flaw)

/-- The auction that an entry leads to; its phase and its end must be those of the entry. -/
def dueAuction (kind : QueueKind) (phase : Phase) (due : Due) : Step Auction := do
  let auction ← find (·.auction? due.id) (corrupt kind due .missing)
  ensure (auction.phase = phase ∧ auction.endTime = due.time) (corrupt kind due .disagrees)
  return auction

def startReveal (setting : Setting) (id : NameId) (auction : Auction) : Step Unit := do
  let endTime ← setting.now.after setting.params.revealPeriod
  change (·.setAuction id { auction with phase := .reveal, endTime := endTime })
  change (·.enqueue QueueKind.reveal.queue ⟨endTime, id⟩)
  tell (.revealStarted auction.name endTime)

def closeEmpty (id : NameId) (auction : Auction) : Step Unit := do
  change (·.deleteAuction id)
  tell (.closed auction.name)

/-- The end of a bid phase: the reveal phase starts if there is a bid to reveal. -/
def endBidPhase (setting : Setting) (due : Due) : Step Unit := do
  let auction ← dueAuction .bid .bid due
  let hasBids ← look fun store => .ok (store.hasBids due.id)
  if hasBids then startReveal setting due.id auction else closeEmpty due.id auction

/-- Burns the deposits of bids that were never revealed. -/
def slash (id : NameId) (name : Name) : List Bid → Step Unit
  | [] => pure ()
  | bid :: rest => do
    move (.burn (.ofCoin bid.deposit))
    change (·.deleteBid id bid.bidder)
    tell (.slashed name bid.bidder bid.deposit)
    slash id name rest

/-- The outcome of a reveal phase: the top bid, if there is one, is burned and its bidder owns the
name. -/
def award (setting : Setting) (id : NameId) (auction : Auction) : Step Unit :=
  match auction.topBid with
  | some top => do
    move (.burn (.ofCoin top.amount))
    let endTime ← setting.now.after setting.params.renewalInterval
    change (·.setRegistration id ⟨auction.name, top.bidder, endTime⟩)
    change (·.enqueue QueueKind.registration.queue ⟨endTime, id⟩)
    tell (.settled auction.name top.bidder top.amount endTime)
  | none => tell (.closed auction.name)

/-- The end of a reveal phase: the name is awarded, and who never revealed loses the deposit. -/
def endRevealPhase (setting : Setting) (due : Due) : Step Unit := do
  let auction ← dueAuction .reveal .reveal due
  change (·.deleteAuction due.id)
  award setting due.id auction
  let bids ← look (·.bidsOn due.id)
  slash due.id auction.name bids

/-- Forgets resolutions together with the reverse entries of their accounts. -/
def forgetResolutions (id : NameId) : List (NameId × Account) → Store → Store
  | [], store => store
  | (child, account) :: rest, store =>
    forgetResolutions id rest ((store.deleteResolution id child).deleteReverse account)

/-- The end of a registration: everything below the name is forgotten with it. -/
def expire (due : Due) : Step Unit := do
  let registration ← find (·.registration? due.id) (corrupt .registration due .missing)
  ensure (registration.endTime = due.time) (corrupt .registration due .disagrees)
  change (·.deleteRegistration due.id)
  let resolutions ← look (·.resolutionsOf due.id)
  change (forgetResolutions due.id resolutions)
  tell (.expired registration.name registration.owner)

def sweep (setting : Setting) : Step Unit := do
  sweepQueue setting QueueKind.bid.queue (endBidPhase setting)
  sweepQueue setting QueueKind.reveal.queue (endRevealPhase setting)
  sweepQueue setting QueueKind.registration.queue expire

end NameAuction.Registrar
