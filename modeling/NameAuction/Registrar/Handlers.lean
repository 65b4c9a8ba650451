import NameAuction.Registrar.Turn

/-!
# Handling commands

One function for each command.  Each of them looks at the records first and then moves coins, changes
records and tells what has happened; the order in which it looks decides which fault is reported where
there are several.
-/

namespace NameAuction.Registrar

open Turn

/-- Opens an auction for a name that nobody owns and that is not being auctioned. -/
def openAuction (setting : Setting) (name : Name) (organizer : Account) : Step Unit := do
  let parts ← name.parts
  let length := parts.parent.utf8ByteSize
  ensure (parts.root = setting.params.root) (Fault.wrongRoot setting.params.root parts.root)
  ensure (setting.params.minNameLength.toNat ≤ length)
    (Fault.nameLength setting.params.minNameLength length)
  let id ← name.id
  expect (fun store => !store.hasRegistration id) .nameTaken
  expect (fun store => !store.hasAuction id) .auctionExists
  let endTime ← setting.now.after setting.params.bidPeriod
  change (·.setAuction id (.opened name endTime))
  change (·.enqueue QueueKind.bid.queue ⟨endTime, id⟩)
  tell (.opened name organizer endTime)

/-- Places a sealed bid and takes its deposit into the escrow. -/
def placeBid (setting : Setting) (name : Name) (commitment : String) (deposit : Coin)
    (bidder : Account) : Step Unit := do
  let id ← name.id
  let auction ← find (·.auction? id) .noAuction
  ensure (auction.phase = .bid) (Fault.notBidding auction.phase)
  let earlier ← look (·.bid? id bidder)
  ensure (earlier = none) Fault.bidExists
  ensure (deposit.Covers setting.params.minDeposit) (Fault.lowDeposit setting.params.minDeposit)
  let commitment ← Id.ofHex commitment
  move (.deposit bidder (.ofCoin deposit))
  change (·.setBid id ⟨commitment, deposit, bidder⟩)
  tell (.bidPlaced name bidder deposit)

/-- Whether an amount leads an auction; of two equal amounts the earlier one does. -/
def leads (auction : Auction) (amount : Coin) : Bool :=
  match auction.topBid with
  | none => true
  | some top => top.amount.amount < amount.amount

def payBackTop (auction : Auction) : Step Unit :=
  match auction.topBid with
  | none => pure ()
  | some top => move (.payOut top.bidder (.ofCoin top.amount))

/-- Pays out what a revealed bid sets free.  A bid that takes the lead stays in the escrow with its
amount: the bid that led before and what the deposit exceeds the amount by are paid back.  Any other bid
gets its deposit back. -/
def payOutRevealed (auction : Auction) (bid : Bid) (amount : Coin) (bidder : Account) : Step Unit :=
  if leads auction amount then do
    payBackTop auction
    let surplus ← demand (bid.deposit.amount.sub? amount.amount) (Fault.defect .negativeDifference)
    move (.payOut bidder (.ofCoin ⟨amount.denom, surplus⟩))
  else move (.payOut bidder (.ofCoin bid.deposit))

def afterReveal (auction : Auction) (amount : Coin) (bidder : Account) : Auction :=
  if leads auction amount then { auction with topBid := some ⟨bidder, amount⟩ } else auction

/-- Reveals a bid: it must be the one that was sealed, and its deposit must cover it. -/
def revealBid (name : Name) (salt : String) (amount : Coin) (bidder : Account) : Step Unit := do
  let id ← name.id
  let auction ← find (·.auction? id) .noAuction
  ensure (auction.phase = .reveal) (Fault.notRevealing auction.phase)
  let bid ← find (·.bid? id bidder) .noBid
  let found := Commitment.seal salt name amount bidder
  ensure (found = bid.commitment) (Fault.commitmentDiffers bid.commitment found)
  ensure (bid.deposit.Covers amount) (Fault.depositTooSmall bid.deposit)
  payOutRevealed auction bid amount bidder
  change (·.deleteBid id bidder)
  change (·.setAuction id (afterReveal auction amount bidder))
  tell (.bidRevealed name bidder amount (leads auction amount))

/-- The registration of a name, which must exist and belong to `owner`. -/
def ownedBy (id : NameId) (owner : Account) : Step Registration := do
  let registration ← find (·.registration? id) .noRegistration
  ensure (registration.owner = owner) (Fault.notOwner registration.owner)
  return registration

/-- Burns a fee and extends a registration by what it buys. -/
def renew (setting : Setting) (name : Name) (fee : Bundle) (owner : Account) : Step Unit := do
  let id ← name.id
  let registration ← ownedBy id owner
  let parts ← name.parts
  let extension ← Renewal.extension fee parts.parent.utf8ByteSize setting.params setting.rates
  let endTime ← registration.endTime.after extension
  move (.deposit owner fee)
  move (.burn fee)
  change (·.dequeue QueueKind.registration.queue ⟨registration.endTime, id⟩)
  change (·.setRegistration id { registration with endTime := endTime })
  change (·.enqueue QueueKind.registration.queue ⟨endTime, id⟩)
  tell (.renewed name fee endTime)

def changeOwner (name : Name) (newOwner owner : Account) : Step Unit := do
  let id ← name.id
  let registration ← ownedBy id owner
  change (·.setRegistration id { registration with owner := newOwner })
  tell (.ownerChanged name owner newOwner)

/-- Lets a name, or a label below it, lead to an account that no name leads to yet. -/
def setSubName (name : Name) (account owner : Account) : Step Unit := do
  let ids ← name.ids
  let _ ← ownedBy ids.1 owner
  let reverse ← look (·.reverse? account)
  ensure (reverse = none) Fault.accountTaken
  let resolution ← look (·.resolution? ids.1 ids.2)
  ensure (resolution = none) Fault.nameTaken
  change (·.setResolution ids.1 ids.2 account)
  change (·.setReverse account ids.1)
  tell (.subNameSet name account)

def clearSubName (name : Name) (owner : Account) : Step Unit := do
  let ids ← name.ids
  let _ ← ownedBy ids.1 owner
  let account ← find (·.resolution? ids.1 ids.2) .noResolution
  change (·.deleteResolution ids.1 ids.2)
  change (·.deleteReverse account)
  tell (.subNameCleared name account)

def handle (setting : Setting) : Command → Step Unit
  | .openAuction name organizer => openAuction setting name organizer
  | .bid name commitment deposit bidder => placeBid setting name commitment deposit bidder
  | .reveal name salt amount bidder => revealBid name salt amount bidder
  | .renew name fee owner => renew setting name fee owner
  | .changeOwner name newOwner owner => changeOwner name newOwner owner
  | .setSubName name account owner => setSubName name account owner
  | .clearSubName name owner => clearSubName name owner

end NameAuction.Registrar
