import NameAuction.Coin
import NameAuction.Name

/-!
# Auctions and registrations

The records that the registrar keeps.  An auction is first open for sealed bids and then for their
revealing; the best revealed bid so far is kept in it.  A bid is a commitment with a deposit.  A
registration gives a second-level name to an owner until it ends.
-/

namespace NameAuction

inductive Phase
  | bid
  | reveal
deriving DecidableEq

def Phase.word : Phase → String
  | .bid => "bid"
  | .reveal => "reveal"

/-- The highest revealed bid so far. -/
structure TopBid where
  bidder : Account
  amount : Coin
deriving DecidableEq

structure Auction where
  name : Name
  phase : Phase
  endTime : Time
  topBid : Option TopBid
deriving DecidableEq

def Auction.opened (name : Name) (endTime : Time) : Auction := ⟨name, .bid, endTime, none⟩

/-- A sealed bid: what the bidder has committed to, and the deposit that backs it. -/
structure Bid where
  commitment : Commitment
  deposit : Coin
  bidder : Account
deriving DecidableEq

/-- Ownership of a second-level name until it ends. -/
structure Registration where
  name : Name
  owner : Account
  endTime : Time
deriving DecidableEq

/-- The text that a sealed bid commits to. -/
def Commitment.preimage (salt : String) (name : Name) (amount : Coin) (bidder : Account) : String :=
  salt ++ ":" ++ name.text ++ ":" ++ amount.render ++ ":" ++ bidder.toHex

/-- What a bidder publishes while bids are sealed: the short digest of salt, name, amount and bidder. -/
def Commitment.seal (salt : String) (name : Name) (amount : Coin) (bidder : Account) : Commitment :=
  ⟨Hash.shortDigest (Bytes.ofText (preimage salt name amount bidder))⟩

end NameAuction
