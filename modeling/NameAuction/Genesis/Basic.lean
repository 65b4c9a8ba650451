import NameAuction.Auction
import NameAuction.Params

/-!
# Genesis documents

A genesis holds the parameters and every record of a registrar.  Queues and the index from accounts to
names are not part of it, since the records determine them.
-/

namespace NameAuction

structure PlacedBid where
  id : NameId
  bid : Bid
deriving DecidableEq

/-- An address to which a name, or a label below it, leads. -/
structure Resolution where
  id : NameId
  child : NameId
  account : Account
deriving DecidableEq

structure Genesis where
  params : Params
  auctions : List Auction
  bids : List PlacedBid
  registrations : List Registration
  resolutions : List Resolution
deriving DecidableEq

inductive GenesisFault
  | badName (name : Name) (flaw : NameFlaw)
  | notSecondLevel (name : Name)
  | wrongRoot (name : Name) (root : String)
  | repeatedAuction (name : Name)
  | earlyTopBid (name : Name)
  | revealWithoutBids (name : Name)
  | auctionAndRegistration (name : Name)
  | repeatedRegistration (name : Name)
  | bidWithoutAuction (id : NameId)
  | repeatedBid (bidder : Account) (id : NameId)
  | resolutionWithoutRegistration (id : NameId)
  | repeatedResolution (id : NameId)
  | repeatedAccount (account : Account)
deriving DecidableEq

end NameAuction
