import NameAuction.Auction
import NameAuction.Bundle

/-!
# Events

What has happened, as the registrar tells it.  `Event.inspect` is the line that a listing for a reader
shows.
-/

namespace NameAuction

inductive Event
  | opened (name : Name) (organizer : Account) (endTime : Time)
  | bidPlaced (name : Name) (bidder : Account) (deposit : Coin)
  | bidRevealed (name : Name) (bidder : Account) (amount : Coin) (isTop : Bool)
  | renewed (name : Name) (fee : Bundle) (endTime : Time)
  | ownerChanged (name : Name) (oldOwner newOwner : Account)
  | subNameSet (name : Name) (account : Account)
  | subNameCleared (name : Name) (account : Account)
  | revealStarted (name : Name) (endTime : Time)
  /-- An auction that ended without a winner. -/
  | closed (name : Name)
  | settled (name : Name) (owner : Account) (amount : Coin) (endTime : Time)
  /-- A deposit that was burned because its bid was never revealed. -/
  | slashed (name : Name) (bidder : Account) (deposit : Coin)
  | expired (name : Name) (owner : Account)
deriving DecidableEq

namespace Event

def title : Event → String × List String
  | .opened .. => ("AuctionOpened", ["name", "organizer", "end_time"])
  | .bidPlaced .. => ("BidPlaced", ["name", "bidder", "deposit"])
  | .bidRevealed .. => ("BidRevealed", ["name", "bidder", "amount", "top_bid"])
  | .renewed .. => ("RegistryRenewed", ["name", "fee", "end_time"])
  | .ownerChanged .. => ("OwnerUpdated", ["name", "old_owner", "new_owner"])
  | .subNameSet .. => ("SubNameRegistered", ["name", "address"])
  | .subNameCleared .. => ("SubNameUnregistered", ["name", "address"])
  | .revealStarted .. => ("RevealStarted", ["name", "end_time"])
  | .closed _ => ("AuctionClosed", ["name"])
  | .settled .. => ("AuctionSettled", ["name", "owner", "amount", "end_time"])
  | .slashed .. => ("BidSlashed", ["name", "bidder", "deposit"])
  | .expired .. => ("RegistryExpired", ["name", "owner"])

end Event

def Coin.inspect (coin : Coin) : String := "Coin(" ++ coin.render ++ ")"

def Bundle.inspect (bundle : Bundle) : String := "Coins(" ++ bundle.render ++ ")"

namespace Event

def shownFields : Event → List String
  | .opened name organizer endTime => [name.inspect, organizer.inspect, toString endTime]
  | .bidPlaced name bidder deposit => [name.inspect, bidder.inspect, deposit.inspect]
  | .bidRevealed name bidder amount isTop =>
    [name.inspect, bidder.inspect, amount.inspect, if isTop then "true" else "false"]
  | .renewed name fee endTime => [name.inspect, fee.inspect, toString endTime]
  | .ownerChanged name oldOwner newOwner => [name.inspect, oldOwner.inspect, newOwner.inspect]
  | .subNameSet name account => [name.inspect, account.inspect]
  | .subNameCleared name account => [name.inspect, account.inspect]
  | .revealStarted name endTime => [name.inspect, toString endTime]
  | .closed name => [name.inspect]
  | .settled name owner amount endTime =>
    [name.inspect, owner.inspect, amount.inspect, toString endTime]
  | .slashed name bidder deposit => [name.inspect, bidder.inspect, deposit.inspect]
  | .expired name owner => [name.inspect, owner.inspect]

/-- The name of an event with its fields, as in a listing for a reader. -/
def inspect (event : Event) : String :=
  let fields := event.title.2.zip event.shownFields
  event.title.1 ++ " \x7b "
    ++ String.intercalate ", " (fields.map fun field => field.1 ++ ": " ++ field.2) ++ " \x7d"

end Event

end NameAuction
