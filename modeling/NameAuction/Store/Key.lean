import NameAuction.Auction

/-!
# Keys

Every collection lives in its own region of the store: the first byte of a key names the collection, and
identifiers and times follow it.

    1 name            registration
    2 name child      address of a resolution
    3 account         name of the resolution that leads to the account
    4 time name       registrations by their end
    5 name            auction
    6 name account    bid
    7 time name       auctions in the bid phase by its end
    8 time name       auctions in the reveal phase by its end

A time takes eight bytes, the highest first, so keys of a queue sort by time and then by name.
-/

namespace NameAuction.Key

def registrations : UInt8 := 1

def resolutions : UInt8 := 2

def reverses : UInt8 := 3

def registrationQueue : UInt8 := 4

def auctions : UInt8 := 5

def bids : UInt8 := 6

def bidQueue : UInt8 := 7

def revealQueue : UInt8 := 8

def registration (id : NameId) : Bytes := registrations :: id.bytes

/-- What the keys of all resolutions below one name start with. -/
def resolutionsOf (id : NameId) : Bytes := resolutions :: id.bytes

def resolution (id child : NameId) : Bytes := resolutionsOf id ++ child.bytes

def reverse (account : Account) : Bytes := reverses :: account.bytes

def auction (id : NameId) : Bytes := auctions :: id.bytes

def bidsOn (id : NameId) : Bytes := bids :: id.bytes

def bid (id : NameId) (bidder : Account) : Bytes := bidsOn id ++ bidder.bytes

def queueTime (queue : UInt8) (time : Time) : Bytes := queue :: Bytes.bigEndian 8 time.toNat

def queued (queue : UInt8) (time : Time) (id : NameId) : Bytes := queueTime queue time ++ id.bytes

/-- The collections whose keys are taken apart again. -/
inductive Shape
  | resolution
  | bid
  | queue
deriving DecidableEq

def Shape.word : Shape → String
  | .resolution => "resolve"
  | .bid => "bid"
  | .queue => "queue"

end NameAuction.Key
