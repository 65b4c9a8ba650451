import NameAuction.Fault

/-!
# Commands

What an account can ask of the registrar, and the checks that need no state.  They run before anything
is read: the name is looked at first, and it must have the levels that the command is for.
-/

namespace NameAuction

inductive Command
  | openAuction (name : Name) (organizer : Account)
  /-- The commitment is given in hexadecimal. -/
  | bid (name : Name) (commitment : String) (deposit : Coin) (bidder : Account)
  | reveal (name : Name) (salt : String) (amount : Coin) (bidder : Account)
  | renew (name : Name) (fee : Bundle) (owner : Account)
  | changeOwner (name : Name) (newOwner owner : Account)
  | setSubName (name : Name) (account owner : Account)
  | clearSubName (name : Name) (owner : Account)
deriving DecidableEq

/-- A name that is proper and has one of the listed numbers of levels. -/
def Name.checkLevels (name : Name) (allowed : List Nat) (flaw : NameFlaw) : Except Fault Unit :=
  match name.check with
  | .error other => .error (.name name.text other)
  | .ok () => ensure (name.levels ∈ allowed) (.name name.text flaw)

/-- The account of zeros stands for no account. -/
def Account.check (account : Account) : Except Fault Unit :=
  ensure (account ≠ Id.zero) .zeroAccount

def Coin.checkPositive (coin : Coin) : Except CoinFault Unit := do
  coin.check
  ensure coin.IsPositive (.notPositive coin)

namespace Command

/-- A bid whose commitment is given as such. -/
def sealedBid (name : Name) (commitment : Commitment) (deposit : Coin) (bidder : Account) :
    Command :=
  .bid name commitment.toHex deposit bidder

/-- The most bytes that a salt may have. -/
def maxSaltLength : Nat := 4

def name : Command → Name
  | .openAuction name _ => name
  | .bid name _ _ _ => name
  | .reveal name _ _ _ => name
  | .renew name _ _ => name
  | .changeOwner name _ _ => name
  | .setSubName name _ _ => name
  | .clearSubName name _ => name

def signer : Command → Account
  | .openAuction _ organizer => organizer
  | .bid _ _ _ bidder => bidder
  | .reveal _ _ _ bidder => bidder
  | .renew _ _ owner => owner
  | .changeOwner _ _ owner => owner
  | .setSubName _ _ owner => owner
  | .clearSubName _ owner => owner

def kind : Command → String
  | .openAuction .. => "open_auction"
  | .bid .. => "bid_auction"
  | .reveal .. => "reveal_bid"
  | .renew .. => "renew_registry"
  | .changeOwner .. => "update_owner"
  | .setSubName .. => "register_sub_name"
  | .clearSubName .. => "unregister_sub_name"

def checkSalt (salt : String) : Except Fault Unit :=
  ensure (0 < salt.utf8ByteSize ∧ salt.utf8ByteSize ≤ maxSaltLength)
    (.saltLength salt.utf8ByteSize)

/-- What is wrong with a command, as far as that can be seen without any state. -/
def check : Command → Except Fault Unit
  | .openAuction name organizer => do
    name.checkLevels [2] .auctionLevels
    Account.check organizer
  | .bid name commitment deposit bidder => do
    name.checkLevels [2] .auctionLevels
    let _ : Commitment ← Id.ofHex commitment
    Account.check bidder
    deposit.checkPositive
  | .reveal name salt amount bidder => do
    name.checkLevels [2] .auctionLevels
    checkSalt salt
    Account.check bidder
    amount.check
  | .renew name fee owner => do
    name.checkLevels [2] .registrationLevels
    ensure (fee.isEmpty = false) (.coins .emptyFee)
    Account.check owner
  | .changeOwner name newOwner owner => do
    name.checkLevels [2] .registrationLevels
    Account.check owner
    Account.check newOwner
  | .setSubName name account owner => do
    name.checkLevels [2, 3] .registerLevels
    Account.check account
    Account.check owner
  | .clearSubName name owner => do
    name.checkLevels [2, 3] .unregisterLevels
    Account.check owner

end Command

end NameAuction
