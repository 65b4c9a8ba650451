import NameAuction.Escrow.Bank
import NameAuction.Genesis.Basic
import NameAuction.Rates
import NameAuction.Store.Disk
import NameAuction.Store.Key

/-!
# Faults

Every way in which a command, a query, a sweep or a document can be turned down.  A fault is a cause:
its wording is `Fault.message`, and `Fault.code` is the number by which front ends know its kind.  A
`defect` is no fault of the input and has no number.
-/

namespace NameAuction

inductive QueueKind
  | bid
  | reveal
  | registration
deriving DecidableEq

def QueueKind.word : QueueKind → String
  | .bid => "bid"
  | .reveal => "reveal"
  | .registration => "active registry"

inductive QueueFlaw
  | missing
  | disagrees
deriving DecidableEq

def QueueFlaw.message (flaw : QueueFlaw) (kind : QueueKind) : String :=
  match flaw, kind with
  | .missing, .registration => "has no registry"
  | .missing, _ => "has no auction"
  | .disagrees, .registration => "disagrees with its registry"
  | .disagrees, _ => "disagrees with its auction"

/-- A store that no sequence of calls leads to. -/
inductive Corruption
  | key (shape : Key.Shape) (key : Bytes)
  | queue (kind : QueueKind) (time : Time) (id : NameId) (flaw : QueueFlaw)
deriving DecidableEq

def Corruption.message : Corruption → String
  | .key shape bytes => "malformed " ++ shape.word ++ " key " ++ Hex.encode bytes
  | .queue kind time id flaw =>
    kind.word ++ " queue entry (" ++ toString time ++ ", " ++ id.toHex ++ ") " ++ flaw.message kind

inductive Fault
  | name (name : String) (flaw : NameFlaw)
  | saltLength (given : Nat)
  | id (fault : IdFault)
  | zeroAccount
  | nameLength (least : Count) (given : Nat)
  | commitmentDiffers (expected found : Commitment)
  | noAuction
  | noBid
  | noRegistration
  | noResolution
  | noReverse (account : Account)
  | wrongRoot (expected found : String)
  | nameTaken
  | auctionExists
  | notBidding (phase : Phase)
  | bidExists
  | notRevealing (phase : Phase)
  | accountTaken
  | depositTooSmall (deposit : Coin)
  | lowDeposit (least : Coin)
  | notOwner (owner : Account)
  | coins (fault : CoinFault)
  | params (fault : ParamsFault)
  | genesis (fault : GenesisFault)
  | overflow (place : Overflow)
  | escrow (fault : EscrowFault)
  | price (fault : PriceFault)
  | store (fault : StoreFault)
  /-- The bytes of a record that cannot be read. -/
  | codec
  | corrupt (corruption : Corruption)
  | defect (defect : Defect)
deriving DecidableEq

/-- The number of a fault's kind, for front ends; a defect has none. -/
def Fault.code : Fault → Option Nat
  | .name .. => some 1
  | .saltLength _ => some 2
  | .id (.length .account _) => some 104
  | .id (.length _ _) => some 3
  | .id (.hex _) => some 103
  | .zeroAccount => some 104
  | .nameLength .. => some 4
  | .commitmentDiffers .. => some 5
  | .noAuction => some 6
  | .noBid => some 7
  | .noRegistration => some 9
  | .noResolution => some 10
  | .noReverse _ => some 11
  | .wrongRoot .. => some 12
  | .nameTaken => some 13
  | .auctionExists => some 14
  | .notBidding _ => some 15
  | .bidExists => some 16
  | .notRevealing _ => some 17
  | .accountTaken => some 19
  | .depositTooSmall _ => some 20
  | .lowDeposit _ => some 21
  | .notOwner _ => some 101
  | .coins _ => some 102
  | .params _ => some 105
  | .genesis _ => some 106
  | .overflow _ => some 107
  | .escrow _ => some 110
  | .price _ => some 111
  | .store _ => some 120
  | .codec => some 121
  | .corrupt _ => some 122
  | .defect _ => none

/-! ### Wording -/

def nameMessage (name : String) (flaw : NameFlaw) : String :=
  "Failed to validate name " ++ name ++ ": " ++ flaw.message

def IdFault.message : IdFault → String
  | .hex fault => "Invalid hex: " ++ fault.message
  | .length .account given => "Invalid address: expected 20 bytes, got " ++ Nat.repr given
  | .length _ given => "The hash bytes length should equal 20 but given " ++ Nat.repr given

def CoinFault.report (fault : CoinFault) : String := "Invalid coins: " ++ fault.message

def ParamsFault.message : ParamsFault → String
  | .unreadable => "unreadable document"
  | .shortPeriod period given =>
    period.word ++ " must be at least 10 minutes, got " ++ toString given ++ "s"
  | .minDeposit fault => "min_deposit: " ++ fault.report
  | .badRoot root flaw => "root_name: " ++ nameMessage root flaw
  | .rootLevels root => "root_name " ++ root ++ " must be a single label"
  | .zeroNameLength => "min_name_length must be bigger than 0"
  | .repeatedLength length => "renewal_fees has duplicated length " ++ toString length
  | .badFee amount => "renewal_fees contains invalid coin " ++ amount.render

def GenesisFault.message : GenesisFault → String
  | .badName name flaw => nameMessage name.text flaw
  | .notSecondLevel name => name.text ++ " is not a second level name"
  | .wrongRoot name root => name.text ++ " is not under ." ++ root
  | .repeatedAuction name => "duplicate auction for " ++ name.text
  | .earlyTopBid name => "auction " ++ name.text ++ " has a top bid in bid phase"
  | .revealWithoutBids name => "auction " ++ name.text ++ " is in reveal phase without bids"
  | .auctionAndRegistration name => name.text ++ " has both an auction and a registry"
  | .repeatedRegistration name => "duplicate registry for " ++ name.text
  | .bidWithoutAuction id => "bid on " ++ id.toHex ++ " without an auction"
  | .repeatedBid bidder id => "duplicate bid by " ++ bidder.toHex ++ " on " ++ id.toHex
  | .resolutionWithoutRegistration id => "resolve under " ++ id.toHex ++ " without a registry"
  | .repeatedResolution id => "duplicate resolve under " ++ id.toHex
  | .repeatedAccount account => "address " ++ account.toHex ++ " resolved twice"

def Overflow.message (place : Overflow) : String := "Arithmetic overflow: " ++ place.place

def Fault.message : Fault → String
  | .name text flaw => nameMessage text flaw
  | .saltLength given => "Salt length should be 1~4, but given " ++ Nat.repr given
  | .id fault => fault.message
  | .zeroAccount => "Invalid address: empty address"
  | .nameLength least given =>
    "Name length should be bigger than or equal to " ++ toString least ++ ", but given "
      ++ Nat.repr given
  | .commitmentDiffers expected found =>
    "Retrieved hash [" ++ found.toHex ++ "] differs from bid hash [" ++ expected.toHex ++ "]"
  | .noAuction => "There is no auction for the given name"
  | .noBid => "There is no bid for the given name and address"
  | .noRegistration => "There is no registry for the given name"
  | .noResolution => "There is no resolve entry for the given name"
  | .noReverse account => "There is no reverse resolve entry for " ++ account.toHex
  | .wrongRoot expected found => "The root name should be " ++ expected ++ " not " ++ found
  | .nameTaken => "The name already taken"
  | .auctionExists => "The name auction exists"
  | .notBidding phase => "The auction is not bid status, but " ++ phase.word ++ " status"
  | .bidExists => "Bid is already exists"
  | .notRevealing phase => "The auction is not reveal status, but " ++ phase.word ++ " status"
  | .accountTaken => "Address is already registered"
  | .depositTooSmall deposit =>
    "Bid amount must be smaller than or equal to deposit " ++ deposit.render
  | .lowDeposit least => "Deposit can not be smaller than " ++ least.render
  | .notOwner owner => "Unauthorized: registered owner is " ++ owner.toHex
  | .coins fault => fault.report
  | .params fault => "Invalid params: " ++ fault.message
  | .genesis fault => "Invalid genesis: " ++ fault.message
  | .overflow place => place.message
  | .escrow fault => fault.message
  | .price fault => fault.message
  | .store fault => fault.message
  | .codec => "Codec error"
  | .corrupt corruption => "Corrupt state: " ++ corruption.message
  | .defect broken => broken.message

/-! ### Faults of parts as faults of the whole

An outcome of a part can stand where an outcome of the whole is wanted. -/

def Fault.lift {ε α : Type} (fault : ε → Fault) : Except ε α → Except Fault α
  | .ok value => .ok value
  | .error e => .error (fault e)

instance : MonadLift (Except IdFault) (Except Fault) := ⟨Fault.lift .id⟩

instance : MonadLift (Except CoinFault) (Except Fault) := ⟨Fault.lift .coins⟩

instance : MonadLift (Except ParamsFault) (Except Fault) := ⟨Fault.lift .params⟩

instance : MonadLift (Except GenesisFault) (Except Fault) := ⟨Fault.lift .genesis⟩

instance : MonadLift (Except Overflow) (Except Fault) := ⟨Fault.lift .overflow⟩

instance : MonadLift (Except EscrowFault) (Except Fault) := ⟨Fault.lift .escrow⟩

/-- A defect of a conversion is a defect of the whole. -/
def Fault.ofPrice : PriceFault → Fault
  | .defect broken => .defect broken
  | fault => .price fault

instance : MonadLift (Except PriceFault) (Except Fault) := ⟨Fault.lift .ofPrice⟩

instance : MonadLift (Except StoreFault) (Except Fault) := ⟨Fault.lift .store⟩

instance : MonadLift (Except Defect) (Except Fault) := ⟨Fault.lift .defect⟩

end NameAuction
