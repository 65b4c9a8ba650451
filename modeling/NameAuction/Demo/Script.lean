import NameAuction.Demo.Accounts
import NameAuction.Demo.Config
import NameAuction.Json.Message
import NameAuction.Registrar.Basic
import NameAuction.Store.Digest

/-!
# The demonstration

Three bidders compete for one name.  Two of them reveal, the third never does and loses the deposit; the
winner then uses the name, renews it, and the log is checked.  What is shown on the way is collected, so
that it is there even where the demonstration ends early.
-/

namespace NameAuction.Demo

/-! ### Balances -/

def times (amount : Amount) (factor : Nat) : Except Stop Amount :=
  match Word.ofNat? (amount.toNat * factor) with
  | some product => .ok product
  | none => .error (.broken .numberTooLarge)

/-- Four times each fee that is not in the denomination of the deposit. -/
def feeFunds (denom : String) : List FeeRow → Except Stop (List Coin)
  | [] => .ok []
  | row :: rest =>
    if row.amount.denom = denom then feeFunds denom rest
    else do
      let amount ← times row.amount.amount 4
      return ⟨row.amount.denom, amount⟩ :: (← feeFunds denom rest)

/-- What every bidder starts with: ten deposits, and four times each fee. -/
def initialBalance (params : Params) : Except Stop Bundle := do
  let deposits ← times params.minDeposit.amount 10
  let fees ← feeFunds params.minDeposit.denom params.fees.rows
  match Bundle.ofCoins (⟨params.minDeposit.denom, deposits⟩ :: fees) with
  | .ok balance => return balance
  | .error fault => throw (.because "Failed to build initial balances" (.coins fault))

def fund (balance : Bundle) : List Account → Bank → Except Stop Bank
  | [], bank => .ok bank
  | account :: rest, bank =>
    match bank.mint account balance with
    | .ok bank => fund balance rest bank
    | .error fault => .error (.ofFault (.escrow fault))

def opening (params : Params) : Except Stop Registrar := do
  let balance ← initialBalance params
  let bank ← fund balance [alice, bob, carol] .empty
  match Registrar.start (.ofEntries ∅) bank (.quotedIn params.minDeposit.denom) params with
  | .ok registrar => return registrar
  | .error fault => throw (.because "Failed to start the name service" fault)

/-! ### The script -/

structure Scene where
  registrar : Registrar
  /-- The lines shown so far. -/
  shown : List String
  /-- The genesis that has been saved. -/
  saved : Option String

abbrev Script (α : Type) := ExceptT Stop (StateM Scene) α

def say (line : String) : Script Unit :=
  modify fun scene => { scene with shown := scene.shown ++ [line] }

/-- An outcome whose fault ends the demonstration. -/
def need {α : Type} (outcome : Except Fault α) (report : Fault → Stop) : Script α :=
  match outcome with
  | .ok value => pure value
  | .error fault => throw (report fault)

def number (outcome : Except Stop α) : Script α :=
  match outcome with
  | .ok value => pure value
  | .error stop => throw stop

def later (time : Time) (seconds : Nat) : Except Stop Time :=
  match Word.ofNat? (time.toNat + seconds) with
  | some later => .ok later
  | none => .error (.broken .numberTooLarge)

def call (act : Registrar → Except Fault (List Event) × Registrar) (report : Fault → Stop) :
    Script Unit := do
  let scene ← get
  let (outcome, registrar) := act scene.registrar
  set { scene with registrar := registrar }
  let events ← need outcome report
  events.forM fun event => say ("  " ++ event.inspect)

def deliver (now : Time) (command : Command) : Script Unit :=
  call (·.deliver now command) .ofFault

structure Offer where
  bidder : Account
  salt : String
  amount : Coin
  deposit : Coin

def Offer.commitment (offer : Offer) (name : Name) : Commitment :=
  .seal offer.salt name offer.amount offer.bidder

/-- The three bids: the deposit of each covers its amount. -/
def offers (least : Coin) : Except Stop (List Offer) := do
  let coin (amount : Amount) : Coin := ⟨least.denom, amount⟩
  let double ← times least.amount 2
  let triple ← times least.amount 3
  let half : Amount := ⟨triple.toNat / 2, Nat.lt_of_le_of_lt (Nat.div_le_self ..) triple.toNat_lt⟩
  let fivefold ← times least.amount 5
  return [
    ⟨alice, "a1", coin least.amount, coin double⟩,
    ⟨bob, "b0b", coin half, coin double⟩,
    ⟨carol, "c", coin fivefold, coin fivefold⟩]

def bidPhase (config : Config) (offers : List Offer) : Script Unit := do
  let name := config.name
  say "--- Bid phase ---"
  call (·.deliver config.start (.openAuction name alice)) (.because "open auction")
  offers.forM fun offer => do
    let commitment := offer.commitment name
    say ("  " ++ offer.bidder.toHex ++ " commits " ++ commitment.toHex)
    deliver (← number (later config.start 1))
      (.sealedBid name commitment offer.deposit offer.bidder)
  say ("Escrowed: " ++ (← get).registrar.bank.escrow.render)

/-- The last bid of the list is not revealed. -/
def revealPhase (config : Config) (offers : List Offer) : Script Time := do
  say "\n--- Reveal phase ---"
  let bidEnd ← number (later config.start config.params.bidPeriod.toNat)
  call (·.endBlock bidEnd) .ofFault
  (offers.take 2).forM fun offer => do
    deliver (← number (later bidEnd 1)) (.reveal config.name offer.salt offer.amount offer.bidder)
  return bidEnd

def settlement (config : Config) (bidEnd : Time) : Script (Time × Account) := do
  say "\n--- Settlement ---"
  let revealEnd ← number (later bidEnd config.params.revealPeriod.toNat)
  call (·.endBlock revealEnd) .ofFault
  let registrar := (← get).registrar
  let registration ← need (Query.registrationIn registrar.store config.name)
    (.because "auction did not settle")
  say ("Owner:   " ++ registration.owner.toHex)
  say ("Expires: " ++ toString registration.endTime)
  say ("Burned:  " ++ registrar.bank.burned.render)
  return (revealEnd, registration.owner)

/-- Renews the name by the amount of its fee row, where there is one. -/
def renewal (config : Config) (revealEnd : Time) (owner : Account) : Script Unit := do
  let parts ← need (liftM config.name.parts) .ofFault
  match config.params.fees.row? parts.parent.utf8ByteSize with
  | some row => do
    deliver (← number (later revealEnd 2)) (.renew config.name (.ofCoin row.amount) owner)
    let registration ← need (Query.registrationIn (← get).registrar.store config.name) .ofFault
    say ("Renewed until " ++ toString registration.endTime)
  | none => say ("No renewal fee row for " ++ parts.parent ++ ", skipping renewal")

def usage (config : Config) (revealEnd : Time) (owner : Account) : Script Unit := do
  say "\n--- Registry ---"
  let name : Name := ⟨"shop." ++ config.name.text⟩
  deliver (← number (later revealEnd 1)) (.setSubName name shop owner)
  let store := (← get).registrar.store
  let account ← need (Query.resolutionIn store name) .ofFault
  say (name.text ++ " -> " ++ account.toHex)
  let registration ← need (Query.reverseIn store shop) .ofFault
  say (shop.toHex ++ " <- " ++ registration.name.text)
  renewal config revealEnd owner

def audit : Script Unit := do
  say "\n--- Audit ---"
  let registrar := (← get).registrar
  say ("Events:       " ++ Nat.repr registrar.log.length)
  say ("Log head:     " ++ registrar.log.head.toHex)
  say ("Chain valid:  " ++ if registrar.log.verify then "true" else "false")
  say ("State digest: " ++ registrar.store.digest.toHex)
  let (entries, registrar) := registrar.drain
  modify fun scene => { scene with registrar := registrar }
  say ("Drained:      " ++ Nat.repr entries.length ++ " entries")

def saveGenesis (path : String) : Script Unit := do
  let genesis ← need (← get).registrar.genesis .ofFault
  let text := (Form.toJson genesis).pretty
  modify fun scene => { scene with saved := some text }
  say ("Genesis written to " ++ path)

def script (config : Config) : Script Unit := do
  say ("=== Sealed-bid auction for " ++ config.name.text ++ " ===\n")
  let offers ← number (offers config.params.minDeposit)
  bidPhase config offers
  let bidEnd ← revealPhase config offers
  let (revealEnd, owner) ← settlement config bidEnd
  usage config revealEnd owner
  audit
  match config.genesisPath with
  | some path => saveGenesis path
  | none => pure ()

/-! ### The outcome -/

structure Outcome where
  /-- What was shown, each line with its end. -/
  shown : String
  /-- The genesis that was saved. -/
  saved : Option String
  stop : Option Stop

def Outcome.exitCode (outcome : Outcome) : Nat :=
  match outcome.stop with
  | none => 0
  | some (.failed _) => 1
  | some (.broken _) => 101

def linesOf (shown : List String) : String := String.join (shown.map (· ++ "\n"))

def run (input : Input) : Outcome :=
  match (do let config ← Config.ofInput input; return (config, ← opening config.params) :
      Except Stop (Config × Registrar)) with
  | .error stop => ⟨"", none, some stop⟩
  | .ok (config, registrar) =>
    match (script config).run ⟨registrar, [], none⟩ with
    | (.ok (), scene) => ⟨linesOf scene.shown, scene.saved, none⟩
    | (.error stop, scene) => ⟨linesOf scene.shown, scene.saved, some stop⟩

end NameAuction.Demo
