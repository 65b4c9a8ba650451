import NameAuction.Coin
import NameAuction.Name

/-!
# Parameters

How long the phases last, what a bid must deposit at least, under which root names are auctioned, how
long their labels must be, and what a renewal costs.  `Params.check` says whether a set of parameters
can be used.
-/

namespace NameAuction

/-- The price of a renewal for names whose label has at least `length` bytes. -/
structure FeeRow where
  length : Count
  amount : Coin
deriving DecidableEq

structure FeeTable where
  rows : List FeeRow
deriving DecidableEq

/-- The row of two that asks for the longer label; the later one of two equals. -/
def FeeTable.better (best : Option FeeRow) (row : FeeRow) : Option FeeRow :=
  match best with
  | none => some row
  | some other => if other.length ≤ row.length then some row else some other

/-- The row with the largest length that does not exceed the length of a label. -/
def FeeTable.row? (table : FeeTable) (labelLength : Nat) : Option FeeRow :=
  (table.rows.filter fun row => row.length.toNat ≤ labelLength).foldl better none

structure Params where
  bidPeriod : Time
  revealPeriod : Time
  renewalInterval : Time
  minDeposit : Coin
  root : String
  minNameLength : Count
  fees : FeeTable
deriving DecidableEq

inductive Period
  | bid
  | reveal
  | renewal
deriving DecidableEq

def Period.word : Period → String
  | .bid => "bid_period"
  | .reveal => "reveal_period"
  | .renewal => "renewal_interval"

inductive ParamsFault
  /-- A document that holds no parameters. -/
  | unreadable
  | shortPeriod (period : Period) (given : Time)
  | minDeposit (fault : CoinFault)
  | badRoot (root : String) (flaw : NameFlaw)
  | rootLevels (root : String)
  | zeroNameLength
  | repeatedLength (length : Count)
  | badFee (amount : Coin)
deriving DecidableEq

namespace Params

def minute : Nat := 60

def day : Nat := 24 * 60 * minute

/-- The shortest period that the parameters may set: ten minutes. -/
def minPeriod : Time := ⟨10 * minute, by decide⟩

def standard : Params where
  bidPeriod := ⟨2 * day, by decide⟩
  revealPeriod := ⟨3 * day, by decide⟩
  renewalInterval := ⟨365 * day, by decide⟩
  minDeposit := ⟨"uluna", ⟨512000000, by decide⟩⟩
  root := "terra"
  minNameLength := ⟨3, by decide⟩
  fees := ⟨[
    ⟨⟨3, by decide⟩, ⟨"usdr", ⟨400000000, by decide⟩⟩⟩,
    ⟨⟨4, by decide⟩, ⟨"usdr", ⟨100000000, by decide⟩⟩⟩,
    ⟨⟨5, by decide⟩, ⟨"usdr", ⟨5000000, by decide⟩⟩⟩]⟩

instance : Inhabited Params := ⟨standard⟩

def checkPeriod (period : Period) (given : Time) : Except ParamsFault Unit :=
  ensure (minPeriod ≤ given) (.shortPeriod period given)

/-- What is wrong with the first bad row; `seen` holds the lengths of the rows before. -/
def checkRows (seen : List Count) : List FeeRow → Except ParamsFault Unit
  | [] => .ok ()
  | row :: rest =>
    if row.length ∈ seen then .error (.repeatedLength row.length)
    else if Coin.isDenom row.amount.denom ∧ row.amount.IsPositive then
      checkRows (row.length :: seen) rest
    else .error (.badFee row.amount)

def checkRoot (root : String) : Except ParamsFault Unit :=
  match (Name.mk root).check with
  | .error flaw => .error (.badRoot root flaw)
  | .ok () => ensure ((Name.mk root).levels = 1) (.rootLevels root)

def checkMinDeposit (coin : Coin) : Except ParamsFault Unit :=
  match coin.check with
  | .error fault => .error (.minDeposit fault)
  | .ok () => .ok ()

/-- What is wrong with a set of parameters, in the order of its fields. -/
def check (params : Params) : Except ParamsFault Unit := do
  checkPeriod .bid params.bidPeriod
  checkPeriod .reveal params.revealPeriod
  checkPeriod .renewal params.renewalInterval
  checkMinDeposit params.minDeposit
  checkRoot params.root
  ensure (params.minNameLength ≠ 0) .zeroNameLength
  checkRows [] params.fees.rows

end Params

end NameAuction
