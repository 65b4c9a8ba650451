import NameAuction.Fault

/-!
# Renewal

What a payment buys.  The row of the fee table is the one for the longest labels that the name's label
reaches; every coin of the payment is valued in that row's denomination; the row's amount buys one renewal
interval and other amounts buy in proportion, rounded down to whole seconds.
-/

namespace NameAuction.Renewal

/-- The smallest length in the fee table, or the largest count where the table is empty. -/
def leastLength (table : FeeTable) : Count :=
  table.rows.foldl (fun least row => if row.length < least then row.length else least) Word.max

/-- What the coins are worth in one denomination, added to what has been paid already. -/
def value (rates : Rates) (denom : String) (paid : Amount) : List Coin → Except Fault Amount
  | [] => .ok paid
  | coin :: rest => do
    let converted ← rates.convert coin denom
    let paid ← demand (paid.add? converted.amount) (.overflow .renewalTotal)
    value rates denom paid rest

/-- The seconds that a payment of `paid` buys at a price of `price` for each interval. -/
def seconds (interval : Time) (paid price : Amount) : Except Fault Time := do
  let product : Amount ←
    demand (Word.ofNat? (interval.toNat * paid.toNat)) (.overflow .renewalExtension)
  let quotient ← demand (product.div? price) (.defect .divisionByZero)
  demand (Word.ofNat? quotient.toNat) (.overflow .renewalExtension)

/-- The seconds that a payment buys for a name whose label has `labelLength` bytes. -/
def extension (fee : Bundle) (labelLength : Nat) (params : Params) (rates : Rates) :
    Except Fault Time :=
  match params.fees.row? labelLength with
  | none => .error (.nameLength (leastLength params.fees) labelLength)
  | some row => do
    let paid ← value rates row.amount.denom 0 fee.coins
    seconds params.renewalInterval paid row.amount.amount

end NameAuction.Renewal
