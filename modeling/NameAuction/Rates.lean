import NameAuction.Coin
import NameAuction.Defect
import Std.Data.ExtTreeMap

/-!
# Exchange rates

Rates are quoted against one reference denomination: a rate of `num / den` says that one unit of the
reference is worth `num / den` units of the other.  A rate is never zero and never divides by zero,
which its type carries.  A conversion rounds down; that there is something to divide by is a promise of
the rates, so a zero there would be a defect.
-/

namespace NameAuction

/-- A positive ratio. -/
structure Rate where
  num : Amount
  den : Amount
  num_pos : 0 < num
  den_pos : 0 < den

inductive PriceFault
  | noPrice (denom : String)
  | overflow (coin : Coin)
  | defect (defect : Defect)
deriving DecidableEq

def PriceFault.message : PriceFault → String
  | .noPrice denom => "no effective price for " ++ denom
  | .overflow coin => "price conversion overflow converting " ++ coin.render
  | .defect broken => broken.message

structure Rates where
  reference : String
  table : Std.ExtTreeMap String Rate compare

namespace Rate

/-- The rate of the reference itself. -/
def one : Rate := ⟨⟨1, by decide⟩, ⟨1, by decide⟩, by decide, by decide⟩

def ofAmounts? (num den : Amount) : Option Rate :=
  if h : 0 < num ∧ 0 < den then some ⟨num, den, h.1, h.2⟩ else none

end Rate

namespace Rates

def quotedIn (reference : String) : Rates := ⟨reference, ∅⟩

/-- Sets the rate of a denomination; a zero on either side clears it. -/
def set (rates : Rates) (denom : String) (num den : Amount) : Rates :=
  match Rate.ofAmounts? num den with
  | some rate => { rates with table := rates.table.insert denom rate }
  | none => { rates with table := rates.table.erase denom }

def rate (rates : Rates) (denom : String) : Except PriceFault Rate :=
  if denom = rates.reference then .ok .one
  else
    demand rates.table[denom]? (.noPrice denom)

/-- The amount of a coin at the price of the target over the price of its own denomination, rounded down. -/
def scale (coin : Coin) (source target : Rate) : Except PriceFault Amount := do
  let numerator ← demand (coin.amount.mul? target.num >>= (·.mul? source.den)) (.overflow coin)
  let denominator ← demand (target.den.mul? source.num) (.overflow coin)
  demand (numerator.div? denominator) (.defect .divisionByZero)

def convert (rates : Rates) (coin : Coin) (target : String) : Except PriceFault Coin :=
  if coin.denom = target then .ok coin
  else do
    let source ← rates.rate coin.denom
    let goal ← rates.rate target
    let amount ← scale coin source goal
    return ⟨target, amount⟩

end Rates

end NameAuction
