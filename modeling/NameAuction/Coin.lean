import NameAuction.Check
import NameAuction.Word
import NameAuction.Text.Quoted

/-!
# Coins

A coin is an amount of one denomination and is written as the amount followed by the denomination, as
in `900uluna`.  A coin by itself may carry any denomination; `Coin.check` says whether it is a proper
one: three to sixteen small letters and digits, the first a letter.
-/

namespace NameAuction

structure Coin where
  denom : String
  amount : Amount
deriving DecidableEq

inductive CoinFault
  | badDenom (text : String)
  | zeroAmount (denom : String)
  | repeatedDenom (denom : String)
  /-- A coin that should have a positive amount, as it was given. -/
  | notPositive (coin : Coin)
  | emptyFee
deriving DecidableEq

namespace Coin

def render (coin : Coin) : String := Nat.repr coin.amount.toNat ++ coin.denom

instance : ToString Coin := ⟨render⟩

def IsPositive (coin : Coin) : Prop := 0 < coin.amount

instance (coin : Coin) : Decidable coin.IsPositive := inferInstanceAs (Decidable (0 < coin.amount))

/-- At least as much of the same denomination. -/
def Covers (coin other : Coin) : Prop := coin.denom = other.denom ∧ other.amount ≤ coin.amount

instance (coin other : Coin) : Decidable (coin.Covers other) :=
  inferInstanceAs (Decidable (_ ∧ _))

/-- Proper denominations: a small letter, then two to fifteen small letters or digits. -/
def isDenom (denom : String) : Bool :=
  match denom.toList with
  | [] => false
  | first :: rest =>
    2 ≤ rest.length && rest.length ≤ 15 && first.isLower && rest.all fun c => c.isLower || c.isDigit

/-- A zero amount is no fault here. -/
def check (coin : Coin) : Except CoinFault Unit :=
  ensure (isDenom coin.denom) (.badDenom coin.denom)

end Coin

def CoinFault.message : CoinFault → String
  | .badDenom text => "invalid denom: " ++ Text.quoted text
  | .zeroAmount denom => "zero amount for " ++ denom
  | .repeatedDenom denom => "duplicate denom " ++ denom
  | .notPositive coin => coin.render
  | .emptyFee => "empty renewal fee"

end NameAuction
