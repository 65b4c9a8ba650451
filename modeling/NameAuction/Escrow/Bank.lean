import NameAuction.Bundle
import NameAuction.Id
import Std.Data.ExtTreeMap

/-!
# The bank

Account balances, the escrow that holds deposits and winning bids, and a running total of what has been
burned.  Three moves exist: into the escrow, out of it, and from the escrow into the fire.  A move of
nothing does nothing, and a move that fails changes nothing.  New coins come in through `mint` only.
-/

namespace NameAuction

inductive EscrowFault
  | insufficientFunds (account : Account) (available needed : Bundle)
  | insufficientEscrow (available needed : Bundle)
  | overflow
deriving DecidableEq

def EscrowFault.message : EscrowFault → String
  | .insufficientFunds account available needed =>
    "insufficient funds: " ++ account.toHex ++ " has " ++ available.render ++ ", needs "
      ++ needed.render
  | .insufficientEscrow available needed =>
    "insufficient escrow: holds " ++ available.render ++ ", needs " ++ needed.render
  | .overflow => "escrow balance overflow"

/-- A transfer that concerns the escrow. -/
inductive Move
  | deposit (source : Account) (amount : Bundle)
  | payOut (target : Account) (amount : Bundle)
  | burn (amount : Bundle)
deriving DecidableEq

def Move.amount : Move → Bundle
  | .deposit _ amount => amount
  | .payOut _ amount => amount
  | .burn amount => amount

/-- What is left after taking `needed`, or the fault of not having it. -/
def Bundle.debit (available needed : Bundle) (fault : EscrowFault) : Except EscrowFault Bundle :=
  demand (available.sub? needed) fault

def Bundle.credit (balance amount : Bundle) : Except EscrowFault Bundle :=
  match balance.add amount with
  | .ok total => .ok total
  | .error _ => .error .overflow

/-- Accounts that hold nothing are not listed. -/
structure Bank where
  balances : Std.ExtTreeMap Account Bundle compare
  escrow : Bundle
  burned : Bundle

namespace Bank

def empty : Bank := ⟨∅, .empty, .empty⟩

instance : Inhabited Bank := ⟨empty⟩

def balance (bank : Bank) (account : Account) : Bundle := bank.balances[account]?.getD .empty

def setBalance (bank : Bank) (account : Account) (balance : Bundle) : Bank :=
  { bank with balances :=
      if balance.isEmpty then bank.balances.erase account
      else bank.balances.insert account balance }

def mint (bank : Bank) (account : Account) (amount : Bundle) : Except EscrowFault Bank := do
  let balance ← (bank.balance account).credit amount
  return bank.setBalance account balance

def apply (bank : Bank) (move : Move) : Except EscrowFault Bank :=
  if move.amount.isEmpty then .ok bank
  else
    match move with
    | .deposit source amount => do
      let available := bank.balance source
      let rest ← available.debit amount (.insufficientFunds source available amount)
      let escrow ← bank.escrow.credit amount
      return { bank with escrow := escrow }.setBalance source rest
    | .payOut target amount => do
      let rest ← bank.escrow.debit amount (.insufficientEscrow bank.escrow amount)
      let balance ← (bank.balance target).credit amount
      return { bank with escrow := rest }.setBalance target balance
    | .burn amount => do
      let rest ← bank.escrow.debit amount (.insufficientEscrow bank.escrow amount)
      let burned ← bank.burned.credit amount
      return { bank with escrow := rest, burned := burned }

/-- Adds bundles one after another. -/
def creditAll (total : Bundle) : List Bundle → Except EscrowFault Bundle
  | [] => .ok total
  | bundle :: rest => do creditAll (← total.credit bundle) rest

/-- All balances, the escrow and everything burned, if the sum fits. -/
def total (bank : Bank) : Except EscrowFault Bundle := do
  creditAll (← bank.escrow.credit bank.burned) (bank.balances.toList.map (·.2))

end Bank

end NameAuction
