import NameAuction.Escrow.Bank

/-!
# Staged moves

A vault is a bank with stages on top of it, each of which records moves without carrying them out
below.  What is seen through the stages is what the balances would be, and a move is checked against
that.  Committing a stage carries out its moves one level below, in their order, and stops at the first
that fails; discarding it forgets them.

A stage does not know the burned total, so a burn that would overflow it is accepted by a stage and fails
when it reaches the bank.
-/

namespace NameAuction

/-- Moves that are recorded but not yet carried out, with the balances that they have touched. -/
structure Stage where
  balances : Std.ExtTreeMap Account Bundle compare
  escrow : Option Bundle
  moves : List Move

def Stage.empty : Stage := ⟨∅, none, []⟩

structure Vault where
  bank : Bank
  /-- The innermost stage comes first. -/
  stages : List Stage

namespace Vault

def balanceThrough (bank : Bank) : List Stage → Account → Bundle
  | [], account => bank.balance account
  | stage :: below, account =>
    match stage.balances[account]? with
    | some balance => balance
    | none => balanceThrough bank below account

def escrowThrough (bank : Bank) : List Stage → Bundle
  | [] => bank.escrow
  | stage :: below =>
    match stage.escrow with
    | some escrow => escrow
    | none => escrowThrough bank below

def balance (vault : Vault) (account : Account) : Bundle :=
  balanceThrough vault.bank vault.stages account

def escrow (vault : Vault) : Bundle := escrowThrough vault.bank vault.stages

/-- The stage with one more move recorded; `below` and `held` are the balances and the escrow that are
seen through it. -/
def record (stage : Stage) (seen : Account → Bundle) (held : Bundle) (move : Move) :
    Except EscrowFault Stage :=
  match move with
  | .deposit source amount => do
    let available := seen source
    let rest ← available.debit amount (.insufficientFunds source available amount)
    let escrow ← held.credit amount
    return ⟨stage.balances.insert source rest, some escrow, stage.moves ++ [move]⟩
  | .payOut target amount => do
    let rest ← held.debit amount (.insufficientEscrow held amount)
    let balance ← (seen target).credit amount
    return ⟨stage.balances.insert target balance, some rest, stage.moves ++ [move]⟩
  | .burn amount => do
    let rest ← held.debit amount (.insufficientEscrow held amount)
    return ⟨stage.balances, some rest, stage.moves ++ [move]⟩

/-- Makes a move on the innermost stage, or on the bank where no stage is open. -/
def apply (vault : Vault) (move : Move) : Except EscrowFault Vault :=
  match vault.stages with
  | [] => do
    let bank ← vault.bank.apply move
    return { vault with bank := bank }
  | stage :: below =>
    if move.amount.isEmpty then .ok vault
    else do
      let stage ← record stage vault.balance vault.escrow move
      return { vault with stages := stage :: below }

/-- Makes moves in order until one fails, and says how far that came. -/
def replay (vault : Vault) : List Move → Vault × Option EscrowFault
  | [] => (vault, none)
  | move :: rest =>
    match vault.apply move with
    | .ok vault => replay vault rest
    | .error fault => (vault, some fault)

/-- Opens a stage over the vault as it is. -/
def stage (vault : Vault) : Vault := { vault with stages := .empty :: vault.stages }

/-- Closes the innermost stage and makes its moves one level below. -/
def commit (vault : Vault) : Vault × Option EscrowFault :=
  match vault.stages with
  | [] => (vault, none)
  | stage :: below => replay { vault with stages := below } stage.moves

/-- Closes the innermost stage and forgets its moves. -/
def discard (vault : Vault) : Vault := { vault with stages := vault.stages.tail }

def pending (vault : Vault) : List Move :=
  match vault.stages with
  | [] => []
  | stage :: _ => stage.moves

end Vault

end NameAuction
