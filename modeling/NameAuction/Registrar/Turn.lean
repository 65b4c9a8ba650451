import NameAuction.Command
import NameAuction.Escrow.Vault
import NameAuction.Event.Basic
import NameAuction.Renewal
import NameAuction.Store.Queue
import NameAuction.Store.Record

/-!
# Turns

A command or a sweep is worked out as a turn: its writes go to a layer over the store, its moves to a
stage over the bank, and its events are collected.  A turn that fails leaves nothing behind, because
nothing of it has reached the store or the bank.

A turn is a sequence of steps.  `bind_run_eq_ok_iff` takes a sequence that succeeds apart, and each kind
of step has a statement that says what it does when it succeeds.
-/

namespace NameAuction

/-- What a turn can consult but not change. -/
structure Setting where
  now : Time
  params : Params
  rates : Rates

/-- What a turn has staged so far. -/
structure Turn where
  store : Store
  vault : Vault
  /-- The latest event comes last. -/
  events : List Event

/-- A step of a turn. -/
abbrev Step (α : Type) := StateT Turn (Except Fault) α

namespace Turn

def look {α : Type} (question : Store → Except Fault α) : Step α := fun turn =>
  match question turn.store with
  | .ok value => .ok (value, turn)
  | .error fault => .error fault

def find {α : Type} (question : Store → Except Fault (Option α)) (otherwise : Fault) : Step α :=
  look fun store => do demand (← question store) otherwise

def expect (condition : Store → Bool) (otherwise : Fault) : Step Unit :=
  look fun store => ensure (condition store) otherwise

def change (edit : Store → Store) : Step Unit := fun turn =>
  .ok ((), { turn with store := edit turn.store })

def move (move : Move) : Step Unit := fun turn =>
  match turn.vault.apply move with
  | .ok vault => .ok ((), { turn with vault := vault })
  | .error fault => .error (.escrow fault)

def tell (event : Event) : Step Unit := fun turn =>
  .ok ((), { turn with events := turn.events ++ [event] })

end Turn

def Time.after (time period : Time) : Except Overflow Time :=
  demand (time.add? period) .timestamp

end NameAuction
