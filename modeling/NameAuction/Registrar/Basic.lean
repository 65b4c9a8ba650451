import NameAuction.Event.Log
import NameAuction.Genesis.Load
import NameAuction.Query
import NameAuction.Registrar.Sweep

/-!
# The registrar

The registrar runs commands and sweeps against one disk and one bank, under parameters and exchange
rates that its host may change, and keeps a log of events.

Every call is one turn.  When the turn has succeeded, its writes are flushed to the disk, then its moves
are made at the bank, and then its events go to the log; when it has not, nothing changes.  The two
steps in between can fail as well: a disk that is full keeps the writes before, and a bank that refuses a
move keeps the moves before.
-/

namespace NameAuction

structure Registrar where
  disk : Disk
  bank : Bank
  rates : Rates
  params : Params
  log : EventLog

namespace Registrar

/-- A registrar over a disk as it is. -/
def start (disk : Disk) (bank : Bank) (rates : Rates) (params : Params) :
    Except Fault Registrar := do
  params.check
  return ⟨disk, bank, rates, params, .empty⟩

/-- A registrar over an empty disk that has been seeded from a genesis. -/
def ofGenesis (bank : Bank) (rates : Rates) (genesis : Genesis) : Except Fault Registrar := do
  let store ← genesis.seed Store.empty.layer
  start (.ofEntries store.commit.base) bank rates genesis.params

def store (registrar : Registrar) : Store := registrar.disk.store

def setParams (registrar : Registrar) (params : Params) : Except Fault Registrar := do
  params.check
  return { registrar with params := params }

/-- The turn that a call starts from. -/
def firstTurn (registrar : Registrar) : Turn :=
  ⟨registrar.store.layer, Vault.stage ⟨registrar.bank, []⟩, []⟩

def setting (registrar : Registrar) (now : Time) : Setting :=
  ⟨now, registrar.params, registrar.rates⟩

/-- Carries out a turn that has succeeded. -/
def settle (registrar : Registrar) (now : Time) (turn : Turn) :
    Except Fault (List Event) × Registrar :=
  match registrar.disk.flush turn.store.pending with
  | (disk, some fault) => (.error (.store fault), { registrar with disk := disk })
  | (disk, none) =>
    match turn.vault.commit with
    | (vault, some fault) =>
      (.error (.escrow fault), { registrar with disk := disk, bank := vault.bank })
    | (vault, none) =>
      (.ok turn.events,
        { registrar with
          disk := disk
          bank := vault.bank
          log := registrar.log.appendAll now turn.events })

/-- Runs one step as a turn of its own. -/
def run (registrar : Registrar) (now : Time) (step : Step Unit) :
    Except Fault (List Event) × Registrar :=
  match step.run registrar.firstTurn with
  | .error fault => (.error fault, registrar)
  | .ok ((), turn) => registrar.settle now turn

def deliver (registrar : Registrar) (now : Time) (command : Command) :
    Except Fault (List Event) × Registrar :=
  match command.check with
  | .error fault => (.error fault, registrar)
  | .ok () => registrar.run now (handle (registrar.setting now) command)

/-- Advances everything that is due at `now`. -/
def endBlock (registrar : Registrar) (now : Time) : Except Fault (List Event) × Registrar :=
  registrar.run now (sweep (registrar.setting now))

def drain (registrar : Registrar) : List LogEntry × Registrar :=
  let (entries, log) := registrar.log.drain
  (entries, { registrar with log := log })

def query (registrar : Registrar) (query : Query) : Except Fault Answer :=
  query.run registrar.store registrar.params

def auction? (registrar : Registrar) (name : Name) : Except Fault (Option Auction) := do
  return (← Query.auctionsIn registrar.store (.name name)).getLast?

def genesis (registrar : Registrar) : Except Fault Genesis :=
  Genesis.ofStore registrar.store registrar.params

end Registrar

end NameAuction
