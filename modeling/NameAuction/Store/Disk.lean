import NameAuction.Store.Basic

/-!
# The disk

Where committed writes end up.  A disk may have room for a limited number of further writes, puts and
deletions alike; when it is full, a flush stops and what has been written stays.
-/

namespace NameAuction

inductive StoreFault
  | diskFull
deriving DecidableEq

def StoreFault.message : StoreFault → String
  | .diskFull => "Storage error: disk full"

structure Disk where
  entries : Entries
  /-- How many writes still fit; there is no limit where this is missing. -/
  room : Option Nat

namespace Disk

def ofEntries (entries : Entries) : Disk := ⟨entries, none⟩

def store (disk : Disk) : Store := .ofEntries disk.entries

/-- The disk after one write, if it has room. -/
def write (disk : Disk) (key : Bytes) (value : Option Bytes) : Except StoreFault Disk :=
  match disk.room with
  | some 0 => .error .diskFull
  | room => .ok ⟨Store.write disk.entries key value, room.map (· - 1)⟩

/-- Writes in order until the disk is full, and says whether that happened. -/
def flush (disk : Disk) : List (Bytes × Option Bytes) → Disk × Option StoreFault
  | [] => (disk, none)
  | change :: rest =>
    match disk.write change.1 change.2 with
    | .ok disk => flush disk rest
    | .error fault => (disk, some fault)

end Disk

end NameAuction
