import NameAuction.Event.Layout
import NameAuction.Hash.Blake3

/-!
# The event log

Every entry of the log carries the digest of the entry before it and one of its own, which is taken over
that digest, the time and the event.  So the digest of the last entry vouches for all of them.  Entries
are handed over by draining; the log keeps its head and goes on from there.
-/

namespace NameAuction

structure LogEntry where
  time : Time
  event : Event
  previous : Digest
  digest : Digest
deriving DecidableEq

namespace LogEntry

def preimage (previous : Digest) (time : Time) (event : Event) : Bytes :=
  Layout.write (previous, time, event)

def digestOf (previous : Digest) (time : Time) (event : Event) : Digest :=
  Hash.Blake3.hash (preimage previous time event)

/-- The entry for an event that follows the entry with digest `previous`. -/
def following (previous : Digest) (time : Time) (event : Event) : LogEntry :=
  ⟨time, event, previous, digestOf previous time event⟩

/-- Whether entries follow one another, the first of them after `previous`. -/
def linked (previous : Digest) : List LogEntry → Bool
  | [] => true
  | entry :: rest =>
    entry.previous = previous && entry.digest = digestOf previous entry.time entry.event
      && linked entry.digest rest

end LogEntry

structure EventLog where
  /-- The digest of the last entry; zeros before the first one. -/
  head : Digest
  /-- What the head was when the log was last drained. -/
  base : Digest
  /-- The number of entries, drained or not.  It grows by one with each append, so a count in eight bytes
  would wrap around after `2 ^ 64` appends only, more than any host can make. -/
  length : Nat
  /-- The entries since the log was last drained. -/
  pending : List LogEntry

namespace EventLog

def empty : EventLog := ⟨Block.zero, Block.zero, 0, []⟩

instance : Inhabited EventLog := ⟨empty⟩

def isEmpty (log : EventLog) : Bool := log.length = 0

def append (log : EventLog) (time : Time) (event : Event) : EventLog :=
  let entry := LogEntry.following log.head time event
  { log with head := entry.digest, length := log.length + 1, pending := log.pending ++ [entry] }

def appendAll (log : EventLog) (time : Time) (events : List Event) : EventLog :=
  events.foldl (fun log event => log.append time event) log

/-- The pending entries, and the log without them. -/
def drain (log : EventLog) : List LogEntry × EventLog :=
  (log.pending, { log with base := log.head, pending := [] })

/-- Whether the pending entries lead from the base to the head. -/
def verify (log : EventLog) : Bool :=
  LogEntry.linked log.base log.pending
    && (log.pending.getLast?.map (·.digest)).getD log.base = log.head

end EventLog

end NameAuction
