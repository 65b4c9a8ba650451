import NameAuction.Fault

/-!
# Queues

Three queues share the store, each in a region of its own: an entry is a time and a name, and its key
sorts by both.  The entries that are due at a moment are those of an earlier or the same time; they are
read as a whole, from the first one, or from the one after a given entry.
-/

namespace NameAuction

/-- A queue, known by the first byte of its keys. -/
structure Queue where
  region : UInt8
deriving DecidableEq

def QueueKind.queue : QueueKind → Queue
  | .bid => ⟨Key.bidQueue⟩
  | .reveal => ⟨Key.revealQueue⟩
  | .registration => ⟨Key.registrationQueue⟩

structure Due where
  time : Time
  id : NameId
deriving DecidableEq

namespace Queue

def key (queue : Queue) (due : Due) : Bytes := Key.queued queue.region due.time due.id

def ofKey (key : Bytes) : Except Fault Due := do
  ensure (key.length = 29) (.corrupt (.key .queue key))
  let time ← demand (Word.ofNat? (Bytes.ofBigEndian ((key.drop 1).take 8)))
    (.corrupt (.key .queue key))
  return ⟨time, ← Id.ofBytes (key.drop 9)⟩

/-- Above the keys of all entries that are due at `now`. -/
def dueStop (queue : Queue) (now : Time) : Option Bytes := (Key.queueTime queue.region now).afterAll?

def dueSpan (queue : Queue) (now : Time) : Span := ⟨[queue.region], queue.dueStop now⟩

def dueSpanAfter (queue : Queue) (now : Time) (due : Due) : Span :=
  ⟨queue.key due ++ [0], queue.dueStop now⟩

end Queue

namespace Store

def enqueue (store : Store) (queue : Queue) (due : Due) : Store :=
  store.put (queue.key due) due.id.bytes

def dequeue (store : Store) (queue : Queue) (due : Due) : Store := store.delete (queue.key due)

def isQueued (store : Store) (queue : Queue) (due : Due) : Bool := store.has (queue.key due)

/-- The entries that are due at `now`, by time and then by name. -/
def dueBefore (store : Store) (queue : Queue) (now : Time) : Except Fault (List Due) :=
  (store.range (queue.dueSpan now)).mapM fun entry => Queue.ofKey entry.1

def firstDueIn (store : Store) (span : Span) : Except Fault (Option Due) :=
  match store.first? span with
  | none => .ok none
  | some entry => (Queue.ofKey entry.1).map some

def firstDue (store : Store) (queue : Queue) (now : Time) : Except Fault (Option Due) :=
  store.firstDueIn (queue.dueSpan now)

def nextDueAfter (store : Store) (queue : Queue) (now : Time) (due : Due) :
    Except Fault (Option Due) :=
  store.firstDueIn (queue.dueSpanAfter now due)

/-- The first entry that is due at `now`, or the first one after a given entry. -/
def dueFrom (store : Store) (queue : Queue) (now : Time) : Option Due → Except Fault (Option Due)
  | none => store.firstDue queue now
  | some due => store.nextDueAfter queue now due

def queueEntries (store : Store) (queue : Queue) : Except Fault (List Due) :=
  (store.startingWith [queue.region]).mapM fun entry => Queue.ofKey entry.1

end Store

end NameAuction
