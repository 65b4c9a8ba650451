import NameAuction.Event.Log

/-!
# The history of a log

A host appends events to a log and drains it, in any order.  What has been drained and what is pending make up
the history of the log, of which the log itself keeps the last part only.  Every use keeps the history a chain
from the zero digest to the head of the log, with the base of the log where the pending entries begin
(`History.Chained.after`), and a drain does not change it (`History.entries_drain`).  So the history is the
same as that of a log which is never drained (`EventLog.history_chained`).
-/

namespace NameAuction

/-! ### Chains of entries -/

namespace LogEntry

def record (entry : LogEntry) : Time × Event := (entry.time, entry.event)

/-- The digest of the last entry, of entries that come after the digest `previous`. -/
def lastDigest (previous : Digest) (entries : List LogEntry) : Digest :=
  (entries.getLast?.map (·.digest)).getD previous

/-- Whether segments follow one another: each leads on from the last digest before it. -/
def linkedSegments (previous : Digest) : List (List LogEntry) → Bool
  | [] => true
  | segment :: rest =>
    linked previous segment && linkedSegments (lastDigest previous segment) rest

@[simp] theorem lastDigest_cons (previous : Digest) (entry : LogEntry) (rest : List LogEntry) :
    lastDigest previous (entry :: rest) = lastDigest entry.digest rest := by
  cases rest with
  | nil => rfl
  | cons next more => simp [lastDigest, List.getLast?_cons]

@[simp] theorem lastDigest_append (previous : Digest) (entries more : List LogEntry) :
    lastDigest previous (entries ++ more) = lastDigest (lastDigest previous entries) more := by
  induction entries generalizing previous with
  | nil => rfl
  | cons entry rest ih => rw [List.cons_append, lastDigest_cons, lastDigest_cons, ih]

/-- **Two chains make one where the second goes on from the last digest of the first.** -/
theorem linked_append (previous : Digest) (entries more : List LogEntry) :
    linked previous (entries ++ more) =
      (linked previous entries && linked (lastDigest previous entries) more) := by
  induction entries generalizing previous with
  | nil => rfl
  | cons entry rest ih =>
    simp only [List.cons_append, linked, ih, lastDigest_cons, Bool.and_assoc]

theorem linked_following (previous : Digest) (time : Time) (event : Event) :
    linked previous [following previous time event] = true := by
  simp [linked, following]

theorem linkedSegments_eq (previous : Digest) (segments : List (List LogEntry)) :
    linkedSegments previous segments = linked previous segments.flatten := by
  induction segments generalizing previous with
  | nil => rfl
  | cons segment rest ih => rw [linkedSegments, ih, List.flatten_cons, linked_append]

end LogEntry

/-! ### Logs in use -/

inductive LogUse
  | append (time : Time) (event : Event)
  | drain

def LogUse.appended (uses : List LogUse) : List (Time × Event) :=
  uses.filterMap fun
    | .append time event => some (time, event)
    | .drain => none

/-- A log with the segments that have been drained from it. -/
structure History where
  log : EventLog
  segments : List (List LogEntry)

namespace History

def start : History := ⟨.empty, []⟩

def after (history : History) : LogUse → History
  | .append time event => { history with log := history.log.append time event }
  | .drain => ⟨history.log.drain.2, history.segments ++ [history.log.drain.1]⟩

def afterAll (history : History) (uses : List LogUse) : History := uses.foldl after history

/-- Everything that has been appended: the drained segments, and then what is pending. -/
def entries (history : History) : List LogEntry := history.segments.flatten ++ history.log.pending

theorem entries_append (history : History) (time : Time) (event : Event) :
    (history.after (.append time event)).entries =
      history.entries ++ [.following history.log.head time event] :=
  (List.append_assoc ..).symm

theorem entries_drain (history : History) : (history.after .drain).entries = history.entries := by
  simp [entries, after, EventLog.drain]

/-- The history is a chain from the zero digest to the head of the log, and the pending entries begin at
its base. -/
structure Chained (history : History) : Prop where
  linked : LogEntry.linked Block.zero history.entries = true
  head : history.log.head = LogEntry.lastDigest Block.zero history.entries
  base : history.log.base = LogEntry.lastDigest Block.zero history.segments.flatten
  length : history.log.length = history.entries.length

/-- The history is that of a log which has never been drained. -/
structure Undrained (history : History) (whole : EventLog) : Prop where
  head : whole.head = history.log.head
  pending : whole.pending = history.entries

namespace Chained

variable {history : History}

theorem start : start.Chained := ⟨rfl, rfl, rfl, rfl⟩

theorem append (h : history.Chained) (time : Time) (event : Event) :
    (history.after (.append time event)).Chained where
  linked := by
    rw [entries_append, LogEntry.linked_append, h.linked, ← h.head, LogEntry.linked_following]
    rfl
  head := by
    rw [entries_append, LogEntry.lastDigest_append]
    rfl
  base := h.base
  length := by
    rw [entries_append, List.length_append, ← h.length]
    rfl

theorem drain (h : history.Chained) : (history.after .drain).Chained where
  linked := by rw [entries_drain, h.linked]
  head := by
    rw [entries_drain, ← h.head]
    rfl
  base := by
    -- the drained segment is the end of the history, so the new base is the head
    show history.log.head = LogEntry.lastDigest Block.zero (history.segments ++ [history.log.pending]).flatten
    rw [h.head, entries, List.flatten_append, List.flatten_singleton]
  length := by
    rw [entries_drain, ← h.length]
    rfl

/-- **Every use of a log leaves its history a chain.** -/
theorem after (h : history.Chained) : (use : LogUse) → (history.after use).Chained
  | .append time event => h.append time event
  | .drain => h.drain

theorem afterAll (h : history.Chained) (uses : List LogUse) : (history.afterAll uses).Chained := by
  induction uses generalizing history with
  | nil => exact h
  | cons use rest ih => exact ih (h.after use)

/-- **What is pending leads from the base to the head.** -/
theorem verify (h : history.Chained) : history.log.verify = true := by
  have hlinked := h.linked
  rw [entries, LogEntry.linked_append, Bool.and_eq_true, ← h.base] at hlinked
  have hhead := h.head
  rw [entries, LogEntry.lastDigest_append, ← h.base] at hhead
  rw [EventLog.verify, hlinked.2, hhead]
  exact decide_eq_true rfl

theorem linkedSegments (h : history.Chained) :
    LogEntry.linkedSegments Block.zero (history.segments ++ [history.log.pending]) = true := by
  rw [LogEntry.linkedSegments_eq, List.flatten_append, List.flatten_singleton]
  exact h.linked

end Chained

theorem map_record_afterAll (history : History) (uses : List LogUse) :
    (history.afterAll uses).entries.map LogEntry.record =
      history.entries.map LogEntry.record ++ LogUse.appended uses := by
  induction uses generalizing history with
  | nil => exact (List.append_nil _).symm
  | cons use rest ih =>
    refine (ih (history.after use)).trans ?_
    cases use with
    | append time event =>
      rw [entries_append, List.map_append, List.append_assoc]
      rfl
    | drain =>
      rw [entries_drain]
      rfl

namespace Undrained

variable {history : History} {whole : EventLog}

theorem append (h : history.Undrained whole) (time : Time) (event : Event) :
    (history.after (.append time event)).Undrained (whole.append time event) where
  head := by
    show LogEntry.digestOf whole.head time event = LogEntry.digestOf history.log.head time event
    rw [h.head]
  pending := by
    rw [entries_append, ← h.pending, ← h.head]
    rfl

theorem drain (h : history.Undrained whole) : (history.after .drain).Undrained whole where
  head := h.head
  pending := by rw [entries_drain, h.pending]

theorem afterAll (h : history.Undrained whole) (uses : List LogUse) :
    (history.afterAll uses).Undrained
      ((LogUse.appended uses).foldl (fun log told => log.append told.1 told.2) whole) := by
  induction uses generalizing history whole with
  | nil => exact h
  | cons use rest ih =>
    cases use with
    | append time event => exact ih (h.append time event)
    | drain => exact ih h.drain

end Undrained

end History

/-! ### All histories -/

/-- What a history must be for the events that have been appended. -/
structure History.Tells (history : History) (told : List (Time × Event)) : Prop where
  verifies : history.log.verify = true
  records : history.entries.map LogEntry.record = told
  linked : LogEntry.linked Block.zero history.entries = true
  /-- Each segment verifies from the last digest of the one before it, and what is pending from the last
  digest of the segments. -/
  segments : LogEntry.linkedSegments Block.zero (history.segments ++ [history.log.pending]) = true
  length : history.log.length = told.length
  head : history.log.head = LogEntry.lastDigest Block.zero history.entries
  /-- A drain hands over what is pending, all of it, and the log goes on from where it was. -/
  drained : history.log.drain.1 = history.log.pending ∧ history.log.drain.2.pending = [] ∧
    history.log.drain.2.head = history.log.head ∧ history.log.drain.2.length = history.log.length
  /-- A log that has never been drained ends in the same digest and has the same entries. -/
  undrained : history.Undrained (told.foldl (fun log told => log.append told.1 told.2) .empty)

/-- **A log tells one chain of events however it is drained.**  After any appends and drains the log verifies,
what has been drained with what is pending tells what has been appended, and the next drain would hand over
just what is pending. -/
theorem EventLog.history_chained (uses : List LogUse) :
    (History.start.afterAll uses).Tells (LogUse.appended uses) := by
  have hchained := History.Chained.start.afterAll uses
  have hrecords := History.start.map_record_afterAll uses
  have hundrained : History.start.Undrained .empty := ⟨rfl, rfl⟩
  exact
    { verifies := hchained.verify
      records := hrecords
      linked := hchained.linked
      segments := hchained.linkedSegments
      length := by
        rw [hchained.length, ← List.length_map (f := LogEntry.record), hrecords]
        rfl
      head := hchained.head
      drained := ⟨rfl, rfl, rfl, rfl⟩
      undrained := hundrained.afterAll uses }

end NameAuction
