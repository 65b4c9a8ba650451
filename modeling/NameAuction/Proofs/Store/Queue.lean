import Mathlib.Data.List.Sort
import NameAuction.Proofs.Store.Listing

/-!
# Queues

A queue is read like a sorted set of entries, whatever else the store holds: all that its reading needs is that
the keys in its own region are keys of entries (`Store.Orderly`).  Then what is due can be listed, its first
entry and the one after any given entry are those of the list, and asking for the next one again and again
enumerates it (`Store.Waiting.dueBefore`, `Store.Waiting.dueFrom`, `Store.Waiting.enumerates`).  In a store that
keeps a book this is what the book awaits (`Store.Keeps.exists_waiting`).  Inserts and removals do to the live
entries of every queue what they do to sets (`Store.Orderly.afterEdits_lists_live`).
-/

namespace NameAuction

/-! ### The order of entries -/

instance : Std.Antisymm Due.Before where
  antisymm _ _ hab hba := absurd rfl (hab.trans hba).ne

instance : Std.Irrefl Due.Before where
  irrefl _ h := h.ne rfl

/-! ### Keys -/

/-- **A key of the right length in the region of a queue is the key of an entry.** -/
theorem Queue.exists_key {queue : Queue} {key : Bytes} (hregion : key.head? = some queue.region)
    (hlength : key.length = 29) : ∃ due, queue.key due = key := by
  have htime : ((key.drop 1).take 8).length = 8 := by
    rw [List.length_take, List.length_drop, hlength]
    rfl
  have hid : (key.drop 9).length = 20 := by rw [List.length_drop, hlength]
  have hlt := Bytes.ofBigEndian_lt ((key.drop 1).take 8)
  rw [htime] at hlt
  let due : Due := ⟨⟨Bytes.ofBigEndian ((key.drop 1).take 8), hlt⟩, ⟨⟨key.drop 9, hid⟩⟩⟩
  have hword : Word.ofNat? (Bytes.ofBigEndian ((key.drop 1).take 8)) = some due.time :=
    Word.ofNat?_eq_some_iff.mpr rfl
  have hbytes : Id.ofBytes (key.drop 9) = .ok due.id := Id.ofBytes_bytes due.id
  refine ⟨due, Queue.key_of_ofKey ?_ hregion⟩
  rw [Queue.ofKey, hword, hbytes, ensure, if_pos hlength]
  rfl

theorem Queue.key_eq_iff {queue other : Queue} {a b : Due} :
    queue.key a = other.key b ↔ queue = other ∧ a = b := by
  constructor
  · intro h
    obtain ⟨region⟩ := queue
    obtain ⟨region'⟩ := other
    obtain rfl : region = region' := Option.some.inj (congrArg List.head? h)
    exact ⟨rfl, Queue.key_injective h⟩
  · rintro ⟨rfl, rfl⟩
    rfl

theorem Queue.spanFrom_contains_key (queue : Queue) {now : Time} {cursor : Option Due} {due : Due} :
    (queue.spanFrom now cursor).contains (queue.key due) = true ↔
      due.time ≤ now ∧ ∀ last, cursor = some last → last.Before due := by
  cases cursor with
  | none => simpa [spanFrom] using dueSpan_contains_key
  | some last =>
    rw [spanFrom, dueSpanAfter_contains, dueSpan_contains_key, compare_key_lt_iff]
    simp

theorem Queue.spanFrom_successor (queue : Queue) (now : Time) (cursor : Option Due) (due : Due) :
    { queue.spanFrom now cursor with start := queue.key due ++ [0] } = queue.spanFrom now (some due) := by
  cases cursor <;> rfl

namespace Store

/-- Every key in the region of the queue is as long as the key of an entry. -/
def Orderly (store : Store) (queue : Queue) : Prop :=
  ∀ key, store.has key = true → key.head? = some queue.region → key.length = 29

/-- These are the entries that are due at `now` and behind the cursor, in the order of their keys. -/
def Waiting (store : Store) (queue : Queue) (now : Time) (cursor : Option Due) (dues : List Due) : Prop :=
  (store.range (queue.spanFrom now cursor)).map (·.1) = dues.map queue.key

/-- Asking for the next due entry again and again gives these ones, and then there are no more. -/
inductive Enumerates (store : Store) (queue : Queue) (now : Time) : Option Due → List Due → Prop
  | done {cursor : Option Due} (h : store.dueFrom queue now cursor = .ok none) :
      Enumerates store queue now cursor []
  | next {cursor : Option Due} {due : Due} {rest : List Due}
      (h : store.dueFrom queue now cursor = .ok (some due))
      (hrest : Enumerates store queue now (some due) rest) :
      Enumerates store queue now cursor (due :: rest)

variable {store : Store} {queue : Queue} {now : Time} {cursor : Option Due} {dues : List Due}

theorem Orderly.exists_waiting (h : store.Orderly queue) (now : Time) (cursor : Option Due) :
    ∃ dues, store.Waiting queue now cursor dues := by
  have hkeys : (store.range (queue.spanFrom now cursor)).map (·.1) ∈ Set.range (List.map queue.key) := by
    rw [Set.range_list_map]
    intro key hkey
    obtain ⟨⟨key, bytes⟩, hentry, rfl⟩ := List.mem_map.mp hkey
    obtain ⟨hget, hspan⟩ := mem_range.mp hentry
    have hregion := Queue.head?_of_spanFrom hspan
    exact Queue.exists_key hregion (h key (Option.isSome_of_eq_some hget) hregion)
  obtain ⟨dues, hdues⟩ := hkeys
  exact ⟨dues, hdues.symm⟩

namespace Waiting

theorem sorted (h : store.Waiting queue now cursor dues) : dues.Pairwise Due.Before := by
  have hlisted : (dues.map queue.key).Pairwise fun a b => compare a b = .lt := by
    rw [← h]
    exact List.pairwise_map.mpr (listed_range store _)
  exact (List.pairwise_map.mp hlisted).imp fun hlt => queue.compare_key_lt_iff.mp hlt

theorem mem_iff (h : store.Waiting queue now cursor dues) {due : Due} :
    due ∈ dues ↔ store.isQueued queue due = true ∧ due.time ≤ now ∧
      ∀ last, cursor = some last → last.Before due := by
  have hkey : due ∈ dues ↔ ∃ bytes, (queue.key due, bytes) ∈ store.range (queue.spanFrom now cursor) := by
    rw [← List.mem_map_of_injective (fun _ _ heq => Queue.key_injective heq), ← h, List.mem_map]
    simp
  rw [hkey, isQueued, has, Option.isSome_iff_exists, ← queue.spanFrom_contains_key]
  simp only [mem_range, exists_and_right]

/-- **The next due entry is the first one that waits.** -/
theorem dueFrom (h : store.Waiting queue now cursor dues) :
    store.dueFrom queue now cursor = .ok dues.head? := by
  rw [dueFrom_eq, firstDueIn, first?_eq]
  unfold Waiting at h
  cases hrange : store.range (queue.spanFrom now cursor) with
  | nil =>
    rw [hrange, List.map_nil, eq_comm, List.map_eq_nil_iff] at h
    rw [h]
    rfl
  | cons entry rest =>
    rw [hrange, List.map_cons, eq_comm, List.map_eq_cons_iff] at h
    obtain ⟨due, later, rfl, hkey, -⟩ := h
    show (Queue.ofKey entry.1).map some = _
    rw [← hkey, Queue.ofKey_key]
    rfl

/-- **What is due is what waits behind no cursor.** -/
theorem dueBefore (h : store.Waiting queue now none dues) : store.dueBefore queue now = .ok dues := by
  have hread : (dues.map queue.key).mapM Queue.ofKey = .ok dues :=
    mapM_eq_ok fun due _ => Queue.ofKey_key queue due
  rw [← h, List.mapM_map] at hread
  exact hread

theorem behind {due : Due} {rest : List Due} (h : store.Waiting queue now cursor (due :: rest)) :
    store.Waiting queue now (some due) rest := by
  obtain ⟨entry, later, hrange, hkey, hlater⟩ := List.map_eq_cons_iff.mp h
  have hbehind := range_successor hrange
  rw [hkey, Queue.spanFrom_successor] at hbehind
  rw [Waiting, hbehind]
  exact hlater

/-- **Asking for the next entry enumerates what waits.** -/
theorem enumerates (h : store.Waiting queue now cursor dues) : store.Enumerates queue now cursor dues := by
  induction dues generalizing cursor with
  | nil => exact .done h.dueFrom
  | cons due rest ih => exact .next h.dueFrom (ih h.behind)

theorem filter (h : store.Waiting queue now none dues) (horderly : store.Orderly queue) (last : Due) :
    store.Waiting queue now (some last) (dues.filter fun due => last.Before due) := by
  obtain ⟨later, hlater⟩ := horderly.exists_waiting now (some last)
  have heq : dues.filter (fun due => last.Before due) = later := by
    refine (h.sorted.filter _).eq_of_mem_iff hlater.sorted fun due => ?_
    rw [List.mem_filter, h.mem_iff, hlater.mem_iff]
    simp [and_assoc]
  rw [heq]
  exact hlater

theorem nextDueAfter (h : store.Waiting queue now none dues) (horderly : store.Orderly queue) (last : Due) :
    store.nextDueAfter queue now last = .ok (dues.find? fun due => last.Before due) := by
  rw [← List.head?_filter]
  exact (h.filter horderly last).dueFrom

end Waiting

/-! ### Stores that keep a book -/

namespace Keeps

variable {book : Book}

theorem orderly (h : store.Keeps book) (kind : QueueKind) : store.Orderly kind.queue := by
  intro key hhas hregion
  obtain ⟨bytes, hget⟩ := Option.isSome_iff_exists.mp hhas
  obtain ⟨slot, rfl⟩ := h.exists_slot key bytes hget
  rw [slot.key_eq] at hregion
  have hown : slot.region = kind.queue.region := Option.some.inj hregion
  obtain ⟨due, rfl⟩ := Slot.region_eq_queue.mp hown
  exact Due.key_length kind.queue due

/-- **What waits is what the book awaits.** -/
theorem exists_waiting (h : store.Keeps book) (kind : QueueKind) (now : Time) (cursor : Option Due) :
    ∃ dues, store.Waiting kind.queue now cursor dues ∧
      Lists dues (dueItem kind) (book.Awaits kind now cursor) := by
  obtain ⟨dues, hrange, hdues⟩ := h.range_spanFrom kind now cursor
  refine ⟨dues, ?_, hdues⟩
  rw [Waiting, hrange, List.map_map]
  rfl

/-- **The next due entry.**  Reading it finds the first of those that are due and come after the cursor. -/
theorem dueFrom (h : store.Keeps book) (kind : QueueKind) (now : Time) (cursor : Option Due) :
    ∃ dues, store.dueFrom kind.queue now cursor = .ok dues.head? ∧
      Lists dues (dueItem kind) (book.Awaits kind now cursor) := by
  obtain ⟨dues, hwaiting, hdues⟩ := h.exists_waiting kind now cursor
  exact ⟨dues, hwaiting.dueFrom, hdues⟩

theorem dueBefore (h : store.Keeps book) (kind : QueueKind) (now : Time) :
    ∃ dues, store.dueBefore kind.queue now = .ok dues ∧
      Lists dues (dueItem kind) (book.Awaits kind now none) := by
  obtain ⟨dues, hwaiting, hdues⟩ := h.exists_waiting kind now none
  exact ⟨dues, hwaiting.dueBefore, hdues⟩

/-- What waits is queued in the book. -/
theorem queued_of_waiting (h : store.Keeps book) {kind : QueueKind}
    (hdues : store.Waiting kind.queue now cursor dues) {due : Due} (hmem : due ∈ dues) :
    book (.queued kind due) = some () := by
  have hqueued : store.has (Slot.queued kind due).key = true := (hdues.mem_iff.mp hmem).1
  rw [h.has_key] at hqueued
  obtain ⟨⟨⟩, hsome⟩ := Option.isSome_iff_exists.mp hqueued
  exact hsome

end Keeps

end Store

/-! ### Inserts and removals -/

inductive QueueEdit
  | insert (queue : Queue) (due : Due)
  | remove (queue : Queue) (due : Due)

namespace QueueEdit

def onStore (store : Store) : QueueEdit → Store
  | insert queue due => store.enqueue queue due
  | remove queue due => store.dequeue queue due

/-- What an edit does to sets of entries, of which there is one for each queue. -/
def onLive (live : Queue → Set Due) : QueueEdit → Queue → Set Due
  | insert queue due => Function.update live queue (Insert.insert due (live queue))
  | remove queue due => Function.update live queue (live queue \ {due})

def liveAfter (live : Queue → Set Due) (edits : List QueueEdit) : Queue → Set Due := edits.foldl onLive live

end QueueEdit

namespace Store

def live (store : Store) (queue : Queue) : Set Due := {due | store.isQueued queue due = true}

def afterEdits (store : Store) (edits : List QueueEdit) : Store := edits.foldl QueueEdit.onStore store

variable {store : Store} {queue : Queue}

theorem isQueued_set (store : Store) (queue other : Queue) (due entry : Due) (value : Option Bytes) :
    (store.set (queue.key due) value).isQueued other entry =
      if queue = other ∧ due = entry then value.isSome else store.isQueued other entry := by
  rw [isQueued, has, get?_set]
  simp only [Queue.key_eq_iff]
  split <;> rfl

theorem live_set (store : Store) (queue : Queue) (due : Due) (value : Option Bytes) :
    (store.set (queue.key due) value).live = Function.update store.live queue
      (if value.isSome then insert due (store.live queue) else store.live queue \ {due}) := by
  funext other
  ext entry
  show (store.set (queue.key due) value).isQueued other entry = true ↔ _
  rw [isQueued_set, Function.update_apply]
  by_cases hqueue : other = queue
  · subst hqueue
    by_cases hdue : entry = due
    · cases value <;> simp [hdue]
    · cases value <;> simp [live, hdue, Ne.symm hdue]
  · simp [live, hqueue, Ne.symm hqueue]

/-- **An edit does to the live entries what it does to sets.** -/
theorem live_onStore (store : Store) (edit : QueueEdit) :
    (edit.onStore store).live = edit.onLive store.live := by
  cases edit with
  | insert queue due => exact store.live_set queue due (some due.id.bytes)
  | remove queue due => exact store.live_set queue due none

theorem live_afterEdits (store : Store) (edits : List QueueEdit) :
    (store.afterEdits edits).live = QueueEdit.liveAfter store.live edits := by
  induction edits generalizing store with
  | nil => rfl
  | cons edit rest ih =>
    rw [QueueEdit.liveAfter, List.foldl_cons, ← live_onStore]
    exact ih _

theorem Orderly.set (h : store.Orderly queue) (other : Queue) (due : Due) (value : Option Bytes) :
    (store.set (other.key due) value).Orderly queue := by
  intro key hhas hregion
  rw [has, get?_set] at hhas
  split at hhas
  · rename_i hkey
    rw [← hkey]
    exact Due.key_length other due
  · exact h key hhas hregion

theorem Orderly.afterEdits (h : store.Orderly queue) (edits : List QueueEdit) :
    (store.afterEdits edits).Orderly queue := by
  induction edits generalizing store with
  | nil => exact h
  | cons edit rest ih =>
    refine ih ?_
    cases edit with
    | insert other due => exact h.set other due _
    | remove other due => exact h.set other due _

/-- **A queue is a sorted set.**  Whatever the store holds in other regions, after any inserts and removals, in
this queue and in others, the entries that are due are the live ones of this queue whose time has come, by time
and then by name.  The first due entry is the first of them, the one after any entry, queued or not, is the first
of them that comes after it, and going on from one to the next enumerates them. -/
theorem Orderly.afterEdits_lists_live (h : store.Orderly queue) (edits : List QueueEdit) (now : Time) :
    ∃ dues, (store.afterEdits edits).dueBefore queue now = .ok dues ∧
      dues.Pairwise Due.Before ∧
      (∀ due, due ∈ dues ↔ due ∈ QueueEdit.liveAfter store.live edits queue ∧ due.time ≤ now) ∧
      (store.afterEdits edits).firstDue queue now = .ok dues.head? ∧
      (∀ last, (store.afterEdits edits).nextDueAfter queue now last =
        .ok (dues.find? fun due => last.Before due)) ∧
      (store.afterEdits edits).Enumerates queue now none dues := by
  have horderly := h.afterEdits edits
  obtain ⟨dues, hdues⟩ := horderly.exists_waiting now none
  refine ⟨dues, hdues.dueBefore, hdues.sorted, ?_, hdues.dueFrom, hdues.nextDueAfter horderly,
    hdues.enumerates⟩
  intro due
  rw [hdues.mem_iff, ← live_afterEdits]
  simp [live]

def lastQueue : Queue := ⟨255⟩

def lastId : NameId := ⟨⟨List.replicate 20 255, List.length_replicate⟩⟩

/-- A store with keys in other regions, of which one is no key of an entry. -/
def crowded : Store := (empty.put [254, 255] [1]).enqueue ⟨254⟩ ⟨.max, lastId⟩

/-- The first and the last entry go into the last queue, one more goes in and out again, and one goes into the
queue before it. -/
def extremes : List QueueEdit :=
  [.insert lastQueue ⟨.max, lastId⟩, .insert lastQueue ⟨0, lastId⟩, .insert ⟨254⟩ ⟨0, .zero⟩,
    .insert lastQueue ⟨0, .zero⟩, .remove lastQueue ⟨0, lastId⟩]

theorem afterEdits_lists_live_extremes :
    crowded.Orderly lastQueue ∧
      (crowded.afterEdits extremes).dueBefore lastQueue .max = .ok [⟨0, .zero⟩, ⟨.max, lastId⟩] ∧
      (crowded.afterEdits extremes).nextDueAfter lastQueue .max ⟨0, lastId⟩ = .ok (some ⟨.max, lastId⟩) ∧
      (crowded.afterEdits extremes).Enumerates lastQueue .max none [⟨0, .zero⟩, ⟨.max, lastId⟩] := by
  have horderly : crowded.Orderly lastQueue := by
    refine Orderly.set (fun key hhas hregion => ?_) ⟨254⟩ ⟨.max, lastId⟩ _
    have hnone : empty.get? key = none := Std.ExtTreeMap.getElem?_empty
    rw [has, put, get?_set, hnone] at hhas
    split at hhas
    · rename_i hkey
      rw [← hkey] at hregion
      exact absurd hregion (by decide)
    · cases hhas
  have hread : (crowded.afterEdits extremes).dueBefore lastQueue .max =
      .ok [⟨0, .zero⟩, ⟨.max, lastId⟩] := by decide +kernel
  obtain ⟨dues, hdues, -, -, -, hnext, henumerates⟩ := horderly.afterEdits_lists_live extremes .max
  obtain rfl := Except.ok.inj (hread.symm.trans hdues)
  exact ⟨horderly, hread, (hnext _).trans (by decide +kernel), henumerates⟩

end Store

end NameAuction
