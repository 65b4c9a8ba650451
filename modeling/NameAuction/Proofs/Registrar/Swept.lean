import NameAuction.Proofs.Registrar.Settled
import NameAuction.Proofs.Store.Queue

/-!
# What a sweep does

A pass over a queue handles the entries that are due when it starts, each once and in their order: the
cursor finds the next of them although the handling writes to the same store (`sweepFrom_ends`), because
handling an entry leaves the other entries of its own queue alone (`Settled.queued_eq`).  `Passed` is one
pass and `Swept` are the three passes of a sweep; what is true of the outcome of every handled entry is true
of theirs, if it goes on from one outcome to the next (`Passed.related`, `Swept.related`).
-/

namespace NameAuction

/-- Behind the first awaited entry, once it is gone, are the others. -/
theorem Lists.awaits_tail {book next : Book} {kind : QueueKind} {now : Time} {cursor : Option Due}
    {due : Due} {rest : List Due}
    (h : Lists (due :: rest) (Store.Keeps.dueItem kind) (book.Awaits kind now cursor))
    (hnext : ∀ other, next (.queued kind other) = book.set (.queued kind due) none (.queued kind other)) :
    Lists rest (Store.Keeps.dueItem kind) (next.Awaits kind now (some due)) where
  sorted := (List.pairwise_cons.mp h.sorted).2
  mem_iff other := by
    have hdue := (h.mem_iff due).mp (List.mem_cons_self ..)
    constructor
    · intro hmem
      have hlt := (List.pairwise_cons.mp h.sorted).1 other hmem
      have hbefore : due.Before other := (Queue.compare_key_lt_iff kind.queue).mp hlt
      obtain ⟨hqueued, htime, -⟩ := (h.mem_iff other).mp (List.mem_cons_of_mem _ hmem)
      have hslot : Slot.queued kind other ≠ .queued kind due := fun heq => by
        cases heq
        exact hbefore.ne rfl
      refine ⟨?_, htime, ?_⟩
      · rw [hnext, Book.set_of_ne _ _ hslot, hqueued]
      · intro last hlast
        cases hlast
        exact hbefore
    · rintro ⟨hqueued, htime, hcursor⟩
      have hbefore := hcursor due rfl
      have hslot : Slot.queued kind other ≠ .queued kind due := fun heq => by
        cases heq
        exact hbefore.ne rfl
      rw [hnext, Book.set_of_ne _ _ hslot] at hqueued
      have hawaits : book.Awaits kind now cursor other :=
        ⟨hqueued, htime, fun last hlast => (hdue.2.2 last hlast).trans hbefore⟩
      rcases List.mem_cons.mp ((h.mem_iff other).mpr hawaits) with rfl | hmem
      · exact absurd rfl hbefore.ne
      · exact hmem

/-- The entries of a queue that are due. -/
abbrev Book.DueNow (book : Book) (kind : QueueKind) (now : Time) (dues : List Due) : Prop :=
  Lists dues (Store.Keeps.dueItem kind) (book.Awaits kind now none)

namespace Registrar

open Step Turn

variable {setting : Setting}

/-- Handling an entry leaves the other entries of its queue alone. -/
theorem Settled.queued_eq {book : Book} {kind : QueueKind} {due : Due} {outcome : Outcome}
    (h : Settled setting book kind due outcome) (other : Due) :
    outcome.book (.queued kind other) = book (.queued kind other) := by
  cases h with
  | revealStarted => simp
  | closedEmpty => simp
  | awarded => simp [Book.clear, bidSlots]
  | closedUnsold => simp [Book.clear, bidSlots]
  | expired => simp [Book.clear, resolutionSlots]

/-- Entries of a queue that are due are taken off it and handled one after another. -/
inductive Passed (setting : Setting) (kind : QueueKind) : Book → List Due → Outcome → Prop
  | done (book : Book) : Passed setting kind book [] (.start book)
  | step {book : Book} {due : Due} {rest : List Due} {first second : Outcome}
      (hqueued : book (.queued kind due) = some ()) (htime : due.time ≤ setting.now)
      (hsettled : Settled setting (book.set (.queued kind due) none) kind due first)
      (hrest : Passed setting kind first.book rest second) :
      Passed setting kind book (due :: rest) (first.andThen second)

/-- What a sweep does. -/
inductive Swept (setting : Setting) (book : Book) : Outcome → Prop
  | passes {bids reveals ends : List Due} {first second third : Outcome}
      (hbids : book.DueNow .bid setting.now bids)
      (hfirst : Passed setting .bid book bids first)
      (hreveals : first.book.DueNow .reveal setting.now reveals)
      (hsecond : Passed setting .reveal first.book reveals second)
      (hends : second.book.DueNow .registration setting.now ends)
      (hthird : Passed setting .registration second.book ends third) :
      Swept setting book ((first.andThen second).andThen third)

/-! ### From entries to sweeps -/

/-- A relation of outcomes to the books that they start from.  It goes on from one outcome to the next, and
under an invariant every handled entry has it and preserves the invariant. -/
structure Carried (setting : Setting) (Inv : Book → Prop) (R : Book → Outcome → Prop) : Prop where
  start : ∀ book, R book (.start book)
  andThen : ∀ {book : Book} {first second : Outcome}, R book first → R first.book second →
    R book (first.andThen second)
  settled : ∀ {book : Book} {kind : QueueKind} {due : Due} {outcome : Outcome}, Inv book →
    book (.queued kind due) = some () → due.time ≤ setting.now →
    Settled setting (book.set (.queued kind due) none) kind due outcome →
    R book outcome ∧ Inv outcome.book

section

variable {Inv : Book → Prop} {R : Book → Outcome → Prop} {book : Book} {outcome : Outcome}

theorem Passed.related (hcarried : Carried setting Inv R) {kind : QueueKind} {dues : List Due}
    (h : Passed setting kind book dues outcome) (hinv : Inv book) :
    R book outcome ∧ Inv outcome.book := by
  induction h with
  | done book => exact ⟨hcarried.start book, hinv⟩
  | step hqueued htime hsettled _ ih =>
    obtain ⟨hfirst, hmid⟩ := hcarried.settled hinv hqueued htime hsettled
    obtain ⟨hrest, hlast⟩ := ih hmid
    exact ⟨hcarried.andThen hfirst hrest, hlast⟩

/-- **What every handled entry does, a sweep does.** -/
theorem Swept.related (hcarried : Carried setting Inv R) (h : Swept setting book outcome)
    (hinv : Inv book) : R book outcome ∧ Inv outcome.book := by
  cases h with
  | passes _ hfirst _ hsecond _ hthird =>
    obtain ⟨hone, hinv₁⟩ := hfirst.related hcarried hinv
    obtain ⟨htwo, hinv₂⟩ := hsecond.related hcarried hinv₁
    obtain ⟨hthree, hinv₃⟩ := hthird.related hcarried hinv₂
    exact ⟨hcarried.andThen (hcarried.andThen hone htwo) hthree, hinv₃⟩

end

/-! ### Running the passes -/

/-- The turn after an entry has been taken off its queue. -/
def taken (turn : Turn) (kind : QueueKind) (due : Due) : Turn :=
  { turn with store := turn.store.delete (Slot.queued kind due).key }

theorem taken_becomes {turn : Turn} {book : Book} (hkeeps : turn.store.Keeps book) (kind : QueueKind)
    (due : Due) : turn.Becomes (.start (book.set (.queued kind due) none)) (taken turn kind due) :=
  (Becomes.refl hkeeps).delete (.queued kind due)

/-- An invariant under which every queued entry can be handled, but for the faults `may`, and which
handling an entry preserves. -/
structure Sweepable (setting : Setting) (Inv : Book → Turn → Prop) (may : Fault → Prop) : Prop where
  settles : ∀ {book : Book} {turn : Turn} {kind : QueueKind} {due : Due}, turn.store.Keeps book →
    Inv book turn → book (.queued kind due) = some () →
    (settleOf setting kind due).Ends (taken turn kind due)
      (fun _ next => ∃ outcome, Settled setting (book.set (.queued kind due) none) kind due outcome ∧
        (taken turn kind due).Becomes outcome next ∧ Inv outcome.book next) may

/-- Whether an entry agrees with its record does not depend on the queues. -/
theorem agrees_set_queued {book : Book} {kind other : QueueKind} {due entry : Due}
    {value : Option Unit} :
    (book.set (.queued other entry) value).Agrees kind due ↔ book.Agrees kind due := by
  cases kind <;> simp [Book.Agrees]

theorem settle_taken_ends {book : Book} {turn : Turn} (hkeeps : turn.store.Keeps book) {kind : QueueKind}
    {due : Due} (hagrees : book.Agrees kind due) :
    Settles setting (book.set (.queued kind due) none) (taken turn kind due) kind due
      (settleOf setting kind due) :=
  settle_ends (taken_becomes hkeeps kind due).keeps (agrees_set_queued.mpr hagrees)

variable {Inv : Book → Turn → Prop} {may : Fault → Prop} {turn : Turn}

/-- **A pass handles the entries that wait for it.**  The bound counts the entries that are left. -/
theorem sweepFrom_ends (hsweep : Sweepable setting Inv may) (kind : QueueKind) {bound : Nat} {book : Book}
    {cursor : Option Due} {dues : List Due} (hkeeps : turn.store.Keeps book) (hinv : Inv book turn)
    (hdues : Lists dues (Store.Keeps.dueItem kind) (book.Awaits kind setting.now cursor))
    (hbound : dues.length < bound) :
    (sweepFrom setting kind.queue (settleOf setting kind) bound cursor).Ends turn
      (fun _ next => ∃ outcome, Passed setting kind book dues outcome ∧
        turn.Becomes outcome next ∧ Inv outcome.book next) may := by
  induction bound generalizing turn book cursor dues with
  | zero => omega
  | succ bound ih =>
    obtain ⟨list, hread, hlist⟩ := hkeeps.dueFrom kind setting.now cursor
    obtain rfl := hlist.unique hdues
    refine .bind (.bind (.look hread (.bind (.change (.pure ?_)))))
    cases list with
    | nil => exact .pure ⟨_, .done book, .refl hkeeps, hinv⟩
    | cons due rest =>
      obtain ⟨hqueued, htime, -⟩ := (hdues.mem_iff due).mp (List.mem_cons_self ..)
      have htaken := taken_becomes hkeeps kind due
      refine .bind ((hsweep.settles hkeeps hinv hqueued).mono ?_ fun _ h => h)
      rintro ⟨⟩ mid ⟨first, hsettled, hfirst, hmid⟩
      have hrest := hdues.awaits_tail fun other => hsettled.queued_eq other
      refine (ih hfirst.keeps hmid hrest ?_).mono ?_ fun _ h => h
      · rw [List.length_cons] at hbound
        omega
      · rintro ⟨⟩ next ⟨second, hpassed, hsecond, hinv'⟩
        exact ⟨_, .step hqueued htime hsettled hpassed, (htaken.trans hfirst).trans hsecond, hinv'⟩

theorem sweepQueue_ends (hsweep : Sweepable setting Inv may) (kind : QueueKind) {book : Book}
    (hkeeps : turn.store.Keeps book) (hinv : Inv book turn) :
    (sweepQueue setting kind.queue (settleOf setting kind)).Ends turn
      (fun _ next => ∃ dues outcome, book.DueNow kind setting.now dues ∧
        Passed setting kind book dues outcome ∧ turn.Becomes outcome next ∧ Inv outcome.book next)
      may := by
  obtain ⟨dues, hrange, hdues⟩ := hkeeps.range_spanFrom kind setting.now none
  refine .bind (.look rfl ?_)
  have hlength : dues.length < (turn.store.range (kind.queue.dueSpan setting.now)).length + 1 := by
    have hlen := congrArg List.length hrange
    rw [List.length_map] at hlen
    exact Nat.lt_succ_of_le (Nat.le_of_eq hlen.symm)
  refine (sweepFrom_ends hsweep kind hkeeps hinv hdues hlength).mono ?_ fun _ h => h
  rintro ⟨⟩ next ⟨outcome, hpassed, hbecomes, hinv'⟩
  exact ⟨dues, outcome, hdues, hpassed, hbecomes, hinv'⟩

/-- **What a sweep leads to.** -/
theorem sweep_ends (hsweep : Sweepable setting Inv may) {book : Book} (hkeeps : turn.store.Keeps book)
    (hinv : Inv book turn) :
    (sweep setting).Ends turn
      (fun _ next => ∃ outcome, Swept setting book outcome ∧ turn.Becomes outcome next) may := by
  refine .bind ((sweepQueue_ends hsweep .bid hkeeps hinv).mono ?_ fun _ h => h)
  rintro ⟨⟩ mid ⟨bids, first, hbids, hfirst, hmid, hinv₁⟩
  refine .bind ((sweepQueue_ends hsweep .reveal hmid.keeps hinv₁).mono ?_ fun _ h => h)
  rintro ⟨⟩ last ⟨reveals, second, hreveals, hsecond, hlast, hinv₂⟩
  refine (sweepQueue_ends hsweep .registration hlast.keeps hinv₂).mono ?_ fun _ h => h
  rintro ⟨⟩ next ⟨ends, third, hends, hthird, hnext, -⟩
  exact ⟨_, .passes hbids hfirst hreveals hsecond hends hthird, (hmid.trans hlast).trans hnext⟩

end Registrar

end NameAuction
