import NameAuction.Proofs.Registrar.ByName
import NameAuction.Proofs.Registrar.Passes

/-!
# Sweeping again

A sweep for which nothing waits tells nothing and leaves the registrar as it is, the disk, the bank and the log
included (`endBlock_of_none`).  What a sweep queues is due later, because the checked periods are positive, so
nothing waits after a sweep that succeeds (`Sound.waits_for_none`), neither at its own moment nor at an earlier one.
Hence sweeping again does nothing, however often and in whichever order of those moments
(`Reachable.sweep_idempotent`).
-/

namespace NameAuction.Registrar

open Turn

/-- The results of sweeps at some moments, one after another, and the registrar after them. -/
def sweeps (registrar : Registrar) : List Time → List (Except Fault (List Event)) × Registrar
  | [] => ([], registrar)
  | now :: rest =>
    let (result, next) := registrar.endBlock now
    let (results, last) := sweeps next rest
    (result :: results, last)

variable {setting : Setting} {turn : Turn} {registrar next : Registrar} {book : Book} {now : Time}
  {events : List Event}

/-! ### Nothing to do -/

theorem sweepQueue_of_none {queue : Queue} (settle : Due → Step Unit)
    (h : turn.store.Waiting queue setting.now none []) : sweepQueue setting queue settle turn = .ok ((), turn) :=
  sweepFrom_of_none h.dueFrom _

theorem sweep_of_none (h : ∀ kind : QueueKind, turn.store.Waiting kind.queue setting.now none []) :
    sweep setting turn = .ok ((), turn) := by
  show (sweepQueue setting QueueKind.bid.queue (endBidPhase setting) turn >>= _) = _
  rw [sweepQueue_of_none _ (h .bid)]
  show (sweepQueue setting QueueKind.reveal.queue (endRevealPhase setting) turn >>= _) = _
  rw [sweepQueue_of_none _ (h .reveal)]
  exact sweepQueue_of_none _ (h .registration)

theorem settle_firstTurn (registrar : Registrar) (now : Time) :
    registrar.settle now registrar.firstTurn = (.ok [], registrar) := rfl

/-- **A sweep for which nothing waits does nothing.** -/
theorem endBlock_of_none (h : ∀ kind : QueueKind, registrar.store.Waiting kind.queue now none []) :
    registrar.endBlock now = (.ok [], registrar) := by
  have hwaits : ∀ kind : QueueKind, registrar.firstTurn.store.Waiting kind.queue now none [] := by
    intro kind
    have hrange : registrar.firstTurn.store.range (kind.queue.spanFrom now none) =
        registrar.store.range (kind.queue.spanFrom now none) :=
      Store.range_congr fun key _ => Store.get?_layer registrar.store key
    rw [Store.Waiting, hrange]
    exact h kind
  have hsweep : (sweep (registrar.setting now)).run registrar.firstTurn = .ok ((), registrar.firstTurn) :=
    sweep_of_none hwaits
  rw [endBlock, run, hsweep]
  exact settle_firstTurn registrar now

theorem sweeps_of_none {times : List Time}
    (h : ∀ time ∈ times, ∀ kind : QueueKind, registrar.store.Waiting kind.queue time none []) :
    registrar.sweeps times = (times.map fun _ => .ok [], registrar) := by
  induction times with
  | nil => rfl
  | cons time rest ih =>
    have hfirst := endBlock_of_none (h time (List.mem_cons_self ..))
    have hrest := ih fun other hmem => h other (List.mem_cons_of_mem _ hmem)
    rw [sweeps, hfirst]
    show (.ok [] :: (registrar.sweeps rest).1, (registrar.sweeps rest).2) = _
    rw [hrest]
    rfl

/-! ### After a sweep -/

theorem Sound.not_due (h : registrar.Sound book) (hok : registrar.endBlock now = (.ok events, next)) :
    ∃ book, next.Sound book ∧
      ∀ (kind : QueueKind) (due : Due), book (.queued kind due) = some () → ¬ due.time ≤ now := by
  obtain ⟨outcome, hswept, -, -, hnext⟩ := h.endBlock_ok hok
  exact ⟨outcome.book, hnext, fun kind due hqueued => hswept.not_due h.checked hqueued⟩

theorem Sound.waits_for_none (h : registrar.Sound book)
    (hnot : ∀ (kind : QueueKind) (due : Due), book (.queued kind due) = some () → ¬ due.time ≤ now)
    (kind : QueueKind) : registrar.store.Waiting kind.queue now none [] := by
  obtain ⟨dues, hwaiting, hdues⟩ := h.keeps.exists_waiting kind now none
  have hnone : dues = [] := List.eq_nil_iff_forall_not_mem.mpr fun due hmem => by
    obtain ⟨hqueued, htime, -⟩ := (hdues.mem_iff due).mp hmem
    exact hnot kind due hqueued htime
  exact hnone ▸ hwaiting

/-- **Sweeping is idempotent.**  After a sweep that succeeds no queue holds an entry whose time has come, and any
sweeps at that moment or before it tell nothing and leave the registrar as it is. -/
theorem Reachable.sweep_idempotent (h : Reachable registrar) (hok : registrar.endBlock now = (.ok events, next)) :
    (∀ kind : QueueKind, ∃ dues, next.store.queueEntries kind.queue = .ok dues ∧
      ∀ due ∈ dues, ¬ due.time ≤ now) ∧
    ∀ times : List Time, (∀ time ∈ times, time ≤ now) →
      next.sweeps times = (times.map fun _ => .ok [], next) := by
  obtain ⟨start, hsound⟩ := h.sound
  obtain ⟨book, hnext, hnot⟩ := hsound.not_due hok
  constructor
  · intro kind
    obtain ⟨dues, hdues, hlist⟩ := hnext.keeps.queueEntries kind
    exact ⟨dues, hdues, fun due hmem => hnot kind due ((hlist.mem_iff due).mp hmem)⟩
  · intro times htimes
    refine sweeps_of_none fun time hmem => hnext.waits_for_none fun kind due hqueued hdue => ?_
    exact hnot kind due hqueued (Nat.le_trans hdue (htimes time hmem))

/-- The sweep starts a reveal phase, so it queues an entry. -/
theorem sweep_idempotent_firstRun :
    ∃ events next, (standard.afterAll firstRun).endBlock (moment 200000) = (.ok events, next) ∧
      next.store.queueEntries QueueKind.reveal.queue = .ok [⟨moment 459200, .ofText "label.terra"⟩] ∧
      next.sweeps [moment 200000, moment 1000, moment 174000] = ([.ok [], .ok [], .ok []], next) := by
  have hreachable : Reachable (standard.afterAll firstRun) := reachable_standard.calledAll _
  have hrun : ((standard.afterAll firstRun).endBlock (moment 200000)).1.isOk = true ∧
      ((standard.afterAll firstRun).endBlock (moment 200000)).2.store.queueEntries QueueKind.reveal.queue =
        .ok [⟨moment 459200, .ofText "label.terra"⟩] := by decide +kernel
  obtain ⟨hok, hqueued⟩ := hrun
  obtain ⟨events, hresult⟩ := exists_events_of_isOk hok
  obtain ⟨-, hagain⟩ := hreachable.sweep_idempotent hresult
  exact ⟨events, _, hresult, hqueued, hagain _ (by decide +kernel)⟩

end NameAuction.Registrar
