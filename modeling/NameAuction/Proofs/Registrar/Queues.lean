import NameAuction.Proofs.Registrar.Reachable

/-!
# The queues of a reachable registrar

In every reachable registrar each queue holds exactly the entries that the stored records ask for, so no
sweep ever meets an entry that disagrees with its record (`Reachable.queues_mirror_records`).
-/

namespace NameAuction.Registrar

/-- A stored record asks for an entry of a queue: an auction for the queue of its phase, and a registration
for the queue of registrations, each at its end. -/
def AskedFor (auctions : List (NameId × Auction)) (registrations : List (NameId × Registration)) :
    QueueKind → Due → Prop
  | .bid, due => ∃ auction, (due.id, auction) ∈ auctions ∧ Auction.phase auction = .bid ∧
      Auction.endTime auction = due.time
  | .reveal, due => ∃ auction, (due.id, auction) ∈ auctions ∧ Auction.phase auction = .reveal ∧
      Auction.endTime auction = due.time
  | .registration, due => ∃ registration, (due.id, registration) ∈ registrations ∧
      Registration.endTime registration = due.time

/-- The records and the queues can be read, and every queue holds exactly the entries that the records ask
for. -/
def QueuesMirrorRecords (registrar : Registrar) : Prop :=
  ∃ auctions registrations, registrar.store.auctions = .ok auctions ∧
    registrar.store.registrations = .ok registrations ∧
    ∀ kind : QueueKind, ∃ dues, registrar.store.queueEntries kind.queue = .ok dues ∧
      ∀ due, due ∈ dues ↔ AskedFor auctions registrations kind due

variable {registrar : Registrar} {book : Book}

/-- What records ask for are the entries that agree with the book. -/
theorem askedFor_iff_agrees {auctions : List (NameId × Auction)}
    {registrations : List (NameId × Registration)}
    (hauctions : ∀ x, x ∈ auctions ↔ book (.auction x.1) = some x.2)
    (hregistrations : ∀ x, x ∈ registrations ↔ book (.registration x.1) = some x.2)
    (kind : QueueKind) (due : Due) :
    AskedFor auctions registrations kind due ↔ book.Agrees kind due := by
  cases kind with
  | bid => exact exists_congr fun auction => and_congr_left' (hauctions (due.id, auction))
  | reveal => exact exists_congr fun auction => and_congr_left' (hauctions (due.id, auction))
  | registration =>
    exact exists_congr fun registration => and_congr_left' (hregistrations (due.id, registration))

theorem Sound.queuesMirrorRecords (h : registrar.Sound book) : registrar.QueuesMirrorRecords := by
  obtain ⟨auctions, hauctions, hlistAuctions⟩ := h.keeps.auctions
  obtain ⟨registrations, hregistrations, hlistRegistrations⟩ := h.keeps.registrations
  refine ⟨auctions, registrations, hauctions, hregistrations, ?_⟩
  intro kind
  obtain ⟨dues, hdues, hlist⟩ := h.keeps.queueEntries kind
  refine ⟨dues, hdues, ?_⟩
  intro due
  have hagrees := h.sane.paired.queued_iff_agrees h.sane.apart kind due
  rw [hlist.mem_iff, hagrees]
  exact (askedFor_iff_agrees hlistAuctions.mem_iff hlistRegistrations.mem_iff kind due).symm

/-- A sweep of a sound registrar fails with an overflow or a refused move only. -/
theorem Sound.endBlock_error (h : registrar.Sound book) {now : Time} {fault : Fault}
    (hfault : (registrar.endBlock now).1 = .error fault) : fault.OfSweep := by
  have hran := h.endBlock_ran now
  generalize registrar.endBlock now = result at hran hfault
  cases hran with
  | refused hmay =>
    obtain rfl := Except.error.inj hfault
    exact hmay
  | done => cases hfault
  | torn =>
    obtain rfl := Except.error.inj hfault
    exact trivial

/-- **Queues mirror records in every reachable registrar, and no sweep finds them broken.** -/
theorem Reachable.queues_mirror_records (h : Reachable registrar) :
    registrar.QueuesMirrorRecords ∧
      ∀ now flaw, (registrar.endBlock now).1 ≠ .error (.corrupt flaw) := by
  obtain ⟨book, hsound⟩ := h.sound
  exact ⟨hsound.queuesMirrorRecords, fun now flaw hfault => hsound.endBlock_error hfault⟩

def opened : Registrar :=
  standard.after (.deliver (moment 1000) (.openAuction ⟨"label.terra"⟩ Demo.shop))

theorem queues_mirror_records_opened :
    Reachable opened ∧
      (opened.store.queueEntries QueueKind.bid.queue).toOption.map List.length = some 1 ∧
      opened.QueuesMirrorRecords ∧ ∀ now flaw, (opened.endBlock now).1 ≠ .error (.corrupt flaw) := by
  have hreachable : Reachable opened := reachable_standard.called _
  exact ⟨hreachable, by decide +kernel, hreachable.queues_mirror_records⟩

end NameAuction.Registrar
