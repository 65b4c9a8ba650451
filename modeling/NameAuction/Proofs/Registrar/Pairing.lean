import NameAuction.Proofs.Registrar.Handled
import NameAuction.Proofs.Registrar.Swept

/-!
# Queues mirror records

A name waits for the end of its auction's phase, or else for the end of its registration
(`Book.waiting`).  The queues are paired with the records if the entries of a name are exactly the one it
waits for (`Book.Paired`).  Every command and every handled entry keeps them paired (`Paired.handled`,
`Paired.settled`), and no name has an auction and a registration at once (`Apart.handled`,
`Apart.settled`).  So no queued entry ever disagrees with its record.
-/

namespace NameAuction

def Phase.kind : Phase → QueueKind
  | .bid => .bid
  | .reveal => .reveal

namespace Book

open Registrar

/-- The queue and the time for which a name waits. -/
def waiting (book : Book) (id : NameId) : Option (QueueKind × Time) :=
  match book (.auction id) with
  | some auction => some (Auction.phase auction |>.kind, Auction.endTime auction)
  | none => (book (.registration id)).map fun registration => (.registration, registration.endTime)

/-- Every name is queued for what it waits for and for nothing else. -/
def Paired (book : Book) : Prop :=
  ∀ kind time id, book (.queued kind ⟨time, id⟩) = some () ↔ book.waiting id = some (kind, time)

def Apart (book : Book) : Prop :=
  ∀ id, book (.auction id) ≠ none → book (.registration id) = none

variable {book next : Book}

theorem set_queued (book : Book) (kind other : QueueKind) (due entry : Due) (value : Option Unit) :
    book.set (.queued kind due) value (.queued other entry) =
      if other = kind ∧ entry = due then value else book (.queued other entry) := by
  by_cases h : other = kind ∧ entry = due
  · obtain ⟨rfl, rfl⟩ := h
    rw [if_pos ⟨rfl, rfl⟩, set_self]
  · rw [if_neg h, set_of_ne]
    intro heq
    cases heq
    exact h ⟨rfl, rfl⟩

theorem waiting_of_auction {id : NameId} {auction : Auction} (h : book (.auction id) = some auction) :
    book.waiting id = some (auction.phase.kind, auction.endTime) := by
  rw [waiting, h]

theorem waiting_of_registration {id : NameId} {registration : Registration}
    (hauction : book (.auction id) = none) (h : book (.registration id) = some registration) :
    book.waiting id = some (.registration, registration.endTime) := by
  rw [waiting, hauction, h]
  rfl

theorem waiting_of_none {id : NameId} (hauction : book (.auction id) = none)
    (hregistration : book (.registration id) = none) : book.waiting id = none := by
  rw [waiting, hauction, hregistration]
  rfl

theorem waiting_congr {id : NameId} (hauction : next (.auction id) = book (.auction id))
    (hregistration : next (.registration id) = book (.registration id)) :
    next.waiting id = book.waiting id := by
  rw [waiting, waiting, hauction, hregistration]

theorem agrees_of_waiting {kind : QueueKind} {due : Due}
    (h : book.waiting due.id = some (kind, due.time)) : book.Agrees kind due := by
  rw [waiting] at h
  cases hauction : book (.auction due.id) with
  | some auction =>
    rw [hauction] at h
    obtain ⟨hkind, htime⟩ := Prod.mk.inj (Option.some.inj h)
    cases hphase : Auction.phase auction with
    | bid =>
      rw [hphase] at hkind
      cases hkind
      exact ⟨auction, hauction, hphase, htime⟩
    | reveal =>
      rw [hphase] at hkind
      cases hkind
      exact ⟨auction, hauction, hphase, htime⟩
  | none =>
    rw [hauction] at h
    obtain ⟨registration, hregistration, heq⟩ := Option.map_eq_some_iff.mp h
    obtain ⟨hkind, htime⟩ := Prod.mk.inj heq
    cases hkind
    exact ⟨registration, hregistration, htime⟩

theorem Apart.auction_eq_none (h : book.Apart) {id : NameId} {registration : Registration}
    (hregistration : book (.registration id) = some registration) : book (.auction id) = none := by
  by_contra hsome
  have hnone := h id hsome
  rw [hregistration] at hnone
  cases hnone

namespace Paired

/-- A queued entry is the one that its name waits for. -/
theorem waiting_eq (h : book.Paired) {kind : QueueKind} {due : Due}
    (hqueued : book (.queued kind due) = some ()) : book.waiting due.id = some (kind, due.time) :=
  (h kind due.time due.id).mp hqueued

theorem not_queued (h : book.Paired) {id : NameId} (hnone : book.waiting id = none) (kind : QueueKind)
    (time : Time) : book (.queued kind ⟨time, id⟩) ≠ some () := by
  intro hqueued
  rw [h.waiting_eq hqueued] at hnone
  cases hnone

theorem not_queued_without (h : book.Paired) {id : NameId} {kind : QueueKind} {time : Time}
    (hqueued : book (.queued kind ⟨time, id⟩) = some ()) (other : QueueKind) (later : Time) :
    book.set (.queued kind ⟨time, id⟩) none (.queued other ⟨later, id⟩) ≠ some () := by
  intro hother
  rw [set_queued] at hother
  split at hother
  · cases hother
  · rename_i hne
    have hlater : book.waiting id = some (other, later) := h.waiting_eq hother
    have htime : book.waiting id = some (kind, time) := h.waiting_eq hqueued
    obtain ⟨rfl, rfl⟩ := Prod.mk.inj (Option.some.inj (hlater.symm.trans htime))
    exact hne ⟨rfl, rfl⟩

/-- A name that was queued nowhere and then waits for what it is queued for. -/
theorem queued_iff_waiting {id : NameId} (kind : QueueKind) (time : Time)
    (hnone : ∀ other later, book (.queued other ⟨later, id⟩) ≠ some ())
    (hnext : ∀ other later, next (.queued other ⟨later, id⟩) =
      book.set (.queued kind ⟨time, id⟩) (some ()) (.queued other ⟨later, id⟩))
    (hwaiting : next.waiting id = some (kind, time)) (other : QueueKind) (later : Time) :
    next (.queued other ⟨later, id⟩) = some () ↔ next.waiting id = some (other, later) := by
  rw [hwaiting, hnext, set_queued]
  by_cases heq : other = kind ∧ (⟨later, id⟩ : Due) = ⟨time, id⟩
  · rw [if_pos heq]
    obtain ⟨rfl, hdue⟩ := heq
    cases hdue
    simp
  · rw [if_neg heq]
    refine ⟨fun hqueued => absurd hqueued (hnone other later), ?_⟩
    intro hsome
    obtain ⟨rfl, rfl⟩ := Prod.mk.inj (Option.some.inj hsome)
    exact absurd ⟨rfl, rfl⟩ heq

theorem not_queued_iff_waiting {id : NameId}
    (hnone : ∀ other later, next (.queued other ⟨later, id⟩) ≠ some ())
    (hwaiting : next.waiting id = none) (other : QueueKind) (later : Time) :
    next (.queued other ⟨later, id⟩) = some () ↔ next.waiting id = some (other, later) := by
  rw [hwaiting]
  exact ⟨fun hqueued => absurd hqueued (hnone other later), nofun⟩

/-- Queues stay paired where only one name is concerned, and that name is queued for what it waits for. -/
theorem update (h : book.Paired) (id : NameId)
    (hothers : ∀ other, other ≠ id → next (.auction other) = book (.auction other) ∧
      next (.registration other) = book (.registration other) ∧
      ∀ kind time, next (.queued kind ⟨time, other⟩) = book (.queued kind ⟨time, other⟩))
    (hid : ∀ kind time, next (.queued kind ⟨time, id⟩) = some () ↔
      next.waiting id = some (kind, time)) : next.Paired := by
  intro kind time other
  by_cases heq : other = id
  · subst heq
    exact hid kind time
  · obtain ⟨hauction, hregistration, hqueued⟩ := hothers other heq
    rw [hqueued, waiting_congr hauction hregistration]
    exact h kind time other

theorem of_same (h : book.Paired) (hqueued : ∀ kind due, next (.queued kind due) = book (.queued kind due))
    (hwaiting : ∀ id, next.waiting id = book.waiting id) : next.Paired := by
  intro kind time id
  rw [hqueued, hwaiting]
  exact h kind time id

/-! ### New records -/

theorem addAuction (h : book.Paired) {id : NameId} (auction : Auction)
    (hfree : book (.registration id) = none) (hnew : book (.auction id) = none) :
    ((book.set (.auction id) (some auction)).set
      (.queued auction.phase.kind ⟨auction.endTime, id⟩) (some ())).Paired := by
  refine h.update id (fun other hne => by simp [hne]) (queued_iff_waiting _ _ ?_ (fun _ _ => rfl) ?_)
  · intro kind time
    simpa using h.not_queued (waiting_of_none hnew hfree) kind time
  · have hadded : ((book.set (.auction id) (some auction)).set
        (.queued auction.phase.kind ⟨auction.endTime, id⟩) (some ())) (.auction id) = some auction := by
      simp
    exact waiting_of_auction hadded

/-- A registration of a name without records is queued for its end. -/
theorem addRegistration (h : book.Paired) {id : NameId} (registration : Registration)
    (hfree : book (.registration id) = none) (hnew : book (.auction id) = none) :
    ((book.set (.registration id) (some registration)).set
      (.queued .registration ⟨registration.endTime, id⟩) (some ())).Paired := by
  refine h.update id (fun other hne => by simp [hne]) (queued_iff_waiting _ _ ?_ (fun _ _ => rfl) ?_)
  · intro kind time
    simpa using h.not_queued (waiting_of_none hnew hfree) kind time
  · exact waiting_of_registration (by simpa using hnew) (by simp)

/-! ### Commands -/

variable {setting : Setting} {outcome : Outcome}

/-- **A command keeps queues and records paired.** -/
theorem handled {command : Command} (h : book.Paired) (hapart : book.Apart)
    (hhandled : Handled setting book command outcome) : outcome.book.Paired := by
  cases hhandled with
  | @opened name organizer parts id endTime _ _ _ _ hfree hnew =>
    exact h.addAuction (.opened name endTime) hfree hnew
  | bidPlaced => exact h.of_same (by simp) fun id => waiting_congr (by simp) (by simp)
  | @revealedTop name salt amount bidder id auction bid surplus _ hauction =>
    refine h.of_same (by simp) ?_
    intro other
    by_cases heq : other = id
    · subst heq
      rw [waiting_of_auction hauction]
      simp [waiting]
    · exact waiting_congr (by simp [heq]) (by simp)
  | @revealedBelow name salt amount bidder id auction bid _ hauction =>
    refine h.of_same (by simp) fun other => waiting_congr ?_ (by simp)
    by_cases heq : other = id
    · subst heq
      simp [hauction]
    · simp [heq]
  | @renewed name fee owner parts id registration extension endTime _ _ hregistration =>
    have hauction : book (.auction id) = none := hapart.auction_eq_none hregistration
    have hqueued : book (.queued .registration ⟨registration.endTime, id⟩) = some () :=
      (h _ _ _).mpr (waiting_of_registration hauction hregistration)
    refine h.update id (fun other hne => by simp [hne]) (queued_iff_waiting _ _ ?_ (fun _ _ => rfl) ?_)
    · intro kind time
      simpa using h.not_queued_without hqueued kind time
    · simp [waiting, hauction]
  | @ownerChanged name newOwner owner id registration _ hregistration =>
    refine h.of_same (by simp) ?_
    intro other
    by_cases heq : other = id
    · subst heq
      have hauction : book (.auction other) = none := hapart.auction_eq_none hregistration
      rw [waiting_of_registration hauction hregistration]
      simp [waiting, hauction]
    · exact waiting_congr (by simp) (by simp [heq])
  | subNameSet => exact h.of_same (by simp) fun id => waiting_congr (by simp) (by simp)
  | subNameCleared => exact h.of_same (by simp) fun id => waiting_congr (by simp) (by simp)

/-! ### Due entries -/

/-- **Handling a due entry keeps queues and records paired.**  The entry is gone, so its name is queued
nowhere until it is queued again. -/
theorem settled {kind : QueueKind} {due : Due} (h : book.Paired) (hapart : book.Apart)
    (hqueued : book (.queued kind due) = some ())
    (hsettled : Settled setting (book.set (.queued kind due) none) kind due outcome) :
    outcome.book.Paired := by
  obtain ⟨time, id⟩ := due
  have hgone : ∀ other later,
      book.set (.queued kind ⟨time, id⟩) none (.queued other ⟨later, id⟩) ≠ some () :=
    h.not_queued_without hqueued
  cases hsettled with
  | @revealStarted _ auction endTime hauction =>
    refine h.update id (fun other hne => by simp [hne]) (queued_iff_waiting _ _ ?_ (fun _ _ => rfl) ?_)
    · intro kind later
      simpa using hgone kind later
    · simp [waiting, Phase.kind]
  | @closedEmpty _ auction hauction =>
    refine h.update id (fun other hne => by simp [hne]) (not_queued_iff_waiting ?_ ?_)
    · intro kind later
      simpa using hgone kind later
    · have hregistration : book (.registration id) = none :=
        hapart id (by simp [show book (.auction id) = some auction by simpa using hauction])
      exact waiting_of_none (by simp) (by simpa using hregistration)
  | @awarded _ auction top endTime bids hauction =>
    refine h.update id (fun other hne => by simp [clear, bidSlots, hne])
      (queued_iff_waiting .registration endTime hgone (fun other later => ?_) ?_)
    · simp [clear, bidSlots, set_queued]
    · simp [waiting, clear, bidSlots]
  | @closedUnsold _ auction bids hauction =>
    refine h.update id (fun other hne => by simp [clear, bidSlots, hne])
      (not_queued_iff_waiting ?_ ?_)
    · intro kind later
      simpa [clear, bidSlots] using hgone kind later
    · have hregistration : book (.registration id) = none :=
        hapart id (by simp [show book (.auction id) = some auction by simpa using hauction])
      exact waiting_of_none (by simp [clear, bidSlots]) (by simpa [clear, bidSlots] using hregistration)
  | @expired _ registration resolutions hregistration =>
    refine h.update id (fun other hne => by simp [clear, resolutionSlots, hne])
      (not_queued_iff_waiting ?_ ?_)
    · intro kind later
      simpa [clear, resolutionSlots] using hgone kind later
    · have hheld : book (.registration id) = some registration := by simpa using hregistration
      have hauction : book (.auction id) = none := hapart.auction_eq_none hheld
      exact waiting_of_none (by simpa [clear, resolutionSlots] using hauction)
        (by simp [clear, resolutionSlots])

/-- **The queued entries are those that agree with their records.** -/
theorem queued_iff_agrees (h : book.Paired) (hapart : book.Apart) (kind : QueueKind) (due : Due) :
    book (.queued kind due) = some () ↔ book.Agrees kind due := by
  refine ⟨fun hqueued => agrees_of_waiting (h.waiting_eq hqueued), ?_⟩
  intro hagrees
  refine (h kind due.time due.id).mpr ?_
  cases kind with
  | bid =>
    obtain ⟨auction, hauction, hphase, htime⟩ := hagrees
    rw [waiting_of_auction hauction, hphase, htime]
    rfl
  | reveal =>
    obtain ⟨auction, hauction, hphase, htime⟩ := hagrees
    rw [waiting_of_auction hauction, hphase, htime]
    rfl
  | registration =>
    obtain ⟨registration, hregistration, htime⟩ := hagrees
    rw [waiting_of_registration (hapart.auction_eq_none hregistration) hregistration, htime]

end Paired

/-! ### Auctions and registrations apart -/

namespace Apart

variable {setting : Setting} {outcome : Outcome}

theorem update (h : book.Apart) (id : NameId)
    (hothers : ∀ other, other ≠ id → next (.auction other) = book (.auction other) ∧
      next (.registration other) = book (.registration other))
    (hid : next (.auction id) ≠ none → next (.registration id) = none) : next.Apart := by
  intro other
  by_cases heq : other = id
  · subst heq
    exact hid
  · obtain ⟨hauction, hregistration⟩ := hothers other heq
    rw [hauction, hregistration]
    exact h other

theorem handled {command : Command} (h : book.Apart)
    (hhandled : Handled setting book command outcome) : outcome.book.Apart := by
  cases hhandled with
  | @opened name organizer parts id endTime _ _ _ _ hfree =>
    exact h.update id (fun other hne => by simp [hne]) fun _ => by simpa using hfree
  | @bidPlaced name commitment deposit bidder id =>
    exact h.update id (fun other hne => by simp) (by simpa using h id)
  | @revealedTop name salt amount bidder id auction bid surplus _ hauction =>
    have hregistration := h id (by rw [hauction]; simp)
    exact h.update id (fun other hne => by simp [hne]) fun _ => by simpa using hregistration
  | @revealedBelow name salt amount bidder id auction bid _ hauction =>
    have hregistration := h id (by rw [hauction]; simp)
    exact h.update id (fun other hne => by simp [hne]) fun _ => by simpa using hregistration
  | @renewed name fee owner parts id registration extension endTime _ _ hregistration =>
    have hauction := h.auction_eq_none hregistration
    exact h.update id (fun other hne => by simp [hne]) fun hsome => absurd (by simpa using hauction) hsome
  | @ownerChanged name newOwner owner id registration _ hregistration =>
    have hauction := h.auction_eq_none hregistration
    exact h.update id (fun other hne => by simp [hne]) fun hsome => absurd (by simpa using hauction) hsome
  | @subNameSet name account owner id => exact h.update id (fun other hne => by simp) (by simpa using h id)
  | @subNameCleared name account owner id =>
    exact h.update id (fun other hne => by simp) (by simpa using h id)

theorem settled {kind : QueueKind} {due : Due} (h : book.Apart)
    (hsettled : Settled setting (book.set (.queued kind due) none) kind due outcome) :
    outcome.book.Apart := by
  cases hsettled with
  | @revealStarted _ auction endTime hauction =>
    have hregistration := h due.id (by simp [show book (.auction due.id) = some auction by
      simpa using hauction])
    exact h.update due.id (fun other hne => by simp [hne]) fun _ => by simpa using hregistration
  | closedEmpty => exact h.update due.id (fun other hne => by simp [hne]) (by simp)
  | awarded =>
    exact h.update due.id (fun other hne => by simp [clear, bidSlots, hne]) (by simp [clear, bidSlots])
  | closedUnsold =>
    exact h.update due.id (fun other hne => by simp [clear, bidSlots, hne]) (by simp [clear, bidSlots])
  | expired =>
    exact h.update due.id (fun other hne => by simp [clear, resolutionSlots, hne]) fun _ => by
      simp [clear, resolutionSlots]

end Apart

end Book

end NameAuction
