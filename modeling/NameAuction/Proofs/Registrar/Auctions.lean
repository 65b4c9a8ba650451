import NameAuction.Proofs.Registrar.Pairing

/-!
# Bids and auctions

Three invariants of the auction records: every bid names its bidder (`Book.Signed`), every bid is on an
auction (`Book.Housed`), and an auction has no top bid before bids are revealed (`Book.Sealed`).  Together
with the pairing of queues and records they make a book sane (`Book.Sane`), and commands and handled
entries keep it sane (`Sane.handled`, `Sane.settled`).
-/

namespace NameAuction

namespace Book

open Registrar

/-- Every bid names the bidder under whom it is held. -/
def Signed (book : Book) : Prop :=
  ∀ (id : NameId) (bidder : Account) (bid : Bid), book (.bid id bidder) = some bid →
    bid.bidder = bidder

def Housed (book : Book) : Prop :=
  ∀ id bidder, book (.auction id) = none → book (.bid id bidder) = none

/-- An auction in its bid phase has no top bid. -/
def Sealed (book : Book) : Prop :=
  ∀ (id : NameId) (auction : Auction), book (.auction id) = some auction → auction.phase = .bid →
    auction.topBid = none

variable {book next : Book} {setting : Setting} {outcome : Outcome}

/-! ### Bids name their bidders -/

theorem Signed.of_bids (h : book.Signed)
    (hbids : ∀ (id : NameId) (bidder : Account) (bid : Bid), next (.bid id bidder) = some bid →
      book (.bid id bidder) = some bid) : next.Signed :=
  fun id bidder bid hbid => h id bidder bid (hbids id bidder bid hbid)

theorem bid_of_clear {slots : List Slot} {id : NameId} {bidder : Account} {bid : Bid}
    (h : book.clear slots (.bid id bidder) = some bid) : book (.bid id bidder) = some bid := by
  rw [clear] at h
  split at h
  · cases h
  · exact h

theorem bid_of_set_none {slot : Slot} {id : NameId} {bidder : Account} {bid : Bid}
    (h : book.set slot none (.bid id bidder) = some bid) : book (.bid id bidder) = some bid := by
  by_cases heq : Slot.bid id bidder = slot
  · subst heq
    rw [set_self] at h
    cases h
  · rwa [set_of_ne _ _ heq] at h

theorem Signed.handled {command : Command} (h : book.Signed)
    (hhandled : Handled setting book command outcome) : outcome.book.Signed := by
  cases hhandled with
  | opened => exact h.of_bids fun _ _ _ hbid => by simpa using hbid
  | @bidPlaced name commitment deposit bidder id auction hidden =>
    intro id' bidder' bid hbid
    have hplaced : book.set (.bid id bidder) (some ⟨hidden, deposit, bidder⟩) (.bid id' bidder') =
      some bid := hbid
    by_cases heq : Slot.bid id' bidder' = .bid id bidder
    · cases heq
      rw [set_self] at hplaced
      obtain rfl := Option.some.inj hplaced
      rfl
    · rw [set_of_ne _ _ heq] at hplaced
      exact h id' bidder' bid hplaced
  | revealedTop => exact h.of_bids fun _ _ _ hbid => bid_of_set_none (by simpa using hbid)
  | revealedBelow => exact h.of_bids fun _ _ _ hbid => bid_of_set_none (by simpa using hbid)
  | renewed => exact h.of_bids fun _ _ _ hbid => by simpa using hbid
  | ownerChanged => exact h.of_bids fun _ _ _ hbid => by simpa using hbid
  | subNameSet => exact h.of_bids fun _ _ _ hbid => by simpa using hbid
  | subNameCleared => exact h.of_bids fun _ _ _ hbid => by simpa using hbid

theorem Signed.settled {kind : QueueKind} {due : Due} (h : book.Signed)
    (hsettled : Settled setting (book.set (.queued kind due) none) kind due outcome) :
    outcome.book.Signed := by
  cases hsettled with
  | revealStarted => exact h.of_bids fun _ _ _ hbid => by simpa using hbid
  | closedEmpty => exact h.of_bids fun _ _ _ hbid => by simpa using hbid
  | awarded => exact h.of_bids fun _ _ _ hbid => by simpa using bid_of_clear hbid
  | closedUnsold => exact h.of_bids fun _ _ _ hbid => by simpa using bid_of_clear hbid
  | expired => exact h.of_bids fun _ _ _ hbid => by simpa using bid_of_clear hbid

/-! ### Bids are on auctions -/

theorem clear_bidSlots (hsigned : book.Signed) {id : NameId} {bids : List Bid}
    (hbids : book.BidsOn id bids) (bidder : Account) :
    book.clear (bidSlots id bids) (.bid id bidder) = none := by
  cases hbid : book.clear (bidSlots id bids) (.bid id bidder) with
  | none => rfl
  | some bid =>
    have hheld := bid_of_clear hbid
    have hbidder := hsigned id bidder bid hheld
    have hmem : Slot.bid id bidder ∈ bidSlots id bids := by
      refine List.mem_map.mpr ⟨bid, (hbids.mem_iff bid).mpr ?_, ?_⟩
      · rw [hbidder]
        exact hheld
      · rw [hbidder]
    rw [clear, if_pos hmem] at hbid
    cases hbid

theorem Housed.handled {command : Command} (h : book.Housed)
    (hhandled : Handled setting book command outcome) : outcome.book.Housed := by
  intro id' bidder' hnone
  cases hhandled with
  | @opened name organizer parts id endTime =>
    by_cases heq : id' = id
    · subst heq
      simp at hnone
    · simpa using h id' bidder' (by simpa [heq] using hnone)
  | @bidPlaced name commitment deposit bidder id auction hidden _ hauction =>
    have hnone' : book (.auction id') = none := by simpa using hnone
    have hne : id' ≠ id := by
      rintro rfl
      rw [hauction] at hnone'
      cases hnone'
    simpa [hne] using h id' bidder' hnone'
  | @revealedTop name salt amount bidder id =>
    by_cases heq : id' = id
    · subst heq
      simp at hnone
    · simpa [heq] using h id' bidder' (by simpa [heq] using hnone)
  | @revealedBelow name salt amount bidder id =>
    by_cases heq : id' = id
    · subst heq
      simp at hnone
    · simpa [heq] using h id' bidder' (by simpa [heq] using hnone)
  | renewed => simpa using h id' bidder' (by simpa using hnone)
  | ownerChanged => simpa using h id' bidder' (by simpa using hnone)
  | subNameSet => simpa using h id' bidder' (by simpa using hnone)
  | subNameCleared => simpa using h id' bidder' (by simpa using hnone)

theorem Housed.settled {kind : QueueKind} {due : Due} (h : book.Housed) (hsigned : book.Signed)
    (hsettled : Settled setting (book.set (.queued kind due) none) kind due outcome) :
    outcome.book.Housed := by
  intro id' bidder' hnone
  have hsigned' : (book.set (.queued kind due) none).Signed :=
    hsigned.of_bids fun _ _ _ hbid => by simpa using hbid
  cases hsettled with
  | revealStarted =>
    by_cases heq : id' = due.id
    · subst heq
      simp at hnone
    · simpa using h id' bidder' (by simpa [heq] using hnone)
  | closedEmpty _ _ _ hbids =>
    by_cases heq : id' = due.id
    · subst heq
      simpa using hbids bidder'
    · simpa using h id' bidder' (by simpa [heq] using hnone)
  | @awarded _ auction top endTime bids _ _ _ _ _ hbids =>
    by_cases heq : id' = due.id
    · subst heq
      simpa [clear] using clear_bidSlots hsigned' hbids bidder'
    · have hbid := h id' bidder' (by simpa [clear, bidSlots, heq] using hnone)
      simpa [clear, bidSlots] using fun _ => hbid
  | @closedUnsold _ auction bids _ _ _ _ hbids =>
    by_cases heq : id' = due.id
    · subst heq
      simpa [clear] using clear_bidSlots hsigned' hbids bidder'
    · have hbid := h id' bidder' (by simpa [clear, bidSlots, heq] using hnone)
      simpa [clear, bidSlots] using fun _ => hbid
  | expired =>
    have hbid := h id' bidder' (by simpa [clear, resolutionSlots] using hnone)
    simpa [clear, resolutionSlots] using hbid

/-! ### Top bids are revealed bids -/

theorem Sealed.update (h : book.Sealed) (id : NameId)
    (hothers : ∀ other, other ≠ id → next (.auction other) = book (.auction other))
    (hid : ∀ auction : Auction, next (.auction id) = some auction → auction.phase = .bid →
      auction.topBid = none) : next.Sealed := by
  intro other auction hauction hphase
  by_cases heq : other = id
  · subst heq
    exact hid auction hauction hphase
  · rw [hothers other heq] at hauction
    exact h other auction hauction hphase

theorem Sealed.of_same (h : book.Sealed) (hsame : ∀ id, next (.auction id) = book (.auction id)) :
    next.Sealed := fun id auction hauction => h id auction ((hsame id).symm.trans hauction)

theorem Sealed.handled {command : Command} (h : book.Sealed)
    (hhandled : Handled setting book command outcome) : outcome.book.Sealed := by
  cases hhandled with
  | @opened name organizer parts id endTime =>
    refine h.update id (fun other hne => by simp [hne]) ?_
    intro auction hauction _
    obtain rfl : Auction.opened name endTime = auction := by simpa using hauction
    rfl
  | bidPlaced => exact h.of_same fun id => by simp
  | @revealedTop name salt amount bidder id auction bid surplus _ _ hreveal =>
    refine h.update id (fun other hne => by simp [hne]) ?_
    intro later hlater hphase
    obtain rfl : { auction with topBid := some ⟨bidder, amount⟩ } = later := by simpa using hlater
    rw [hreveal] at hphase
    cases hphase
  | @revealedBelow name salt amount bidder id auction bid _ _ hreveal =>
    refine h.update id (fun other hne => by simp [hne]) ?_
    intro later hlater hphase
    obtain rfl : auction = later := by simpa using hlater
    rw [hreveal] at hphase
    cases hphase
  | renewed => exact h.of_same fun id => by simp
  | ownerChanged => exact h.of_same fun id => by simp
  | subNameSet => exact h.of_same fun id => by simp
  | subNameCleared => exact h.of_same fun id => by simp

theorem Sealed.settled {kind : QueueKind} {due : Due} (h : book.Sealed)
    (hsettled : Settled setting (book.set (.queued kind due) none) kind due outcome) :
    outcome.book.Sealed := by
  cases hsettled with
  | @revealStarted _ auction endTime =>
    refine h.update due.id (fun other hne => by simp [hne]) ?_
    intro later hlater hphase
    obtain rfl : { auction with phase := .reveal, endTime := endTime } = later := by simpa using hlater
    cases hphase
  | closedEmpty =>
    exact h.update due.id (fun other hne => by simp [hne]) fun _ hauction => by simp at hauction
  | awarded =>
    exact h.update due.id (fun other hne => by simp [clear, bidSlots, hne]) fun _ hauction => by
      simp [clear, bidSlots] at hauction
  | closedUnsold =>
    exact h.update due.id (fun other hne => by simp [clear, bidSlots, hne]) fun _ hauction => by
      simp [clear, bidSlots] at hauction
  | expired => exact h.of_same fun id => by simp [clear, resolutionSlots]

/-! ### Sane books -/

/-- The invariants of the records and the queues. -/
structure Sane (book : Book) : Prop where
  paired : book.Paired
  apart : book.Apart
  signed : book.Signed
  housed : book.Housed
  unopened : book.Sealed

/-- **A command keeps the book sane.** -/
theorem Sane.handled {command : Command} (h : book.Sane)
    (hhandled : Handled setting book command outcome) : outcome.book.Sane where
  paired := h.paired.handled h.apart hhandled
  apart := h.apart.handled hhandled
  signed := h.signed.handled hhandled
  housed := h.housed.handled hhandled
  unopened := h.unopened.handled hhandled

/-- **Handling a queued entry keeps the book sane.** -/
theorem Sane.settled {kind : QueueKind} {due : Due} (h : book.Sane)
    (hqueued : book (.queued kind due) = some ())
    (hsettled : Settled setting (book.set (.queued kind due) none) kind due outcome) :
    outcome.book.Sane where
  paired := h.paired.settled h.apart hqueued hsettled
  apart := h.apart.settled hsettled
  signed := h.signed.settled hsettled
  housed := h.housed.settled h.signed hsettled
  unopened := h.unopened.settled hsettled

/-! ### New records -/

theorem Sane.blank : Book.blank.Sane where
  paired _ _ _ := ⟨nofun, nofun⟩
  apart _ _ := rfl
  signed _ _ _ := nofun
  housed _ _ _ := rfl
  unopened _ _ := nofun

theorem Sane.addAuction (h : book.Sane) {id : NameId} (auction : Auction)
    (hfree : book (.registration id) = none) (hnew : book (.auction id) = none)
    (htop : auction.phase = .bid → auction.topBid = none) :
    ((book.set (.auction id) (some auction)).set
      (.queued auction.phase.kind ⟨auction.endTime, id⟩) (some ())).Sane where
  paired := h.paired.addAuction auction hfree hnew
  apart := h.apart.update id (fun other hne => by simp [hne]) fun _ => by simpa using hfree
  signed := h.signed.of_bids fun _ _ _ hbid => by simpa using hbid
  housed other bidder hnone := by
    by_cases heq : other = id
    · subst heq
      simp at hnone
    · simpa using h.housed other bidder (by simpa [heq] using hnone)
  unopened := h.unopened.update id (fun other hne => by simp [hne]) fun added hadded => by
    obtain rfl : auction = added := by simpa using hadded
    exact htop

theorem Sane.addRegistration (h : book.Sane) {id : NameId} (registration : Registration)
    (hfree : book (.registration id) = none) (hnew : book (.auction id) = none) :
    ((book.set (.registration id) (some registration)).set
      (.queued .registration ⟨registration.endTime, id⟩) (some ())).Sane where
  paired := h.paired.addRegistration registration hfree hnew
  apart := h.apart.update id (fun other hne => by simp [hne]) fun hsome => by
    exact absurd (by simpa using hnew) hsome
  signed := h.signed.of_bids fun _ _ _ hbid => by simpa using hbid
  housed other bidder hnone := by simpa using h.housed other bidder (by simpa using hnone)
  unopened := h.unopened.of_same fun other => by simp

theorem Sane.addBid (h : book.Sane) {id : NameId} (bid : Bid) (hauction : book (.auction id) ≠ none) :
    (book.set (.bid id bid.bidder) (some bid)).Sane where
  paired := h.paired.of_same (by simp) fun other => waiting_congr (by simp) (by simp)
  apart other hsome := by simpa using h.apart other (by simpa using hsome)
  signed other bidder held hheld := by
    by_cases heq : Slot.bid other bidder = .bid id bid.bidder
    · cases heq
      rw [set_self] at hheld
      obtain rfl := Option.some.inj hheld
      rfl
    · rw [set_of_ne _ _ heq] at hheld
      exact h.signed other bidder held hheld
  housed other bidder hnone := by
    have hother : book (.auction other) = none := by simpa using hnone
    have hne : other ≠ id := by
      rintro rfl
      exact hauction hother
    simpa [hne] using h.housed other bidder hother
  unopened := h.unopened.of_same fun other => by simp

/-- Resolutions and reverse entries do not matter. -/
theorem Sane.addResolution (h : book.Sane) (id child : NameId) (account : Account) :
    ((book.set (.resolution id child) (some account)).set (.reverse account) (some id)).Sane where
  paired := h.paired.of_same (by simp) fun other => waiting_congr (by simp) (by simp)
  apart other hsome := by simpa using h.apart other (by simpa using hsome)
  signed := h.signed.of_bids fun _ _ _ hbid => by simpa using hbid
  housed other bidder hnone := by simpa using h.housed other bidder (by simpa using hnone)
  unopened := h.unopened.of_same fun other => by simp

end Book

namespace Registrar

/-- **A sweep keeps the book sane.** -/
theorem Swept.sane {setting : Setting} {book : Book} {outcome : Outcome}
    (h : Swept setting book outcome) (hsane : book.Sane) : outcome.book.Sane := by
  have hcarried : Carried setting Book.Sane fun _ _ => True :=
    { start := fun _ => trivial
      andThen := fun _ _ => trivial
      settled := fun hinv hqueued _ hsettled => ⟨trivial, hinv.settled hqueued hsettled⟩ }
  exact (h.related hcarried hsane).2

/-- A property of books that commands and handled entries preserve. -/
structure Lasting (Inv : Book → Prop) : Prop where
  handled : ∀ {setting : Setting} {book : Book} {command : Command} {outcome : Outcome}, book.Sane →
    Inv book → command.check = .ok () → Handled setting book command outcome → Inv outcome.book
  settled : ∀ {setting : Setting} {book : Book} {kind : QueueKind} {due : Due} {outcome : Outcome},
    book.Sane → Inv book → due.time ≤ setting.now →
    Settled setting (book.set (.queued kind due) none) kind due outcome → Inv outcome.book

/-- Sweeps preserve it as well. -/
theorem Lasting.swept {Inv : Book → Prop} (h : Lasting Inv) {setting : Setting} {book : Book}
    {outcome : Outcome} (hsane : book.Sane) (hinv : Inv book) (hswept : Swept setting book outcome) :
    Inv outcome.book := by
  have hcarried : Carried setting (fun book => book.Sane ∧ Inv book) fun _ _ => True :=
    { start := fun _ => trivial
      andThen := fun _ _ => trivial
      settled := fun ⟨hsane, hinv⟩ hqueued htime hsettled =>
        ⟨trivial, hsane.settled hqueued hsettled, h.settled hsane hinv htime hsettled⟩ }
  exact (hswept.related hcarried ⟨hsane, hinv⟩).2.2

/-- **A sane book can be swept.** -/
theorem sweepable_sane (setting : Setting) :
    Sweepable setting (fun book _ => book.Sane) Fault.OfSweep where
  settles := fun {book _ _ _} hkeeps hsane hqueued => by
    have hsane : book.Sane := hsane
    have hagrees := Book.agrees_of_waiting (hsane.paired.waiting_eq hqueued)
    refine (settle_taken_ends hkeeps hagrees).mono ?_ fun _ h => h.ofSweep
    rintro _ next ⟨outcome, hsettled, hbecomes⟩
    exact ⟨outcome, hsettled, hbecomes, hsane.settled hqueued hsettled⟩

end Registrar

end NameAuction
