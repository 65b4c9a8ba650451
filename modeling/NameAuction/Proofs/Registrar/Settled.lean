import NameAuction.Proofs.Registrar.Step
import NameAuction.Proofs.Store.Listing
import NameAuction.Registrar.Sweep

/-!
# What a due entry leads to

`Settled` lists, one case for each way, what handling a due entry has found in the book, without the
entry itself, and what it does to the book, which moves it makes and which events it tells.  An entry that
agrees with its record is handled in one of these ways, or handling it fails because a time overflows or a
move is refused (`Stuck`, `settle_ends`).
-/

namespace NameAuction

def Book.clear (book : Book) (slots : List Slot) : Book :=
  fun slot => if slot ∈ slots then none else book slot

theorem Book.clear_nil (book : Book) : book.clear [] = book := by
  funext slot
  simp [clear]

theorem Book.clear_cons (book : Book) (first : Slot) (rest : List Slot) :
    book.clear (first :: rest) = (book.set first none).clear rest := by
  funext slot
  by_cases h : slot = first
  · subst h
    simp [clear]
  · simp [clear, h]

/-- The record of a queue entry is there and has its phase and its time. -/
def Book.Agrees (book : Book) : QueueKind → Due → Prop
  | .bid, due => ∃ auction : Auction, book (.auction due.id) = some auction ∧
      auction.phase = .bid ∧ auction.endTime = due.time
  | .reveal, due => ∃ auction : Auction, book (.auction due.id) = some auction ∧
      auction.phase = .reveal ∧ auction.endTime = due.time
  | .registration, due => ∃ registration : Registration,
      book (.registration due.id) = some registration ∧ registration.endTime = due.time

abbrev Book.BidsOn (book : Book) (id : NameId) (bids : List Bid) : Prop :=
  Lists bids (fun bid => Store.Keeps.bidItem (id, bid)) fun bid => book (.bid id bid.bidder) = some bid

abbrev Book.ResolutionsOf (book : Book) (id : NameId) (resolutions : List (NameId × Account)) : Prop :=
  Lists resolutions (fun x => ⟨.resolution id x.1, x.2⟩) fun x => book (.resolution id x.1) = some x.2

/-- The faults by which a sweep of a sound store can end. -/
def Fault.OfSweep : Fault → Prop
  | .overflow .timestamp => True
  | .escrow _ => True
  | _ => False

theorem Time.after_eq_ok {time period sum : Time} (h : time.after period = .ok sum) :
    sum.toNat = time.toNat + period.toNat := by
  rw [Time.after, demand_eq_ok_iff] at h
  exact Word.ofNat?_eq_some_iff.mp h

theorem Time.after_eq_error {time period : Time} {place : Overflow}
    (h : time.after period = .error place) : (Fault.overflow place).OfSweep := by
  rw [Time.after] at h
  cases hsum : time.add? period with
  | none =>
    rw [hsum] at h
    cases h
    exact trivial
  | some sum =>
    rw [hsum] at h
    cases h

namespace Registrar

def slashMoves (bids : List Bid) : List Move := bids.map fun bid => .burn (.ofCoin bid.deposit)

def slashEvents (name : Name) (bids : List Bid) : List Event :=
  bids.map fun bid => .slashed name bid.bidder bid.deposit

def bidSlots (id : NameId) (bids : List Bid) : List Slot := bids.map fun bid => .bid id bid.bidder

def resolutionSlots (id : NameId) (resolutions : List (NameId × Account)) : List Slot :=
  resolutions.flatMap fun x => [.resolution id x.1, .reverse x.2]

theorem resolutionSlots_cons (id : NameId) (x : NameId × Account)
    (rest : List (NameId × Account)) :
    resolutionSlots id (x :: rest) =
      .resolution id x.1 :: .reverse x.2 :: resolutionSlots id rest := rfl

/-- What handling a due entry does. -/
inductive Settled (setting : Setting) (book : Book) : QueueKind → Due → Outcome → Prop
  | revealStarted {due : Due} {auction : Auction} {endTime : Time}
      (hauction : book (.auction due.id) = some auction) (hphase : auction.phase = .bid)
      (htime : auction.endTime = due.time)
      (hbids : ∃ (bidder : Account) (bid : Bid), book (.bid due.id bidder) = some bid)
      (hend : setting.now.after setting.params.revealPeriod = .ok endTime) :
      Settled setting book .bid due
        ⟨(book.set (.auction due.id) (some { auction with phase := .reveal, endTime := endTime })).set
            (.queued .reveal ⟨endTime, due.id⟩) (some ()),
          [], [.revealStarted auction.name endTime]⟩
  | closedEmpty {due : Due} {auction : Auction}
      (hauction : book (.auction due.id) = some auction) (hphase : auction.phase = .bid)
      (htime : auction.endTime = due.time) (hbids : ∀ bidder, book (.bid due.id bidder) = none) :
      Settled setting book .bid due
        ⟨book.set (.auction due.id) none, [], [.closed auction.name]⟩
  | awarded {due : Due} {auction : Auction} {top : TopBid} {endTime : Time} {bids : List Bid}
      (hauction : book (.auction due.id) = some auction) (hphase : auction.phase = .reveal)
      (htime : auction.endTime = due.time) (htop : auction.topBid = some top)
      (hend : setting.now.after setting.params.renewalInterval = .ok endTime)
      (hbids : book.BidsOn due.id bids) :
      Settled setting book .reveal due
        ⟨(((book.set (.auction due.id) none).set (.registration due.id)
              (some ⟨auction.name, top.bidder, endTime⟩)).set
              (.queued .registration ⟨endTime, due.id⟩) (some ())).clear (bidSlots due.id bids),
          .burn (.ofCoin top.amount) :: slashMoves bids,
          .settled auction.name top.bidder top.amount endTime :: slashEvents auction.name bids⟩
  | closedUnsold {due : Due} {auction : Auction} {bids : List Bid}
      (hauction : book (.auction due.id) = some auction) (hphase : auction.phase = .reveal)
      (htime : auction.endTime = due.time) (htop : auction.topBid = none)
      (hbids : book.BidsOn due.id bids) :
      Settled setting book .reveal due
        ⟨(book.set (.auction due.id) none).clear (bidSlots due.id bids), slashMoves bids,
          .closed auction.name :: slashEvents auction.name bids⟩
  | expired {due : Due} {registration : Registration} {resolutions : List (NameId × Account)}
      (hregistration : book (.registration due.id) = some registration)
      (htime : registration.endTime = due.time)
      (hresolutions : book.ResolutionsOf due.id resolutions) :
      Settled setting book .registration due
        ⟨(book.set (.registration due.id) none).clear (resolutionSlots due.id resolutions), [],
          [.expired registration.name registration.owner]⟩

/-- The moment is so late that a period that starts then has no end. -/
def Late (setting : Setting) : Prop :=
  ∃ place, setting.now.after setting.params.revealPeriod = .error place ∨
    setting.now.after setting.params.renewalInterval = .error place

/-- Why handling a due entry fails: a period that starts has no end, or the vault refuses what is to be
moved. -/
inductive Stuck (setting : Setting) (book : Book) (vault : Vault) (kind : QueueKind) (due : Due) :
    Fault → Prop
  | late {fault : Fault} (hlate : Late setting) (hfault : fault.OfSweep) :
      Stuck setting book vault kind due fault
  | refused {outcome : Outcome} {fault : EscrowFault}
      (hsettled : Settled setting book kind due outcome)
      (hrefused : vault.applyAll outcome.moves = .error fault) :
      Stuck setting book vault kind due (.escrow fault)

theorem Stuck.ofSweep {setting : Setting} {book : Book} {vault : Vault} {kind : QueueKind} {due : Due}
    {fault : Fault} (h : Stuck setting book vault kind due fault) : fault.OfSweep := by
  cases h with
  | late _ hfault => exact hfault
  | refused => exact trivial

def settleOf (setting : Setting) : QueueKind → Due → Step Unit
  | .bid => endBidPhase setting
  | .reveal => endRevealPhase setting
  | .registration => expire

/-! ### The end of a bid phase -/

open Step Turn

variable {setting : Setting} {book : Book} {turn : Turn}

abbrev Settles (setting : Setting) (book : Book) (turn : Turn) (kind : QueueKind) (due : Due)
    (step : Step Unit) : Prop :=
  step.Ends turn (fun _ next => ∃ outcome, Settled setting book kind due outcome ∧
    turn.Becomes outcome next) (Stuck setting book turn.vault kind due)

theorem dueAuction_ends (hkeeps : turn.store.Keeps book) (kind : QueueKind) {phase : Phase} {due : Due}
    {auction : Auction} (hauction : book (.auction due.id) = some auction)
    (hphase : auction.phase = phase) (htime : auction.endTime = due.time)
    {done : Auction → Turn → Prop} {failed : Fault → Prop} (h : done auction turn) :
    (dueAuction kind phase due).Ends turn done failed := by
  refine .bind (.find (hkeeps.auction? due.id) (fun found hfound => ?_) fun hnone => ?_)
  · obtain rfl : auction = found := Option.some.inj (hauction.symm.trans hfound)
    refine .bind (.ensure (fun _ => .pure h) fun hnot => ?_)
    exact absurd ⟨hphase, htime⟩ hnot
  · rw [hauction] at hnone
    cases hnone

theorem endBidPhase_ends (hkeeps : turn.store.Keeps book) {due : Due} (hagrees : book.Agrees .bid due) :
    Settles setting book turn .bid due (endBidPhase setting due) := by
  obtain ⟨auction, hauction, hphase, htime⟩ := hagrees
  have hfits : auction.Fits := hkeeps.fits (.auction due.id) auction hauction
  refine .bind (dueAuction_ends hkeeps .bid hauction hphase htime ?_)
  refine .bind (.look rfl ?_)
  cases hhas : turn.store.hasBids due.id with
  | true =>
    refine .bind (.raise (fun endTime hend => ?_) fun place hplace =>
      .late ⟨place, .inl hplace⟩ (Time.after_eq_error hplace))
    refine .bind (.change (.bind (.change (.tell ?_))))
    have hbids := (hkeeps.hasBids_iff due.id).mp hhas
    refine ⟨_, .revealStarted hauction hphase htime hbids hend, ?_⟩
    have hnext : (Slot.auction due.id).Fits { auction with phase := .reveal, endTime := endTime } :=
      ⟨hfits.name, hfits.topBid⟩
    exact (((Becomes.refl hkeeps).put _ hnext).enqueue .reveal ⟨endTime, due.id⟩).tell _
  | false =>
    refine .bind (.change (.tell ?_))
    have hbids : ∀ bidder, book (.bid due.id bidder) = none := by
      intro bidder
      cases hbid : book (.bid due.id bidder) with
      | none => rfl
      | some bid =>
        have htrue := (hkeeps.hasBids_iff due.id).mpr ⟨bidder, bid, hbid⟩
        rw [hhas] at htrue
        cases htrue
    refine ⟨_, .closedEmpty hauction hphase htime hbids, ?_⟩
    exact ((Becomes.refl hkeeps).delete (.auction due.id)).tell _

/-! ### The end of a reveal phase -/

theorem slash_ends {start : Turn} {outcome : Outcome} (hbecomes : start.Becomes outcome turn)
    (id : NameId) (name : Name) (bids : List Bid) :
    (slash id name bids).Ends turn
      (fun _ next => start.Becomes ⟨outcome.book.clear (bidSlots id bids),
        outcome.moves ++ slashMoves bids, outcome.events ++ slashEvents name bids⟩ next)
      fun fault => ∃ refusal, fault = .escrow refusal ∧
        start.vault.applyAll (outcome.moves ++ slashMoves bids) = .error refusal := by
  induction bids generalizing turn outcome with
  | nil =>
    refine .pure ?_
    simpa [bidSlots, slashMoves, slashEvents, Book.clear_nil] using hbecomes
  | cons bid rest ih =>
    refine .bind (.move (fun vault hmove => ?_) fun refusal hrefusal => ?_)
    · refine .bind (.change (.bind (.tell ?_)))
      have hnext := ((hbecomes.move hmove).delete (.bid id bid.bidder)).tell
        (.slashed name bid.bidder bid.deposit)
      refine (ih hnext).mono ?_ ?_
      · intro _ next h
        simpa [bidSlots, slashMoves, slashEvents, Book.clear_cons] using h
      · intro fault h
        simpa [slashMoves] using h
    · exact ⟨refusal, rfl, hbecomes.refuse hrefusal _⟩

theorem endRevealPhase_ends (hkeeps : turn.store.Keeps book) {due : Due}
    (hagrees : book.Agrees .reveal due) :
    Settles setting book turn .reveal due (endRevealPhase setting due) := by
  obtain ⟨auction, hauction, hphase, htime⟩ := hagrees
  have hfits : auction.Fits := hkeeps.fits (.auction due.id) auction hauction
  refine .bind (dueAuction_ends hkeeps .reveal hauction hphase htime ?_)
  refine .bind (.change ?_)
  have hdeleted := (Becomes.refl hkeeps).delete (.auction due.id)
  refine .bind ?_
  unfold award
  cases htop : auction.topBid with
  | none =>
    refine .tell ?_
    have htold := hdeleted.tell (.closed auction.name)
    obtain ⟨bids, hread, hbids⟩ := htold.keeps.bidsOn due.id
    have hlisted : book.BidsOn due.id bids := by simpa [Outcome.start] using hbids
    have hsettled : Settled setting book .reveal due _ :=
      .closedUnsold hauction hphase htime htop hlisted
    refine .bind (.look hread ?_)
    refine (slash_ends htold due.id auction.name bids).mono (fun _ next h => ⟨_, hsettled, h⟩) ?_
    rintro _ ⟨refusal, rfl, hrefused⟩
    exact .refused hsettled hrefused
  | some top =>
    refine .bind (.move (fun vault hmove => ?_) fun refusal hrefusal => ?_)
    · refine .bind (.raise (fun endTime hend => ?_) fun place hplace =>
        .late ⟨place, .inr hplace⟩ (Time.after_eq_error hplace))
      refine .bind (.change (.bind (.change (.tell ?_))))
      have hregistration : (Slot.registration due.id).Fits ⟨auction.name, top.bidder, endTime⟩ :=
        hfits.name
      have htold := (((hdeleted.move hmove).put _ hregistration).enqueue .registration
        ⟨endTime, due.id⟩).tell (.settled auction.name top.bidder top.amount endTime)
      obtain ⟨bids, hread, hbids⟩ := htold.keeps.bidsOn due.id
      have hlisted : book.BidsOn due.id bids := by simpa [Outcome.start] using hbids
      have hsettled := Settled.awarded hauction hphase htime htop hend hlisted
      refine .bind (.look hread ?_)
      refine (slash_ends htold due.id auction.name bids).mono (fun _ next h => ⟨_, hsettled, h⟩) ?_
      rintro _ ⟨refusal, rfl, hrefused⟩
      exact .refused hsettled hrefused
    -- the burn of the top bid comes before the end of the registration is worked out
    · cases hend : setting.now.after setting.params.renewalInterval with
      | error place => exact .late ⟨place, .inr hend⟩ trivial
      | ok endTime =>
        obtain ⟨bids, -, hbids⟩ := hkeeps.bidsOn due.id
        exact .refused (.awarded hauction hphase htime htop hend hbids)
          ((Becomes.refl hkeeps).refuse hrefusal _)

/-! ### The end of a registration -/

theorem forgetResolutions_keeps {store : Store} (hkeeps : store.Keeps book) (id : NameId)
    (resolutions : List (NameId × Account)) :
    (forgetResolutions id resolutions store).Keeps (book.clear (resolutionSlots id resolutions)) ∧
      store.Extends (forgetResolutions id resolutions store) := by
  induction resolutions generalizing store book with
  | nil =>
    rw [resolutionSlots, List.flatMap_nil, Book.clear_nil]
    exact ⟨hkeeps, .refl store⟩
  | cons x rest ih =>
    have hnext := (hkeeps.delete (.resolution id x.1)).delete (.reverse x.2)
    obtain ⟨hrest, hextends⟩ := ih hnext
    constructor
    · rw [resolutionSlots_cons, Book.clear_cons, Book.clear_cons]
      exact hrest
    · have hfirst := Store.Extends.set store (Slot.resolution id x.1).key none
      have hsecond := Store.Extends.set (store.delete (Slot.resolution id x.1).key)
        (Slot.reverse x.2).key none
      exact (hfirst.trans hsecond).trans hextends

theorem expire_ends (hkeeps : turn.store.Keeps book) {due : Due}
    (hagrees : book.Agrees .registration due) :
    Settles setting book turn .registration due (expire due) := by
  obtain ⟨registration, hregistration, htime⟩ := hagrees
  refine .bind (.find (hkeeps.registration? due.id) (fun found hfound => ?_) fun hnone => ?_)
  · obtain rfl : registration = found := Option.some.inj (hregistration.symm.trans hfound)
    refine .bind (.ensure (fun _ => ?_) fun hnot => absurd htime hnot)
    refine .bind (.change ?_)
    have hdeleted := (Becomes.refl hkeeps).delete (.registration due.id)
    obtain ⟨resolutions, hread, hlist⟩ := hdeleted.keeps.resolutionsOf due.id
    refine .bind (.look hread (.bind (.change (.tell ?_))))
    have hlisted : book.ResolutionsOf due.id resolutions := by simpa [Outcome.start] using hlist
    refine ⟨_, .expired hregistration htime hlisted, ?_⟩
    obtain ⟨hforgotten, hextends⟩ := forgetResolutions_keeps hdeleted.keeps due.id resolutions
    exact ⟨hforgotten, hdeleted.extends_store.trans hextends, rfl, rfl⟩
  · rw [hregistration] at hnone
    cases hnone

/-- **What handling a due entry leads to, if it agrees with its record.** -/
theorem settle_ends (hkeeps : turn.store.Keeps book) {kind : QueueKind} {due : Due}
    (hagrees : book.Agrees kind due) :
    Settles setting book turn kind due (settleOf setting kind due) := by
  cases kind with
  | bid => exact endBidPhase_ends hkeeps hagrees
  | reveal => exact endRevealPhase_ends hkeeps hagrees
  | registration => exact expire_ends hkeeps hagrees

end Registrar

end NameAuction
