import NameAuction.Proofs.Registrar.Liability

/-!
# Sweeping a single auction

Where only one name is auctioned, a sweep that comes when its bid phase is over starts the reveal phase and
moves nothing (`Swept.of_bidding`), and one that comes when its reveal phase is over registers the name for
the top bidder (`Swept.of_revealing`).  A sweep only ever burns (`Swept.burns_only`), so what it burns is
what the liability loses (`Swept.burnt_eq`).
-/

namespace NameAuction

namespace Book

/-- No other name is auctioned. -/
def Alone (book : Book) (id : NameId) : Prop := ∀ other, other ≠ id → book (.auction other) = none

variable {book : Book} {id : NameId} {kind : QueueKind} {now time : Time} {dues : List Due}

/-- The due entries of a paired queue. -/
theorem Paired.mem_dueNow_iff (h : book.Paired) (hdues : book.DueNow kind now dues) (due : Due) :
    due ∈ dues ↔ book.waiting due.id = some (kind, due.time) ∧ due.time ≤ now := by
  rw [hdues.mem_iff, ← h kind due.time due.id]
  exact ⟨fun ⟨hqueued, htime, _⟩ => ⟨hqueued, htime⟩, fun ⟨hqueued, htime⟩ => ⟨hqueued, htime, nofun⟩⟩

theorem Paired.dueNow_eq_nil (h : book.Paired) (hdues : book.DueNow kind now dues)
    (hnone : ∀ id time, book.waiting id = some (kind, time) → ¬ time ≤ now) : dues = [] := by
  refine List.eq_nil_iff_forall_not_mem.mpr ?_
  intro due hdue
  obtain ⟨hwaiting, htime⟩ := (h.mem_dueNow_iff hdues due).mp hdue
  exact hnone due.id due.time hwaiting htime

theorem Paired.dueNow_eq_singleton (h : book.Paired) (hdues : book.DueNow kind now dues)
    (hwaiting : book.waiting id = some (kind, time)) (htime : time ≤ now)
    (honly : ∀ other, other ≠ id → ∀ later, book.waiting other ≠ some (kind, later)) :
    dues = [⟨time, id⟩] := by
  refine hdues.unique ⟨List.pairwise_singleton .., ?_⟩
  intro due
  rw [List.mem_singleton, ← hdues.mem_iff, h.mem_dueNow_iff hdues]
  constructor
  · rintro rfl
    exact ⟨hwaiting, htime⟩
  · rintro ⟨hdue, -⟩
    have hid : due.id = id := by
      by_contra hne
      exact honly due.id hne due.time hdue
    rw [hid, hwaiting] at hdue
    obtain rfl : time = due.time := (Prod.mk.inj (Option.some.inj hdue)).2
    rw [← hid]

theorem waiting_ne_phase (h : book (.auction id) = none) (phase : Phase) (time : Time) :
    book.waiting id ≠ some (phase.kind, time) := by
  intro hwaiting
  rw [waiting, h] at hwaiting
  cases hregistration : book (.registration id) with
  | none =>
    rw [hregistration] at hwaiting
    cases hwaiting
  | some registration =>
    rw [hregistration] at hwaiting
    cases phase <;> cases hwaiting

/-- Where only one name is auctioned and does not wait for the end of a phase, no end of it is due. -/
theorem Sane.dueNow_eq_nil (h : book.Sane) (halone : book.Alone id) (phase : Phase) {now : Time}
    {dues : List Due} (hdues : book.DueNow phase.kind now dues)
    (hnot : ∀ time, book.waiting id = some (phase.kind, time) → ¬ time ≤ now) : dues = [] := by
  refine h.paired.dueNow_eq_nil hdues ?_
  intro other later hlater
  by_cases heq : other = id
  · subst heq
    exact hnot later hlater
  · exact absurd hlater (waiting_ne_phase (halone other heq) phase later)

/-- Where only one name is auctioned and its phase is over, only the end of that phase is due. -/
theorem Sane.dueNow_eq_singleton (h : book.Sane) (halone : book.Alone id) (phase : Phase) {now : Time}
    {dues : List Due} (hdues : book.DueNow phase.kind now dues) {auction : Auction}
    (hauction : book (.auction id) = some auction) (hphase : auction.phase = phase)
    (hdue : auction.endTime ≤ now) : dues = [⟨auction.endTime, id⟩] := by
  have hwaiting := waiting_of_auction hauction
  rw [hphase] at hwaiting
  exact h.paired.dueNow_eq_singleton hdues hwaiting hdue
    fun other hne later => waiting_ne_phase (halone other hne) phase later

theorem Sane.ne_of_mem_dueNow (h : book.Sane) {now : Time} {dues : List Due}
    (hdues : book.DueNow .registration now dues) (hnone : book (.auction id) = none)
    (hlater : ∀ registration, book (.registration id) = some registration →
      ¬ Registration.endTime registration ≤ now) : ∀ due ∈ dues, due.id ≠ id := by
  rintro due hdue hid
  obtain ⟨hwaiting, htime⟩ := (h.paired.mem_dueNow_iff hdues due).mp hdue
  rw [hid] at hwaiting
  cases hregistration : book (.registration id) with
  | none =>
    rw [waiting_of_none hnone hregistration] at hwaiting
    cases hwaiting
  | some registration =>
    rw [waiting_of_registration hnone hregistration] at hwaiting
    have hend := (Prod.mk.inj (Option.some.inj hwaiting)).2
    rw [← hend] at htime
    exact hlater registration hregistration htime

end Book

namespace Registrar

open Book

variable {setting : Setting} {book : Book} {outcome : Outcome} {id : NameId}

/-! ### Sweeps burn only -/

theorem Settled.burns_only {kind : QueueKind} {due : Due} (h : Settled setting book kind due outcome) :
    ∀ move ∈ outcome.moves, move.IsBurn := by
  cases h with
  | revealStarted => exact nofun
  | closedEmpty => exact nofun
  | expired => exact nofun
  | closedUnsold =>
    intro move hmove
    obtain ⟨bid, -, rfl⟩ := List.mem_map.mp hmove
    exact ⟨_, rfl⟩
  | awarded =>
    intro move hmove
    rcases List.mem_cons.mp hmove with rfl | hmove
    · exact ⟨_, rfl⟩
    · obtain ⟨bid, -, rfl⟩ := List.mem_map.mp hmove
      exact ⟨_, rfl⟩

/-- **A sweep takes nothing from accounts and pays nothing to them.** -/
theorem Swept.burns_only (h : Swept setting book outcome) :
    ∀ move ∈ outcome.moves, move.IsBurn := by
  have hcarried : Carried setting (fun _ => True) fun _ outcome => ∀ move ∈ outcome.moves, move.IsBurn :=
    { start := fun _ move hmove => absurd hmove List.not_mem_nil
      andThen := fun hfirst hsecond move hmove =>
        (List.mem_append.mp hmove).elim (hfirst move) (hsecond move)
      settled := fun _ _ _ hsettled => ⟨hsettled.burns_only, trivial⟩ }
  exact (h.related hcarried trivial).1

theorem sum_eq_zero_of_burns {quantity : Move → Nat} {moves : List Move}
    (hzero : ∀ amount, quantity (.burn amount) = 0)
    (h : ∀ move ∈ moves, move.IsBurn) : Move.sum quantity moves = 0 := by
  refine List.sum_eq_zero ?_
  intro n hn
  obtain ⟨move, hmove, rfl⟩ := List.mem_map.mp hn
  obtain ⟨amount, rfl⟩ := h move hmove
  exact hzero amount

/-- Where an outcome balances and only burns, the burns are what the liability loses. -/
theorem burnt_of_balances (hbalances : outcome.Balances book)
    (hburns : ∀ move ∈ outcome.moves, move.IsBurn) (denom : String) :
    outcome.book.liability denom + Move.sum (Move.burnt denom) outcome.moves = book.liability denom := by
  have hdenom := hbalances denom
  have hreleased : Move.sum (Move.released denom) outcome.moves = 0 :=
    sum_eq_zero_of_burns (fun _ => rfl) hburns
  have hcollected : Move.sum (Move.collected denom) outcome.moves = 0 :=
    sum_eq_zero_of_burns (fun _ => rfl) hburns
  omega

/-- **What a sweep burns is what the liability loses.** -/
theorem Swept.burnt_eq (h : Swept setting book outcome) (hfin : book.Finitary) (hsane : book.Sane)
    (denom : String) :
    outcome.book.liability denom + Move.sum (Move.burnt denom) outcome.moves = book.liability denom :=
  burnt_of_balances (h.balances hfin hsane) h.burns_only denom

/-! ### The pass over the registrations -/

/-- What the last pass leaves alone. -/
structure Keeps (book next : Book) (dues : List Due) : Prop where
  auction : ∀ id, next (.auction id) = book (.auction id)
  bid : ∀ id bidder, next (.bid id bidder) = book (.bid id bidder)
  registration : ∀ id, (∀ due ∈ dues, due.id ≠ id) →
    next (.registration id) = book (.registration id)

theorem Passed.keeps {dues : List Due} (h : Passed setting .registration book dues outcome) :
    Keeps book outcome.book dues ∧ outcome.moves = [] := by
  induction h with
  | done book => exact ⟨⟨fun _ => rfl, fun _ _ => rfl, fun _ _ => rfl⟩, rfl⟩
  | @step book due rest first second _ _ hsettled _ ih =>
    obtain ⟨hrest, hmoves⟩ := ih
    cases hsettled with
    | expired =>
      refine ⟨⟨?_, ?_, ?_⟩, ?_⟩
      · intro id
        exact (hrest.auction id).trans (by simp [clear, resolutionSlots])
      · intro id bidder
        exact (hrest.bid id bidder).trans (by simp [clear, resolutionSlots])
      · intro id hnot
        have hne : id ≠ due.id := (hnot due (List.mem_cons_self ..)).symm
        refine (hrest.registration id fun other hother => hnot other (List.mem_cons_of_mem _ hother)).trans ?_
        simp [clear, resolutionSlots, hne]
      · exact hmoves

/-! ### The end of the bid phase -/

theorem not_due_of_after {now period sum : Time} (h : now.after period = .ok sum)
    (hperiod : 0 < period.toNat) : ¬ sum ≤ now := by
  intro hle
  have hsum := Time.after_eq_ok h
  have hle' : sum.toNat ≤ now.toNat := hle
  omega

theorem Settled.of_bid {time : Time} (h : Settled setting book .bid ⟨time, id⟩ outcome)
    {auction : Auction} (hauction : book (.auction id) = some auction) {bidder : Account} {bid : Bid}
    (hbid : book (.bid id bidder) = some bid) :
    ∃ endTime, setting.now.after setting.params.revealPeriod = .ok endTime ∧ outcome.moves = [] ∧
      outcome.book (.auction id) = some { auction with phase := .reveal, endTime := endTime } ∧
      (∀ other, other ≠ id → outcome.book (.auction other) = book (.auction other)) ∧
      ∀ bidder, outcome.book (.bid id bidder) = book (.bid id bidder) := by
  cases h with
  | closedEmpty _ _ _ hempty =>
    have hnone : book (.bid id bidder) = none := hempty bidder
    rw [hbid] at hnone
    cases hnone
  | @revealStarted _ started endTime hstarted _ _ _ hend =>
    obtain rfl : auction = started := Option.some.inj (hauction.symm.trans hstarted)
    exact ⟨endTime, hend, rfl, by simp, fun other hne => by simp [hne], fun bidder => by simp⟩

theorem Passed.of_nil {kind : QueueKind} (h : Passed setting kind book [] outcome) :
    outcome.book = book ∧ outcome.moves = [] := by
  cases h
  exact ⟨rfl, rfl⟩

theorem Passed.of_singleton {kind : QueueKind} {due : Due} (h : Passed setting kind book [due] outcome) :
    ∃ first, book (.queued kind due) = some () ∧
      Settled setting (book.set (.queued kind due) none) kind due first ∧
      outcome.book = first.book ∧ outcome.moves = first.moves := by
  cases h with
  | step hqueued _ hsettled hrest =>
    obtain ⟨hbook, hmoves⟩ := hrest.of_nil
    exact ⟨_, hqueued, hsettled, hbook, by rw [Outcome.andThen, hmoves, List.append_nil]⟩

/-- **What a sweep after the bid phase does, if there is a bid to reveal.**  The reveal phase ends later, so
the same sweep does not end it. -/
theorem Swept.of_bidding (h : Swept setting book outcome) (hsane : book.Sane) (halone : book.Alone id)
    {auction : Auction} (hauction : book (.auction id) = some auction) (hphase : auction.phase = .bid)
    (hdue : auction.endTime ≤ setting.now) {bidder : Account} {bid : Bid}
    (hbid : book (.bid id bidder) = some bid) (hperiod : 0 < setting.params.revealPeriod.toNat) :
    ∃ endTime, setting.now.after setting.params.revealPeriod = .ok endTime ∧ outcome.moves = [] ∧
      outcome.book (.auction id) = some { auction with phase := .reveal, endTime := endTime } ∧
      outcome.book.Alone id ∧ ∀ bidder, outcome.book (.bid id bidder) = book (.bid id bidder) := by
  cases h with
  | @passes bids reveals ends first second third hbids hfirst hreveals hsecond hends hthird =>
    obtain rfl := hsane.dueNow_eq_singleton halone .bid hbids hauction hphase hdue
    obtain ⟨started, hqueued, hsettled, hbook, hmoves⟩ := hfirst.of_singleton
    have hsane₁ : first.book.Sane := by
      rw [hbook]
      exact hsane.settled hqueued hsettled
    obtain ⟨endTime, hend, hquiet, hreveal, hothers, hsame⟩ :=
      hsettled.of_bid (by simpa using hauction) (by simpa using hbid)
    rw [← hbook] at hreveal hothers hsame
    have halone₁ : first.book.Alone id := fun other hne => by
      simpa using (hothers other hne).trans (by simpa using halone other hne)
    obtain rfl : reveals = [] := by
      refine hsane₁.dueNow_eq_nil halone₁ .reveal hreveals ?_
      intro later hlater
      have hwaiting := waiting_of_auction hreveal
      obtain rfl := (Prod.mk.inj (Option.some.inj (hwaiting.symm.trans hlater))).2
      exact not_due_of_after hend hperiod
    obtain ⟨hbook₂, hmoves₂⟩ := hsecond.of_nil
    rw [hbook₂] at hthird
    obtain ⟨hkeeps, hmoves₃⟩ := hthird.keeps
    refine ⟨endTime, hend, ?_, (hkeeps.auction id).trans hreveal, ?_, ?_⟩
    · simp [Outcome.andThen, hmoves, hquiet, hmoves₂, hmoves₃]
    · intro other hne
      exact (hkeeps.auction other).trans (halone₁ other hne)
    · intro bidder
      exact (hkeeps.bid id bidder).trans ((hsame bidder).trans (by simp))

/-! ### The end of the reveal phase -/

/-- What the end of a reveal phase does. -/
theorem Settled.of_reveal {time : Time} (h : Settled setting book .reveal ⟨time, id⟩ outcome)
    {auction : Auction} (hauction : book (.auction id) = some auction)
    (hfree : book (.registration id) = none) :
    ∃ endTime, (auction.topBid ≠ none →
        setting.now.after setting.params.renewalInterval = .ok endTime) ∧
      outcome.book (.registration id) =
        auction.topBid.map (fun top => ⟨auction.name, top.bidder, endTime⟩) ∧
      outcome.book (.auction id) = none ∧
      ∀ other, other ≠ id → outcome.book (.auction other) = book (.auction other) := by
  cases h with
  | @awarded _ held top endTime bids hheld _ _ htop hend =>
    obtain rfl : auction = held := Option.some.inj (hauction.symm.trans hheld)
    refine ⟨endTime, fun _ => hend, ?_, by simp [clear, bidSlots], ?_⟩
    · rw [htop]
      simp [clear, bidSlots]
    · intro other hne
      simp [clear, bidSlots, hne]
  | @closedUnsold _ held bids hheld _ _ htop =>
    obtain rfl : auction = held := Option.some.inj (hauction.symm.trans hheld)
    refine ⟨0, fun hsome => absurd htop hsome, ?_, by simp [clear, bidSlots], ?_⟩
    · rw [htop]
      simpa [clear, bidSlots] using hfree
    · intro other hne
      simp [clear, bidSlots, hne]

/-- **What a sweep after the reveal phase does.**  The registration ends later, so the same sweep does not
end it. -/
theorem Swept.of_revealing (h : Swept setting book outcome) (hsane : book.Sane) (halone : book.Alone id)
    {auction : Auction} (hauction : book (.auction id) = some auction)
    (hphase : auction.phase = .reveal) (hdue : auction.endTime ≤ setting.now)
    (hinterval : 0 < setting.params.renewalInterval.toNat) :
    (∀ other, outcome.book (.auction other) = none) ∧ ∃ endTime, (auction.topBid ≠ none →
        setting.now.after setting.params.renewalInterval = .ok endTime) ∧
      outcome.book (.registration id) =
        auction.topBid.map fun top => ⟨auction.name, top.bidder, endTime⟩ := by
  cases h with
  | @passes bids reveals ends first second third hbids hfirst hreveals hsecond hends hthird =>
    obtain rfl : bids = [] := by
      refine hsane.dueNow_eq_nil halone .bid hbids ?_
      intro later hlater
      have hwaiting := waiting_of_auction hauction
      rw [hphase] at hwaiting
      have hkind := (Prod.mk.inj (Option.some.inj (hwaiting.symm.trans hlater))).1
      cases hkind
    obtain ⟨hbook₁, -⟩ := hfirst.of_nil
    rw [hbook₁] at hreveals hsecond
    obtain rfl := hsane.dueNow_eq_singleton halone .reveal hreveals hauction hphase hdue
    obtain ⟨settled, hqueued, hsettled, hbook₂, -⟩ := hsecond.of_singleton
    have hsane₂ : second.book.Sane := by
      rw [hbook₂]
      exact hsane.settled hqueued hsettled
    have hfree : book (.registration id) = none :=
      hsane.apart id (by rw [hauction]; exact Option.some_ne_none _)
    obtain ⟨endTime, hend, hregistration, hgone, hothers⟩ :=
      hsettled.of_reveal (by simpa using hauction) (by simpa using hfree)
    rw [← hbook₂] at hregistration hgone hothers
    obtain ⟨hkeeps, -⟩ := hthird.keeps
    refine ⟨?_, endTime, hend, ?_⟩
    · intro other
      rw [Outcome.andThen, hkeeps.auction other]
      by_cases heq : other = id
      · rw [heq]
        exact hgone
      · simpa using (hothers other heq).trans (by simpa using halone other heq)
    · refine (hkeeps.registration id ?_).trans hregistration
      refine hsane₂.ne_of_mem_dueNow hends hgone ?_
      intro registration hheld
      obtain ⟨top, htop, rfl⟩ := Option.map_eq_some_iff.mp (hregistration.symm.trans hheld)
      have hafter := hend (by rw [htop]; exact Option.some_ne_none _)
      exact not_due_of_after hafter hinterval

end Registrar

theorem Params.periods_pos {params : Params} (h : params.check = .ok ()) :
    0 < params.bidPeriod.toNat ∧ 0 < params.revealPeriod.toNat ∧ 0 < params.renewalInterval.toNat := by
  have hpos : ∀ {period : Period} {given : Time}, checkPeriod period given = .ok () → 0 < given.toNat := by
    intro period given hcheck
    have hle : minPeriod.toNat ≤ given.toNat := ensure_eq_ok_iff.mp hcheck
    exact Nat.lt_of_lt_of_le (by decide) hle
  obtain ⟨u, hbid, h⟩ := Except.bind_eq_ok_iff.mp h
  obtain ⟨u', hreveal, h⟩ := Except.bind_eq_ok_iff.mp h
  obtain ⟨u'', hrenewal, -⟩ := Except.bind_eq_ok_iff.mp h
  exact ⟨hpos hbid, hpos hreveal, hpos hrenewal⟩

end NameAuction
