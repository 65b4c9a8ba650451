import NameAuction.Proofs.Registrar.Records

/-!
# What a sweep tells

The events of a sweep are told name by name.  A sweep that takes a step with a name tells what the step has
found and what has come of it (`Told`), and of a name that is left alone it tells nothing (`Swept.told`,
`Swept.silent`).  What the sweep burns are the amounts that its events tell (`Swept.burnt_told`).
-/

namespace NameAuction

namespace Event

def name : Event → Name
  | .opened name .. => name
  | .bidPlaced name .. => name
  | .bidRevealed name .. => name
  | .renewed name .. => name
  | .ownerChanged name .. => name
  | .subNameSet name _ => name
  | .subNameCleared name _ => name
  | .revealStarted name _ => name
  | .closed name => name
  | .settled name .. => name
  | .slashed name .. => name
  | .expired name _ => name

def burnt (denom : String) : Event → Nat
  | .renewed _ fee _ => fee.held denom
  | .settled _ _ amount _ => amount.held denom
  | .slashed _ _ deposit => deposit.held denom
  | _ => 0

def about (id : NameId) (events : List Event) : List Event :=
  events.filter fun event => event.name.id = .ok id

variable {id : NameId} {events : List Event}

theorem mem_about {event : Event} : event ∈ about id events ↔ event ∈ events ∧ event.name.id = .ok id := by
  simp [about]

theorem about_append (id : NameId) (events more : List Event) :
    about id (events ++ more) = about id events ++ about id more := List.filter_append ..

theorem about_eq_self (h : ∀ event ∈ events, event.name.id = .ok id) : about id events = events :=
  List.filter_eq_self.mpr fun event hmem => decide_eq_true (h event hmem)

theorem about_eq_nil {other : NameId} (h : ∀ event ∈ events, event.name.id = .ok other) (hne : id ≠ other) :
    about id events = [] := by
  refine List.filter_eq_nil_iff.mpr fun event hmem hid => hne ?_
  exact Except.ok.inj ((of_decide_eq_true hid).symm.trans (h event hmem))

end Event

abbrev NameRecords.BidsOn (id : NameId) (records : NameRecords) (bids : List Bid) : Prop :=
  Lists bids (fun bid => Store.Keeps.bidItem (id, bid)) fun bid => records.bid bid.bidder = some bid

namespace Registrar

open Book

variable {setting : Setting} {book : Book} {outcome : Outcome} {id : NameId}

/-- What is told of a step with a name that is due, from what is found and what has come of it. -/
inductive Told (id : NameId) (records after : NameRecords) : List Event → Prop
  | revealStarted {auction : Auction} {endTime : Time} (hauction : records.auction = some auction)
      (hphase : auction.phase = .bid)
      (hafter : after = { records with
        auction := some { auction with phase := .reveal, endTime := endTime } }) :
      Told id records after [.revealStarted auction.name endTime]
  | closedEmpty {auction : Auction} (hauction : records.auction = some auction)
      (hphase : auction.phase = .bid) (hbids : ∀ bidder, records.bid bidder = none)
      (hafter : after = { records with auction := none }) :
      Told id records after [.closed auction.name]
  | awarded {auction : Auction} {top : TopBid} {endTime : Time} {bids : List Bid}
      (hauction : records.auction = some auction) (hphase : auction.phase = .reveal)
      (htop : auction.topBid = some top) (hbids : records.BidsOn id bids)
      (hafter : after = { records with
        auction := none
        registration := some ⟨auction.name, top.bidder, endTime⟩
        bid := fun _ => none }) :
      Told id records after
        (.settled auction.name top.bidder top.amount endTime :: slashEvents auction.name bids)
  | closedUnsold {auction : Auction} {bids : List Bid} (hauction : records.auction = some auction)
      (hphase : auction.phase = .reveal) (htop : auction.topBid = none) (hbids : records.BidsOn id bids)
      (hafter : after = { records with auction := none, bid := fun _ => none }) :
      Told id records after (.closed auction.name :: slashEvents auction.name bids)
  | expired {registration : Registration} (hregistration : records.registration = some registration)
      (hauction : records.auction = none)
      (hafter : after = { records with registration := none, resolution := fun _ => none }) :
      Told id records after [.expired registration.name registration.owner]

/-! ### One entry -/

theorem name_of_mem_cons {first event : Event} {bids : List Bid}
    (h : event ∈ first :: slashEvents first.name bids) : event.name = first.name := by
  rcases List.mem_cons.mp h with rfl | hslashed
  · rfl
  · obtain ⟨bid, -, rfl⟩ := List.mem_map.mp hslashed
    rfl

theorem Settled.name_id {kind : QueueKind} {due : Due} (hproper : (book.records due.id).Proper due.id)
    (h : Settled setting book kind due outcome) {event : Event} (hevent : event ∈ outcome.events) :
    event.name.id = .ok due.id := by
  cases h with
  | revealStarted hauction =>
    obtain rfl := List.mem_singleton.mp hevent
    exact (hproper.auction _ hauction).id_eq
  | closedEmpty hauction =>
    obtain rfl := List.mem_singleton.mp hevent
    exact (hproper.auction _ hauction).id_eq
  | awarded hauction =>
    rw [name_of_mem_cons hevent]
    exact (hproper.auction _ hauction).id_eq
  | closedUnsold hauction =>
    rw [name_of_mem_cons hevent]
    exact (hproper.auction _ hauction).id_eq
  | expired hregistration =>
    obtain rfl := List.mem_singleton.mp hevent
    exact (hproper.registration _ hregistration).id_eq

/-- **What handling an entry tells.** -/
theorem Settled.told {kind : QueueKind} {due : Due} (hsigned : book.Signed) (hapart : book.Apart)
    (h : Settled setting book kind due outcome) :
    Told due.id (book.records due.id) (outcome.book.records due.id) outcome.events := by
  cases h with
  | revealStarted hauction hphase => exact .revealStarted hauction hphase (by simp)
  | closedEmpty hauction hphase _ hbids => exact .closedEmpty hauction hphase hbids (by simp)
  | awarded hauction hphase _ htop _ hbids =>
    have hgone := clear_bidSlots hsigned hbids
    refine .awarded hauction hphase htop hbids ?_
    simpa [records, clear, bidSlots] using funext hgone
  | closedUnsold hauction hphase _ htop hbids =>
    have hgone := clear_bidSlots hsigned hbids
    refine .closedUnsold hauction hphase htop hbids ?_
    simpa [records, clear, bidSlots] using funext hgone
  | expired hregistration _ hresolutions =>
    have hgone := clear_resolutionSlots hresolutions
    refine .expired hregistration (hapart.auction_eq_none hregistration) ?_
    simpa [records, clear, resolutionSlots] using funext hgone

/-! ### Sweeps -/

/-- Every event is about a name, and what is told of a name is what has become of it. -/
structure Tells (setting : Setting) (book : Book) (outcome : Outcome) : Prop where
  named : ∀ event ∈ outcome.events, ∃ id, event.name.id = .ok id
  each : ∀ id, outcome.book.records id = book.records id ∧ Event.about id outcome.events = [] ∨
    Stepped setting (book.records id) (outcome.book.records id) ∧
      Told id (book.records id) (outcome.book.records id) (Event.about id outcome.events)

theorem Tells.andThen (hchecked : Checked setting) {first second : Outcome}
    (hfirst : Tells setting book first) (hsecond : Tells setting first.book second) :
    Tells setting book (first.andThen second) where
  named event hevent := (List.mem_append.mp hevent).elim (hfirst.named event) (hsecond.named event)
  each id := by
    rw [Outcome.andThen, Event.about_append]
    rcases hfirst.each id with ⟨hsame, hnone⟩ | ⟨hstep, htold⟩
    · rw [hnone, List.nil_append, ← hsame]
      exact hsecond.each id
    · rcases hsecond.each id with ⟨hsame, hnone⟩ | ⟨hagain, -⟩
      · rw [hnone, List.append_nil, hsame]
        exact .inr ⟨hstep, htold⟩
      · exact absurd hagain.isDue (hstep.not_isDue hchecked)

theorem carried_tells (hchecked : Checked setting) :
    Carried setting (fun book => book.Sane ∧ book.Proper) (Tells setting) where
  start _ := ⟨nofun, fun _ => .inl ⟨rfl, rfl⟩⟩
  andThen := .andThen hchecked
  settled {book kind due outcome} hinv hqueued hdue hsettled := by
    obtain ⟨hsane, hproper⟩ := hinv
    refine ⟨?_, hsane.settled hqueued hsettled, lasting_proper.settled hsane hproper hdue hsettled⟩
    have htaken : (book.set (.queued kind due) none).records due.id = book.records due.id :=
      records_set_queued ..
    have hname : ∀ event ∈ outcome.events, event.name.id = .ok due.id := fun event =>
      hsettled.name_id (htaken ▸ hproper due.id)
    refine ⟨fun event hevent => ⟨due.id, hname event hevent⟩, fun id => ?_⟩
    by_cases heq : id = due.id
    · subst heq
      rw [Event.about_eq_self hname]
      have hsigned : (book.set (.queued kind due) none).Signed :=
        hsane.signed.of_bids fun _ _ _ hbid => by simpa using hbid
      have hapart : (book.set (.queued kind due) none).Apart := fun other hsome => by
        simpa using hsane.apart other (by simpa using hsome)
      exact .inr ⟨hsettled.stepped hsane hdue, htaken ▸ hsettled.told hsigned hapart⟩
    · exact .inl ⟨hsettled.records_eq heq, Event.about_eq_nil hname heq⟩

section

variable (hchecked : Checked setting) (hsane : book.Sane) (hproper : book.Proper)

include hchecked hsane hproper

theorem Swept.tells (h : Swept setting book outcome) : Tells setting book outcome :=
  (h.related (carried_tells hchecked) ⟨hsane, hproper⟩).1

/-- **What a sweep tells of a name that is due.** -/
theorem Swept.told (h : Swept setting book outcome) (hdue : book.IsDue setting.now id) :
    Told id (book.records id) (outcome.book.records id) (Event.about id outcome.events) := by
  rcases (h.tells hchecked hsane hproper).each id with ⟨hsame, -⟩ | ⟨-, htold⟩
  · have hstep := h.stepped hchecked hsane hdue
    rw [hsame] at hstep
    exact absurd hdue (Stepped.not_isDue hchecked hstep)
  · exact htold

/-- **Of a name that is not due a sweep tells nothing.** -/
theorem Swept.silent (h : Swept setting book outcome) (hnot : ¬ book.IsDue setting.now id) :
    Event.about id outcome.events = [] := by
  rcases (h.tells hchecked hsane hproper).each id with ⟨-, hnone⟩ | ⟨hstep, -⟩
  · exact hnone
  · exact absurd hstep.isDue hnot

end

/-! ### Burns -/

theorem burnt_slashMoves (name : Name) (bids : List Bid) (denom : String) :
    Move.sum (Move.burnt denom) (slashMoves bids) =
      ((slashEvents name bids).map (Event.burnt denom)).sum := by
  simp [Move.sum, slashMoves, slashEvents, Function.comp_def, Move.burnt, Event.burnt]

theorem Settled.burnt_told {kind : QueueKind} {due : Due} (h : Settled setting book kind due outcome)
    (denom : String) :
    Move.sum (Move.burnt denom) outcome.moves = (outcome.events.map (Event.burnt denom)).sum := by
  cases h with
  | revealStarted => rfl
  | closedEmpty => rfl
  | @awarded _ auction =>
    rw [Move.sum_cons, List.map_cons, List.sum_cons, burnt_slashMoves auction.name, Move.burnt,
      Bundle.held_ofCoin, Event.burnt]
  | @closedUnsold _ auction =>
    have hclosed : Event.burnt denom (.closed auction.name) = 0 := rfl
    rw [List.map_cons, List.sum_cons, burnt_slashMoves auction.name, hclosed, Nat.zero_add]
  | expired => rfl

/-- **A sweep tells what it burns.** -/
theorem Swept.burnt_told (h : Swept setting book outcome) (denom : String) :
    Move.sum (Move.burnt denom) outcome.moves = (outcome.events.map (Event.burnt denom)).sum := by
  have hcarried : Carried setting (fun _ => True) fun _ outcome =>
      Move.sum (Move.burnt denom) outcome.moves = (outcome.events.map (Event.burnt denom)).sum :=
    { start := fun _ => rfl
      andThen := fun hfirst hsecond => by
        rw [Outcome.andThen, Move.sum_append, List.map_append, List.sum_append, hfirst, hsecond]
      settled := fun _ _ _ hsettled => ⟨hsettled.burnt_told denom, trivial⟩ }
  exact (h.related hcarried trivial).1

end Registrar

end NameAuction
