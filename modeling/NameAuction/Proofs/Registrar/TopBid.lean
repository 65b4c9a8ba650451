import NameAuction.Proofs.Registrar.History
import NameAuction.Proofs.Registrar.Reveal
import NameAuction.Proofs.Registrar.Told

/-!
# The top bid

The registrar keeps only the bid that leads.  The reveals of bids on a name since its auction was opened say
which one that is: the first of the highest (`LedSince`), as long as the auction is there.  So the amount that
leads never falls, and a sweep that ends the reveal phase gives the name to the bidder of that reveal and
burns its amount (`topBid_wins`).
-/

namespace NameAuction

/-- A top bid is only replaced by one of no smaller amount. -/
def TopBid.Rises (before after : Option TopBid) : Prop :=
  ∀ top, before = some top → ∃ later, after = some later ∧ top.amount.amount ≤ later.amount.amount

namespace Registrar

def Reveal.topBid (reveal : Reveal) : TopBid := ⟨reveal.bidder, reveal.amount⟩

theorem Wins.eq_none_iff {revealed : List Reveal} {winner : Option Reveal} (h : Wins revealed winner) :
    winner = none ↔ revealed = [] := by
  cases h with
  | nobody => simp
  | first => simp

theorem Wins.rises {revealed more : List Reveal} {winner later : Option Reveal} (h : Wins revealed winner)
    (hlater : Wins (revealed ++ more) later) :
    TopBid.Rises (winner.map Reveal.topBid) (later.map Reveal.topBid) := by
  intro top htop
  obtain ⟨best, rfl, rfl⟩ := Option.map_eq_some_iff.mp htop
  have hmem : best ∈ revealed ++ more := List.mem_append_left _ h.mem
  cases later with
  | none =>
    rw [hlater.eq_none_iff.mp rfl] at hmem
    cases hmem
  | some last => exact ⟨_, rfl, hlater.le hmem⟩

open Book

variable {registrar next : Registrar} {book after : Book} {id : NameId} {history : List Delivery}
  {delivery : Option Delivery}

/-! ### Since the auction was opened -/

/-- If the auction has not been opened anew, its top bid is the winning one of the reveals. -/
def LedSince (id : NameId) (history : List Delivery) (book : Book) : Prop :=
  (∀ made ∈ history, made.opens id = false) → ∀ auction, book (.auction id) = some auction →
    ∃ winner, Wins (history.filterMap fun made => made.reveal? id) winner ∧
      auction.topBid = winner.map Reveal.topBid

theorem LedSince.of_topBid (h : LedSince id history book)
    (hreveal : ∀ made, delivery = some made → made.reveal? id = none)
    (hsame : ∀ auction, after (.auction id) = some auction →
      ∃ before, book (.auction id) = some before ∧ auction.topBid = before.topBid) :
    LedSince id (history ++ delivery.toList) after := by
  intro honce auction hauction
  obtain ⟨before, hbefore, htop⟩ := hsame auction hauction
  obtain ⟨winner, hwins, hwinner⟩ :=
    h (fun made hmade => honce made (List.mem_append_left _ hmade)) before hbefore
  have hnone : delivery.toList.filterMap (fun made => made.reveal? id) = [] :=
    List.filterMap_eq_nil_iff.mpr fun made hmade => hreveal made (Option.mem_toList.mp hmade)
  refine ⟨winner, ?_, htop.trans hwinner⟩
  rw [List.filterMap_append, hnone, List.append_nil]
  exact hwins

/-- **The top bid follows the reveals.** -/
theorem Proceeds.ledSince (h : Proceeds book id after delivery) (hled : LedSince id history book) :
    LedSince id (history ++ delivery.toList) after := by
  cases h with
  | untouched helsewhere hauction =>
    exact hled.of_topBid (fun made hmade => (helsewhere made hmade).reveal?)
      fun auction hsome => ⟨auction, hauction ▸ hsome, rfl⟩
  | opened hid =>
    intro honce
    have hnot := honce _ (List.mem_append_right _ (List.mem_singleton_self _))
    simp [Delivery.opens, hid] at hnot
  | bidPlaced hid hauction _ _ _ hsame =>
    refine hled.of_topBid (fun made hmade => by cases hmade; rfl) fun later hlater => ?_
    obtain rfl := Option.some.inj (hsame.symm.trans hlater)
    exact ⟨_, hauction, rfl⟩
  | @revealed params now name salt amount bidder auction bid hid hauction _ _ hnext =>
    intro honce later hlater
    obtain ⟨winner, hwins, htop⟩ :=
      hled (fun made hmade => honce made (List.mem_append_left _ hmade)) auction hauction
    obtain ⟨winner', hwins', hafter⟩ := hwins.reveal ⟨now, salt, amount, bidder⟩ auction htop
    obtain rfl := Option.some.inj (hnext.symm.trans hlater)
    refine ⟨winner', ?_, ?_⟩
    · simpa [Delivery.reveal?, hid] using hwins'
    · exact congrArg Auction.topBid hafter
  | @revealStarted auction endTime hauction hnext =>
    refine hled.of_topBid (fun made hmade => by cases hmade) fun later hlater => ?_
    obtain rfl := Option.some.inj (hnext.symm.trans hlater)
    exact ⟨auction, hauction, rfl⟩
  | ended hnone =>
    intro _ later hlater
    rw [hnone] at hlater
    cases hlater

def NoneSince (id : NameId) (history : List Delivery) (book : Book) : Prop :=
  (∀ made ∈ history, made.opens id = false) → book (.auction id) = none

theorem Proceeds.noneSince (h : Proceeds book id after delivery) (hnone : NoneSince id history book) :
    NoneSince id (history ++ delivery.toList) after := by
  intro honce
  have hbefore := hnone fun made hmade => honce made (List.mem_append_left _ hmade)
  cases h with
  | untouched _ hauction => exact hauction.trans hbefore
  | opened hid =>
    have hnot := honce _ (List.mem_append_right _ (List.mem_singleton_self _))
    simp [Delivery.opens, hid] at hnot
  | bidPlaced _ hauction => exact absurd hbefore (by simp [hauction])
  | revealed _ hauction => exact absurd hbefore (by simp [hauction])
  | revealStarted hauction => exact absurd hbefore (by simp [hauction])
  | ended hgone => exact hgone

/-! ### The opening -/

theorem Sound.opened (h : registrar.Sound book) {now : Time} {name : Name} {organizer : Account}
    {events : List Event} (hid : name.id = .ok id)
    (hopen : registrar.deliver now (.openAuction name organizer) = (.ok events, next)) :
    ∃ after, next.Sound after ∧ LedSince id [] after := by
  obtain ⟨outcome, -, hhandled, -, -, hnext⟩ := h.deliver_ok hopen
  refine ⟨outcome.book, hnext, fun _ auction hauction => ⟨none, .nobody, ?_⟩⟩
  cases hhandled with
  | @opened _ _ parts own endTime _ hown =>
    obtain rfl := Except.ok.inj (hown.symm.trans hid)
    obtain rfl : Auction.opened name endTime = auction := by simpa using hauction
    rfl

/-! ### The end of the reveal phase -/

/-- What a sweep at the end of the reveal phase makes of an auction, if some reveal wins it or none does, and
what it tells of it. -/
inductive Concluded (registrar next : Registrar) (id : NameId) (auction : Auction) (events : List Event) :
    Option Reveal → Prop
  | awarded {best : Reveal} {endTime : Time} {bids : List Bid} (hbids : registrar.store.bidsOn id = .ok bids)
      (hregistration : next.store.registration? id = .ok (some ⟨auction.name, best.bidder, endTime⟩))
      (htold : Event.about id events =
        .settled auction.name best.bidder best.amount endTime :: slashEvents auction.name bids) :
      Concluded registrar next id auction events (some best)
  | unsold {bids : List Bid} (hbids : registrar.store.bidsOn id = .ok bids)
      (hregistration : next.store.registration? id = .ok none)
      (htold : Event.about id events = .closed auction.name :: slashEvents auction.name bids) :
      Concluded registrar next id auction events none

theorem Sound.bidsOn_eq (h : registrar.Sound book) {bids : List Bid}
    (hbids : (book.records id).BidsOn id bids) : registrar.store.bidsOn id = .ok bids := by
  obtain ⟨list, hread, hlist⟩ := h.keeps.bidsOn id
  rw [hread, hlist.unique hbids]

theorem Sound.concluded (h : registrar.Sound book) (hproper : book.Proper) {auction : Auction}
    (hauction : book (.auction id) = some auction) (hphase : auction.phase = .reveal) {winner : Option Reveal}
    (htop : auction.topBid = winner.map Reveal.topBid) {now : Time} (hdue : auction.endTime ≤ now)
    {events : List Event} (hswept : registrar.endBlock now = (.ok events, next)) :
    Concluded registrar next id auction events winner := by
  obtain ⟨outcome, houtcome, rfl, -, hnext⟩ := h.endBlock_ok hswept
  have htold := houtcome.told h.checked h.sane hproper ⟨_, _, waiting_of_auction hauction, hdue⟩
  have hregistration : next.store.registration? id = .ok (outcome.book.records id).registration :=
    hnext.keeps.registration? id
  have hown : ∀ {other : Auction}, (book.records id).auction = some other → other = auction := fun hother =>
    Option.some.inj (hother.symm.trans hauction)
  have hfree : book (.registration id) = none := h.sane.apart id (by simp [hauction])
  generalize outcome.book.records id = after at htold hregistration
  generalize hevents : Event.about id outcome.events = told at htold
  cases htold with
  | revealStarted hother hbid =>
    rw [hown hother, hphase] at hbid
    cases hbid
  | closedEmpty hother hbid =>
    rw [hown hother, hphase] at hbid
    cases hbid
  | awarded hother _ hbest hbids hafter =>
    obtain rfl := hown hother
    obtain ⟨best, rfl, rfl⟩ := Option.map_eq_some_iff.mp (htop.symm.trans hbest)
    subst hafter
    exact .awarded (h.bidsOn_eq hbids) hregistration hevents
  | closedUnsold hother _ hnobody hbids hafter =>
    obtain rfl := hown hother
    obtain rfl := Option.map_eq_none_iff.mp (htop.symm.trans hnobody)
    subst hafter
    exact .unsold (h.bidsOn_eq hbids) (hregistration.trans (congrArg Except.ok hfree)) hevents
  | expired _ hnone => exact absurd (hauction.symm.trans hnone) nofun

theorem Sound.burned_told (h : registrar.Sound book) {now : Time} {events : List Event}
    (hswept : registrar.endBlock now = (.ok events, next)) (denom : String) :
    next.bank.burned.held denom =
      registrar.bank.burned.held denom + (events.map (Event.burnt denom)).sum := by
  obtain ⟨outcome, houtcome, rfl, happlied, -⟩ := h.endBlock_ok hswept
  rw [happlied.burned, houtcome.burnt_told]

theorem Swept.owner_of_top {setting : Setting} {outcome : Outcome} (hchecked : Checked setting)
    (hsane : book.Sane) (h : Swept setting book outcome) {auction : Auction}
    (hauction : book (.auction id) = some auction) {registration : Registration}
    (hregistration : outcome.book (.registration id) = some registration) :
    auction.topBid.map TopBid.bidder = some registration.owner := by
  have hfree : (book.records id).registration = none := hsane.apart id (by simp [hauction])
  have hown : ∀ {other : Auction}, (book.records id).auction = some other → other = auction := fun hother =>
    Option.some.inj (hother.symm.trans hauction)
  have hafter : (outcome.book.records id).registration = some registration := hregistration
  by_cases hdue : book.IsDue setting.now id
  · have hstep := h.stepped hchecked hsane hdue
    generalize outcome.book.records id = after at hstep hafter
    cases hstep with
    | awarded hother _ _ _ htop =>
      obtain rfl := hown hother
      obtain rfl := Option.some.inj hafter
      rw [htop]
      rfl
    | revealStarted => exact absurd (hfree.symm.trans hafter) nofun
    | closedEmpty => exact absurd (hfree.symm.trans hafter) nofun
    | closedUnsold => exact absurd (hfree.symm.trans hafter) nofun
    | expired => cases hafter
  · rw [h.records_eq hchecked hsane hdue, hfree] at hafter
    cases hafter

/-- Whatever a sweep comes to, it gives the name of an auction to nobody but the top bidder. -/
theorem Sound.owner_of_top (h : registrar.Sound book) {auction : Auction}
    (hauction : book (.auction id) = some auction) (now : Time) {registration : Registration}
    (hregistration : (registrar.endBlock now).2.store.registration? id = .ok (some registration)) :
    auction.topBid.map TopBid.bidder = some registration.owner := by
  have hfree : book (.registration id) = none := h.sane.apart id (by simp [hauction])
  obtain ⟨after, hafter, howner⟩ := h.after_of
    (fun after => ∀ registration : Registration, after (.registration id) = some registration →
      auction.topBid.map TopBid.bidder = some registration.owner)
    (fun registration hsome => absurd hsome (by simp [hfree])) (.endBlock now) nofun
    fun _ _ heq hswept _ hsome => by
      cases heq
      exact hswept.owner_of_top h.checked h.sane hauction hsome
  exact howner registration (hafter.keeps.registration_eq hregistration)

/-! ### The winner -/

theorem revealsOn_append (registrar : Registrar) (id : NameId) (calls more : List Call) :
    registrar.revealsOn id (calls ++ more) =
      registrar.revealsOn id calls ++ (registrar.afterAll calls).revealsOn id more := by
  rw [revealsOn, deliveries_append, List.filterMap_append]
  rfl

/-- The top bid of an auction after any calls. -/
theorem Sound.wins (h : registrar.Sound book) (hled : LedSince id [] book) {calls : List Call}
    (honce : ∀ made ∈ registrar.deliveries calls, made.opens id = false) {auction : Auction}
    (hauction : (registrar.afterAll calls).store.auction? id = .ok (some auction)) :
    ∃ winner, Wins (registrar.revealsOn id calls) winner ∧ auction.topBid = winner.map Reveal.topBid := by
  obtain ⟨last, hlast, hledLast⟩ :=
    h.afterAll_of_proceeds (fun _ hinv hproceeds => hproceeds.ledSince hinv) hled calls
  exact hledLast honce auction (hlast.keeps.auction_eq hauction)

theorem Sound.exists_auction (h : registrar.Sound book) {calls : List Call}
    (honce : ∀ made ∈ registrar.deliveries calls, made.opens id = false) {auction : Auction}
    (hauction : (registrar.afterAll calls).store.auction? id = .ok (some auction)) :
    ∃ before, registrar.store.auction? id = .ok (some before) := by
  rw [h.keeps.auction?]
  cases hbefore : book (.auction id) with
  | some before => exact ⟨before, rfl⟩
  | none =>
    have hstart : NoneSince id [] book := fun _ => hbefore
    obtain ⟨last, hlast, hnone⟩ :=
      h.afterAll_of_proceeds (fun _ hinv hproceeds => hproceeds.noneSince hinv) hstart calls
    rw [hlast.keeps.auction?, hnone honce] at hauction
    cases hauction

/-- **The top bid is the first of the highest reveals** since the auction was opened, whatever else has been
called, and who has revealed it gets the name for its amount. -/
theorem topBid_wins {opened : Registrar} (h : Reachable registrar) {openTime : Time} {name : Name}
    {organizer : Account} {openEvents : List Event}
    (hopen : registrar.deliver openTime (.openAuction name organizer) = (.ok openEvents, opened))
    (hid : name.id = .ok id) {calls : List Call}
    (honce : ∀ made ∈ opened.deliveries calls, made.opens id = false) {auction : Auction}
    (hauction : (opened.afterAll calls).store.auction? id = .ok (some auction)) :
    ∃ winner, Wins (opened.revealsOn id calls) winner ∧
      auction.topBid = winner.map Reveal.topBid ∧
      (auction.topBid = none ↔ opened.revealsOn id calls = []) ∧
      (∀ earlier, earlier <+: calls → ∃ before,
        (opened.afterAll earlier).store.auction? id = .ok (some before) ∧
          TopBid.Rises before.topBid auction.topBid) ∧
      ∀ now, (∀ registration, ((opened.afterAll calls).endBlock now).2.store.registration? id =
          .ok (some registration) → winner.map Reveal.bidder = some registration.owner) ∧
        ∀ events next, (opened.afterAll calls).endBlock now = (.ok events, next) →
          auction.phase = .reveal → auction.endTime ≤ now →
          Concluded (opened.afterAll calls) next id auction events winner ∧
            ∀ denom, next.bank.burned.held denom = (opened.afterAll calls).bank.burned.held denom +
              (events.map (Event.burnt denom)).sum := by
  obtain ⟨_, hsound⟩ := h.sound
  obtain ⟨first, hopened, hled⟩ := hsound.opened hid hopen
  obtain ⟨winner, hwins, htop⟩ := hopened.wins hled honce hauction
  obtain ⟨last, hlast, hproper⟩ := ((h.delivered hopen).calledAll calls).sound_proper
  have hheld : last (.auction id) = some auction := hlast.keeps.auction_eq hauction
  refine ⟨winner, hwins, htop, ?_, ?_, fun now => ⟨?_, ?_⟩⟩
  · rw [htop, Option.map_eq_none_iff, hwins.eq_none_iff]
  · rintro earlier ⟨more, rfl⟩
    rw [afterAll_append] at hauction
    rw [deliveries_append] at honce
    rw [revealsOn_append] at hwins
    obtain ⟨_, hmid, -⟩ :=
      hopened.afterAll_of_proceeds (fun _ hinv hproceeds => hproceeds.ledSince hinv) hled earlier
    obtain ⟨before, hbefore⟩ :=
      hmid.exists_auction (fun made hmade => honce made (List.mem_append_right _ hmade)) hauction
    obtain ⟨leader, hleads, hleader⟩ :=
      hopened.wins hled (fun made hmade => honce made (List.mem_append_left _ hmade)) hbefore
    refine ⟨before, hbefore, ?_⟩
    rw [hleader, htop]
    exact hleads.rises hwins
  · intro registration hregistration
    have howner := hlast.owner_of_top hheld now hregistration
    rwa [htop, Option.map_map] at howner
  · intro events next hswept hphase hdue
    exact ⟨hlast.concluded hproper hheld hphase htop hdue hswept, hlast.burned_told hswept⟩

/-- After the opening of the ballot, two accounts bid the same and one bids nothing; one reveal is refused,
and in between another name is put up. -/
def tiedRun : List Call :=
  [.deliver (moment 2000) (.sealedBid Ballot.name
      (Commitment.seal "salt" Ballot.name (luna 550000000) Demo.alice) (luna 600000000) Demo.alice),
    .deliver (moment 2000) (.sealedBid Ballot.name
      (Commitment.seal "rose" Ballot.name (luna 550000000) Demo.bob) (luna 700000000) Demo.bob),
    .deliver (moment 2000) (.sealedBid Ballot.name
      (Commitment.seal "mint" Ballot.name (luna 0) Demo.carol) (luna 600000000) Demo.carol),
    .endBlock (moment 200000),
    .deliver (moment 300000) (.reveal Ballot.name "mint" (luna 0) Demo.carol),
    .deliver (moment 300000) (.reveal Ballot.name "mint" (luna 600000000) Demo.bob),
    .deliver (moment 300000) (.openAuction ⟨"other.terra"⟩ Demo.shop),
    .deliver (moment 310000) (.reveal Ballot.name "salt" (luna 550000000) Demo.alice),
    .deliver (moment 320000) (.reveal Ballot.name "rose" (luna 550000000) Demo.bob)]

theorem topBid_wins_tiedRun :
    (Ballot.opened.2.revealsOn (.ofText "label.terra") tiedRun).map Reveal.bidder =
        [Demo.carol, Demo.alice, Demo.bob] ∧
      ∃ winner events next, Wins (Ballot.opened.2.revealsOn (.ofText "label.terra") tiedRun) winner ∧
        winner.map Reveal.topBid = some ⟨Demo.alice, luna 550000000⟩ ∧
        (Ballot.opened.2.afterAll tiedRun).endBlock (moment 500000) = (.ok events, next) ∧
        Concluded (Ballot.opened.2.afterAll tiedRun) next (.ofText "label.terra")
          ⟨Ballot.name, .reveal, moment 459200, some ⟨Demo.alice, luna 550000000⟩⟩ events winner := by
  obtain ⟨openEvents, hopen⟩ := exists_events_of_isOk Ballot.accepted.1
  have hname : Ballot.name.id = .ok (.ofText "label.terra") := by decide +kernel
  obtain ⟨hreveals, honce, hauction, hok⟩ :
      (Ballot.opened.2.revealsOn (.ofText "label.terra") tiedRun).map Reveal.bidder =
          [Demo.carol, Demo.alice, Demo.bob] ∧
        (∀ made ∈ Ballot.opened.2.deliveries tiedRun, made.opens (.ofText "label.terra") = false) ∧
        (Ballot.opened.2.afterAll tiedRun).store.auction? (.ofText "label.terra") =
          .ok (some ⟨Ballot.name, .reveal, moment 459200, some ⟨Demo.alice, luna 550000000⟩⟩) ∧
        ((Ballot.opened.2.afterAll tiedRun).endBlock (moment 500000)).1.isOk = true := by
    decide +kernel
  obtain ⟨events, hswept⟩ := exists_events_of_isOk hok
  obtain ⟨winner, hwins, htop, -, -, hsweeps⟩ :=
    topBid_wins (reachable_standard.calledAll _) hopen hname honce hauction
  refine ⟨hreveals, winner, events, _, hwins, htop.symm, hswept, ?_⟩
  exact ((hsweeps (moment 500000)).2 events _ hswept rfl (by decide)).1

end Registrar

end NameAuction
