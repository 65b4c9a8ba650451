import NameAuction.Proofs.Registrar.History
import NameAuction.Proofs.Registrar.Reveal
import NameAuction.Proofs.Registrar.Told

/-!
# What becomes of a bid

A bid stays as it is until its bidder reveals it, or until the sweep that ends the reveal phase slashes it,
which that sweep tells once and with its deposit (`Faced`, `Outlasted`).  No reveal and no slashing is told
but of a bid that is held (`Event.OfHeldBid`).  So a bid that has been revealed is not slashed any more,
unless the account bids for the name again (`Reachable.bid_fate`).
-/

namespace NameAuction

def Event.slashes (id : NameId) (bidder : Account) : Event → Bool
  | .slashed name account _ => name.id = .ok id ∧ account = bidder
  | _ => false

/-- What the event tells of a bid is told of one that is held. -/
def Event.OfHeldBid (store : Store) : Event → Prop
  | .bidRevealed name bidder _ _ => ∃ id bid, name.id = .ok id ∧ store.bid? id bidder = .ok (some bid)
  | .slashed name bidder deposit => ∃ id bid, name.id = .ok id ∧ store.bid? id bidder = .ok (some bid) ∧
      bid.deposit = deposit
  | _ => True

namespace Registrar

open Book

variable {registrar next : Registrar} {setting : Setting} {book after : Book} {outcome : Outcome}
  {id : NameId} {bidder : Account} {bid : Bid} {events : List Event}

/-! ### What is told of slashed bids -/

theorem name_id_of_slashes {event : Event} (h : event.slashes id bidder = true) : event.name.id = .ok id := by
  cases event with
  | slashed => exact (of_decide_eq_true h).1
  | _ => cases h

theorem filter_slashes_about (id : NameId) (bidder : Account) (events : List Event) :
    (Event.about id events).filter (Event.slashes id bidder) = events.filter (Event.slashes id bidder) := by
  rw [Event.about, List.filter_filter]
  refine List.filter_congr fun event _ => ?_
  rw [Bool.and_eq_left_iff_imp]
  exact fun h => decide_eq_true (name_id_of_slashes h)

theorem filter_bidder {records : NameRecords} {bids : List Bid} (hbids : records.BidsOn id bids)
    (hsigned : ∀ account bid, records.bid account = some bid → bid.bidder = account) (bidder : Account) :
    (bids.filter fun bid => bid.bidder = bidder) = (records.bid bidder).toList := by
  cases hbid : records.bid bidder with
  | none =>
    refine List.filter_eq_nil_iff.mpr fun other hother heq => ?_
    have hheld := (hbids.mem_iff other).mp hother
    rw [of_decide_eq_true heq, hbid] at hheld
    cases hheld
  | some bid =>
    have hown := hsigned bidder bid hbid
    have hmem : bid ∈ bids := (hbids.mem_iff bid).mpr (by rw [hown, hbid])
    have hsame : ∀ other ∈ bids, decide (other.bidder = bidder) = decide (other = bid) := by
      intro other hother
      have hheld := (hbids.mem_iff other).mp hother
      refine decide_eq_decide.mpr ⟨fun heq => ?_, fun heq => heq ▸ hown⟩
      rw [heq, hbid] at hheld
      exact (Option.some.inj hheld).symm
    rw [List.filter_congr hsame, List.filter_eq, List.count_eq_one_of_mem hbids.nodup hmem]
    rfl

/-- Of the bids on a name, the one of an account is slashed once. -/
theorem filter_slashEvents {records : NameRecords} {bids : List Bid} (hbids : records.BidsOn id bids)
    (hsigned : ∀ account bid, records.bid account = some bid → bid.bidder = account) {name : Name}
    (hname : name.id = .ok id) (bidder : Account) :
    (slashEvents name bids).filter (Event.slashes id bidder) =
      (records.bid bidder).toList.map fun bid => .slashed name bidder bid.deposit := by
  have hown : ∀ bid : Bid, (Event.slashed name bid.bidder bid.deposit).slashes id bidder =
      decide (bid.bidder = bidder) := fun bid => by simp [Event.slashes, hname]
  rw [slashEvents, List.filter_map]
  simp only [Function.comp_def, hown]
  rw [filter_bidder hbids hsigned]
  refine List.map_congr_left fun bid hbid => ?_
  rw [hsigned bidder bid (Option.mem_toList.mp hbid)]

/-- What is told of slashed bids, in the two cases that there are for a step. -/
theorem Told.slashes {records after : NameRecords} (h : Told id records after events)
    (hproper : records.Proper id)
    (hsigned : ∀ account bid, records.bid account = some bid → bid.bidder = account) (bidder : Account) :
    (∃ auction, records.auction = some auction ∧ auction.phase = .reveal ∧ after.bid bidder = none ∧
      events.filter (Event.slashes id bidder) =
        (records.bid bidder).toList.map fun bid => .slashed auction.name bidder bid.deposit) ∨
    (∀ auction, records.auction = some auction → auction.phase ≠ .reveal) ∧
      after.bid bidder = records.bid bidder ∧ events.filter (Event.slashes id bidder) = [] := by
  have hearly : ∀ {auction : Auction}, records.auction = some auction → auction.phase = .bid →
      ∀ other, records.auction = some other → other.phase ≠ .reveal := by
    intro auction hauction hphase other hother
    obtain rfl := Option.some.inj (hauction.symm.trans hother)
    rw [hphase]
    exact nofun
  cases h with
  | revealStarted hauction hphase hafter =>
    subst hafter
    exact .inr ⟨hearly hauction hphase, rfl, rfl⟩
  | closedEmpty hauction hphase _ hafter =>
    subst hafter
    exact .inr ⟨hearly hauction hphase, rfl, rfl⟩
  | @awarded auction top endTime bids hauction hphase _ hbids hafter =>
    subst hafter
    refine .inl ⟨auction, hauction, hphase, rfl, ?_⟩
    exact filter_slashEvents hbids hsigned (hproper.auction auction hauction).id_eq bidder
  | @closedUnsold auction bids hauction hphase _ hbids hafter =>
    subst hafter
    refine .inl ⟨auction, hauction, hphase, rfl, ?_⟩
    exact filter_slashEvents hbids hsigned (hproper.auction auction hauction).id_eq bidder
  | expired _ hauction hafter =>
    subst hafter
    exact .inr ⟨fun other hother => absurd (hauction.symm.trans hother) nofun, rfl, rfl⟩

theorem Told.not_revealed {records after : NameRecords} (h : Told id records after events) {name : Name}
    {account : Account} {amount : Coin} {isTop : Bool} : .bidRevealed name account amount isTop ∉ events := by
  cases h with
  | revealStarted => simp
  | closedEmpty => simp
  | awarded => simp [slashEvents]
  | closedUnsold => simp [slashEvents]
  | expired => simp

/-! ### Sweeps -/

section

variable (hchecked : Checked setting) (hsane : book.Sane) (hproper : book.Proper)

include hchecked hsane hproper

/-- **What a sweep does to a bid, and what it tells of it.** -/
theorem Swept.slashes (h : Swept setting book outcome) (id : NameId) (bidder : Account) :
    (∃ auction, book (.auction id) = some auction ∧
      (auction.phase = .reveal ∧ auction.endTime ≤ setting.now) ∧ outcome.book (.bid id bidder) = none ∧
      outcome.events.filter (Event.slashes id bidder) =
        (book (.bid id bidder)).toList.map fun bid => .slashed auction.name bidder bid.deposit) ∨
    (∀ auction, book (.auction id) = some auction →
        ¬ (auction.phase = .reveal ∧ auction.endTime ≤ setting.now)) ∧
      outcome.book (.bid id bidder) = book (.bid id bidder) ∧
      outcome.events.filter (Event.slashes id bidder) = [] := by
  rw [← filter_slashes_about]
  by_cases hdue : book.IsDue setting.now id
  · have htold := (h.told hchecked hsane hproper hdue).slashes (hproper id) (hsane.signed id) bidder
    obtain ⟨kind, time, hwaiting, htime⟩ := hdue
    rcases htold with ⟨auction, hauction, hphase, hgone, hslashed⟩ | ⟨hnot, hsame, hsilent⟩
    · rw [waiting_of_auction hauction] at hwaiting
      cases hwaiting
      exact .inl ⟨auction, hauction, ⟨hphase, htime⟩, hgone, hslashed⟩
    · exact .inr ⟨fun auction hauction hends => hnot auction hauction hends.1, hsame, hsilent⟩
  · have hrecords := h.records_eq hchecked hsane hdue
    refine .inr ⟨fun auction hauction hends => ?_, ?_, ?_⟩
    · exact hdue ⟨_, _, waiting_of_auction hauction, hends.2⟩
    · exact congrFun (congrArg NameRecords.bid hrecords) bidder
    · rw [h.silent hchecked hsane hproper hdue, List.filter_nil]

/-- **A sweep tells only of bids that are held.** -/
theorem Swept.ofHeldBid {store : Store} (hkeeps : store.Keeps book) (h : Swept setting book outcome)
    {event : Event} (hevent : event ∈ outcome.events) : event.OfHeldBid store := by
  obtain ⟨id, hid⟩ := (h.tells hchecked hsane hproper).named event hevent
  cases event with
  | bidRevealed name account amount isTop =>
    have habout := Event.mem_about.mpr ⟨hevent, hid⟩
    by_cases hdue : book.IsDue setting.now id
    · exact absurd habout (h.told hchecked hsane hproper hdue).not_revealed
    · rw [h.silent hchecked hsane hproper hdue] at habout
      cases habout
  | slashed name account deposit =>
    have hname : name.id = .ok id := hid
    have hslashed : Event.slashed name account deposit ∈ outcome.events.filter (Event.slashes id account) :=
      List.mem_filter.mpr ⟨hevent, by simp [Event.slashes, hname]⟩
    rcases h.slashes hchecked hsane hproper id account with ⟨auction, -, -, -, htold⟩ | ⟨-, -, hsilent⟩
    · rw [htold] at hslashed
      obtain ⟨bid, hbid, heq⟩ := List.mem_map.mp hslashed
      refine ⟨id, bid, hid, ?_, ?_⟩
      · rw [hkeeps.bid?, Option.mem_toList.mp hbid]
      · cases heq
        rfl
    · rw [hsilent] at hslashed
      cases hslashed
  | _ => trivial

end

/-! ### Commands -/

/-- What a command that succeeds makes of a bid, and what it tells. -/
inductive Faced (id : NameId) (bidder : Account) (bid : Bid) : Command → List Event → Option Bid → Prop
  | kept {command : Command} {events : List Event}
      (hnot : ∀ name salt amount, command = .reveal name salt amount bidder → name.id ≠ .ok id) :
      Faced id bidder bid command events (some bid)
  | opened {name : Name} {salt : String} {amount : Coin} {isTop : Bool} (hid : name.id = .ok id)
      (hseal : Commitment.seal salt name amount bidder = bid.commitment) :
      Faced id bidder bid (.reveal name salt amount bidder) [.bidRevealed name bidder amount isTop] none

theorem Faced.of_kept {command : Command} {held : Option Bid}
    (hnot : ∀ name salt amount, command = .reveal name salt amount bidder → name.id ≠ .ok id)
    (hsame : held = some bid) : Faced id bidder bid command events held := hsame ▸ .kept hnot

theorem Faced.of_reveal {name : Name} {salt : String} {amount : Coin} {account : Account} {own : NameId}
    {opened : Bid} {isTop : Bool} (hid : name.id = .ok own) (hopened : book (.bid own account) = some opened)
    (hseal : Commitment.seal salt name amount account = opened.commitment)
    (hafter : after (.bid id bidder) = book.set (.bid own account) none (.bid id bidder))
    (hbid : book (.bid id bidder) = some bid) :
    Faced id bidder bid (.reveal name salt amount account) [.bidRevealed name account amount isTop]
      (after (.bid id bidder)) := by
  rw [hafter]
  by_cases heq : Slot.bid id bidder = .bid own account
  · cases heq
    obtain rfl := Option.some.inj (hopened.symm.trans hbid)
    rw [set_self]
    exact .opened hid hseal
  · rw [set_of_ne _ _ heq]
    refine .of_kept (fun other _ _ hcommand hname => heq ?_) hbid
    cases hcommand
    rw [Except.ok.inj (hname.symm.trans hid)]

/-- **What a command does to a bid.** -/
theorem Handled.faced {command : Command} (h : Handled setting book command outcome)
    (hbid : book (.bid id bidder) = some bid) :
    Faced id bidder bid command outcome.events (outcome.book (.bid id bidder)) := by
  cases h with
  | opened => exact .of_kept nofun (by simpa using hbid)
  | @bidPlaced name commitment deposit account own auction hidden _ _ _ hfirst =>
    have hne : Slot.bid id bidder ≠ .bid own account := by
      intro heq
      cases heq
      rw [hfirst] at hbid
      cases hbid
    exact .of_kept nofun ((set_of_ne _ _ hne).trans hbid)
  | revealedTop hid _ _ hopened hseal => exact .of_reveal hid hopened hseal (by simp) hbid
  | revealedBelow hid _ _ hopened hseal => exact .of_reveal hid hopened hseal (by simp) hbid
  | renewed => exact .of_kept nofun (by simpa using hbid)
  | ownerChanged => exact .of_kept nofun (by simpa using hbid)
  | subNameSet => exact .of_kept nofun (by simpa using hbid)
  | subNameCleared => exact .of_kept nofun (by simpa using hbid)

theorem Handled.ofHeldBid {store : Store} (hkeeps : store.Keeps book) {command : Command}
    (h : Handled setting book command outcome) {event : Event} (hevent : event ∈ outcome.events) :
    event.OfHeldBid store := by
  cases h with
  | revealedTop hid _ _ hbid =>
    obtain rfl := List.mem_singleton.mp hevent
    exact ⟨_, _, hid, by rw [hkeeps.bid?, hbid]⟩
  | revealedBelow hid _ _ hbid =>
    obtain rfl := List.mem_singleton.mp hevent
    exact ⟨_, _, hid, by rw [hkeeps.bid?, hbid]⟩
  | _ =>
    obtain rfl := List.mem_singleton.mp hevent
    trivial

/-- Without a new bid of the account, its bid stays as it is or goes. -/
theorem Proceeds.bid_stays_or_goes {delivery : Option Delivery} (h : Proceeds book id after delivery)
    (hnot : ∀ made ∈ delivery.toList, made.bids id bidder = false) :
    after (.bid id bidder) = book (.bid id bidder) ∨ after (.bid id bidder) = none := by
  cases h with
  | untouched _ _ hbids => exact .inl (hbids bidder)
  | opened _ _ hbids => exact .inl (hbids bidder)
  | @bidPlaced _ _ _ _ _ account _ _ hid _ _ _ _ _ _ hothers =>
    by_cases heq : bidder = account
    · have hmade := hnot _ (List.mem_singleton_self _)
      simp [Delivery.bids, hid, heq] at hmade
    · exact .inl (hothers bidder heq)
  | @revealed _ _ _ _ _ account _ _ _ _ _ _ _ hgone hothers =>
    by_cases heq : bidder = account
    · rw [heq]
      exact .inr hgone
    · exact .inl (hothers bidder heq)
  | revealStarted _ _ hbids => exact .inl (hbids bidder)
  | ended _ hgone => exact .inr (hgone bidder)

/-- Without a new bid of the account there is none where there was none. -/
def NoBidSince (id : NameId) (bidder : Account) (history : List Delivery) (book : Book) : Prop :=
  (∀ made ∈ history, made.bids id bidder = false) → book (.bid id bidder) = none

theorem Proceeds.noBidSince {history : List Delivery} {delivery : Option Delivery}
    (h : Proceeds book id after delivery) (hnone : NoBidSince id bidder history book) :
    NoBidSince id bidder (history ++ delivery.toList) after := by
  intro hnot
  have hbefore := hnone fun made hmade => hnot made (List.mem_append_left _ hmade)
  rcases h.bid_stays_or_goes fun made hmade => hnot made (List.mem_append_right _ hmade) with hsame | hgone
  · exact hsame.trans hbefore
  · exact hgone

theorem Sound.afterAll_no_bid (h : registrar.Sound book) (hnone : book (.bid id bidder) = none)
    {calls : List Call} (hnot : ∀ made ∈ registrar.deliveries calls, made.bids id bidder = false) :
    ∃ last, (registrar.afterAll calls).Sound last ∧ last (.bid id bidder) = none := by
  have hstart : NoBidSince id bidder [] book := fun _ => hnone
  obtain ⟨last, hlast, hkept⟩ :=
    h.afterAll_of_proceeds (fun _ hinv hproceeds => hproceeds.noBidSince hinv) hstart calls
  exact ⟨last, hlast, hkept hnot⟩

/-! ### The fate of a bid -/

/-- What a sweep makes of a bid, and what it tells of it. -/
inductive Outlasted (registrar next : Registrar) (id : NameId) (bidder : Account) (bid : Bid) (now : Time)
    (events : List Event) : Prop
  | kept (hnot : ∀ auction, registrar.store.auction? id = .ok (some auction) →
        ¬ (auction.phase = .reveal ∧ auction.endTime ≤ now))
      (hbid : next.store.bid? id bidder = .ok (some bid))
      (hsilent : events.filter (Event.slashes id bidder) = []) :
      Outlasted registrar next id bidder bid now events
  | slashed {auction : Auction} (hauction : registrar.store.auction? id = .ok (some auction))
      (hends : auction.phase = .reveal ∧ auction.endTime ≤ now)
      (hgone : next.store.bid? id bidder = .ok none)
      (htold : events.filter (Event.slashes id bidder) = [.slashed auction.name bidder bid.deposit]) :
      Outlasted registrar next id bidder bid now events

theorem Sound.outlasted (h : registrar.Sound book) (hproper : book.Proper)
    (hbid : book (.bid id bidder) = some bid) {now : Time}
    (hok : registrar.endBlock now = (.ok events, next)) :
    Outlasted registrar next id bidder bid now events := by
  obtain ⟨outcome, hswept, rfl, -, hnext⟩ := h.endBlock_ok hok
  rcases hswept.slashes h.checked h.sane hproper id bidder with
    ⟨auction, hauction, hends, hgone, htold⟩ | ⟨hnot, hsame, hsilent⟩
  · rw [hbid] at htold
    exact .slashed (by rw [h.keeps.auction?, hauction]) hends (by rw [hnext.keeps.bid?, hgone]) htold
  · refine .kept (fun auction hauction => hnot auction ?_) ?_ hsilent
    · exact h.keeps.auction_eq hauction
    · rw [hnext.keeps.bid?, hsame, hbid]

theorem Sound.not_slashed (h : registrar.Sound book) (hproper : book.Proper)
    (hnone : book (.bid id bidder) = none) {now : Time} (hok : registrar.endBlock now = (.ok events, next)) :
    events.filter (Event.slashes id bidder) = [] := by
  obtain ⟨outcome, hswept, rfl, -, -⟩ := h.endBlock_ok hok
  rcases hswept.slashes h.checked h.sane hproper id bidder with ⟨auction, -, -, -, htold⟩ | ⟨-, -, hsilent⟩
  · rw [htold, hnone]
    rfl
  · exact hsilent

/-- After a reveal the bid of the account is gone. -/
theorem Sound.bid_of_revealed (h : registrar.Sound book) {now : Time} {name : Name} {salt : String}
    {amount : Coin} (hid : name.id = .ok id)
    (hok : registrar.deliver now (.reveal name salt amount bidder) = (.ok events, next)) :
    ∃ after, next.Sound after ∧ after (.bid id bidder) = none := by
  obtain ⟨outcome, -, hhandled, -, -, hnext⟩ := h.deliver_ok hok
  refine ⟨outcome.book, hnext, ?_⟩
  cases hhandled with
  | revealedTop hown =>
    obtain rfl := Except.ok.inj (hown.symm.trans hid)
    simp
  | revealedBelow hown =>
    obtain rfl := Except.ok.inj (hown.symm.trans hid)
    simp

/-- **No bid is lost, and none is paid for twice.**  A bid stays as it is until a reveal opens it or the sweep
that ends the reveal phase slashes it, which is told once and with its deposit.  No reveal and no slashing is
told but of a bid that was held before the call, and a bid that has been revealed is not slashed later, as
long as the account does not place another one on the name. -/
theorem Reachable.bid_fate (h : Reachable registrar) :
    (∀ id bidder bid, registrar.store.bid? id bidder = .ok (some bid) →
      (∀ now command events next, registrar.deliver now command = (.ok events, next) →
        ∃ held, next.store.bid? id bidder = .ok held ∧ Faced id bidder bid command events held) ∧
      (∀ now events next, registrar.endBlock now = (.ok events, next) →
        Outlasted registrar next id bidder bid now events) ∧
      ∀ call, (∀ now command, call ≠ .deliver now command) → (∀ now, call ≠ .endBlock now) →
        (registrar.after call).store.bid? id bidder = .ok (some bid)) ∧
    (∀ now command events next, registrar.deliver now command = (.ok events, next) →
      ∀ event ∈ events, event.OfHeldBid registrar.store) ∧
    (∀ now events next, registrar.endBlock now = (.ok events, next) →
      ∀ event ∈ events, event.OfHeldBid registrar.store) ∧
    ∀ now name salt amount bidder events next id, name.id = .ok id →
      registrar.deliver now (.reveal name salt amount bidder) = (.ok events, next) →
      ∀ calls, (∀ made ∈ next.deliveries calls, made.bids id bidder = false) →
        ∀ later told last, (next.afterAll calls).endBlock later = (.ok told, last) →
          told.filter (Event.slashes id bidder) = [] := by
  obtain ⟨book, hsound, hproper⟩ := h.sound_proper
  refine ⟨fun id bidder bid hbid => ⟨?_, ?_, ?_⟩, ?_, ?_, ?_⟩
  · intro now command events next hok
    obtain ⟨outcome, -, hhandled, rfl, -, hnext⟩ := hsound.deliver_ok hok
    exact ⟨_, hnext.keeps.bid? id bidder, hhandled.faced (hsound.keeps.bid_eq hbid)⟩
  · intro now events next hok
    exact hsound.outlasted hproper (hsound.keeps.bid_eq hbid) hok
  · intro call hdeliver hendBlock
    have hstore : (registrar.after call).store = registrar.store :=
      congrArg Disk.store (after_idle hsound.checked hdeliver hendBlock).disk
    rw [hstore, hbid]
  · intro now command events next hok event hevent
    obtain ⟨outcome, -, hhandled, rfl, -, -⟩ := hsound.deliver_ok hok
    exact hhandled.ofHeldBid hsound.keeps hevent
  · intro now events next hok event hevent
    obtain ⟨outcome, hswept, rfl, -, -⟩ := hsound.endBlock_ok hok
    exact hswept.ofHeldBid hsound.checked hsound.sane hproper hsound.keeps hevent
  · intro now name salt amount bidder events next id hid hok calls hnot later told last hswept
    obtain ⟨after, hrevealed, hgone⟩ := hsound.bid_of_revealed hid hok
    obtain ⟨_, hran, hnone⟩ := hrevealed.afterAll_no_bid hgone hnot
    obtain ⟨final, hfinal, hproper⟩ := ((h.delivered hok).calledAll calls).sound_proper
    have hsame := hfinal.keeps.bid_eq (hran.keeps.bid? id bidder)
    exact hfinal.not_slashed hproper (hsame.trans hnone) hswept

def readyToReveal : Registrar := standard.afterAll (rivalRun.take 6)

def aliceReveals : Command := .reveal ⟨"label.terra"⟩ "salt" (luna 550000000) Demo.alice

/-- Bob's bid stays while Alice reveals hers and is slashed in the end, and Alice is spared. -/
theorem bid_fate_rivalRun :
    (readyToReveal.deliver (moment 300000) aliceReveals).1.isOk = true ∧
      (readyToReveal.deliver (moment 300000) aliceReveals).2.store.bid? (.ofText "label.terra") Demo.bob =
        .ok (some sealedByBob) ∧
      ∃ told last, (readyToReveal.deliver (moment 300000) aliceReveals).2.endBlock (moment 500000) =
          (.ok told, last) ∧
        told.filter (Event.slashes (.ofText "label.terra") Demo.alice) = [] ∧
        told.filter (Event.slashes (.ofText "label.terra") Demo.bob) =
          [.slashed ⟨"label.terra"⟩ Demo.bob (luna 700000000)] := by
  obtain ⟨hbid, hrevealed, hauction, hended⟩ :
      readyToReveal.store.bid? (.ofText "label.terra") Demo.bob = .ok (some sealedByBob) ∧
        (readyToReveal.deliver (moment 300000) aliceReveals).1.isOk = true ∧
        (readyToReveal.deliver (moment 300000) aliceReveals).2.store.auction? (.ofText "label.terra") =
          .ok (some ledByAlice) ∧
        ((readyToReveal.deliver (moment 300000) aliceReveals).2.endBlock (moment 500000)).1.isOk = true := by
    decide +kernel
  have hname : (⟨"label.terra"⟩ : Name).id = .ok (.ofText "label.terra") := by decide +kernel
  have hreachable : Reachable readyToReveal := reachable_standard.calledAll _
  obtain ⟨events, hok⟩ := exists_events_of_isOk hrevealed
  obtain ⟨told, hswept⟩ := exists_events_of_isOk hended
  obtain ⟨hfates, -, -, hspared⟩ := hreachable.bid_fate
  obtain ⟨held, hheld, hfaced⟩ := (hfates _ _ _ hbid).1 _ _ _ _ hok
  have hkept : held = some sealedByBob := by
    cases hfaced
    rfl
  subst hkept
  refine ⟨hrevealed, hheld, told, _, hswept, hspared _ _ _ _ _ _ _ _ hname hok [] nofun _ _ _ hswept, ?_⟩
  obtain ⟨hfates, -⟩ := (hreachable.delivered hok).bid_fate
  cases (hfates _ _ _ hheld).2.1 _ _ _ hswept with
  | kept hnot => exact absurd ⟨rfl, by decide⟩ (hnot _ hauction)
  | slashed hother _ _ htold =>
    obtain rfl := Option.some.inj (Except.ok.inj (hauction.symm.trans hother))
    exact htold

end Registrar

end NameAuction
