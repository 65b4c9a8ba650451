import NameAuction.Proofs.Registrar.Independence
import NameAuction.Proofs.Registrar.Payout

/-!
# The order of reveals does not matter

A reveal of what was sealed does one thing to the book: it takes the bid away and lets the auction be led by
the higher of two amounts (`Book.reveal`).  Balance and stake of every account together stay what they were,
and so does what the escrow holds beyond the liability (`Rearranged`).  So after any list of such reveals the
bank is determined by the book, and the book by a running maximum (`Rearranged.reveals`).  Where no two amounts
are equal, the maximum is the same in every order (`Book.reveal_comm`), and with it the disk and all balances
(`Reachable.reveals_commute`).
-/

namespace NameAuction

namespace Registrar

def Reveal.command (name : Name) (reveal : Reveal) : Command :=
  .reveal name reveal.salt reveal.amount reveal.bidder

theorem afterReveal_phase (auction : Auction) (amount : Coin) (bidder : Account) :
    (afterReveal auction amount bidder).phase = auction.phase := by
  rw [afterReveal]
  split <;> rfl

theorem afterReveal_of_leads {auction : Auction} {amount : Coin} (h : leads auction amount = true)
    (bidder : Account) :
    afterReveal auction amount bidder = { auction with topBid := some ⟨bidder, amount⟩ } := if_pos h

theorem afterReveal_of_not {auction : Auction} {amount : Coin} (h : ¬ leads auction amount = true)
    (bidder : Account) : afterReveal auction amount bidder = auction := if_neg h

theorem leads_top {auction : Auction} {top : TopBid} {amount : Coin} :
    leads { auction with topBid := some top } amount = true ↔ top.amount.amount < amount.amount := by
  simp [leads]

theorem leads_of_lt {auction : Auction} {amount other : Coin} (hlt : amount.amount < other.amount)
    (h : leads auction amount = true) : leads auction other = true := by
  unfold leads at h ⊢
  cases htop : auction.topBid with
  | none => rfl
  | some top =>
    rw [htop] at h
    exact decide_eq_true (Nat.lt_trans (of_decide_eq_true h) hlt)

/-- A reveal that comes after a higher one or before it leaves nothing. -/
theorem afterReveal_of_lt (auction : Auction) {amount other : Coin} (hlt : amount.amount < other.amount)
    (bidder rival : Account) :
    afterReveal (afterReveal auction amount bidder) other rival = afterReveal auction other rival ∧
      afterReveal (afterReveal auction other rival) amount bidder = afterReveal auction other rival := by
  have hnot : ¬ other.amount < amount.amount := Nat.lt_asymm hlt
  by_cases hlow : leads auction amount = true
  · have hhigh := leads_of_lt hlt hlow
    rw [afterReveal_of_leads hlow, afterReveal_of_leads hhigh, afterReveal_of_leads (leads_top.mpr hlt),
      afterReveal_of_not (mt leads_top.mp hnot)]
    exact ⟨rfl, rfl⟩
  · rw [afterReveal_of_not hlow]
    refine ⟨rfl, ?_⟩
    by_cases hhigh : leads auction other = true
    · rw [afterReveal_of_leads hhigh, afterReveal_of_not (mt leads_top.mp hnot)]
    · rw [afterReveal_of_not hhigh, afterReveal_of_not hlow]

/-- Of two different amounts the higher one leads, whichever is revealed first. -/
theorem afterReveal_comm (auction : Auction) {amount other : Coin} (hne : amount.amount ≠ other.amount)
    (bidder rival : Account) :
    afterReveal (afterReveal auction amount bidder) other rival =
      afterReveal (afterReveal auction other rival) amount bidder := by
  have hvalue : amount.amount.toNat ≠ other.amount.toNat := fun heq => hne (Word.ext heq)
  rcases Nat.lt_or_gt_of_ne hvalue with hlt | hlt
  · obtain ⟨hafter, hbefore⟩ := afterReveal_of_lt auction hlt bidder rival
    exact hafter.trans hbefore.symm
  · obtain ⟨hafter, hbefore⟩ := afterReveal_of_lt auction hlt rival bidder
    exact hbefore.trans hafter.symm

end Registrar

namespace Book

open Registrar

def reveal (id : NameId) (book : Book) : Command → Book
  | .reveal _ _ amount bidder =>
    match book (.auction id) with
    | none => book
    | some auction =>
      (book.set (.bid id bidder) none).set (.auction id) (some (afterReveal auction amount bidder))
  | _ => book

theorem reveal_of_auction {id : NameId} {book : Book} {auction : Auction}
    (hauction : book (.auction id) = some auction) (name : Name) (message : Reveal) :
    book.reveal id (message.command name) =
      (book.set (.bid id message.bidder) none).set (.auction id)
        (some (afterReveal auction message.amount message.bidder)) := by
  simp only [reveal, Reveal.command, hauction]

theorem reveal_of_none {id : NameId} {book : Book} (hnone : book (.auction id) = none) (command : Command) :
    book.reveal id command = book := by
  cases command <;> simp only [reveal, hnone]

/-- **Two reveals of different amounts by different bidders commute.** -/
theorem reveal_comm {id : NameId} {name : Name} {first second : Reveal}
    (hbidder : first.bidder ≠ second.bidder) (hamount : first.amount.amount ≠ second.amount.amount)
    (book : Book) :
    (book.reveal id (first.command name)).reveal id (second.command name) =
      (book.reveal id (second.command name)).reveal id (first.command name) := by
  cases hauction : book (.auction id) with
  | none => simp only [reveal_of_none hauction]
  | some auction =>
    have hbids : Slot.bid id first.bidder ≠ .bid id second.bidder := by simp [hbidder]
    have hown : ∀ bidder, Slot.auction id ≠ .bid id bidder := fun _ => nofun
    rw [reveal_of_auction hauction, reveal_of_auction hauction, reveal_of_auction (set_self ..),
      reveal_of_auction (set_self ..), set_comm _ (hown second.bidder), set_comm _ (hown first.bidder),
      set_set, set_set, set_comm _ hbids, afterReveal_comm auction hamount]

end Book

namespace Registrar

variable {start registrar next : Registrar} {first book : Book} {id : NameId} {name : Name}

/-- The reveal opens the bid that its bidder has on the name. -/
def Opens (book : Book) (id : NameId) (name : Name) (reveal : Reveal) : Prop :=
  ∃ bid : Bid, book (.bid id reveal.bidder) = some bid ∧
    Commitment.seal reveal.salt name reveal.amount reveal.bidder = bid.commitment ∧
    bid.deposit.Covers reveal.amount

/-- From one registrar to the other, coins have moved between balances and stakes in the auction of the name
only. -/
structure Rearranged (start : Registrar) (first : Book) (id : NameId) (registrar : Registrar) (book : Book) :
    Prop where
  covers : registrar.Covers book
  fits : registrar.bank.Fits
  balances : ∀ account denom,
    (registrar.bank.balance account).held denom + book.stakeOn id account denom =
      (start.bank.balance account).held denom + first.stakeOn id account denom
  escrow : ∀ denom, registrar.bank.escrow.held denom + first.liability denom =
    start.bank.escrow.held denom + book.liability denom
  burned : ∀ denom, registrar.bank.burned.held denom = start.bank.burned.held denom

theorem Rearranged.refl (h : registrar.Covers book) (hfits : registrar.bank.Fits) (id : NameId) :
    Rearranged registrar book id registrar book :=
  ⟨h, hfits, fun _ _ => rfl, fun _ => rfl, fun _ => rfl⟩

theorem Handled.burnt_reveal {setting : Setting} {salt : String} {amount : Coin} {bidder : Account}
    {outcome : Outcome} (h : Handled setting book (.reveal name salt amount bidder) outcome)
    (denom : String) : Move.sum (Move.burnt denom) outcome.moves = 0 := by
  cases h with
  | revealedTop => rw [Move.sum_append, burnt_backToTop]; rfl
  | revealedBelow => rfl

/-- **A reveal of what was sealed is carried out** if it passes its own check. -/
theorem Covers.reveal_eq_ok (h : registrar.Covers book) (hfits : registrar.bank.Fits)
    (hid : name.id = .ok id) {auction : Auction} (hauction : book (.auction id) = some auction)
    (hphase : auction.phase = .reveal) {reveal : Reveal} (hopens : Opens book id name reveal)
    (hcheck : (reveal.command name).check = .ok ()) (now : Time) :
    ∃ outcome next, Handled (registrar.setting now) book (reveal.command name) outcome ∧
      registrar.deliver now (reveal.command name) = (.ok outcome.events, next) ∧
      Applied registrar now outcome next := by
  obtain ⟨bid, hbid, hseal, hcovers⟩ := hopens
  obtain ⟨surplus, hsurplus⟩ := exists_surplus hcovers
  obtain ⟨last, hall⟩ := h.revealMoves_eq_ok hfits hauction hbid hcovers hsurplus
  have hkeeps := firstTurn_keeps h.sound.keeps
  have hpays := revealBid_pays hkeeps hid hauction hphase hbid hseal hcovers hsurplus hall
  have hends : Handles (registrar.setting now) book registrar.firstTurn (reveal.command name)
      (revealBid name reveal.salt reveal.amount reveal.bidder) := revealBid_ends hkeeps ..
  have hrun : registrar.deliver now (reveal.command name) =
      registrar.run now (revealBid name reveal.salt reveal.amount reveal.bidder) := by
    rw [deliver, hcheck]
    rfl
  cases hstep : revealBid name reveal.salt reveal.amount reveal.bidder registrar.firstTurn with
  | error fault => exact (hpays.of_error hstep).elim
  | ok result =>
    obtain ⟨⟨⟩, turn⟩ := result
    obtain ⟨outcome, hhandled, hbecomes⟩ := hends.of_ok hstep
    obtain ⟨next, hnext, happlied⟩ := settle_of_worth h.sound.room hfits now hbecomes
    exact ⟨outcome, next, hhandled, by rw [hrun, run_of_ok hstep, hnext], happlied⟩

/-- One reveal. -/
theorem Rearranged.reveal (h : Rearranged start first id registrar book) (hid : name.id = .ok id)
    {auction : Auction} (hauction : book (.auction id) = some auction) {now : Time} {reveal : Reveal}
    {outcome : Outcome}
    (hhandled : Handled (registrar.setting now) book (reveal.command name) outcome)
    (happlied : Applied registrar now outcome next) :
    Rearranged start first id next (book.reveal id (reveal.command name)) := by
  have hbalances := hhandled.balances h.covers.sound.keeps.finitary
  have hcovers := h.covers.of_applied happlied hbalances (h.covers.sound.sane.handled hhandled)
  obtain ⟨found, bid, hfound, -, hbook, hstakes⟩ := Handled.of_reveal hhandled hid
  obtain rfl : found = auction := Option.some.inj (hfound.symm.trans hauction)
  have hreveal : book.reveal id (reveal.command name) = outcome.book := by
    rw [Book.reveal_of_auction hauction, hbook]
  rw [hreveal]
  refine ⟨hcovers, happlied.fits h.fits, fun account denom => ?_, fun denom => ?_, fun denom => ?_⟩
  · have hpaid := (Funds.applyAll_eq_ok happlied.funds).1 account denom
    have hstake := hstakes account denom
    have hbefore := h.balances account denom
    change (next.bank.balance account).held denom + _ = (registrar.bank.balance account).held denom + _ at hpaid
    omega
  · have hescrow := happlied.escrow hbalances denom
    have hbefore := h.escrow denom
    omega
  · rw [happlied.burned, hhandled.burnt_reveal, h.burned, Nat.add_zero]

def checkedReveals (name : Name) (reveals : List Reveal) : List Command :=
  (reveals.map (Reveal.command name)).filter fun command => command.check.isOk

/-- **Any reveals of what was sealed**: those that pass their own checks are carried out, one after another. -/
theorem Rearranged.reveals (h : Rearranged start first id registrar book) (hid : name.id = .ok id)
    {auction : Auction} (hauction : book (.auction id) = some auction) (hphase : auction.phase = .reveal)
    {reveals : List Reveal} (hbidders : (reveals.map Reveal.bidder).Nodup)
    (hopens : ∀ reveal ∈ reveals, Opens book id name reveal) :
    Rearranged start first id (sendAll (Reveal.send name) reveals registrar).2
      ((checkedReveals name reveals).foldl (Book.reveal id) book) := by
  induction reveals generalizing registrar book auction with
  | nil => exact h
  | cons reveal rest ih =>
    obtain ⟨hnew, hrest⟩ := List.nodup_cons.mp hbidders
    have hopen := hopens reveal (List.mem_cons_self ..)
    have hothers : ∀ other ∈ rest, Opens book id name other :=
      fun other hmem => hopens other (List.mem_cons_of_mem _ hmem)
    cases hcheck : (reveal.command name).check with
    | error fault =>
      -- a reveal that does not pass its check is refused and leaves nothing
      have hsend : Reveal.send name reveal registrar = (.error fault, registrar) := by
        show registrar.deliver reveal.now (reveal.command name) = _
        rw [deliver, hcheck]
      have hchecked : checkedReveals name (reveal :: rest) = checkedReveals name rest := by
        simp [checkedReveals, hcheck, Except.isOk, Except.toBool]
      rw [sendAll, hsend, hchecked]
      exact ih h hauction hphase hrest hothers
    | ok u =>
      obtain ⟨outcome, next, hhandled, hdeliver, happlied⟩ :=
        h.covers.reveal_eq_ok h.fits hid hauction hphase hopen hcheck reveal.now
      have hsend : Reveal.send name reveal registrar = (.ok outcome.events, next) := hdeliver
      have hchecked : checkedReveals name (reveal :: rest) =
          reveal.command name :: checkedReveals name rest := by
        simp [checkedReveals, hcheck, Except.isOk, Except.toBool]
      rw [sendAll, hsend, hchecked]
      have hreveal := Book.reveal_of_auction hauction name reveal
      have hled : book.reveal id (reveal.command name) (.auction id) =
          some (afterReveal auction reveal.amount reveal.bidder) := by
        rw [hreveal, Book.set_self]
      refine ih (h.reveal hid hauction hhandled happlied) hled ?_ hrest ?_
      · rw [afterReveal_phase, hphase]
      · intro other hmem
        obtain ⟨bid, hbid, hopened⟩ := hothers other hmem
        refine ⟨bid, ?_, hopened⟩
        have hne : other.bidder ≠ reveal.bidder := by
          intro heq
          exact hnew (heq ▸ List.mem_map_of_mem hmem)
        rw [hreveal]
        simpa [hne] using hbid

/-- Two registrars that keep one book and come from the same one in this way coincide. -/
theorem Rearranged.coincides {other : Registrar} (h : Rearranged start first id registrar book)
    (h' : Rearranged start first id other book) : registrar.Coincides other where
  disk := disk_eq_of_keeps h.covers.sound.keeps h'.covers.sound.keeps h.covers.sound.room h'.covers.sound.room
  balance account := by
    refine Bundle.eq_of_held_eq fun denom => ?_
    have hheld := h.balances account denom
    have hheld' := h'.balances account denom
    omega
  escrow := by
    refine Bundle.eq_of_held_eq fun denom => ?_
    have hheld := h.escrow denom
    have hheld' := h'.escrow denom
    omega
  burned := Bundle.eq_of_held_eq fun denom => (h.burned denom).trans (h'.burned denom).symm

/-! ### Two orders -/

theorem bidders_eq (name : Name) (reveals : List Reveal) :
    reveals.map Reveal.bidder = (reveals.map (Reveal.command name)).map Command.signer := by
  rw [List.map_map]
  rfl

/-- **Reveals of different amounts by different bidders lead to one book in every order.** -/
theorem foldl_reveal_eq {reveals others : List Reveal}
    (hsame : (reveals.map (Reveal.command name)).Perm (others.map (Reveal.command name)))
    (hbidders : (reveals.map Reveal.bidder).Nodup)
    (hamounts : (reveals.map fun reveal => reveal.amount.amount).Nodup) (book : Book) :
    (checkedReveals name reveals).foldl (Book.reveal id) book =
      (checkedReveals name others).foldl (Book.reveal id) book := by
  refine (hsame.filter _).foldl_eq' ?_ book
  intro one hone two htwo book
  obtain ⟨first, hfirst, rfl⟩ := List.mem_map.mp (List.mem_filter.mp hone).1
  obtain ⟨second, hsecond, rfl⟩ := List.mem_map.mp (List.mem_filter.mp htwo).1
  by_cases heq : first = second
  · rw [heq]
  · have hbidder : first.bidder ≠ second.bidder :=
      fun h => heq (List.inj_on_of_nodup_map hbidders hfirst hsecond h)
    have hamount : first.amount.amount ≠ second.amount.amount :=
      fun h => heq (List.inj_on_of_nodup_map hamounts hfirst hsecond h)
    exact Book.reveal_comm hbidder hamount book

theorem Opens.of_command_eq {reveal other : Reveal} (h : Opens book id name reveal)
    (heq : reveal.command name = other.command name) : Opens book id name other := by
  obtain ⟨now, salt, amount, bidder⟩ := reveal
  obtain ⟨now', salt', amount', bidder'⟩ := other
  cases heq
  exact h

/-- **The order of reveals does not matter.**  If the total of the bank fits and the escrow covers the
liabilities, then reveals of different amounts by different bidders, each of which opens the bid that the
bidder has sealed, end with the same disk, the same balances, the same escrow and the same burned total in any
two orders and at any times, whoever led the auction before. -/
theorem Reachable.reveals_commute (h : Reachable registrar) {total : Bundle}
    (htotal : registrar.bank.total = .ok total) (hcovered : registrar.Covered) (hid : name.id = .ok id)
    {auction : Auction} (hauction : registrar.store.auction? id = .ok (some auction))
    (hphase : auction.phase = .reveal) {reveals others : List Reveal}
    (hsame : (reveals.map (Reveal.command name)).Perm (others.map (Reveal.command name)))
    (hbidders : (reveals.map Reveal.bidder).Nodup)
    (hamounts : (reveals.map fun reveal => reveal.amount.amount).Nodup)
    (hopens : ∀ reveal ∈ reveals, ∃ bid : Bid,
      registrar.store.bid? id reveal.bidder = .ok (some bid) ∧
      Commitment.seal reveal.salt name reveal.amount reveal.bidder = bid.commitment ∧
      bid.deposit.Covers reveal.amount) :
    (sendAll (Reveal.send name) reveals registrar).2.Coincides
      (sendAll (Reveal.send name) others registrar).2 := by
  obtain ⟨book, hsound⟩ := h.sound
  have hstart := Rearranged.refl (hcovered.covers hsound) (Bank.fits_of_total htotal) id
  have hheld := hsound.keeps.auction_eq hauction
  have hopens : ∀ reveal ∈ reveals, Opens book id name reveal := by
    intro reveal hmem
    obtain ⟨bid, hbid, hopened⟩ := hopens reveal hmem
    exact ⟨bid, hsound.keeps.bid_eq hbid, hopened⟩
  have hbidders' : (others.map Reveal.bidder).Nodup := by
    rw [bidders_eq name] at hbidders ⊢
    exact (hsame.map _).nodup_iff.mp hbidders
  have hopens' : ∀ reveal ∈ others, Opens book id name reveal := by
    intro reveal hmem
    obtain ⟨other, hother, heq⟩ := List.mem_map.mp (hsame.mem_iff.mpr (List.mem_map_of_mem hmem))
    exact (hopens other hother).of_command_eq heq
  have hone := hstart.reveals hid hheld hphase hbidders hopens
  have hother := hstart.reveals hid hheld hphase hbidders' hopens'
  rw [foldl_reveal_eq hsame hbidders hamounts] at hone
  exact hone.coincides hother

def sealedByAlice : Bid :=
  ⟨Commitment.seal "salt" ⟨"label.terra"⟩ (luna 550000000) Demo.alice, luna 600000000, Demo.alice⟩

def revealedByAlice (now : Time) : Reveal := ⟨now, "salt", luna 550000000, Demo.alice⟩

def revealedByBob (now : Time) : Reveal := ⟨now, "rose", luna 650000000, Demo.bob⟩

/-- Bob takes the lead from Alice. -/
def aliceFirst : List Reveal × Registrar :=
  sendAll (Reveal.send ⟨"label.terra"⟩) [revealedByAlice (moment 300000), revealedByBob (moment 310000)]
    (standard.afterAll (rivalRun.take 6))

/-- Alice comes too late for the lead. -/
def bobFirst : List Reveal × Registrar :=
  sendAll (Reveal.send ⟨"label.terra"⟩) [revealedByBob (moment 300000), revealedByAlice (moment 310000)]
    (standard.afterAll (rivalRun.take 6))

theorem reveals_commute_rivalRun :
    aliceFirst.1.length = 2 ∧ bobFirst.1.length = 2 ∧ aliceFirst.2.Coincides bobFirst.2 ∧
      aliceFirst.2.store.auction? (.ofText "label.terra") =
        .ok (some { ledByAlice with topBid := some ⟨Demo.bob, luna 650000000⟩ }) ∧
      aliceFirst.2.bank.balance Demo.alice = .ofCoin (luna 600000000) ∧
      aliceFirst.2.bank.balance Demo.bob = .ofCoin (luna 50000000) := by
  have hreachable : Reachable (standard.afterAll (rivalRun.take 6)) := reachable_standard.calledAll _
  have hname : (⟨"label.terra"⟩ : Name).id = .ok (.ofText "label.terra") := by decide +kernel
  obtain ⟨hfits, hauction, halice, hbob, hfirst, hother, hended⟩ :
      (standard.afterAll (rivalRun.take 6)).bank.total.isOk = true ∧
      (standard.afterAll (rivalRun.take 6)).store.auction? (.ofText "label.terra") =
        .ok (some { ledByAlice with topBid := none }) ∧
      (standard.afterAll (rivalRun.take 6)).store.bid? (.ofText "label.terra") Demo.alice =
        .ok (some sealedByAlice) ∧
      (standard.afterAll (rivalRun.take 6)).store.bid? (.ofText "label.terra") Demo.bob =
        .ok (some sealedByBob) ∧
      aliceFirst.1.length = 2 ∧ bobFirst.1.length = 2 ∧
      aliceFirst.2.store.auction? (.ofText "label.terra") =
        .ok (some { ledByAlice with topBid := some ⟨Demo.bob, luna 650000000⟩ }) ∧
      aliceFirst.2.bank.balance Demo.alice = .ofCoin (luna 600000000) ∧
      aliceFirst.2.bank.balance Demo.bob = .ofCoin (luna 50000000) := by
    decide +kernel
  obtain ⟨total, htotal⟩ := exists_ok_of_isOk hfits
  refine ⟨hfirst, hother, ?_, hended⟩
  refine hreachable.reveals_commute htotal (covered_standard _) hname hauction rfl (.swap _ _ _)
    (by decide +kernel) (by decide +kernel) fun reveal hmem => ?_
  rcases List.mem_cons.mp hmem with rfl | hmem
  · exact ⟨sealedByAlice, halice, rfl, by decide +kernel⟩
  · obtain rfl := List.mem_singleton.mp hmem
    exact ⟨sealedByBob, hbob, rfl, by decide +kernel⟩

end Registrar

end NameAuction
