import NameAuction.Proofs.Registrar.Solvency

/-!
# An honest reveal cannot be made to fail

Where a stored bid commits to what is revealed and its deposit covers that, all checks of a reveal pass, and
what is left are its pay-outs (`revealBid_pays`).  They go to the bidder and to whoever has led so far, and
come to no more than the deposit and the top bid (`released_revealMoves`), both of which are liabilities.  So
they are made if the escrow covers the liabilities, and since the total of the bank fits, no account can
come to hold too much by them (`reveal_succeeds`).
-/

namespace NameAuction

/-- What an auction and a bid on it keep in the escrow is part of the liability. -/
theorem Book.stake_add_deposit_le {book : Book} (hfin : book.Finitary) {id : NameId} {bidder : Account}
    {auction : Auction} {bid : Bid} (hauction : book (.auction id) = some auction)
    (hbid : book (.bid id bidder) = some bid) (denom : String) :
    auction.stake denom + bid.deposit.held denom ≤ book.liability denom := by
  have hwithout := Registrar.liability_reveal hfin hauction hbid { auction with topBid := none } denom
  simp only [Auction.stake] at hwithout ⊢
  omega

namespace Registrar

variable {auction : Auction} {bid : Bid} {amount : Coin} {surplus : Amount} {bidder : Account}

/-! ### What is paid out -/

/-- The moves of a reveal; `surplus` is what the deposit exceeds the amount by. -/
def revealMoves (auction : Auction) (bid : Bid) (amount : Coin) (surplus : Amount) (bidder : Account) :
    List Move :=
  if leads auction amount then backToTop auction ++ [.payOut bidder (.ofCoin ⟨amount.denom, surplus⟩)]
  else [.payOut bidder (.ofCoin bid.deposit)]

theorem isPayOut_revealMoves : ∀ move ∈ revealMoves auction bid amount surplus bidder, move.IsPayOut := by
  intro move hmove
  rw [revealMoves] at hmove
  split at hmove
  · rcases List.mem_append.mp hmove with htop | hown
    · rw [backToTop] at htop
      cases hcase : auction.topBid with
      | none =>
        rw [hcase] at htop
        cases htop
      | some top =>
        rw [hcase] at htop
        exact ⟨_, _, List.mem_singleton.mp htop⟩
    · exact ⟨_, _, List.mem_singleton.mp hown⟩
  · exact ⟨_, _, List.mem_singleton.mp hmove⟩

theorem released_revealMoves (auction : Auction) (bidder : Account) (hcovers : bid.deposit.Covers amount)
    (hsurplus : bid.deposit.amount.sub? amount.amount = some surplus) (denom : String) :
    Move.sum (Move.released denom) (revealMoves auction bid amount surplus bidder) ≤
      auction.stake denom + bid.deposit.held denom := by
  have hheld := held_surplus hcovers hsurplus denom
  rw [revealMoves]
  split
  · simp only [Move.sum_append, stake_eq_released, Move.sum_cons, Move.sum_nil, Move.released,
      Bundle.held_ofCoin]
    omega
  · simp only [Move.sum_cons, Move.sum_nil, Move.released, Bundle.held_ofCoin]
    omega

/-- **The pay-outs of a reveal are made where the escrow covers the liabilities.** -/
theorem Covers.revealMoves_eq_ok {registrar : Registrar} {book : Book} (h : registrar.Covers book)
    (hfits : registrar.bank.Fits) {id : NameId} (hauction : book (.auction id) = some auction)
    (hbid : book (.bid id bidder) = some bid) (hcovers : bid.deposit.Covers amount)
    (hsurplus : bid.deposit.amount.sub? amount.amount = some surplus) :
    ∃ last, registrar.firstTurn.vault.applyAll (revealMoves auction bid amount surplus bidder) =
      .ok last := by
  have hcovered : ∀ denom,
      Move.sum (Move.released denom) (revealMoves auction bid amount surplus bidder) ≤
        registrar.bank.funds.escrow.held denom := by
    intro denom
    have hreleased := released_revealMoves auction bidder hcovers hsurplus denom
    have hliable := Book.stake_add_deposit_le h.sound.keeps.finitary hauction hbid denom
    have hescrow := h.covered denom
    show _ ≤ registrar.bank.escrow.held denom
    omega
  obtain ⟨funds, hfunds⟩ := Funds.applyAll_payOuts isPayOut_revealMoves hcovered
    fun account denom => hfits.balance_add_escrow_lt account denom
  have hseen : Vault.funds ⟨registrar.bank, [.empty]⟩ = registrar.bank.funds :=
    Vault.funds_stage ⟨registrar.bank, []⟩
  rw [← hseen] at hfunds
  exact Vault.applyAll_of_funds hfunds

/-! ### The reveal -/

open Step

variable {book : Book} {turn : Turn} {last : Vault}

theorem payBackTop_pays {rest : List Move} {done : Unit → Turn → Prop} {failed : Fault → Prop}
    (hall : turn.vault.applyAll (backToTop auction ++ rest) = .ok last)
    (h : ∀ vault, vault.applyAll rest = .ok last → done () { turn with vault := vault }) :
    (payBackTop auction).Ends turn done failed := by
  unfold payBackTop
  unfold backToTop at hall
  cases htop : auction.topBid with
  | none =>
    rw [htop] at hall
    exact .pure (h turn.vault hall)
  | some top =>
    rw [htop] at hall
    exact .pay hall h

theorem payOutRevealed_pays {done : Unit → Turn → Prop} {failed : Fault → Prop}
    (hsurplus : bid.deposit.amount.sub? amount.amount = some surplus)
    (hall : turn.vault.applyAll (revealMoves auction bid amount surplus bidder) = .ok last)
    (h : ∀ vault, done () { turn with vault := vault }) :
    (payOutRevealed auction bid amount bidder).Ends turn done failed := by
  unfold payOutRevealed
  unfold revealMoves at hall
  by_cases hleads : leads auction amount = true
  · rw [if_pos hleads] at hall ⊢
    refine .bind (payBackTop_pays hall fun mid hmid => ?_)
    rw [hsurplus]
    refine .bind (.demand (fun found hfound => ?_) nofun)
    obtain rfl := Option.some.inj hfound
    exact .pay hmid fun vault _ => h vault
  · rw [if_neg hleads] at hall ⊢
    exact .pay hall fun vault _ => h vault

/-- **A reveal of what was sealed fails at most for its pay-outs.** -/
theorem revealBid_pays (hkeeps : turn.store.Keeps book) {name : Name} {salt : String} {id : NameId}
    (hid : name.id = .ok id) (hauction : book (.auction id) = some auction)
    (hphase : auction.phase = .reveal) (hbid : book (.bid id bidder) = some bid)
    (hseal : Commitment.seal salt name amount bidder = bid.commitment)
    (hcovers : bid.deposit.Covers amount)
    (hsurplus : bid.deposit.amount.sub? amount.amount = some surplus)
    (hall : turn.vault.applyAll (revealMoves auction bid amount surplus bidder) = .ok last) :
    (revealBid name salt amount bidder).Ends turn (fun _ _ => True) fun _ => False := by
  refine .bind (.raise (fun found hfound => ?_) fun fault hfault => ?_)
  · obtain rfl : found = id := Except.ok.inj (hfound.symm.trans hid)
    refine .bind (.find (hkeeps.auction? found) (fun other hother => ?_) fun hnone => ?_)
    · obtain rfl : other = auction := Option.some.inj (hother.symm.trans hauction)
      refine .bind (.ensure (fun _ => ?_) fun hnot => hnot hphase)
      refine .bind (.find (hkeeps.bid? found bidder) (fun stored hstored => ?_) fun hnone => ?_)
      · obtain rfl : stored = bid := Option.some.inj (hstored.symm.trans hbid)
        refine .bind (.ensure (fun _ => ?_) fun hnot => hnot hseal)
        refine .bind (.ensure (fun _ => ?_) fun hnot => hnot hcovers)
        refine .bind (payOutRevealed_pays hsurplus hall fun vault => ?_)
        exact .bind (.change (.bind (.change (.tell trivial))))
      · cases hnone.symm.trans hbid
    · cases hnone.symm.trans hauction
  · cases hfault.symm.trans hid

/-- **An honest reveal cannot be made to fail.**  If the total of the bank fits and the escrow covers the
liabilities, then at any time a bidder can reveal the bid that it has sealed, as long as the deposit covers it
and the auction is in its reveal phase, whoever has led so far and whatever else there is. -/
theorem reveal_succeeds {registrar : Registrar} (h : Reachable registrar) {total : Bundle}
    (htotal : registrar.bank.total = .ok total) (hcovered : registrar.Covered) {name : Name}
    {salt : String} {amount : Coin} {bidder : Account} {id : NameId} {auction : Auction} {bid : Bid}
    (hcheck : (Command.reveal name salt amount bidder).check = .ok ()) (hid : name.id = .ok id)
    (hauction : registrar.store.auction? id = .ok (some auction)) (hphase : auction.phase = .reveal)
    (hbid : registrar.store.bid? id bidder = .ok (some bid))
    (hseal : bid.commitment = Commitment.seal salt name amount bidder)
    (hcovers : bid.deposit.Covers amount) (now : Time) :
    ∃ events next, registrar.deliver now (.reveal name salt amount bidder) = (.ok events, next) := by
  obtain ⟨book, hsound⟩ := h.sound
  have hcoversBook := hcovered.covers hsound
  have hopen : book (.auction id) = some auction :=
    Except.ok.inj ((hsound.keeps.auction? id).symm.trans hauction)
  have hstored : book (.bid id bidder) = some bid :=
    Except.ok.inj ((hsound.keeps.bid? id bidder).symm.trans hbid)
  obtain ⟨surplus, hsurplus⟩ : ∃ surplus, bid.deposit.amount.sub? amount.amount = some surplus := by
    rw [Word.sub?, if_pos hcovers.2]
    exact ⟨_, rfl⟩
  obtain ⟨last, hall⟩ :=
    hcoversBook.revealMoves_eq_ok (Bank.fits_of_total htotal) hopen hstored hcovers hsurplus
  have hkeeps := firstTurn_keeps hsound.keeps
  have hpays := revealBid_pays hkeeps hid hopen hphase hstored hseal.symm hcovers hsurplus hall
  have hhandled : Handles (registrar.setting now) book registrar.firstTurn _ _ :=
    revealBid_ends hkeeps name salt amount bidder
  have hran : Ran registrar now _ (fun _ => False)
      (registrar.run now (revealBid name salt amount bidder)) :=
    run_ran hsound.room ((hhandled.and hpays).mono (fun _ _ hdone => hdone.1) fun _ hfailed => hfailed.2)
  rw [deliver, hcheck]
  show ∃ events next, registrar.run now (revealBid name salt amount bidder) = (.ok events, next)
  generalize registrar.run now (revealBid name salt amount bidder) = result at hran
  cases hran with
  | refused hmay => exact hmay.elim
  | done => exact ⟨_, _, rfl⟩
  | torn _ htorn => exact absurd htorn (not_torn_of_total htotal)

def ledByAlice : Auction :=
  ⟨⟨"label.terra"⟩, .reveal, moment 459200, some ⟨Demo.alice, luna 550000000⟩⟩

def sealedByBob : Bid :=
  ⟨Commitment.seal "rose" ⟨"label.terra"⟩ (luna 650000000) Demo.bob, luna 700000000, Demo.bob⟩

def revealOfBob : Command := .reveal ⟨"label.terra"⟩ "rose" (luna 650000000) Demo.bob

/-- Bob takes the lead, and Alice has her coins back. -/
theorem reveal_succeeds_rivalRun :
    ∃ next, (standard.afterAll rivalRun).deliver (moment 400000) revealOfBob =
        (.ok [.bidRevealed ⟨"label.terra"⟩ Demo.bob (luna 650000000) true], next) ∧
      next.bank.balance Demo.alice = .ofCoin (luna 600000000) ∧
      next.bank.balance Demo.bob = .ofCoin (luna 50000000) := by
  have hname : (⟨"label.terra"⟩ : Name).id = .ok (.ofText "label.terra") := by decide +kernel
  obtain ⟨hok, hauction, hbid, heffect⟩ : (standard.afterAll rivalRun).bank.total.isOk = true ∧
      (standard.afterAll rivalRun).store.auction? (.ofText "label.terra") = .ok (some ledByAlice) ∧
      (standard.afterAll rivalRun).store.bid? (.ofText "label.terra") Demo.bob =
        .ok (some sealedByBob) ∧
      ((standard.afterAll rivalRun).deliver (moment 400000) revealOfBob).1 =
        .ok [.bidRevealed ⟨"label.terra"⟩ Demo.bob (luna 650000000) true] ∧
      ((standard.afterAll rivalRun).deliver (moment 400000) revealOfBob).2.bank.balance Demo.alice =
        .ofCoin (luna 600000000) ∧
      ((standard.afterAll rivalRun).deliver (moment 400000) revealOfBob).2.bank.balance Demo.bob =
        .ofCoin (luna 50000000) := by
    decide +kernel
  obtain ⟨total, htotal⟩ := exists_ok_of_isOk hok
  obtain ⟨events, next, hrevealed⟩ : ∃ events next,
      (standard.afterAll rivalRun).deliver (moment 400000) revealOfBob = (.ok events, next) :=
    reveal_succeeds (reachable_standard.calledAll _) htotal (covered_standard _) (by decide +kernel) hname
      hauction rfl hbid rfl (by decide +kernel) (moment 400000)
  rw [hrevealed] at heffect
  obtain ⟨hevents, hbalances⟩ := heffect
  obtain rfl := Except.ok.inj hevents
  exact ⟨next, hrevealed, hbalances⟩

end Registrar

end NameAuction
