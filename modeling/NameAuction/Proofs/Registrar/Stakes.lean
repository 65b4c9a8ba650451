import NameAuction.Proofs.Registrar.Alone
import NameAuction.Proofs.Registrar.Backing

/-!
# Stakes

The stake of an account in an auction is what the escrow keeps of it there (`Book.stakeOn`).  Bids and
reveals keep balance and stake of every account together (`Handled.of_bid`, `Handled.of_reveal`),
and where only one name is auctioned the stakes in it are the whole liability
(`Book.liability_eq_sum_stakes`).
-/

namespace NameAuction

def Auction.stakeOf (auction : Auction) (account : Account) (denom : String) : Nat :=
  match auction.topBid with
  | none => 0
  | some top => if top.bidder = account then top.amount.held denom else 0

namespace Book

/-- What the escrow keeps of an account in an auction: the deposit of its bid, and the amount of the top bid
if it is the account's. -/
def stakeOn (book : Book) (id : NameId) (account : Account) (denom : String) : Nat :=
  (book (.bid id account)).elim 0 (fun bid => (Bid.deposit bid).held denom) +
    (book (.auction id)).elim 0 fun auction => Auction.stakeOf auction account denom

variable {book next : Book} {id : NameId}

theorem stakeOn_of_none (hhoused : book.Housed) (h : book (.auction id) = none) (account : Account)
    (denom : String) : book.stakeOn id account denom = 0 := by
  rw [stakeOn, h, hhoused id account h]
  rfl

theorem liability_of_none (hhoused : book.Housed) (hnone : ∀ id, book (.auction id) = none)
    (denom : String) : book.liability denom = 0 := by
  refine finsum_eq_zero_of_forall_eq_zero ?_
  intro slot
  by_contra hclaim
  rcases exists_of_claim_ne_zero hclaim with
    ⟨id, bidder, bid, rfl, hbid⟩ | ⟨id, auction, rfl, hauction⟩
  · rw [hhoused id bidder (hnone id)] at hbid
    cases hbid
  · rw [hnone id] at hauction
    cases hauction

theorem sum_stakeOf {auction : Auction} {accounts : Finset Account}
    (htop : ∀ top, auction.topBid = some top → top.bidder ∈ accounts) (denom : String) :
    ∑ account ∈ accounts, auction.stakeOf account denom = auction.stake denom := by
  cases hcase : auction.topBid with
  | none => simp [Auction.stakeOf, Auction.stake, hcase]
  | some top =>
    have hmem := htop top hcase
    simp [Auction.stakeOf, Auction.stake, hcase, hmem]

/-- **The liability is the sum of the stakes in the only auction.** -/
theorem liability_eq_sum_stakes (hhoused : book.Housed) (halone : book.Alone id) {auction : Auction}
    (hauction : book (.auction id) = some auction) {accounts : Finset Account}
    (hbids : ∀ bidder, book (.bid id bidder) ≠ none → bidder ∈ accounts)
    (htop : ∀ top, auction.topBid = some top → top.bidder ∈ accounts) (denom : String) :
    book.liability denom = ∑ account ∈ accounts, book.stakeOn id account denom := by
  have hsupport : Function.support (book.claim denom) ⊆
      (insert (.auction id) (accounts.image (Slot.bid id)) : Finset Slot) := by
    intro slot hslot
    rw [Finset.mem_coe, Finset.mem_insert, Finset.mem_image]
    rcases exists_of_claim_ne_zero hslot with
      ⟨other, bidder, bid, rfl, hbid⟩ | ⟨other, held, rfl, hheld⟩
    · have hother : other = id := by
        by_contra hne
        rw [hhoused other bidder (halone other hne)] at hbid
        cases hbid
      subst hother
      exact .inr ⟨bidder, hbids bidder (by rw [hbid]; exact nofun), rfl⟩
    · refine .inl (congrArg Slot.auction ?_)
      by_contra hne
      rw [halone other hne] at hheld
      cases hheld
  have hbid : ∀ account, book.claim denom (.bid id account) =
      (book (.bid id account)).elim 0 fun bid => (Bid.deposit bid).held denom := fun _ => rfl
  rw [liability, finsum_eq_sum_of_support_subset _ hsupport, Finset.sum_insert (by simp),
    Finset.sum_image fun a _ b _ heq => (Slot.bid.inj heq).2, claim_of_some hauction]
  simp only [stakeOn, hauction, Option.elim_some, Finset.sum_add_distrib, sum_stakeOf htop, hbid]
  exact Nat.add_comm _ _

end Book

namespace Registrar

open Book

variable {setting : Setting} {book : Book} {outcome : Outcome} {id : NameId} {name : Name}

/-- **A bid moves what it stakes.** -/
theorem Handled.of_bid {commitment : String} {deposit : Coin} {bidder : Account}
    (h : Handled setting book (.bid name commitment deposit bidder) outcome) (hid : name.id = .ok id) :
    book (.bid id bidder) = none ∧ ∃ hidden,
      outcome.book = book.set (.bid id bidder) (some ⟨hidden, deposit, bidder⟩) ∧
      ∀ account denom, outcome.book.stakeOn id account denom +
          Move.sum (Move.paidTo account denom) outcome.moves =
        book.stakeOn id account denom + Move.sum (Move.paidBy account denom) outcome.moves := by
  cases h with
  | @bidPlaced _ _ _ _ id' auction hidden hid' _ _ hfirst =>
    obtain rfl : id' = id := Except.ok.inj (hid'.symm.trans hid)
    refine ⟨hfirst, hidden, rfl, ?_⟩
    intro account denom
    simp only [Move.sum_cons, Move.sum_nil, Move.paidTo, Move.paidBy, Bundle.held_ofCoin]
    by_cases heq : bidder = account
    · subst heq
      simp [stakeOn, hfirst, Nat.add_comm]
    · simp [stakeOn, heq, Ne.symm heq]

theorem paidTo_backToTop (auction : Auction) (account : Account) (denom : String) :
    Move.sum (Move.paidTo account denom) (backToTop auction) = auction.stakeOf account denom := by
  rw [backToTop, Auction.stakeOf]
  cases auction.topBid with
  | none => rfl
  | some top => simp [Move.paidTo]

theorem paidBy_backToTop (auction : Auction) (account : Account) (denom : String) :
    Move.sum (Move.paidBy account denom) (backToTop auction) = 0 := by
  rw [backToTop]
  cases auction.topBid <;> rfl

/-- **A reveal pays out what it does not stake any more.** -/
theorem Handled.of_reveal {salt : String} {amount : Coin} {bidder : Account}
    (h : Handled setting book (.reveal name salt amount bidder) outcome) (hid : name.id = .ok id) :
    ∃ auction bid, book (.auction id) = some auction ∧ book (.bid id bidder) = some bid ∧
      outcome.book = (book.set (.bid id bidder) none).set (.auction id)
        (some (afterReveal auction amount bidder)) ∧
      ∀ account denom, outcome.book.stakeOn id account denom +
          Move.sum (Move.paidTo account denom) outcome.moves =
        book.stakeOn id account denom + Move.sum (Move.paidBy account denom) outcome.moves := by
  cases h with
  | @revealedTop _ _ _ _ id' auction bid surplus hid' hauction _ hbid _ hcovers hleads hsurplus =>
    obtain rfl : id' = id := Except.ok.inj (hid'.symm.trans hid)
    have hafter : afterReveal auction amount bidder = { auction with topBid := some ⟨bidder, amount⟩ } := by
      rw [afterReveal, if_pos hleads]
    refine ⟨auction, bid, hauction, hbid, by rw [hafter], ?_⟩
    intro account denom
    have hheld := held_surplus hcovers hsurplus denom
    simp only [Move.sum_append, paidTo_backToTop, paidBy_backToTop, Move.sum_cons, Move.sum_nil,
      Move.paidTo, Move.paidBy, Bundle.held_ofCoin]
    by_cases heq : bidder = account
    · subst heq
      simp [stakeOn, hauction, hbid, Auction.stakeOf]
      omega
    · simp [stakeOn, hauction, heq, Ne.symm heq, Auction.stakeOf]
  | @revealedBelow _ _ _ _ id' auction bid hid' hauction _ hbid _ _ hleads =>
    obtain rfl : id' = id := Except.ok.inj (hid'.symm.trans hid)
    have hafter : afterReveal auction amount bidder = auction := by
      rw [afterReveal, hleads]
      rfl
    refine ⟨auction, bid, hauction, hbid, by rw [hafter], ?_⟩
    intro account denom
    simp only [Move.sum_cons, Move.sum_nil, Move.paidTo, Move.paidBy, Bundle.held_ofCoin]
    by_cases heq : bidder = account
    · subst heq
      simp [stakeOn, hauction, hbid]
      omega
    · simp [stakeOn, hauction, heq, Ne.symm heq]

end Registrar

end NameAuction
