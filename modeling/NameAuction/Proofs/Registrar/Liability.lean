import Mathlib.Algebra.BigOperators.Finprod
import NameAuction.Proofs.Registrar.Auctions

/-!
# Liabilities

The deposits of bids and the amounts of top bids are what the escrow is liable for (`Book.liability`).  An
outcome balances (`Outcome.Balances`) if its moves bring into the escrow what the liability grows by, and
take out of it what the liability shrinks by.  Commands balance (`Handled.balances`), and so do handled
entries and whole sweeps (`Settled.balances`, `Swept.balances`).
-/

namespace NameAuction

/-- What an auction keeps in the escrow: the amount of its top bid. -/
def Auction.stake (auction : Auction) (denom : String) : Nat :=
  match auction.topBid with
  | none => 0
  | some top => top.amount.held denom

def Slot.claim (denom : String) : (slot : Slot) → slot.Value → Nat
  | .auction _, record => Auction.stake record denom
  | .bid _ _, record => (Bid.deposit record).held denom
  | _, _ => 0

namespace Book

open Registrar

def claim (book : Book) (denom : String) (slot : Slot) : Nat := (book slot).elim 0 (slot.claim denom)

/-- What the bids and auctions of a book keep in the escrow. -/
noncomputable def liability (book : Book) (denom : String) : Nat := ∑ᶠ slot, book.claim denom slot

def Finitary (book : Book) : Prop := {slot | book slot ≠ none}.Finite

variable {book : Book} {denom : String}

theorem claim_of_some {slot : Slot} {value : slot.Value} (h : book slot = some value) (denom : String) :
    book.claim denom slot = slot.claim denom value := by
  rw [claim, h]
  rfl

theorem claim_of_none {slot : Slot} (h : book slot = none) (denom : String) :
    book.claim denom slot = 0 := by
  rw [claim, h]
  rfl

theorem exists_of_claim_ne_zero {slot : Slot} (h : book.claim denom slot ≠ 0) :
    (∃ id bidder bid, slot = .bid id bidder ∧ book (.bid id bidder) = some bid) ∨
      ∃ id auction, slot = .auction id ∧ book (.auction id) = some auction := by
  have hsome : book slot ≠ none := fun hnone => h (claim_of_none hnone denom)
  obtain ⟨value, hvalue⟩ := Option.ne_none_iff_exists'.mp hsome
  cases slot with
  | bid id bidder => exact .inl ⟨id, bidder, value, rfl, hvalue⟩
  | auction id => exact .inr ⟨id, value, rfl, hvalue⟩
  | registration => exact absurd (claim_of_some hvalue denom) h
  | resolution => exact absurd (claim_of_some hvalue denom) h
  | reverse => exact absurd (claim_of_some hvalue denom) h
  | queued => exact absurd (claim_of_some hvalue denom) h

theorem claim_set (book : Book) (slot : Slot) (value : Option slot.Value) (denom : String) :
    (book.set slot value).claim denom =
      Function.update (book.claim denom) slot (value.elim 0 (slot.claim denom)) := by
  funext other
  by_cases h : other = slot
  · subst h
    rw [claim, set_self, Function.update_self]
  · rw [claim, set_of_ne _ _ h, Function.update_of_ne h]
    rfl

theorem Finitary.set (h : book.Finitary) (slot : Slot) (value : Option slot.Value) :
    (book.set slot value).Finitary := by
  refine (Set.Finite.insert slot h).subset ?_
  intro other hother
  by_cases heq : other = slot
  · exact Set.mem_insert_iff.mpr (.inl heq)
  · refine Set.mem_insert_of_mem _ ?_
    rw [Set.mem_ofPred_eq, set_of_ne _ _ heq] at hother
    exact hother

theorem Finitary.clear (h : book.Finitary) (slots : List Slot) : (book.clear slots).Finitary := by
  refine Set.Finite.subset h fun slot hslot hnone => hslot ?_
  rw [Book.clear, hnone, ite_self]

theorem Finitary.liability_eq (h : book.Finitary) (slot : Slot) (denom : String) :
    book.liability denom = ∑ other ∈ insert slot h.toFinset, book.claim denom other := by
  refine finsum_eq_sum_of_support_subset _ ?_
  intro other hother
  have hsome : book other ≠ none := fun hnone => hother (claim_of_none hnone denom)
  exact Finset.mem_insert_of_mem ((Set.Finite.mem_toFinset h).mpr hsome)

/-- **What another content of one slot does to the liability.** -/
theorem liability_set (h : book.Finitary) (slot : Slot) (value : Option slot.Value) (denom : String) :
    (book.set slot value).liability denom + book.claim denom slot =
      book.liability denom + value.elim 0 (slot.claim denom) := by
  have hset : (book.set slot value).liability denom =
      ∑ other ∈ insert slot h.toFinset, (book.set slot value).claim denom other := by
    refine finsum_eq_sum_of_support_subset _ ?_
    intro other hother
    by_cases heq : other = slot
    · simp [heq]
    · rw [Function.mem_support, claim_set, Function.update_of_ne heq] at hother
      have hsome : book other ≠ none := fun hnone => hother (claim_of_none hnone denom)
      exact Finset.mem_insert_of_mem ((Set.Finite.mem_toFinset h).mpr hsome)
  have hmem : slot ∈ insert slot h.toFinset := Finset.mem_insert_self ..
  have hsum := Finset.add_sum_erase (insert slot h.toFinset) (book.claim denom) hmem
  rw [hset, h.liability_eq slot denom, claim_set, Finset.sum_update_of_mem hmem,
    Finset.sdiff_singleton_eq_erase]
  omega

/-- A slot that keeps nothing in the escrow does not matter. -/
theorem liability_set_idle (h : book.Finitary) (slot : Slot) (value : Option slot.Value)
    {denom : String} (hidle : ∀ v, slot.claim denom v = 0) :
    (book.set slot value).liability denom = book.liability denom := by
  have hset := liability_set h slot value denom
  have hbefore : book.claim denom slot = 0 := by
    cases hslot : book slot with
    | none => exact claim_of_none hslot denom
    | some held => rw [claim_of_some hslot, hidle]
  have hafter : value.elim 0 (slot.claim denom) = 0 := by
    cases value with
    | none => rfl
    | some held => exact hidle held
  omega

/-- **What clearing slots does to the liability.** -/
theorem liability_clear {slots : List Slot} (h : book.Finitary) (hnodup : slots.Nodup) (denom : String) :
    (book.clear slots).liability denom + (slots.map (book.claim denom)).sum = book.liability denom := by
  induction slots generalizing book with
  | nil => rw [clear_nil, List.map_nil, List.sum_nil, Nat.add_zero]
  | cons slot rest ih =>
    obtain ⟨hslot, hrest⟩ := List.nodup_cons.mp hnodup
    have hcleared := ih (h.set slot none) hrest
    have hset := liability_set h slot none denom
    have hsame : rest.map ((book.set slot none).claim denom) = rest.map (book.claim denom) := by
      refine List.map_congr_left ?_
      intro other hother
      have hne : other ≠ slot := fun heq => hslot (heq ▸ hother)
      rw [claim_set, Function.update_of_ne hne]
    rw [hsame] at hcleared
    rw [clear_cons, List.map_cons, List.sum_cons]
    simp only [Option.elim_none] at hset
    omega

theorem liability_clear_idle {slots : List Slot} (h : book.Finitary) {denom : String}
    (hidle : ∀ slot ∈ slots, ∀ v, slot.claim denom v = 0) :
    (book.clear slots).liability denom = book.liability denom := by
  induction slots generalizing book with
  | nil => rw [clear_nil]
  | cons slot rest ih =>
    rw [clear_cons, ih (h.set slot none) fun other hother => hidle other (List.mem_cons_of_mem _ hother)]
    exact liability_set_idle h slot none (hidle slot (List.mem_cons_self ..))

end Book

/-! ### Outcomes that balance -/

/-- The escrow gets what the liability grows by and gives what it shrinks by. -/
def Outcome.Balances (outcome : Outcome) (book : Book) : Prop :=
  ∀ denom, outcome.book.liability denom + Move.sum (Move.released denom) outcome.moves +
      Move.sum (Move.burnt denom) outcome.moves =
    book.liability denom + Move.sum (Move.collected denom) outcome.moves

namespace Outcome.Balances

variable {book : Book}

theorem andThen {first second : Outcome} (h : first.Balances book)
    (h' : second.Balances first.book) : (first.andThen second).Balances book := by
  intro denom
  have hfirst := h denom
  have hsecond := h' denom
  simp only [Outcome.andThen, Move.sum_append]
  omega

theorem of_liability_eq {events : List Event} {next : Book}
    (h : ∀ denom, next.liability denom = book.liability denom) :
    Outcome.Balances ⟨next, [], events⟩ book := fun denom => by
  simp only [Move.sum_nil, h denom]

end Outcome.Balances

namespace Registrar

open Book

variable {setting : Setting} {book : Book} {outcome : Outcome} {denom : String}

theorem held_surplus {deposit amount : Coin} {surplus : Amount} (hcovers : deposit.Covers amount)
    (h : deposit.amount.sub? amount.amount = some surplus) (denom : String) :
    deposit.held denom = amount.held denom + (Coin.mk amount.denom surplus).held denom := by
  have hsub := Word.sub?_eq_some h
  simp only [Coin.held, hcovers.1]
  split
  · omega
  · rfl

theorem stake_eq_released (auction : Auction) (denom : String) :
    Move.sum (Move.released denom) (backToTop auction) = auction.stake denom := by
  rw [backToTop, Auction.stake]
  cases auction.topBid with
  | none => rfl
  | some top => simp [Move.released]

theorem burnt_backToTop (auction : Auction) (denom : String) :
    Move.sum (Move.burnt denom) (backToTop auction) = 0 := by
  rw [backToTop]
  cases auction.topBid <;> rfl

theorem collected_backToTop (auction : Auction) (denom : String) :
    Move.sum (Move.collected denom) (backToTop auction) = 0 := by
  rw [backToTop]
  cases auction.topBid <;> rfl

/-- A bid that is revealed is no liability any more, and its auction may be another one. -/
theorem liability_reveal (hfin : book.Finitary) {id : NameId} {bidder : Account} {auction : Auction}
    {bid : Bid} (hauction : book (.auction id) = some auction) (hbid : book (.bid id bidder) = some bid)
    (next : Auction) (denom : String) :
    ((book.set (.bid id bidder) none).set (.auction id) (some next)).liability denom +
        auction.stake denom + bid.deposit.held denom = book.liability denom + next.stake denom := by
  have hdelete := liability_set hfin (.bid id bidder) none denom
  rw [claim_of_some hbid] at hdelete
  have hset := liability_set (hfin.set (.bid id bidder) none) (.auction id) (some next) denom
  have hleft : book.set (.bid id bidder) none (.auction id) = some auction := by simpa using hauction
  rw [claim_of_some hleft] at hset
  simp only [Option.elim_none, Option.elim_some, Slot.claim] at hdelete hset
  omega

/-- **Every command balances.** -/
theorem Handled.balances {command : Command} (hfin : book.Finitary)
    (h : Handled setting book command outcome) : outcome.Balances book := by
  cases h with
  | @opened name organizer parts id endTime _ _ _ _ _ hnew =>
    refine .of_liability_eq ?_
    intro denom
    have hset := liability_set hfin (.auction id) (some (.opened name endTime)) denom
    rw [claim_of_none hnew] at hset
    rw [liability_set_idle (hfin.set _ _) _ _ fun _ => rfl]
    exact hset
  | @bidPlaced name commitment deposit bidder id auction hidden _ _ _ hfirst =>
    intro denom
    have hset := liability_set hfin (.bid id bidder) (some ⟨hidden, deposit, bidder⟩) denom
    rw [claim_of_none hfirst] at hset
    simp only [Option.elim_some, Slot.claim] at hset
    simp only [Move.sum_cons, Move.sum_nil, Move.released, Move.burnt, Move.collected,
      Bundle.held_ofCoin]
    omega
  | @revealedTop name salt amount bidder id auction bid surplus _ hauction _ hbid _ hcovers _ hsurplus =>
    intro denom
    have hreveal := liability_reveal hfin hauction hbid
      { auction with topBid := some ⟨bidder, amount⟩ } denom
    have hheld := held_surplus hcovers hsurplus denom
    simp only [Auction.stake] at hreveal
    simp only [Move.sum_append, stake_eq_released, burnt_backToTop, collected_backToTop,
      Move.sum_cons, Move.sum_nil, Move.released, Move.burnt, Move.collected, Bundle.held_ofCoin,
      Auction.stake]
    omega
  | @revealedBelow name salt amount bidder id auction bid _ hauction _ hbid =>
    intro denom
    have hreveal := liability_reveal hfin hauction hbid auction denom
    simp only [Move.sum_cons, Move.sum_nil, Move.released, Move.burnt, Move.collected,
      Bundle.held_ofCoin]
    omega
  | @renewed name fee owner parts id registration extension endTime =>
    intro denom
    have hfin' := (hfin.set (.queued .registration ⟨registration.endTime, id⟩) none)
    have hfin'' := hfin'.set (.registration id) (some { registration with endTime := endTime })
    rw [liability_set_idle hfin'' _ _ fun _ => rfl, liability_set_idle hfin' _ _ fun _ => rfl,
      liability_set_idle hfin _ _ fun _ => rfl]
    simp only [Move.sum_cons, Move.sum_nil, Move.released, Move.burnt, Move.collected]
    omega
  | ownerChanged =>
    exact .of_liability_eq fun denom => liability_set_idle hfin _ _ fun _ => rfl
  | subNameSet =>
    refine .of_liability_eq ?_
    intro denom
    rw [liability_set_idle (hfin.set _ _) _ _ fun _ => rfl, liability_set_idle hfin _ _ fun _ => rfl]
  | subNameCleared =>
    refine .of_liability_eq ?_
    intro denom
    rw [liability_set_idle (hfin.set _ _) _ _ fun _ => rfl, liability_set_idle hfin _ _ fun _ => rfl]

/-! ### Sweeps -/

theorem nodup_bidSlots {id : NameId} {bids : List Bid} (h : book.BidsOn id bids) :
    (bidSlots id bids).Nodup := h.nodup_slots

theorem claims_bidSlots {id : NameId} {bids : List Bid}
    (h : ∀ bid ∈ bids, book (.bid id bid.bidder) = some bid) (denom : String) :
    (bidSlots id bids).map (book.claim denom) = bids.map fun bid => bid.deposit.held denom := by
  rw [bidSlots, List.map_map]
  refine List.map_congr_left ?_
  intro bid hbid
  exact claim_of_some (h bid hbid) denom

theorem liability_clear_bidSlots {next : Book} (hfin : next.Finitary) {id : NameId} {bids : List Bid}
    (hbids : book.BidsOn id bids) (hsame : ∀ bidder, next (.bid id bidder) = book (.bid id bidder))
    (denom : String) :
    (next.clear (bidSlots id bids)).liability denom + Move.sum (Move.burnt denom) (slashMoves bids) =
      next.liability denom := by
  have hclear := liability_clear hfin (nodup_bidSlots hbids) denom
  have hheld : ∀ bid ∈ bids, next (.bid id bid.bidder) = some bid := fun bid hbid =>
    (hsame bid.bidder).trans ((hbids.mem_iff bid).mp hbid)
  rw [claims_bidSlots hheld] at hclear
  have hburnt : Move.sum (Move.burnt denom) (slashMoves bids) =
      (bids.map fun bid => bid.deposit.held denom).sum := by
    simp [Move.sum, slashMoves, Move.burnt, Function.comp_def]
  omega

theorem released_slashMoves (bids : List Bid) (denom : String) :
    Move.sum (Move.released denom) (slashMoves bids) = 0 := by
  simp [Move.sum, slashMoves, Move.released, Function.comp_def]

theorem collected_slashMoves (bids : List Bid) (denom : String) :
    Move.sum (Move.collected denom) (slashMoves bids) = 0 := by
  simp [Move.sum, slashMoves, Move.collected, Function.comp_def]

/-- **Handling a due entry balances.**  An auction that is forgotten without a bid has no top bid either. -/
theorem Settled.balances {kind : QueueKind} {due : Due} (hfin : book.Finitary) (hsealed : book.Sealed)
    (h : Settled setting book kind due outcome) : outcome.Balances book := by
  cases h with
  | @revealStarted _ auction endTime hauction =>
    refine .of_liability_eq ?_
    intro denom
    have hset := liability_set hfin (.auction due.id)
      (some { auction with phase := .reveal, endTime := endTime }) denom
    rw [claim_of_some hauction] at hset
    rw [liability_set_idle (hfin.set _ _) _ _ fun _ => rfl]
    exact Nat.add_right_cancel hset
  | @closedEmpty _ auction hauction hphase =>
    refine .of_liability_eq ?_
    intro denom
    have hset := liability_set hfin (.auction due.id) none denom
    have hstake : auction.stake denom = 0 := by
      rw [Auction.stake, hsealed due.id auction hauction hphase]
    rw [claim_of_some hauction] at hset
    simp only [Slot.claim, hstake] at hset
    exact hset
  | @awarded _ auction top endTime bids hauction _ _ htop _ hbids =>
    intro denom
    have hset := liability_set hfin (.auction due.id) none denom
    rw [claim_of_some hauction] at hset
    have hfin' := hfin.set (.auction due.id) none
    have hfin'' := hfin'.set (.registration due.id) (some ⟨auction.name, top.bidder, endTime⟩)
    have hclear := liability_clear_bidSlots
      (hfin''.set (.queued .registration ⟨endTime, due.id⟩) (some ())) hbids (by simp) denom
    rw [liability_set_idle hfin'' _ _ fun _ => rfl, liability_set_idle hfin' _ _ fun _ => rfl]
      at hclear
    simp only [Slot.claim, Auction.stake, htop, Option.elim_none] at hset
    simp only [Move.sum_cons, released_slashMoves, collected_slashMoves, Move.released, Move.burnt,
      Move.collected, Bundle.held_ofCoin]
    omega
  | @closedUnsold _ auction bids hauction _ _ htop hbids =>
    intro denom
    have hset := liability_set hfin (.auction due.id) none denom
    rw [claim_of_some hauction] at hset
    have hclear := liability_clear_bidSlots (hfin.set (.auction due.id) none) hbids (by simp) denom
    simp only [Slot.claim, Auction.stake, htop, Option.elim_none] at hset
    simp only [released_slashMoves, collected_slashMoves]
    omega
  | @expired _ registration resolutions =>
    refine .of_liability_eq ?_
    intro denom
    rw [liability_clear_idle (hfin.set _ _) ?_, liability_set_idle hfin _ _ fun _ => rfl]
    intro slot hslot value
    obtain ⟨x, -, hx⟩ := List.mem_flatMap.mp hslot
    rcases List.mem_pair.mp hx with rfl | rfl
    · rfl
    · rfl

theorem Settled.finitary {kind : QueueKind} {due : Due} (hfin : book.Finitary)
    (h : Settled setting book kind due outcome) : outcome.book.Finitary := by
  cases h with
  | revealStarted => exact (hfin.set _ _).set _ _
  | closedEmpty => exact hfin.set _ _
  | awarded => exact (((hfin.set _ _).set _ _).set _ _).clear _
  | closedUnsold => exact (hfin.set _ _).clear _
  | expired => exact (hfin.set _ _).clear _

theorem Settled.balances_taken {kind : QueueKind} {due : Due} (hfin : book.Finitary) (hsane : book.Sane)
    (h : Settled setting (book.set (.queued kind due) none) kind due outcome) : outcome.Balances book := by
  intro denom
  have hsealed : (book.set (.queued kind due) none).Sealed := hsane.unopened.of_same fun id => by simp
  have hbalances := h.balances (hfin.set (.queued kind due) none) hsealed denom
  rwa [liability_set_idle hfin _ _ fun _ => rfl] at hbalances

/-- **Every sweep balances.** -/
theorem Swept.balances (h : Swept setting book outcome) (hfin : book.Finitary) (hsane : book.Sane) :
    outcome.Balances book := by
  have hcarried : Carried setting (fun book => book.Finitary ∧ book.Sane)
      fun book outcome => outcome.Balances book :=
    { start := fun _ => .of_liability_eq fun _ => rfl
      andThen := fun hfirst hsecond => hfirst.andThen hsecond
      settled := fun ⟨hfin, hsane⟩ hqueued _ hsettled =>
        ⟨hsettled.balances_taken hfin hsane, hsettled.finitary (hfin.set _ _),
          hsane.settled hqueued hsettled⟩ }
  exact (h.related hcarried ⟨hfin, hsane⟩).1

end Registrar

end NameAuction
