import NameAuction.Proofs.Registrar.History
import NameAuction.Proofs.Registrar.Reveal

/-!
# Denominations

A reveal compares bare amounts, so the coins that an auction compares should be of one denomination.  What
fixes the denomination of a bid is the minimum deposit that was in force when it was placed: the deposit must
cover it, and so must the revealed amount the deposit (`Priced`).  The coins at stake in an auction are of one
denomination if and only if the bids behind them were placed under minimum deposits of one denomination
(`oneDenom_iff`).  Parameters can change while bids are placed, and then they need not be
(`mixedRun_not_oneDenom`).
-/

namespace NameAuction.Registrar

open Book

/-- The denomination of the minimum deposit under which an account last placed a bid on a name. -/
def bidDenom? (history : List Delivery) (id : NameId) (bidder : Account) : Option String :=
  (history.filter fun made => made.bids id bidder).getLast?.map fun made => made.params.minDeposit.denom

/-- A coin that an auction compares, and whose it is: the deposit of a bid or the amount of the top bid. -/
inductive AtStake (registrar : Registrar) (id : NameId) : Account → Coin → Prop
  | deposit {bidder : Account} {bid : Bid} (hbid : registrar.store.bid? id bidder = .ok (some bid)) :
      AtStake registrar id bidder bid.deposit
  | top {auction : Auction} {top : TopBid} (hauction : registrar.store.auction? id = .ok (some auction))
      (htop : auction.topBid = some top) : AtStake registrar id top.bidder top.amount

/-- All coins at stake in the auction of a name are of one denomination. -/
def OneDenom (registrar : Registrar) (id : NameId) : Prop :=
  ∃ denom, ∀ account coin, registrar.AtStake id account coin → coin.denom = denom

variable {registrar : Registrar} {book next : Book} {id : NameId} {history : List Delivery}
  {delivery : Option Delivery}

theorem bidDenom?_eq_of_not {account : Account}
    (h : ∀ made, delivery = some made → made.bids id account = false) :
    bidDenom? (history ++ delivery.toList) id account = bidDenom? history id account := by
  have hnone : delivery.toList.filter (fun made => made.bids id account) = [] :=
    List.filter_eq_nil_iff.mpr fun made hmade => by simp [h made (Option.mem_toList.mp hmade)]
  rw [bidDenom?, List.filter_append, hnone, List.append_nil, bidDenom?]

theorem bidDenom?_eq_of_bids {made : Delivery} {account : Account} (h : made.bids id account = true) :
    bidDenom? (history ++ [made]) id account = some made.params.minDeposit.denom := by
  simp [bidDenom?, List.filter_append, h]

/-! ### What fixes the denomination -/

structure Priced (id : NameId) (history : List Delivery) (book : Book) : Prop where
  deposit : ∀ (bidder : Account) (bid : Bid), book (.bid id bidder) = some bid →
    bidDenom? history id bidder = some bid.deposit.denom
  top : ∀ (auction : Auction) (top : TopBid), book (.auction id) = some auction → auction.topBid = some top →
    bidDenom? history id top.bidder = some top.amount.denom

theorem Priced.of_stays (h : Priced id history book)
    (hnot : ∀ made, delivery = some made → ∀ account, made.bids id account = false)
    (hbids : ∀ (bidder : Account) (bid : Bid), next (.bid id bidder) = some bid →
      book (.bid id bidder) = some bid)
    (htop : ∀ (auction : Auction) (top : TopBid), next (.auction id) = some auction →
      auction.topBid = some top → bidDenom? history id top.bidder = some top.amount.denom) :
    Priced id (history ++ delivery.toList) next where
  deposit bidder bid hbid := by
    rw [bidDenom?_eq_of_not fun made hmade => hnot made hmade bidder]
    exact h.deposit bidder bid (hbids bidder bid hbid)
  top auction top hauction hsome := by
    rw [bidDenom?_eq_of_not fun made hmade => hnot made hmade top.bidder]
    exact htop auction top hauction hsome

/-- **However an auction goes on, its coins stay of the denominations in which the bids were placed.** -/
theorem Proceeds.priced (h : Proceeds book id next delivery) (hsane : book.Sane)
    (hpriced : Priced id history book) : Priced id (history ++ delivery.toList) next := by
  cases h with
  | untouched helsewhere hauction hbids =>
    refine hpriced.of_stays (fun made hmade => (helsewhere made hmade).bids)
      (fun bidder bid hbid => hbids bidder ▸ hbid) ?_
    rw [hauction]
    exact hpriced.top
  | opened _ hauction hbids =>
    refine hpriced.of_stays (fun made hmade account => by cases hmade; rfl)
      (fun bidder bid hbid => hbids bidder ▸ hbid) fun auction top hsome htop => ?_
    obtain rfl := Option.some.inj (hauction.symm.trans hsome)
    cases htop
  | @bidPlaced params now name commitment deposit bidder auction bid hid hauction hphase hcovers hdeposit
      hsame hbid hothers =>
    refine ⟨fun account held hheld => ?_, fun later top hlater htop => ?_⟩
    · by_cases heq : account = bidder
      · subst heq
        obtain rfl := Option.some.inj (hbid.symm.trans hheld)
        rw [Option.toList_some, bidDenom?_eq_of_bids (by simp [Delivery.bids, hid]), hdeposit, hcovers.1]
      · rw [bidDenom?_eq_of_not fun made hmade => by cases hmade; simp [Delivery.bids, Ne.symm heq]]
        exact hpriced.deposit account held ((hothers account heq).symm.trans hheld)
    -- before bids are revealed there is no top bid
    · obtain rfl := Option.some.inj (hsame.symm.trans hlater)
      rw [hsane.unopened id _ hauction hphase] at htop
      cases htop
  | @revealed params now name salt amount bidder auction bid hid hauction hbid hcovers hnext hgone hothers =>
    refine hpriced.of_stays (fun made hmade account => by cases hmade; rfl) (fun account held hheld => ?_)
      fun later top hlater htop => ?_
    · by_cases heq : account = bidder
      · subst heq
        rw [hgone] at hheld
        cases hheld
      · exact (hothers account heq).symm.trans hheld
    · obtain rfl := Option.some.inj (hnext.symm.trans hlater)
      rw [afterReveal] at htop
      split at htop
      · obtain rfl := Option.some.inj htop
        rw [hpriced.deposit bidder bid hbid, hcovers.1]
      · exact hpriced.top auction top hauction htop
  | revealStarted hauction hnext hbids =>
    refine hpriced.of_stays (fun made hmade => by cases hmade) (fun bidder bid hbid => hbids bidder ▸ hbid)
      fun later top hlater htop => ?_
    obtain rfl := Option.some.inj (hnext.symm.trans hlater)
    exact hpriced.top _ top hauction htop
  | ended hnone hgone =>
    refine hpriced.of_stays (fun made hmade => by cases hmade) (fun bidder bid hbid => ?_)
      fun later top hlater _ => ?_
    · rw [hgone] at hbid
      cases hbid
    · rw [hnone] at hlater
      cases hlater

/-! ### Runs -/

/-- **A coin at stake is of the denomination in which its bid was placed.** -/
theorem Sound.bidDenom?_eq {calls : List Call} (h : registrar.Sound book) (hpriced : Priced id [] book)
    {account : Account} {coin : Coin} (hcoin : (registrar.afterAll calls).AtStake id account coin) :
    bidDenom? (registrar.deliveries calls) id account = some coin.denom := by
  obtain ⟨last, hlast, hkept⟩ :=
    h.afterAll_of_proceeds (fun hsane hinv hproceeds => hproceeds.priced hsane hinv) hpriced calls
  rw [List.nil_append] at hkept
  cases hcoin with
  | deposit hbid => exact hkept.deposit _ _ (hlast.keeps.bid_eq hbid)
  | top hauction htop => exact hkept.top _ _ (hlast.keeps.auction_eq hauction) htop

theorem Ran.params_eq {now : Time} {can : Outcome → Prop} {may : Fault → Prop}
    {result : Except Fault (List Event) × Registrar} (h : Ran registrar now can may result) :
    result.2.params = registrar.params := by
  cases h with
  | refused => rfl
  | done _ happlied => exact happlied.params
  | torn _ htorn => exact htorn.params

/-- Only good parameters that are set change the parameters. -/
theorem Sound.params_after (h : registrar.Sound book) (call : Call) :
    (registrar.after call).params = registrar.params ∨ ∃ changed, call = .setParams changed ∧
      changed.check = .ok () ∧ (registrar.after call).params = changed := by
  cases call with
  | deliver now command => exact .inl (h.deliver_ran now command).params_eq
  | endBlock now => exact .inl (h.endBlock_ran now).params_eq
  | setParams changed =>
    rw [after]
    cases hset : registrar.setParams changed with
    | error => exact .inl rfl
    | ok =>
      obtain ⟨hcheck, rfl⟩ := setParams_eq_ok hset
      exact .inr ⟨changed, rfl, hcheck, rfl⟩
  | setRates => exact .inl rfl
  | mint account amount =>
    rw [after]
    cases registrar.bank.mint account amount with
    | error => exact .inl rfl
    | ok => exact .inl rfl
  | drain => exact .inl rfl

/-- Commands are carried out under minimum deposits of one denomination if no others are set. -/
theorem Sound.denom_of_mem_deliveries {denom : String} {calls : List Call} (h : registrar.Sound book)
    (hstart : registrar.params.minDeposit.denom = denom)
    (hcalls : ∀ changed, .setParams changed ∈ calls → changed.check = .ok () →
      changed.minDeposit.denom = denom)
    {made : Delivery} (hmade : made ∈ registrar.deliveries calls) : made.params.minDeposit.denom = denom := by
  induction calls generalizing registrar book with
  | nil => cases hmade
  | cons call rest ih =>
    obtain ⟨next, hnext, -⟩ := h.moved call
    rcases List.mem_append.mp hmade with hfirst | hrest
    · cases call with
      | deliver now command =>
        rw [delivery?] at hfirst
        split at hfirst
        · obtain rfl := List.mem_singleton.mp hfirst
          exact hstart
        · cases hfirst
      | endBlock => cases hfirst
      | setParams => cases hfirst
      | setRates => cases hfirst
      | mint => cases hfirst
      | drain => cases hfirst
    · refine ih hnext ?_ (fun changed hmem => hcalls changed (List.mem_cons_of_mem _ hmem)) hrest
      rcases h.params_after call with hsame | ⟨changed, rfl, hcheck, hchanged⟩
      · rw [hsame, hstart]
      · rw [hchanged]
        exact hcalls changed (List.mem_cons_self ..) hcheck

theorem denom_of_bidDenom? {denom : String} {account : Account}
    (h : bidDenom? history id account = some denom) :
    ∃ made ∈ history, made.params.minDeposit.denom = denom := by
  obtain ⟨made, hlast, rfl⟩ := Option.map_eq_some_iff.mp h
  exact ⟨made, List.mem_of_mem_filter (List.mem_of_getLast? hlast), rfl⟩

/-- **When the coins at stake in an auction are of one denomination.**  A coin at stake is of the denomination
of the minimum deposit under which its bid was placed, so all of them are of one denomination if and only if
these minimum deposits are, and in particular if no parameters have been set in which it is another one. -/
theorem oneDenom_iff {bank : Bank} {rates : Rates} {params : Params}
    (h : start (.ofEntries ∅) bank rates params = .ok registrar) (calls : List Call) (id : NameId) :
    (∀ account coin, (registrar.afterAll calls).AtStake id account coin →
      bidDenom? (registrar.deliveries calls) id account = some coin.denom) ∧
    ((registrar.afterAll calls).OneDenom id ↔
      ∃ denom, ∀ account coin, (registrar.afterAll calls).AtStake id account coin →
        bidDenom? (registrar.deliveries calls) id account = some denom) ∧
    ((∀ changed, .setParams changed ∈ calls → changed.check = .ok () →
        changed.minDeposit.denom = params.minDeposit.denom) → (registrar.afterAll calls).OneDenom id) := by
  have hsound : registrar.Sound .blank := .of_start h .blank .blank
  have hblank : Priced id [] .blank := ⟨nofun, nofun⟩
  have hlaw : ∀ account coin, (registrar.afterAll calls).AtStake id account coin →
      bidDenom? (registrar.deliveries calls) id account = some coin.denom := fun account coin hcoin =>
    hsound.bidDenom?_eq hblank hcoin
  refine ⟨hlaw, ⟨?_, ?_⟩, fun hcalls => ⟨params.minDeposit.denom, fun account coin hcoin => ?_⟩⟩
  · rintro ⟨denom, hdenom⟩
    exact ⟨denom, fun account coin hcoin => (hlaw account coin hcoin).trans (hdenom account coin hcoin ▸ rfl)⟩
  · rintro ⟨denom, hdenom⟩
    exact ⟨denom, fun account coin hcoin =>
      Option.some.inj ((hlaw account coin hcoin).symm.trans (hdenom account coin hcoin))⟩
  · obtain ⟨made, hmade, hdenom⟩ := denom_of_bidDenom? (hlaw account coin hcoin)
    have hparams : registrar.params = params := by
      obtain ⟨-, rfl⟩ := start_eq_ok.mp h
      rfl
    rw [← hdenom]
    exact hsound.denom_of_mem_deliveries (congrArg (·.minDeposit.denom) hparams) hcalls hmade

/-- The rivals bid under parameters of one denomination, so their coins can be compared. -/
theorem oneDenom_iff_rivalRun :
    (standard.afterAll rivalRun).AtStake (.ofText "label.terra") Demo.alice (luna 550000000) ∧
      (standard.afterAll rivalRun).AtStake (.ofText "label.terra") Demo.bob (luna 700000000) ∧
      (standard.afterAll rivalRun).OneDenom (.ofText "label.terra") := by
  obtain ⟨hauction, hbid⟩ : (standard.afterAll rivalRun).store.auction? (.ofText "label.terra") =
        .ok (some ledByAlice) ∧
      (standard.afterAll rivalRun).store.bid? (.ofText "label.terra") Demo.bob = .ok (some sealedByBob) := by
    decide +kernel
  refine ⟨.top hauction rfl, .deposit hbid, (oneDenom_iff start_standard rivalRun _).2.2 ?_⟩
  intro changed hmem
  simp [rivalRun] at hmem

/-! ### Parameters that change during a bid phase -/

def won (amount : Nat) : Coin := ⟨"ukrw", (Word.ofNat? amount).getD 0⟩

/-- Between the bids of two accounts the minimum deposit gets another denomination, in which less is asked
for, and then the first of them reveals its bid. -/
def mixedRun : List Call :=
  [.mint Demo.alice (.ofCoin (luna 600000000)), .mint Demo.bob (.ofCoin (won 800000000)),
    .deliver (moment 1000) (.openAuction ⟨"label.terra"⟩ Demo.shop),
    .deliver (moment 2000) (.sealedBid ⟨"label.terra"⟩
      (Commitment.seal "salt" ⟨"label.terra"⟩ (luna 550000000) Demo.alice) (luna 600000000) Demo.alice),
    .setParams { Params.standard with minDeposit := won 1000 },
    .deliver (moment 3000) (.sealedBid ⟨"label.terra"⟩
      (Commitment.seal "rose" ⟨"label.terra"⟩ (won 750000000) Demo.bob) (won 800000000) Demo.bob),
    .endBlock (moment 200000),
    .deliver (moment 300000) (.reveal ⟨"label.terra"⟩ "salt" (luna 550000000) Demo.alice)]

/-- **The coins that an auction compares can be of different denominations.** -/
theorem mixedRun_not_oneDenom : ¬ (standard.afterAll mixedRun).OneDenom (.ofText "label.terra") := by
  rintro ⟨denom, hdenom⟩
  obtain ⟨hauction, hbid⟩ : (standard.afterAll mixedRun).store.auction? (.ofText "label.terra") =
        .ok (some ledByAlice) ∧
      (standard.afterAll mixedRun).store.bid? (.ofText "label.terra") Demo.bob =
        .ok (some ⟨Commitment.seal "rose" ⟨"label.terra"⟩ (won 750000000) Demo.bob, won 800000000,
          Demo.bob⟩) := by
    decide +kernel
  have hluna : "uluna" = denom := hdenom _ _ (.top hauction rfl)
  have hwon : "ukrw" = denom := hdenom _ _ (.deposit hbid)
  exact absurd (hluna.trans hwon.symm) (by decide)

end NameAuction.Registrar
