import NameAuction.Proofs.Registrar.Stakes

/-!
# What an auction costs

An auction runs from its opening over any bids, the sweep that ends its bid phase and any reveals to the
sweep that ends its reveal phase; bids and reveals may come from any accounts and may be refused.  If it is
the only auction and a bid has been accepted, then in the end the winner has paid its amount, every account
whose bid was never revealed has lost the deposit, and nobody else has lost anything (`auction_payout`).

The proof follows the run with two invariants: balance and stake of every account together are what its
balance was at the start (`Ongoing`), and the book holds what the accepted messages say (`Bidding`,
`Revealing`).
-/

namespace NameAuction.Registrar

/-! ### Messages -/

structure SealedBid where
  now : Time
  commitment : String
  deposit : Coin
  bidder : Account

structure Reveal where
  now : Time
  salt : String
  amount : Coin
  bidder : Account

def SealedBid.send (name : Name) (bid : SealedBid) (registrar : Registrar) :
    Except Fault (List Event) × Registrar :=
  registrar.deliver bid.now (.bid name bid.commitment bid.deposit bid.bidder)

def Reveal.send (name : Name) (reveal : Reveal) (registrar : Registrar) :
    Except Fault (List Event) × Registrar :=
  registrar.deliver reveal.now (.reveal name reveal.salt reveal.amount reveal.bidder)

/-- Sends messages one after another, and says which of them were accepted. -/
def sendAll {α : Type} (send : α → Registrar → Except Fault (List Event) × Registrar) :
    List α → Registrar → List α × Registrar
  | [], registrar => ([], registrar)
  | message :: rest, registrar =>
    match send message registrar with
    | (.ok _, next) => (message :: (sendAll send rest next).1, (sendAll send rest next).2)
    | (.error _, next) => sendAll send rest next

/-- The winning reveal is the first of the highest. -/
inductive Wins : List Reveal → Option Reveal → Prop
  | nobody : Wins [] none
  | first {before after : List Reveal} {winner : Reveal}
      (hbefore : ∀ other ∈ before, other.amount.amount < winner.amount.amount)
      (hafter : ∀ other ∈ after, other.amount.amount ≤ winner.amount.amount) :
      Wins (before ++ winner :: after) (some winner)

def bidOf (placed : List SealedBid) (account : Account) : Option SealedBid :=
  placed.find? fun bid => bid.bidder = account

/-- What an auction costs an account: the winner pays its amount, any other account that has revealed its bid
pays nothing, and an account that has not revealed its bid pays the deposit. -/
def loss (placed : List SealedBid) (revealed : List Reveal) (winner : Option Reveal)
    (account : Account) (denom : String) : Nat :=
  if winner.map Reveal.bidder = some account then winner.elim 0 fun reveal => reveal.amount.held denom
  else if ∃ reveal ∈ revealed, reveal.bidder = account then 0
  else (bidOf placed account).elim 0 fun bid => bid.deposit.held denom

theorem loss_eq (placed : List SealedBid) (revealed : List Reveal) (winner : Option Reveal)
    (account : Account) (denom : String) :
    loss placed revealed winner account denom =
      if winner.map Reveal.bidder = some account then
        winner.elim 0 fun reveal => reveal.amount.held denom
      else if account ∈ revealed.map Reveal.bidder then 0
      else (bidOf placed account).elim 0 fun bid => bid.deposit.held denom := by
  simp only [loss, List.mem_map]

namespace Wins

variable {revealed : List Reveal} {winner reveal : Reveal}

theorem mem (h : Wins revealed (some winner)) : winner ∈ revealed := by
  cases h
  exact List.mem_append_right _ (List.mem_cons_self ..)

theorem le (h : Wins revealed (some winner)) {other : Reveal} (hother : other ∈ revealed) :
    other.amount.amount ≤ winner.amount.amount := by
  cases h with
  | first hbefore hafter =>
    rcases List.mem_append.mp hother with hmem | hmem
    · exact Nat.le_of_lt (hbefore other hmem)
    · rcases List.mem_cons.mp hmem with rfl | hmem
      · exact Nat.le_refl _
      · exact hafter other hmem

/-- A higher reveal takes the lead. -/
theorem lead (h : ∀ other ∈ revealed, other.amount.amount < reveal.amount.amount) :
    Wins (revealed ++ [reveal]) (some reveal) := .first h nofun

/-- Any other reveal leaves it. -/
theorem stay (h : Wins revealed (some winner)) (hle : reveal.amount.amount ≤ winner.amount.amount) :
    Wins (revealed ++ [reveal]) (some winner) := by
  cases h with
  | @first before after _ hbefore hafter =>
    rw [List.append_assoc, List.cons_append]
    refine .first hbefore ?_
    intro other hother
    rcases List.mem_append.mp hother with hmem | hmem
    · exact hafter other hmem
    · obtain rfl := List.mem_singleton.mp hmem
      exact hle

end Wins

/-! ### Balances and stakes -/

section

open Book

/-- While an auction that nobody has lost anything by is going on, balance and stake of every account are
what its balance was at the start. -/
structure Ongoing (start registrar : Registrar) (book : Book) (id : NameId) : Prop where
  sound : registrar.Sound book
  params : registrar.params = start.params
  alone : book.Alone id
  balances : ∀ account denom, (registrar.bank.balance account).held denom +
    book.stakeOn id account denom = (start.bank.balance account).held denom
  escrow : ∀ denom, registrar.bank.escrow.held denom =
    start.bank.escrow.held denom + book.liability denom
  burned : ∀ denom, registrar.bank.burned.held denom = start.bank.burned.held denom

variable {start registrar next : Registrar} {book : Book} {id : NameId} {name : Name}

/-- An outcome that burns nothing, auctions no other name, and keeps balance and stake together. -/
structure Quiet (outcome : Outcome) (book : Book) (id : NameId) : Prop where
  burnt : ∀ denom, Move.sum (Move.burnt denom) outcome.moves = 0
  alone : outcome.book.Alone id
  stakes : ∀ account denom, outcome.book.stakeOn id account denom +
      Move.sum (Move.paidTo account denom) outcome.moves =
    book.stakeOn id account denom + Move.sum (Move.paidBy account denom) outcome.moves

/-- **A quiet outcome that has been applied.** -/
theorem Ongoing.applied (h : Ongoing start registrar book id) {now : Time} {outcome : Outcome}
    (happlied : Applied registrar now outcome next) (hsane : outcome.book.Sane)
    (hbalances : outcome.Balances book) (hquiet : Quiet outcome book id) :
    Ongoing start next outcome.book id where
  sound := h.sound.of_applied happlied hsane
  params := happlied.params.trans h.params
  alone := hquiet.alone
  balances account denom := by
    obtain ⟨hpaid, -⟩ := Funds.applyAll_eq_ok happlied.funds
    have hbefore := h.balances account denom
    have hmoved : (next.bank.balance account).held denom + _ = _ := hpaid account denom
    have hstake := hquiet.stakes account denom
    change _ = (registrar.bank.balance account).held denom + _ at hmoved
    omega
  escrow denom := by
    have hbefore := h.escrow denom
    have hafter := happlied.escrow hbalances denom
    omega
  burned denom := by
    rw [happlied.burned, hquiet.burnt, Nat.add_zero]
    exact h.burned denom

/-- **A command whose outcomes are quiet is done or changes nothing.** -/
theorem Ongoing.deliver (h : Ongoing start registrar book id) (now : Time) (command : Command)
    (hquiet : ∀ outcome, Handled (registrar.setting now) book command outcome → Quiet outcome book id) :
    (∃ fault, registrar.deliver now command = (.error fault, registrar)) ∨ ∃ outcome next,
      Handled (registrar.setting now) book command outcome ∧
      registrar.deliver now command = (.ok outcome.events, next) ∧ Ongoing start next outcome.book id := by
  have hran := h.sound.deliver_ran now command
  generalize registrar.deliver now command = result at hran
  cases hran with
  | refused => exact .inl ⟨_, rfl⟩
  | @done outcome next hcan happlied =>
    obtain ⟨-, hhandled⟩ := hcan
    have hbalances := hhandled.balances h.sound.keeps.finitary
    have hsane := h.sound.sane.handled hhandled
    have hongoing := h.applied happlied hsane hbalances (hquiet outcome hhandled)
    exact .inr ⟨outcome, next, hhandled, rfl, hongoing⟩
  | @torn outcome next hcan htorn =>
    obtain ⟨denom, hover⟩ := htorn.overflows
    have hlt := registrar.bank.burned.held_lt denom
    have hzero := (hquiet outcome hcan.2).burnt denom
    omega

theorem Ongoing.bid (h : Ongoing start registrar book id) (hid : name.id = .ok id) (bid : SealedBid) :
    (∃ fault, bid.send name registrar = (.error fault, registrar)) ∨
      ∃ events next hidden, bid.send name registrar = (.ok events, next) ∧
        book (.bid id bid.bidder) = none ∧ Ongoing start next
          (book.set (.bid id bid.bidder) (some ⟨hidden, bid.deposit, bid.bidder⟩)) id := by
  refine (h.deliver bid.now (.bid name bid.commitment bid.deposit bid.bidder) ?_).imp_right ?_
  · intro outcome hhandled
    obtain ⟨-, hidden, hbook, hstakes⟩ := hhandled.of_bid hid
    refine ⟨?_, ?_, hstakes⟩
    · intro denom
      cases hhandled
      rfl
    · intro other hne
      rw [hbook]
      simpa using h.alone other hne
  · rintro ⟨outcome, next, hhandled, hresult, hongoing⟩
    obtain ⟨hfirst, hidden, hbook, -⟩ := hhandled.of_bid hid
    rw [hbook] at hongoing
    exact ⟨_, next, hidden, hresult, hfirst, hongoing⟩

theorem Ongoing.reveal (h : Ongoing start registrar book id) (hid : name.id = .ok id) (reveal : Reveal) :
    (∃ fault, reveal.send name registrar = (.error fault, registrar)) ∨
      ∃ events next auction bid, reveal.send name registrar = (.ok events, next) ∧
        book (.auction id) = some auction ∧ book (.bid id reveal.bidder) = some bid ∧
        Ongoing start next ((book.set (.bid id reveal.bidder) none).set (.auction id)
          (some (afterReveal auction reveal.amount reveal.bidder))) id := by
  refine (h.deliver reveal.now (.reveal name reveal.salt reveal.amount reveal.bidder) ?_).imp_right ?_
  · intro outcome hhandled
    obtain ⟨auction, bid, -, -, hbook, hstakes⟩ := hhandled.of_reveal hid
    refine ⟨?_, ?_, hstakes⟩
    · intro denom
      cases hhandled with
      | revealedTop =>
        rw [Move.sum_append, burnt_backToTop]
        rfl
      | revealedBelow => rfl
    · intro other hne
      rw [hbook]
      simpa [hne] using h.alone other hne
  · rintro ⟨outcome, next, hhandled, hresult, hongoing⟩
    obtain ⟨auction, bid, hauction, hbid, hbook, -⟩ := hhandled.of_reveal hid
    rw [hbook] at hongoing
    exact ⟨_, next, auction, bid, hresult, hauction, hbid, hongoing⟩

/-! ### What the book holds while bids are placed -/

theorem bidOf_append (placed : List SealedBid) (bid : SealedBid) (account : Account) :
    bidOf (placed ++ [bid]) account =
      (bidOf placed account).or (if bid.bidder = account then some bid else none) := by
  rw [bidOf, List.find?_append, List.find?_singleton]
  simp [bidOf]

theorem bidOf_eq_none_iff {placed : List SealedBid} {account : Account} :
    bidOf placed account = none ↔ account ∉ placed.map SealedBid.bidder := by
  simp [bidOf, List.find?_eq_none]

/-- The auction is in its bid phase, and its bids are those that were accepted. -/
structure Bidding (book : Book) (id : NameId) (name : Name) (endTime : Time)
    (placed : List SealedBid) : Prop where
  auction : book (.auction id) = some (.opened name endTime)
  bids : ∀ bidder, (book (.bid id bidder)).map Bid.deposit =
    (bidOf placed bidder).map SealedBid.deposit
  distinct : (placed.map SealedBid.bidder).Nodup

variable {endTime : Time} {placed : List SealedBid}

theorem Bidding.place (h : Bidding book id name endTime placed) {bid : SealedBid}
    (hfirst : book (.bid id bid.bidder) = none) (hidden : Commitment) :
    Bidding (book.set (.bid id bid.bidder) (some ⟨hidden, bid.deposit, bid.bidder⟩)) id name endTime
      (placed ++ [bid]) := by
  have hnone : bidOf placed bid.bidder = none := by
    have hbids := h.bids bid.bidder
    rw [hfirst] at hbids
    exact Option.map_eq_none_iff.mp hbids.symm
  refine ⟨by simpa using h.auction, ?_, ?_⟩
  · intro bidder
    rw [bidOf_append]
    by_cases heq : bidder = bid.bidder
    · subst heq
      simp [hnone]
    · simp [heq, Ne.symm heq, h.bids]
  · rw [List.map_append, List.map_singleton]
    exact List.Nodup.append h.distinct (List.nodup_singleton _)
      (List.disjoint_singleton.mpr (bidOf_eq_none_iff.mp hnone))

/-- **Any bids.** -/
theorem Ongoing.bids {bids more : List SealedBid} (h : Ongoing start registrar book id)
    (hid : name.id = .ok id) (hbook : Bidding book id name endTime placed)
    (hsend : sendAll (SealedBid.send name) bids registrar = (more, next)) :
    ∃ book, Ongoing start next book id ∧ Bidding book id name endTime (placed ++ more) := by
  induction bids generalizing registrar book placed more with
  | nil =>
    obtain ⟨rfl, rfl⟩ := Prod.mk.inj hsend
    exact ⟨book, h, by rwa [List.append_nil]⟩
  | cons bid rest ih =>
    rw [sendAll] at hsend
    rcases h.bid hid bid with ⟨fault, hresult⟩ | ⟨events, mid, hidden, hresult, hfirst, hmid⟩
    · rw [hresult] at hsend
      exact ih h hbook hsend
    · rw [hresult] at hsend
      obtain ⟨rfl, rfl⟩ := Prod.mk.inj hsend
      obtain ⟨last, hlast, hheld⟩ := ih hmid (hbook.place hfirst hidden) rfl
      exact ⟨last, hlast, by rwa [List.append_assoc] at hheld⟩

/-! ### What the book holds while bids are revealed -/

/-- The auction is in its reveal phase, the top bid is the winning reveal so far, and the bids are those
that were accepted and have not been revealed. -/
structure Revealing (book : Book) (id : NameId) (name : Name) (endTime : Time)
    (placed : List SealedBid) (revealed : List Reveal) (winner : Option Reveal) : Prop where
  auction : book (.auction id) =
    some ⟨name, .reveal, endTime, winner.map fun reveal => ⟨reveal.bidder, reveal.amount⟩⟩
  wins : Wins revealed winner
  bids : ∀ bidder, (book (.bid id bidder)).map Bid.deposit =
    if bidder ∈ revealed.map Reveal.bidder then none else (bidOf placed bidder).map SealedBid.deposit
  placed : ∀ reveal ∈ revealed, reveal.bidder ∈ placed.map SealedBid.bidder

variable {revealed : List Reveal} {winner : Option Reveal}

theorem Wins.reveal (h : Wins revealed winner) (reveal : Reveal) (auction : Auction)
    (htop : auction.topBid = winner.map fun reveal => ⟨reveal.bidder, reveal.amount⟩) :
    ∃ winner, Wins (revealed ++ [reveal]) winner ∧
      afterReveal auction reveal.amount reveal.bidder =
        { auction with topBid := winner.map fun reveal => ⟨reveal.bidder, reveal.amount⟩ } := by
  cases hwinner : winner with
  | none =>
    rw [hwinner] at h htop
    cases h
    refine ⟨some reveal, .lead nofun, ?_⟩
    rw [afterReveal, leads, htop]
    rfl
  | some best =>
    rw [hwinner] at h htop
    by_cases hlt : best.amount.amount < reveal.amount.amount
    · refine ⟨some reveal, .lead fun other hother => Nat.lt_of_le_of_lt (h.le hother) hlt, ?_⟩
      simp [afterReveal, leads, htop, hlt]
    · refine ⟨some best, h.stay (Nat.le_of_not_lt hlt), ?_⟩
      have hnot : ¬ leads auction reveal.amount = true := by simp [leads, htop, hlt]
      rw [afterReveal, if_neg hnot, ← htop]

theorem Revealing.reveal (h : Revealing book id name endTime placed revealed winner) {reveal : Reveal}
    {auction : Auction} {bid : Bid} (hauction : book (.auction id) = some auction)
    (hbid : book (.bid id reveal.bidder) = some bid) :
    ∃ winner, Revealing ((book.set (.bid id reveal.bidder) none).set (.auction id)
      (some (afterReveal auction reveal.amount reveal.bidder))) id name endTime placed
      (revealed ++ [reveal]) winner := by
  have heq := Option.some.inj (h.auction.symm.trans hauction)
  have htop : auction.topBid = winner.map fun reveal => ⟨reveal.bidder, reveal.amount⟩ := by rw [← heq]
  obtain ⟨winner', hwins, hafter⟩ := h.wins.reveal reveal auction htop
  have hheld := h.bids reveal.bidder
  rw [hbid] at hheld
  have hnew : reveal.bidder ∉ revealed.map Reveal.bidder := by
    intro hmem
    rw [if_pos hmem] at hheld
    cases hheld
  rw [if_neg hnew] at hheld
  refine ⟨winner', by rw [hafter, set_self, ← heq], hwins, ?_, ?_⟩
  · intro bidder
    rw [List.map_append, List.map_singleton]
    by_cases heq : bidder = reveal.bidder
    · subst heq
      simp
    · have hbids := h.bids bidder
      simpa [heq] using hbids
  · intro other hother
    rcases List.mem_append.mp hother with hmem | hmem
    · exact h.placed other hmem
    · obtain rfl := List.mem_singleton.mp hmem
      by_contra hnot
      rw [bidOf_eq_none_iff.mpr hnot] at hheld
      cases hheld

/-- **Any reveals.** -/
theorem Ongoing.reveals {reveals more : List Reveal} (h : Ongoing start registrar book id)
    (hid : name.id = .ok id) (hbook : Revealing book id name endTime placed revealed winner)
    (hsend : sendAll (Reveal.send name) reveals registrar = (more, next)) :
    ∃ book winner, Ongoing start next book id ∧
      Revealing book id name endTime placed (revealed ++ more) winner := by
  induction reveals generalizing registrar book revealed winner more with
  | nil =>
    obtain ⟨rfl, rfl⟩ := Prod.mk.inj hsend
    exact ⟨book, winner, h, by rwa [List.append_nil]⟩
  | cons reveal rest ih =>
    rw [sendAll] at hsend
    rcases h.reveal hid reveal with
      ⟨fault, hresult⟩ | ⟨events, mid, auction, bid, hresult, hauction, hbid, hmid⟩
    · rw [hresult] at hsend
      exact ih h hbook hsend
    · rw [hresult] at hsend
      obtain ⟨rfl, rfl⟩ := Prod.mk.inj hsend
      obtain ⟨winner', hnext⟩ := hbook.reveal hauction hbid
      obtain ⟨last, winner'', hlast, hheld⟩ := ih hmid hnext rfl
      exact ⟨last, winner'', hlast, by rwa [List.append_assoc] at hheld⟩

theorem Revealing.bidder_mem (h : Revealing book id name endTime placed revealed winner)
    (bidder : Account) (hbid : book (.bid id bidder) ≠ none) :
    bidder ∈ (placed.map SealedBid.bidder).toFinset := by
  rw [List.mem_toFinset]
  by_contra hnot
  have hheld := h.bids bidder
  rw [bidOf_eq_none_iff.mpr hnot, Option.map_none, ite_self] at hheld
  exact hbid (Option.map_eq_none_iff.mp hheld)

theorem Revealing.top_mem (h : Revealing book id name endTime placed revealed winner) (top : TopBid)
    (htop : (winner.map fun reveal => (⟨reveal.bidder, reveal.amount⟩ : TopBid)) = some top) :
    top.bidder ∈ (placed.map SealedBid.bidder).toFinset := by
  rw [List.mem_toFinset]
  obtain ⟨best, hbest, rfl⟩ := Option.map_eq_some_iff.mp htop
  have hwins := h.wins
  rw [hbest] at hwins
  exact h.placed best hwins.mem

/-- **In the end the stakes are the losses.** -/
theorem Revealing.stakeOn_eq (h : Revealing book id name endTime placed revealed winner)
    (account : Account) (denom : String) :
    book.stakeOn id account denom = loss placed revealed winner account denom := by
  have hbid : (book (.bid id account)).elim 0 (fun bid => (Bid.deposit bid).held denom) =
      ((book (.bid id account)).map Bid.deposit).elim 0 fun deposit => deposit.held denom := by
    cases book (.bid id account) <;> rfl
  rw [stakeOn, hbid, h.bids, h.auction, loss_eq, Option.elim_some, Auction.stakeOf]
  cases hwinner : winner with
  | none =>
    by_cases hmem : account ∈ revealed.map Reveal.bidder
    · simp [hmem]
    · cases bidOf placed account <;> simp [hmem]
  | some best =>
    by_cases hbest : best.bidder = account
    · have hwins := h.wins
      rw [hwinner] at hwins
      have hmem : account ∈ revealed.map Reveal.bidder := List.mem_map.mpr ⟨best, hwins.mem, hbest⟩
      simp [hmem, hbest]
    · by_cases hmem : account ∈ revealed.map Reveal.bidder
      · simp [hmem, hbest]
      · cases bidOf placed account <;> simp [hmem, hbest]

/-! ### The opening -/

/-- A registrar without auctions has nobody's coins in the escrow. -/
theorem Ongoing.of_none (hsound : start.Sound book) (hnone : ∀ id, book (.auction id) = none)
    (id : NameId) : Ongoing start start book id where
  sound := hsound
  params := rfl
  alone other _ := hnone other
  balances account denom := by rw [stakeOn_of_none hsound.sane.housed (hnone id), Nat.add_zero]
  escrow denom := by rw [liability_of_none hsound.sane.housed hnone, Nat.add_zero]
  burned _ := rfl

theorem auctions_eq_none (hkeeps : registrar.store.Keeps book)
    (hnone : registrar.store.auctions = .ok []) (id : NameId) : book (.auction id) = none := by
  obtain ⟨auctions, hauctions, hlist⟩ := hkeeps.auctions
  obtain rfl : auctions = [] := Except.ok.inj (hauctions.symm.trans hnone)
  cases hauction : book (.auction id) with
  | none => rfl
  | some auction =>
    have hmem := (hlist.mem_iff (id, auction)).mpr hauction
    exact absurd hmem List.not_mem_nil

theorem Ongoing.opened {now : Time} {organizer : Account} {events : List Event}
    (hsound : start.Sound book) (hnone : ∀ id, book (.auction id) = none)
    (hopen : start.deliver now (.openAuction name organizer) = (.ok events, next)) :
    ∃ book id endTime, name.id = .ok id ∧ now.after start.params.bidPeriod = .ok endTime ∧
      Ongoing start next book id ∧ Bidding book id name endTime [] := by
  have hran := hsound.deliver_ran now (.openAuction name organizer)
  rw [hopen] at hran
  cases hran with
  | @done outcome _ hcan happlied =>
    obtain ⟨-, hhandled⟩ := hcan
    have hbalances := hhandled.balances hsound.keeps.finitary
    have hsane := hsound.sane.handled hhandled
    cases hhandled with
    | @opened _ _ parts id endTime _ hid _ _ _ _ hend =>
      have hbids := fun bidder => hsound.sane.housed id bidder (hnone id)
      have hquiet : Quiet ⟨(book.set (.auction id) (some (.opened name endTime))).set
          (.queued .bid ⟨endTime, id⟩) (some ()), [], [.opened name organizer endTime]⟩ book id :=
        { burnt := fun _ => rfl
          alone := fun other hne => by simpa [hne] using hnone other
          stakes := fun account denom => by
            simp [stakeOn, hnone, Auction.stakeOf, Auction.opened] }
      refine ⟨_, id, endTime, hid, hend, (Ongoing.of_none hsound hnone id).applied happlied hsane
        hbalances hquiet, ?_⟩
      exact ⟨by simp, fun bidder => by simpa [bidOf] using hbids bidder, List.nodup_nil⟩

/-! ### The two sweeps -/

theorem Ongoing.closed {now : Time} {events : List Event} (h : Ongoing start registrar book id)
    (hbook : Bidding book id name endTime placed) (hplaced : placed ≠ []) (hdue : endTime ≤ now)
    (hclose : registrar.endBlock now = (.ok events, next)) :
    ∃ book endTime, now.after start.params.revealPeriod = .ok endTime ∧
      Ongoing start next book id ∧ Revealing book id name endTime placed [] none := by
  have hran := h.sound.endBlock_ran now
  rw [hclose] at hran
  cases hran with
  | @done outcome _ hswept happlied =>
    obtain ⟨first, rest, rfl⟩ := List.exists_cons_of_ne_nil hplaced
    obtain ⟨bid, hbid, -⟩ : ∃ bid, book (.bid id first.bidder) = some bid ∧
        bid.deposit = first.deposit := by
      have hheld := hbook.bids first.bidder
      rw [bidOf, List.find?_cons_of_pos (by simp)] at hheld
      exact Option.map_eq_some_iff.mp hheld
    have hperiod := (Params.periods_pos h.sound.checked).2.1
    obtain ⟨later, hend, hmoves, hauction, halone, hbids⟩ :=
      hswept.of_bidding h.sound.sane h.alone hbook.auction rfl hdue hbid hperiod
    have hquiet : Quiet outcome book id :=
      { burnt := fun denom => by rw [hmoves]; rfl
        alone := halone
        stakes := fun account denom => by
          rw [hmoves, stakeOn, stakeOn, hbids, hauction, hbook.auction]
          rfl }
    have hsustains := h.sound.sustains_endBlock now outcome hswept
    rw [Registrar.setting, h.params] at hend
    refine ⟨outcome.book, later, hend, h.applied happlied hsustains.2 hsustains.1 hquiet, ?_⟩
    exact ⟨hauction, .nobody, fun bidder => by simp [hbids, hbook.bids],
      fun reveal hreveal => absurd hreveal List.not_mem_nil⟩

/-- What an auction leaves behind that ends at some time: who has paid what, what has been burned and who
owns the name. -/
structure PaidOut (start finish : Registrar) (id : NameId) (name : Name) (placed : List SealedBid)
    (revealed : List Reveal) (winner : Option Reveal) (now : Time) : Prop where
  escrow : finish.bank.escrow = start.bank.escrow
  balances : ∀ account denom, (finish.bank.balance account).held denom +
    loss placed revealed winner account denom = (start.bank.balance account).held denom
  burned : ∀ denom, finish.bank.burned.held denom = start.bank.burned.held denom +
    ∑ account ∈ (placed.map SealedBid.bidder).toFinset, loss placed revealed winner account denom
  registration : ∃ endTime, (winner ≠ none → now.after start.params.renewalInterval = .ok endTime) ∧
    finish.store.registration? id =
      .ok (winner.map fun reveal => ⟨name, reveal.bidder, endTime⟩)

/-- **The registrar after the sweep that ends the reveal phase.** -/
theorem Ongoing.settled {now : Time} {events : List Event} (h : Ongoing start registrar book id)
    (hbook : Revealing book id name endTime placed revealed winner) (hdue : endTime ≤ now)
    (hsettle : registrar.endBlock now = (.ok events, next)) :
    PaidOut start next id name placed revealed winner now := by
  have hran := h.sound.endBlock_ran now
  rw [hsettle] at hran
  cases hran with
  | @done outcome _ hswept happlied =>
    have hfin := h.sound.keeps.finitary
    obtain ⟨hbalances, hsane⟩ := h.sound.sustains_endBlock now outcome hswept
    obtain ⟨hnone, later, hend, hregistration⟩ := hswept.of_revealing h.sound.sane h.alone
      hbook.auction rfl hdue (Params.periods_pos h.sound.checked).2.2
    have hliability : ∀ denom, outcome.book.liability denom = 0 :=
      fun denom => liability_of_none hsane.housed hnone denom
    refine ⟨Bundle.eq_of_held_eq fun denom => ?_, fun account denom => ?_, fun denom => ?_,
      later, fun hwinner => ?_, ?_⟩
    · have hescrow := happlied.escrow hbalances denom
      have hbefore := h.escrow denom
      have hzero := hliability denom
      omega
    · obtain ⟨hpaid, -⟩ := Funds.applyAll_eq_ok happlied.funds
      have hmoved := hpaid account denom
      rw [sum_eq_zero_of_burns (fun _ => rfl) hswept.burns_only,
        sum_eq_zero_of_burns (fun _ => rfl) hswept.burns_only] at hmoved
      rw [← hbook.stakeOn_eq]
      have hbefore := h.balances account denom
      change (next.bank.balance account).held denom + 0 =
        (registrar.bank.balance account).held denom + 0 at hmoved
      omega
    · have hburnt := hswept.burnt_eq hfin h.sound.sane denom
      have hsum := liability_eq_sum_stakes h.sound.sane.housed h.alone hbook.auction hbook.bidder_mem
        hbook.top_mem denom
      rw [hliability, Nat.zero_add] at hburnt
      simp only [hbook.stakeOn_eq] at hsum
      rw [happlied.burned, h.burned, hburnt, hsum]
    · rw [Registrar.setting, h.params] at hend
      refine hend ?_
      cases winner with
      | none => exact absurd rfl hwinner
      | some best => exact nofun
    · rw [happlied.keeps.registration?, hregistration]
      cases winner <;> rfl

/-! ### Losses -/

theorem loss_winner {best : Reveal} (denom : String) :
    loss placed revealed (some best) best.bidder denom = best.amount.held denom := by
  simp [loss]

theorem loss_revealed {account : Account} (hrevealed : account ∈ revealed.map Reveal.bidder)
    (hother : winner.map Reveal.bidder ≠ some account) (denom : String) :
    loss placed revealed winner account denom = 0 := by
  rw [loss_eq, if_neg hother, if_pos hrevealed]

theorem loss_of_not_mem {account : Account} (hwins : Wins revealed winner)
    (hnot : account ∉ revealed.map Reveal.bidder) (denom : String) :
    loss placed revealed winner account denom =
      (bidOf placed account).elim 0 fun bid => bid.deposit.held denom := by
  have hother : winner.map Reveal.bidder ≠ some account := by
    intro heq
    obtain ⟨best, hbest, rfl⟩ := Option.map_eq_some_iff.mp heq
    rw [hbest] at hwins
    exact hnot (List.mem_map_of_mem hwins.mem)
  rw [loss_eq, if_neg hother, if_neg hnot]

theorem bidOf_eq_some {bid : SealedBid} (hdistinct : (placed.map SealedBid.bidder).Nodup)
    (hbid : bid ∈ placed) : bidOf placed bid.bidder = some bid := by
  induction placed with
  | nil => cases hbid
  | cons first rest ih =>
    obtain ⟨hfirst, hrest⟩ := List.nodup_cons.mp hdistinct
    rw [bidOf]
    rcases List.mem_cons.mp hbid with rfl | hmem
    · exact List.find?_cons_of_pos (by simp)
    · have hne : first.bidder ≠ bid.bidder := by
        intro heq
        rw [heq] at hfirst
        exact hfirst (List.mem_map_of_mem hmem)
      rw [List.find?_cons_of_neg (by simpa using hne)]
      exact ih hrest hmem

/-! ### The whole auction -/

theorem le_of_after {time period sum now : Time} (h : time.after period = .ok sum)
    (hle : time.toNat + period.toNat ≤ now.toNat) : sum ≤ now := by
  have hsum := Time.after_eq_ok h
  show sum.toNat ≤ now.toNat
  omega

/-- **What an auction costs.**  The auction is opened when there is no other, its two sweeps come at or
after its deadlines, and a bid has been accepted. -/
theorem auction_payout {start opened bidding revealing ended finish : Registrar} {name : Name}
    {organizer : Account} {openTime bidEnd revealEnd : Time} {bids placed : List SealedBid}
    {reveals revealed : List Reveal} {openEvents closeEvents settleEvents : List Event}
    (hreachable : Reachable start) (hnone : start.store.auctions = .ok [])
    (hopen : start.deliver openTime (.openAuction name organizer) = (.ok openEvents, opened))
    (hbids : sendAll (SealedBid.send name) bids opened = (placed, bidding))
    (hbidEnd : openTime.toNat + start.params.bidPeriod.toNat ≤ bidEnd.toNat)
    (hclose : bidding.endBlock bidEnd = (.ok closeEvents, revealing))
    (hreveals : sendAll (Reveal.send name) reveals revealing = (revealed, ended))
    (hrevealEnd : bidEnd.toNat + start.params.revealPeriod.toNat ≤ revealEnd.toNat)
    (hsettle : ended.endBlock revealEnd = (.ok settleEvents, finish)) (hplaced : placed ≠ []) :
    ∃ id winner, name.id = .ok id ∧ Wins revealed winner ∧
      PaidOut start finish id name placed revealed winner revealEnd ∧
      (∀ best, winner = some best → ∀ denom, (finish.bank.balance best.bidder).held denom +
        best.amount.held denom = (start.bank.balance best.bidder).held denom) ∧
      (∀ reveal ∈ revealed, winner.map Reveal.bidder ≠ some reveal.bidder →
        finish.bank.balance reveal.bidder = start.bank.balance reveal.bidder) ∧
      (∀ bid ∈ placed, bid.bidder ∉ revealed.map Reveal.bidder → ∀ denom,
        (finish.bank.balance bid.bidder).held denom + bid.deposit.held denom =
          (start.bank.balance bid.bidder).held denom) ∧
      ∀ account, account ∉ placed.map SealedBid.bidder →
        finish.bank.balance account = start.bank.balance account := by
  obtain ⟨book, hsound⟩ := hreachable.sound
  have hempty := auctions_eq_none hsound.keeps hnone
  obtain ⟨_, id, bidDeadline, hid, hbidAfter, hopened, hbook⟩ := Ongoing.opened hsound hempty hopen
  obtain ⟨_, hbidding, hbook⟩ := hopened.bids hid hbook hbids
  rw [List.nil_append] at hbook
  obtain ⟨_, revealDeadline, hrevealAfter, hrevealing, hbookReveal⟩ :=
    hbidding.closed hbook hplaced (le_of_after hbidAfter hbidEnd) hclose
  obtain ⟨_, winner, hended, hbookReveal⟩ := hrevealing.reveals hid hbookReveal hreveals
  rw [List.nil_append] at hbookReveal
  have hpaid := hended.settled hbookReveal (le_of_after hrevealAfter hrevealEnd) hsettle
  have hwins := hbookReveal.wins
  refine ⟨id, winner, hid, hwins, hpaid, ?_, ?_, ?_, ?_⟩
  · rintro best rfl denom
    have hbalance := hpaid.balances best.bidder denom
    rwa [loss_winner] at hbalance
  · intro reveal hreveal hother
    refine Bundle.eq_of_held_eq ?_
    intro denom
    have hbalance := hpaid.balances reveal.bidder denom
    rwa [loss_revealed (List.mem_map_of_mem hreveal) hother] at hbalance
  · intro bid hbid hnot denom
    have hbalance := hpaid.balances bid.bidder denom
    rwa [loss_of_not_mem hwins hnot, bidOf_eq_some hbook.distinct hbid] at hbalance
  · intro account haccount
    have hnot : account ∉ revealed.map Reveal.bidder := by
      intro hmem
      obtain ⟨reveal, hreveal, rfl⟩ := List.mem_map.mp hmem
      exact haccount (hbookReveal.placed reveal hreveal)
    refine Bundle.eq_of_held_eq ?_
    intro denom
    have hbalance := hpaid.balances account denom
    rwa [loss_of_not_mem hwins hnot, bidOf_eq_none_iff.mpr haccount] at hbalance

end

/-! ### An auction with three bids -/

namespace Ballot

def name : Name := ⟨"label.terra"⟩

def start : Registrar :=
  standard.afterAll [.mint Demo.alice (.ofCoin (luna 900000000)),
    .mint Demo.bob (.ofCoin (luna 900000000)),
    .mint Demo.carol (.ofCoin (luna 900000000))]

def opened : Except Fault (List Event) × Registrar :=
  start.deliver (moment 1000) (.openAuction name Demo.shop)

def sealed (bidder : Account) (amount deposit : Coin) : SealedBid :=
  ⟨moment 2000, (Commitment.seal "salt" name amount bidder).toHex, deposit, bidder⟩

/-- The deposit of the second bid is too low. -/
def bids : List SealedBid :=
  [sealed Demo.alice (luna 550000000) (luna 600000000),
    sealed Demo.bob (luna 1) (luna 1),
    sealed Demo.bob (luna 700000000) (luna 800000000),
    sealed Demo.carol (luna 900000000) (luna 900000000)]

def bidding : List SealedBid × Registrar := sendAll (SealedBid.send name) bids opened.2

def closed : Except Fault (List Event) × Registrar := bidding.2.endBlock (moment 200000)

def reveals : List Reveal :=
  [⟨moment 300000, "salt", luna 550000000, Demo.alice⟩,
    ⟨moment 300000, "salt", luna 700000000, Demo.bob⟩]

def revealing : List Reveal × Registrar := sendAll (Reveal.send name) reveals closed.2

def settled : Except Fault (List Event) × Registrar := revealing.2.endBlock (moment 500000)

theorem accepted : opened.1.isOk ∧ closed.1.isOk ∧ settled.1.isOk ∧ bidding.1.length = 3 ∧
    revealing.1.length = 2 := by decide +kernel

end Ballot

theorem auction_payout_ballot :
    Ballot.bidding.1.length = 3 ∧ Ballot.revealing.1.length = 2 ∧
      ∃ id winner, Wins Ballot.revealing.1 winner ∧
        PaidOut Ballot.start Ballot.settled.2 id Ballot.name Ballot.bidding.1 Ballot.revealing.1 winner
          (moment 500000) := by
  obtain ⟨hopened, hclosed, hsettled, hbids, hreveals⟩ := Ballot.accepted
  obtain ⟨openEvents, hopen⟩ := exists_events_of_isOk hopened
  obtain ⟨closeEvents, hclose⟩ := exists_events_of_isOk hclosed
  obtain ⟨settleEvents, hsettle⟩ := exists_events_of_isOk hsettled
  have hreachable : Reachable Ballot.start := reachable_standard.calledAll _
  have hplaced : Ballot.bidding.1 ≠ [] := by
    intro hnil
    rw [hnil] at hbids
    cases hbids
  obtain ⟨id, winner, -, hwins, hpaid, -⟩ := auction_payout hreachable rfl hopen Prod.mk.eta.symm
    (by decide) hclose Prod.mk.eta.symm (by decide) hsettle hplaced
  exact ⟨hbids, hreveals, id, winner, hwins, hpaid⟩

end NameAuction.Registrar
