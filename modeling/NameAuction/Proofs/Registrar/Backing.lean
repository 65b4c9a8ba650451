import NameAuction.Proofs.Escrow.Worth
import NameAuction.Proofs.Registrar.Liability
import NameAuction.Proofs.Registrar.Reachable

/-!
# The escrow backs the liabilities

The liability of a registrar is what its stored bids and auctions keep in the escrow
(`Registrar.liability`), and its excess is what the escrow holds beyond that (`Registrar.excess`).  No call
that succeeds changes the excess (`Ran.excess_eq`).  As long as the total of the bank fits, no burn
overflows, so a call that fails changes nothing (`unchanged_of_total`), and a registrar that starts with
nothing in the store and in the escrow has no excess after any calls (`escrow_backs_liability`).
-/

namespace NameAuction

namespace Store.Keeps

variable {store : Store} {book : Book}

theorem finitary (h : store.Keeps book) : book.Finitary := by
  have hkeys : {key | ∃ bytes, store.get? key = some bytes}.Finite := by
    refine (List.finite_toSet (store.contents.toList.map (·.1))).subset ?_
    rintro key ⟨bytes, hget⟩
    rw [get?_eq] at hget
    exact List.mem_map.mpr ⟨(key, bytes), Std.ExtTreeMap.mem_toList_iff_getElem?_eq_some.mpr hget, rfl⟩
  refine (hkeys.preimage fun a _ b _ hkey => Slot.key_injective hkey).subset ?_
  intro slot hslot
  obtain ⟨value, hvalue⟩ := Option.ne_none_iff_exists'.mp hslot
  exact ⟨slot.bytes value, by rw [h.get?_key, hvalue]; rfl⟩

/-- **The liability of a book is the sum over the bids and the auctions that the store lists.** -/
theorem liability_eq (h : store.Keeps book) :
    ∃ bids auctions, store.bids = .ok bids ∧ store.auctions = .ok auctions ∧
      ∀ denom, book.liability denom = (bids.map fun x => (Bid.deposit x.2).held denom).sum +
        (auctions.map fun x => Auction.stake x.2 denom).sum := by
  obtain ⟨bids, hbids, hlistBids⟩ := h.bids
  obtain ⟨auctions, hauctions, hlistAuctions⟩ := h.auctions
  refine ⟨bids, auctions, hbids, hauctions, ?_⟩
  intro denom
  let bidSlot : NameId × Bid → Slot := fun x => .bid x.1 x.2.bidder
  let auctionSlot : NameId × Auction → Slot := fun x => .auction x.1
  have hnodup : (bids.map bidSlot ++ auctions.map auctionSlot).Nodup := by
    refine List.nodup_append'.mpr ⟨hlistBids.nodup_slots, hlistAuctions.nodup_slots, ?_⟩
    intro slot hbid hauction
    obtain ⟨x, -, rfl⟩ := List.mem_map.mp hbid
    obtain ⟨y, -, heq⟩ := List.mem_map.mp hauction
    cases heq
  have hsupport : Function.support (book.claim denom) ⊆
      (bids.map bidSlot ++ auctions.map auctionSlot).toFinset := by
    intro slot hslot
    rw [Finset.mem_coe, List.mem_toFinset, List.mem_append]
    rcases Book.exists_of_claim_ne_zero hslot with
      ⟨id, bidder, bid, rfl, hbid⟩ | ⟨id, auction, rfl, hauction⟩
    · have hbidder := h.bidder_eq hbid
      refine .inl (List.mem_map.mpr ⟨(id, bid), (hlistBids.mem_iff (id, bid)).mpr ?_, ?_⟩)
      · show book (.bid id bid.bidder) = some bid
        rw [hbidder]
        exact hbid
      · exact congrArg (Slot.bid id) hbidder
    · refine .inr (List.mem_map.mpr ⟨(id, auction), ?_, rfl⟩)
      exact (hlistAuctions.mem_iff (id, auction)).mpr hauction
  have hclaimBids : (bids.map bidSlot).map (book.claim denom) =
      bids.map fun x => (Bid.deposit x.2).held denom := by
    rw [List.map_map]
    exact List.map_congr_left fun x hx => Book.claim_of_some ((hlistBids.mem_iff x).mp hx) denom
  have hclaimAuctions : (auctions.map auctionSlot).map (book.claim denom) =
      auctions.map fun x => Auction.stake x.2 denom := by
    rw [List.map_map]
    exact List.map_congr_left fun x hx => Book.claim_of_some ((hlistAuctions.mem_iff x).mp hx) denom
  rw [Book.liability, finsum_eq_sum_of_support_subset _ hsupport, List.sum_toFinset _ hnodup,
    List.map_append, List.sum_append, hclaimBids, hclaimAuctions]

end Store.Keeps

namespace Registrar

/-- What the stored bids and auctions keep in the escrow: all deposits and the amounts of all top bids. -/
def liability (registrar : Registrar) (denom : String) : Except Fault Nat := do
  let bids ← registrar.store.bids
  let auctions ← registrar.store.auctions
  return (bids.map fun x => (Bid.deposit x.2).held denom).sum +
    (auctions.map fun x => Auction.stake x.2 denom).sum

/-- What the escrow holds beyond the liability; it is negative where the escrow holds less. -/
def excess (registrar : Registrar) (denom : String) : Except Fault Int := do
  return (registrar.bank.escrow.held denom : Int) - (← registrar.liability denom)

variable {registrar next : Registrar} {book : Book}

namespace Sound

theorem liability_eq (h : registrar.Sound book) (denom : String) :
    registrar.liability denom = .ok (book.liability denom) := by
  obtain ⟨bids, auctions, hbids, hauctions, hsum⟩ := h.keeps.liability_eq
  rw [liability, hbids, hauctions, hsum]
  rfl

theorem excess_eq (h : registrar.Sound book) (denom : String) :
    registrar.excess denom = .ok (registrar.bank.escrow.held denom - book.liability denom) := by
  rw [excess, h.liability_eq]
  rfl

end Sound

/-- What an outcome of the kind leads to: it balances, and its book is sane. -/
abbrev Sustains (book : Book) (can : Outcome → Prop) : Prop :=
  ∀ outcome, can outcome → outcome.Balances book ∧ outcome.book.Sane

theorem Sound.sustains_deliver (h : registrar.Sound book) (now : Time) (command : Command) :
    Sustains book fun outcome => command.check = .ok () ∧
      Handled (registrar.setting now) book command outcome := by
  rintro outcome ⟨-, hhandled⟩
  exact ⟨hhandled.balances h.keeps.finitary, h.sane.handled hhandled⟩

theorem Sound.sustains_endBlock (h : registrar.Sound book) (now : Time) :
    Sustains book (Swept (registrar.setting now) book) := by
  intro outcome hswept
  exact ⟨hswept.balances h.keeps.finitary h.sane, hswept.sane h.sane⟩

theorem Applied.escrow {now : Time} {outcome : Outcome} (h : Applied registrar now outcome next)
    (hbalances : outcome.Balances book) (denom : String) :
    next.bank.escrow.held denom + book.liability denom =
      registrar.bank.escrow.held denom + outcome.book.liability denom := by
  obtain ⟨-, hescrow⟩ := Funds.applyAll_eq_ok h.funds
  have hheld := hescrow denom
  have hliability := hbalances denom
  change next.bank.escrow.held denom + _ + _ = registrar.bank.escrow.held denom + _ at hheld
  omega

/-- **No coin is lost or made.** -/
theorem Applied.worth_eq {now : Time} {outcome : Outcome} (h : Applied registrar now outcome next)
    (denom : String) : next.bank.worth denom = registrar.bank.worth denom :=
  Bank.worth_eq h.funds h.burned denom

theorem Applied.fits {now : Time} {outcome : Outcome} (h : Applied registrar now outcome next)
    (hfits : registrar.bank.Fits) : next.bank.Fits := by
  intro denom
  rw [h.worth_eq]
  exact hfits denom

/-- A call that succeeds leaves the excess as it is. -/
theorem Ran.excess_eq {now : Time} {can : Outcome → Prop} {may : Fault → Prop} {events : List Event}
    (hran : Ran registrar now can may (.ok events, next)) (h : registrar.Sound book)
    (hcan : Sustains book can) (denom : String) : next.excess denom = registrar.excess denom := by
  cases hran with
  | @done outcome _ houtcome happlied =>
    obtain ⟨hbalances, hsane⟩ := hcan outcome houtcome
    have hnext := h.of_applied happlied hsane
    have hescrow := happlied.escrow hbalances denom
    rw [hnext.excess_eq, h.excess_eq]
    exact congrArg Except.ok (by omega)

/-! ### Runs in which the supply fits -/

/-- The escrow holds what the book is liable for and nothing else. -/
structure Backed (registrar : Registrar) (book : Book) : Prop where
  sound : registrar.Sound book
  held_eq : ∀ denom, registrar.bank.escrow.held denom = book.liability denom

/-- A call is not torn where the total of the bank fits. -/
theorem not_torn_of_total {total : Bundle} (htotal : registrar.bank.total = .ok total) {outcome : Outcome} :
    ¬ Torn registrar outcome next := by
  intro htorn
  obtain ⟨funds, hfunds⟩ := htorn.funds
  obtain ⟨denom, hover⟩ := htorn.overflows
  have hfits := Bank.burnt_fits htotal hfunds denom
  omega

theorem Ran.eq_of_error {now : Time} {can : Outcome → Prop} {may : Fault → Prop} {fault : Fault}
    {total : Bundle} (htotal : registrar.bank.total = .ok total)
    (hran : Ran registrar now can may (.error fault, next)) : next = registrar := by
  cases hran with
  | refused => rfl
  | torn _ htorn => exact absurd htorn (not_torn_of_total htotal)

/-- **Where the total of the bank fits, a call that fails changes nothing.** -/
theorem unchanged_of_total (h : Reachable registrar) {total : Bundle}
    (htotal : registrar.bank.total = .ok total) (now : Time) {fault : Fault} :
    (∀ command, registrar.deliver now command = (.error fault, next) → next = registrar) ∧
      (registrar.endBlock now = (.error fault, next) → next = registrar) := by
  obtain ⟨book, hsound⟩ := h.sound
  constructor
  · intro command hfails
    have hran := hsound.deliver_ran now command
    rw [hfails] at hran
    exact hran.eq_of_error htotal
  · intro hfails
    have hran := hsound.endBlock_ran now
    rw [hfails] at hran
    exact hran.eq_of_error htotal

theorem Ran.backed {now : Time} {can : Outcome → Prop} {may : Fault → Prop}
    {result : Except Fault (List Event) × Registrar} (hran : Ran registrar now can may result)
    (h : registrar.Backed book) (hcan : Sustains book can) {total : Bundle}
    (htotal : registrar.bank.total = .ok total) : ∃ book, result.2.Backed book := by
  cases hran with
  | refused => exact ⟨book, h⟩
  | @done outcome next houtcome happlied =>
    obtain ⟨hbalances, hsane⟩ := hcan outcome houtcome
    refine ⟨outcome.book, h.sound.of_applied happlied hsane, ?_⟩
    intro denom
    have hescrow := happlied.escrow hbalances denom
    have hheld := h.held_eq denom
    show next.bank.escrow.held denom = outcome.book.liability denom
    omega
  | torn _ htorn => exact absurd htorn (not_torn_of_total htotal)

theorem Backed.of_idle (h : registrar.Backed book) (hidle : registrar.Idle next) :
    next.Backed book where
  sound := h.sound.of_eq hidle.disk hidle.checked
  held_eq denom := by
    rw [hidle.escrow]
    exact h.held_eq denom

/-- **One call, where the total of the bank fits.** -/
theorem Backed.after (h : registrar.Backed book) {total : Bundle}
    (htotal : registrar.bank.total = .ok total) (call : Call) :
    ∃ book, (registrar.after call).Backed book := by
  rcases after_cases h.sound.checked call with ⟨now, command, rfl⟩ | ⟨now, rfl⟩ | hidle
  · exact (h.sound.deliver_ran now command).backed h (h.sound.sustains_deliver now command) htotal
  · exact (h.sound.endBlock_ran now).backed h (h.sound.sustains_endBlock now) htotal
  · exact ⟨book, h.of_idle hidle⟩

/-- **Any calls, where the total of the bank fits throughout.** -/
theorem Backed.afterAll (h : registrar.Backed book) {calls : List Call}
    (htotal : ∀ made, made <+: calls → ∃ total, (registrar.afterAll made).bank.total = .ok total) :
    ∃ book, (registrar.afterAll calls).Backed book := by
  induction calls generalizing registrar book with
  | nil => exact ⟨book, h⟩
  | cons call rest ih =>
    obtain ⟨total, hfirst⟩ := htotal [] (List.nil_prefix)
    obtain ⟨mid, hmid⟩ := h.after hfirst call
    refine ih hmid ?_
    intro made hmade
    exact htotal (call :: made) ((List.prefix_cons_inj call).mpr hmade)

theorem liability_blank (denom : String) : Book.blank.liability denom = 0 :=
  finsum_eq_zero_of_forall_eq_zero fun _ => rfl

theorem Backed.of_start {bank : Bank} {rates : Rates} {params : Params}
    (h : start (.ofEntries ∅) bank rates params = .ok registrar) (hescrow : bank.escrow = .empty) :
    registrar.Backed .blank where
  sound := .of_start h .blank .blank
  held_eq denom := by
    obtain ⟨u, -, hstart⟩ := Except.bind_eq_ok_iff.mp h
    obtain rfl := Except.ok.inj hstart
    rw [hescrow, liability_blank]
    rfl

/-- **The escrow backs the liabilities.**  No call that succeeds changes the excess of a reachable
registrar, and setting parameters changes neither the escrow nor the liability.  A registrar that starts
with an empty disk and an empty escrow holds exactly its liability in the escrow after any calls, if the
total of its bank fits throughout. -/
theorem escrow_backs_liability :
    (∀ registrar, Reachable registrar → ∀ denom, ∃ excess, registrar.excess denom = .ok excess ∧
      (∀ now command events next, registrar.deliver now command = (.ok events, next) →
        next.excess denom = .ok excess) ∧
      (∀ now events next, registrar.endBlock now = (.ok events, next) →
        next.excess denom = .ok excess) ∧
      ∀ params next, registrar.setParams params = .ok next →
        next.bank.escrow = registrar.bank.escrow ∧ next.liability denom = registrar.liability denom) ∧
    ∀ bank rates params fresh, start (.ofEntries ∅) bank rates params = .ok fresh →
      bank.escrow = .empty → ∀ calls : List Call,
        (∀ made, made <+: calls → ∃ total, (fresh.afterAll made).bank.total = .ok total) →
        ∀ denom, (fresh.afterAll calls).liability denom =
          .ok ((fresh.afterAll calls).bank.escrow.held denom) := by
  constructor
  · intro registrar hreachable denom
    obtain ⟨book, h⟩ := hreachable.sound
    refine ⟨_, h.excess_eq denom, fun now command events next hok => ?_, fun now events next hok => ?_,
      fun params next hset => ?_⟩
    · have hran := h.deliver_ran now command
      rw [hok] at hran
      exact (hran.excess_eq h (h.sustains_deliver now command) denom).trans (h.excess_eq denom)
    · have hran := h.endBlock_ran now
      rw [hok] at hran
      exact (hran.excess_eq h (h.sustains_endBlock now) denom).trans (h.excess_eq denom)
    · obtain ⟨-, rfl⟩ := setParams_eq_ok hset
      exact ⟨rfl, rfl⟩
  · intro bank rates params fresh hstart hescrow calls htotal denom
    obtain ⟨book, hbacked⟩ := (Backed.of_start hstart hescrow).afterAll htotal
    rw [hbacked.sound.liability_eq, hbacked.held_eq]

def firstBid : Command := .sealedBid ⟨"label.terra"⟩ Id.zero (luna 600000000) Demo.alice

/-- Coins for an account, an auction, and a bid by that account. -/
def firstRun : List Call :=
  [.mint Demo.alice (.ofCoin (luna 600000000)),
    .deliver (moment 1000) (.openAuction ⟨"label.terra"⟩ Demo.shop),
    .deliver (moment 2000) firstBid]

def readyToBid : Registrar := standard.afterAll (firstRun.take 2)

theorem escrow_backs_liability_firstRun :
    (∃ excess events next, readyToBid.excess "uluna" = .ok excess ∧
      readyToBid.deliver (moment 2000) firstBid = (.ok events, next) ∧
      next.excess "uluna" = .ok excess) ∧
    (standard.afterAll firstRun).liability "uluna" = .ok 600000000 := by
  constructor
  · have hreachable : Reachable readyToBid := reachable_standard.calledAll _
    have hok : (readyToBid.deliver (moment 2000) firstBid).1.isOk = true := by decide +kernel
    obtain ⟨events, hresult⟩ := exists_events_of_isOk hok
    obtain ⟨excess, hexcess, hdeliver, -⟩ := escrow_backs_liability.1 readyToBid hreachable "uluna"
    exact ⟨excess, events, _, hexcess, hresult, hdeliver _ _ _ _ hresult⟩
  · have htotal : ∀ made ∈ firstRun.inits, (standard.afterAll made).bank.total.isOk = true := by
      decide +kernel
    have hheld : (standard.afterAll firstRun).bank.escrow.held "uluna" = 600000000 := by
      decide +kernel
    have hliability := escrow_backs_liability.2 _ _ _ _ start_standard rfl firstRun
      (fun made hmade => exists_ok_of_isOk (htotal made ((List.mem_inits _ _).mpr hmade))) "uluna"
    rw [hliability, hheld]

end Registrar

end NameAuction
