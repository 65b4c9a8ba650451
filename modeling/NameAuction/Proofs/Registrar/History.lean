import NameAuction.Proofs.Registrar.Atomic
import NameAuction.Proofs.Registrar.ByName
import NameAuction.Proofs.Registrar.Payout

/-!
# Histories

The history of a run lists the commands that have been carried out, each with the parameters that were in
force (`Registrar.deliveries`).  A call that is refused adds nothing to it, and neither does a torn one, which
is a renewal or a sweep (`Moved`).

Whatever is called, the auction of one name and the bids on it go on in one of six ways (`Proceeds`,
`Moved.proceeds`).  So what ties the auction of a name to the history holds after any calls if these six ways
preserve it (`Sound.afterAll_of_proceeds`).
-/

namespace NameAuction

/-- A command that has been carried out, and the parameters under which it was. -/
structure Delivery where
  params : Params
  now : Time
  command : Command

namespace Delivery

def opens (made : Delivery) (id : NameId) : Bool :=
  match made.command with
  | .openAuction name _ => name.id = .ok id
  | _ => false

def bids (made : Delivery) (id : NameId) (bidder : Account) : Bool :=
  match made.command with
  | .bid name _ _ account => name.id = .ok id ∧ account = bidder
  | _ => false

/-- The reveal of a bid on the name that the command has been. -/
def reveal? (made : Delivery) (id : NameId) : Option Registrar.Reveal :=
  match made.command with
  | .reveal name salt amount bidder =>
    if name.id = .ok id then some ⟨made.now, salt, amount, bidder⟩ else none
  | _ => none

/-- The command has nothing to do with an auction of the name. -/
structure Elsewhere (made : Delivery) (id : NameId) : Prop where
  opens : made.opens id = false
  bids : ∀ bidder, made.bids id bidder = false
  reveal? : made.reveal? id = none

theorem elsewhere_of_ne {made : Delivery} {own id : NameId} (hname : made.command.name.id = .ok own)
    (hne : id ≠ own) : made.Elsewhere id := by
  obtain ⟨params, now, command⟩ := made
  have hother : ¬ own = id := fun heq => hne heq.symm
  have hname : command.name.id = .ok own := hname
  cases command with
  | openAuction name organizer =>
    have hid : name.id = .ok own := hname
    exact ⟨by simp [opens, hid, hother], fun _ => rfl, rfl⟩
  | bid name commitment deposit bidder =>
    have hid : name.id = .ok own := hname
    exact ⟨rfl, fun _ => by simp [bids, hid, hother], rfl⟩
  | reveal name salt amount bidder =>
    have hid : name.id = .ok own := hname
    exact ⟨rfl, fun _ => rfl, by simp [reveal?, hid, hother]⟩
  | renew => exact ⟨rfl, fun _ => rfl, rfl⟩
  | changeOwner => exact ⟨rfl, fun _ => rfl, rfl⟩
  | setSubName => exact ⟨rfl, fun _ => rfl, rfl⟩
  | clearSubName => exact ⟨rfl, fun _ => rfl, rfl⟩

end Delivery

namespace Registrar

def delivery? (registrar : Registrar) : Call → Option Delivery
  | .deliver now command =>
    if (registrar.deliver now command).1.isOk then some ⟨registrar.params, now, command⟩ else none
  | _ => none

def deliveries : Registrar → List Call → List Delivery
  | _, [] => []
  | registrar, call :: rest => (registrar.delivery? call).toList ++ (registrar.after call).deliveries rest

/-- The reveals of bids on a name that calls carry out. -/
def revealsOn (registrar : Registrar) (id : NameId) (calls : List Call) : List Reveal :=
  (registrar.deliveries calls).filterMap fun made => made.reveal? id

theorem deliveries_append (registrar : Registrar) (calls more : List Call) :
    registrar.deliveries (calls ++ more) =
      registrar.deliveries calls ++ (registrar.afterAll calls).deliveries more := by
  induction calls generalizing registrar with
  | nil => rfl
  | cons call rest ih =>
    rw [List.cons_append, deliveries, ih, deliveries, List.append_assoc]
    rfl

theorem afterAll_append (registrar : Registrar) (calls more : List Call) :
    registrar.afterAll (calls ++ more) = (registrar.afterAll calls).afterAll more :=
  List.foldl_append

theorem Reachable.delivered {registrar next : Registrar} (h : Reachable registrar) {now : Time}
    {command : Command} {result : Except Fault (List Event)}
    (hresult : registrar.deliver now command = (result, next)) : Reachable next := by
  have hcalled := h.called (.deliver now command)
  rwa [after, hresult] at hcalled

/-! ### One call -/

open Book

variable {registrar : Registrar} {setting : Setting} {book next : Book} {outcome : Outcome} {id : NameId}
  {delivery : Option Delivery}

theorem after_idle (h : registrar.params.check = .ok ()) {call : Call}
    (hdeliver : ∀ now command, call ≠ .deliver now command) (hendBlock : ∀ now, call ≠ .endBlock now) :
    registrar.Idle (registrar.after call) := by
  rcases after_cases h call with ⟨now, command, heq⟩ | ⟨now, heq⟩ | hidle
  · exact absurd heq (hdeliver now command)
  · exact absurd heq (hendBlock now)
  · exact hidle

theorem delivery?_eq_none {call : Call} (hdeliver : ∀ now command, call ≠ .deliver now command) :
    registrar.delivery? call = none := by
  cases call with
  | deliver now command => exact absurd rfl (hdeliver now command)
  | endBlock => rfl
  | setParams => rfl
  | setRates => rfl
  | mint => rfl
  | drain => rfl

theorem Handled.renew_of_burnt {command : Command} (h : Handled setting book command outcome)
    {denom : String} (hpos : 0 < Move.sum (Move.burnt denom) outcome.moves) :
    ∃ name fee owner, command = .renew name fee owner := by
  cases h with
  | @renewed name fee owner => exact ⟨name, fee, owner, rfl⟩
  | revealedTop =>
    rw [Move.sum_append, burnt_backToTop] at hpos
    exact absurd hpos (Nat.lt_irrefl 0)
  | opened => exact absurd hpos (Nat.lt_irrefl 0)
  | bidPlaced => exact absurd hpos (Nat.lt_irrefl 0)
  | revealedBelow => exact absurd hpos (Nat.lt_irrefl 0)
  | ownerChanged => exact absurd hpos (Nat.lt_irrefl 0)
  | subNameSet => exact absurd hpos (Nat.lt_irrefl 0)
  | subNameCleared => exact absurd hpos (Nat.lt_irrefl 0)

/-- What a call does to the book, and the command that it carries out.  A torn command does what it would have
done, but counts as refused. -/
inductive Moved (registrar : Registrar) (book : Book) : Option Delivery → Book → Prop
  | unchanged : Moved registrar book none book
  | delivered {now : Time} {command : Command} {outcome : Outcome}
      (hhandled : Handled (registrar.setting now) book command outcome) :
      Moved registrar book (some ⟨registrar.params, now, command⟩) outcome.book
  | torn {now : Time} {name : Name} {fee : Bundle} {owner : Account} {outcome : Outcome}
      (hhandled : Handled (registrar.setting now) book (.renew name fee owner) outcome) :
      Moved registrar book none outcome.book
  | swept {now : Time} {outcome : Outcome} (hswept : Swept (registrar.setting now) book outcome) :
      Moved registrar book none outcome.book

/-- **What a call does to the book of a sound registrar.** -/
theorem Sound.moved (h : registrar.Sound book) (call : Call) :
    ∃ next, (registrar.after call).Sound next ∧ Moved registrar book (registrar.delivery? call) next := by
  by_cases hdeliver : ∃ now command, call = .deliver now command
  · obtain ⟨now, command, rfl⟩ := hdeliver
    have hran := h.deliver_ran now command
    rw [after, delivery?]
    generalize registrar.deliver now command = result at hran
    cases hran with
    | refused => exact ⟨book, h, .unchanged⟩
    | done hcan happlied =>
      exact ⟨_, h.of_applied happlied (h.sane.handled hcan.2), .delivered hcan.2⟩
    | torn hcan htorn =>
      obtain ⟨denom, hpos, -⟩ := htorn.exists_burnt
      obtain ⟨name, fee, owner, rfl⟩ := hcan.2.renew_of_burnt hpos
      exact ⟨_, ⟨htorn.keeps, htorn.room, h.sane.handled hcan.2, htorn.params ▸ h.checked⟩, .torn hcan.2⟩
  · have hnot : ∀ now command, call ≠ .deliver now command := fun now command heq =>
      hdeliver ⟨now, command, heq⟩
    rw [delivery?_eq_none hnot]
    by_cases hendBlock : ∃ now, call = .endBlock now
    · obtain ⟨now, rfl⟩ := hendBlock
      have hran := h.endBlock_ran now
      rw [after]
      generalize registrar.endBlock now = result at hran
      cases hran with
      | refused => exact ⟨book, h, .unchanged⟩
      | done hswept happlied => exact ⟨_, h.of_applied happlied (hswept.sane h.sane), .swept hswept⟩
      | torn hswept htorn =>
        exact ⟨_, ⟨htorn.keeps, htorn.room, hswept.sane h.sane, htorn.params ▸ h.checked⟩, .swept hswept⟩
    · have hidle := after_idle h.checked hnot fun now heq => hendBlock ⟨now, heq⟩
      exact ⟨book, h.of_eq hidle.disk hidle.checked, .unchanged⟩

/-! ### The auction of one name -/

/-- How the auction of a name and the bids on it go on. -/
inductive Proceeds (book : Book) (id : NameId) (next : Book) : Option Delivery → Prop
  | untouched {delivery : Option Delivery} (helsewhere : ∀ made, delivery = some made → made.Elsewhere id)
      (hauction : next (.auction id) = book (.auction id))
      (hbids : ∀ bidder, next (.bid id bidder) = book (.bid id bidder)) : Proceeds book id next delivery
  | opened {params : Params} {now : Time} {name : Name} {organizer : Account} {endTime : Time}
      (hid : name.id = .ok id) (hauction : next (.auction id) = some (.opened name endTime))
      (hbids : ∀ bidder, next (.bid id bidder) = book (.bid id bidder)) :
      Proceeds book id next (some ⟨params, now, .openAuction name organizer⟩)
  | bidPlaced {params : Params} {now : Time} {name : Name} {commitment : String} {deposit : Coin}
      {bidder : Account} {auction : Auction} {bid : Bid} (hid : name.id = .ok id)
      (hauction : book (.auction id) = some auction) (hphase : auction.phase = .bid)
      (hcovers : deposit.Covers params.minDeposit) (hdeposit : bid.deposit = deposit)
      (hsame : next (.auction id) = some auction) (hbid : next (.bid id bidder) = some bid)
      (hothers : ∀ other, other ≠ bidder → next (.bid id other) = book (.bid id other)) :
      Proceeds book id next (some ⟨params, now, .bid name commitment deposit bidder⟩)
  | revealed {params : Params} {now : Time} {name : Name} {salt : String} {amount : Coin}
      {bidder : Account} {auction : Auction} {bid : Bid} (hid : name.id = .ok id)
      (hauction : book (.auction id) = some auction) (hbid : book (.bid id bidder) = some bid)
      (hcovers : bid.deposit.Covers amount)
      (hnext : next (.auction id) = some (afterReveal auction amount bidder))
      (hgone : next (.bid id bidder) = none)
      (hothers : ∀ other, other ≠ bidder → next (.bid id other) = book (.bid id other)) :
      Proceeds book id next (some ⟨params, now, .reveal name salt amount bidder⟩)
  | revealStarted {auction : Auction} {endTime : Time} (hauction : book (.auction id) = some auction)
      (hnext : next (.auction id) = some { auction with phase := .reveal, endTime := endTime })
      (hbids : ∀ bidder, next (.bid id bidder) = book (.bid id bidder)) : Proceeds book id next none
  | ended (hnone : next (.auction id) = none) (hgone : ∀ bidder, next (.bid id bidder) = none) :
      Proceeds book id next none

/-- Commands about registrations leave auctions alone. -/
theorem Proceeds.of_registration {made : Delivery} (helsewhere : made.Elsewhere id)
    (hauction : next (.auction id) = book (.auction id))
    (hbids : ∀ bidder, next (.bid id bidder) = book (.bid id bidder)) : Proceeds book id next (some made) :=
  .untouched (fun other hmade => by cases hmade; exact helsewhere) hauction hbids

theorem Handled.proceeds {command : Command} (h : Handled setting book command outcome) (id : NameId) :
    Proceeds book id outcome.book (some ⟨setting.params, setting.now, command⟩) := by
  by_cases hown : command.name.id = .ok id
  · have hsame : ∀ {own : NameId}, command.name.id = .ok own → own = id := fun hid =>
      Except.ok.inj (hid.symm.trans hown)
    cases h with
    | @opened name organizer parts own endTime _ hid =>
      obtain rfl := hsame hid
      exact .opened hid (set_self ..) fun bidder => by simp
    | bidPlaced hid hauction hphase _ hcovers =>
      obtain rfl := hsame hid
      exact .bidPlaced hid hauction hphase hcovers rfl (by simpa using hauction) (set_self ..)
        fun other hne => by simp [hne]
    | @revealedTop name salt amount bidder own auction bid surplus hid hauction _ hbid _ hcovers hleads =>
      obtain rfl := hsame hid
      refine .revealed hid hauction hbid hcovers ?_ (by simp) fun other hne => by simp [hne]
      simp [afterReveal, hleads]
    | @revealedBelow name salt amount bidder own auction bid hid hauction _ hbid _ hcovers hleads =>
      obtain rfl := hsame hid
      refine .revealed hid hauction hbid hcovers ?_ (by simp) fun other hne => by simp [hne]
      simp [afterReveal, hleads]
    | renewed => exact .of_registration ⟨rfl, fun _ => rfl, rfl⟩ (by simp) fun bidder => by simp
    | ownerChanged => exact .of_registration ⟨rfl, fun _ => rfl, rfl⟩ (by simp) fun bidder => by simp
    | subNameSet => exact .of_registration ⟨rfl, fun _ => rfl, rfl⟩ (by simp) fun bidder => by simp
    | subNameCleared => exact .of_registration ⟨rfl, fun _ => rfl, rfl⟩ (by simp) fun bidder => by simp
  · obtain ⟨own, hname⟩ := h.exists_id
    have hne : id ≠ own := by
      rintro rfl
      exact hown hname
    have hrecords := h.records_eq hname hne
    exact .of_registration (Delivery.elsewhere_of_ne hname hne) (congrArg NameRecords.auction hrecords)
      fun bidder => congrFun (congrArg NameRecords.bid hrecords) bidder

theorem Swept.proceeds (hchecked : Checked setting) (hsane : book.Sane) (h : Swept setting book outcome)
    (id : NameId) : Proceeds book id outcome.book none := by
  by_cases hdue : book.IsDue setting.now id
  · have hstep := h.stepped hchecked hsane hdue
    generalize hafter : outcome.book.records id = after at hstep
    have hauction' : outcome.book (.auction id) = after.auction := congrArg NameRecords.auction hafter
    have hbids' : ∀ bidder, outcome.book (.bid id bidder) = after.bid bidder := fun bidder =>
      congrFun (congrArg NameRecords.bid hafter) bidder
    cases hstep with
    | revealStarted hauction => exact .revealStarted hauction hauction' hbids'
    | closedEmpty _ _ _ _ hnone => exact .ended hauction' fun bidder => (hbids' bidder).trans (hnone bidder)
    | awarded => exact .ended hauction' hbids'
    | closedUnsold => exact .ended hauction' hbids'
    | expired => exact .untouched nofun hauction' hbids'
  · have hrecords := h.records_eq hchecked hsane hdue
    exact .untouched nofun (congrArg NameRecords.auction hrecords)
      fun bidder => congrFun (congrArg NameRecords.bid hrecords) bidder

/-- **How the auction of a name goes on, whatever is called.** -/
theorem Moved.proceeds (h : Moved registrar book delivery next) (hsound : registrar.Sound book)
    (id : NameId) : Proceeds book id next delivery := by
  cases h with
  | unchanged => exact .untouched nofun rfl fun _ => rfl
  | delivered hhandled => exact hhandled.proceeds id
  | torn hhandled =>
    cases hhandled with
    | renewed => exact .untouched nofun (by simp) fun bidder => by simp
  | swept hswept => exact hswept.proceeds hsound.checked hsound.sane id

/-! ### Runs -/

/-- **What ties the auction of a name to the history of a run.** -/
theorem Sound.afterAll_of_proceeds {Inv : List Delivery → Book → Prop}
    (hstep : ∀ {history : List Delivery} {book next : Book} {delivery : Option Delivery}, book.Sane →
      Inv history book → Proceeds book id next delivery → Inv (history ++ delivery.toList) next)
    (h : registrar.Sound book) {history : List Delivery} (hinv : Inv history book) (calls : List Call) :
    ∃ next, (registrar.afterAll calls).Sound next ∧ Inv (history ++ registrar.deliveries calls) next := by
  induction calls generalizing registrar book history with
  | nil => exact ⟨book, h, by rwa [deliveries, List.append_nil]⟩
  | cons call rest ih =>
    obtain ⟨mid, hmid, hmoved⟩ := h.moved call
    obtain ⟨last, hlast, hkept⟩ := ih hmid (hstep h.sane hinv (hmoved.proceeds h id))
    exact ⟨last, hlast, by rwa [deliveries, ← List.append_assoc]⟩

end Registrar

end NameAuction
