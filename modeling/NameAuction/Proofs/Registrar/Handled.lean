import NameAuction.Proofs.Command
import NameAuction.Proofs.Rates
import NameAuction.Proofs.Registrar.Step
import NameAuction.Registrar.Handlers

/-!
# What commands do

`Handled` lists, one case for each command and two for a reveal, what a command that succeeds has found in
the book and what it does to it, which moves it makes and which event it tells.  A command that is
carried out on a store that keeps a book does one of these, or it fails with a fault that is not about a
broken store (`handle_ends`).
-/

namespace NameAuction

/-! ### The price of a renewal -/

/-- Faults that pricing a renewal can have, apart from a division by zero. -/
def Fault.OfPricing : Fault → Prop
  | .nameLength .. => True
  | .overflow _ => True
  | .price (.defect _) => False
  | .price _ => True
  | _ => False

namespace Renewal

open Fault

theorem convert_within (rates : Rates) (coin : Coin) (target : String) :
    Within OfPricing (Fault.lift .ofPrice (rates.convert coin target)) := by
  refine .lift_of fun fault hfault => ?_
  cases Rates.convert_eq_error hfault <;> trivial

theorem value_within (rates : Rates) (denom : String) (paid : Amount) (coins : List Coin) :
    Within OfPricing (value rates denom paid coins) := by
  induction coins generalizing paid with
  | nil => exact .ok paid
  | cons coin rest ih =>
    refine .bind (convert_within _ _ _) fun converted _ => ?_
    exact .bind (.demand trivial) fun total _ => ih total

theorem seconds_within (interval : Time) (paid price : Amount) :
    Within (fun fault => fault.OfPricing ∨ price = 0 ∧ fault = .defect .divisionByZero)
      (seconds interval paid price) := by
  refine .bind (.demand (.inl trivial)) fun product _ => ?_
  refine .bind ?_ fun quotient _ => .demand (.inl trivial)
  by_cases hprice : price = 0
  · exact .demand (.inr ⟨hprice, rfl⟩)
  · obtain ⟨quotient, hquotient⟩ := Option.ne_none_iff_exists'.mp (mt Word.div?_eq_none_iff.mp hprice)
    rw [hquotient]
    exact .ok quotient

/-- **What pricing a renewal can find.**  Only a price of zero divides by zero. -/
theorem extension_within (fee : Bundle) (labelLength : Nat) (params : Params) (rates : Rates) :
    Within (fun fault => fault.OfPricing ∨ ∃ row, params.fees.row? labelLength = some row ∧
      row.amount.amount = 0 ∧ fault = .defect .divisionByZero)
      (extension fee labelLength params rates) := by
  unfold extension
  split
  · exact .error (.inl trivial)
  · rename_i row hrow
    refine .bind ((value_within _ _ _ _).mono fun _ => .inl) fun paid _ => ?_
    exact (seconds_within _ _ _).mono fun _ => .imp_right fun h => ⟨row, hrow, h⟩

theorem extension_sound (fee : Bundle) (labelLength : Nat) (params : Params) (rates : Rates) :
    SoundIn (extension fee labelLength params rates) := by
  refine (extension_within _ _ _ _).mono fun fault h hcorrupt => ?_
  obtain hpricing | ⟨row, -, -, rfl⟩ := h
  · cases fault <;> trivial
  · exact hcorrupt

end Renewal

namespace Registrar

/-- The move that pays back the bid that has led so far. -/
def backToTop (auction : Auction) : List Move :=
  match auction.topBid with
  | none => []
  | some top => [.payOut top.bidder (.ofCoin top.amount)]

/-- What a command that succeeds does. -/
inductive Handled (setting : Setting) (book : Book) : Command → Outcome → Prop
  | opened {name : Name} {organizer : Account} {parts : Name.Parts} {id : NameId} {endTime : Time}
      (hparts : name.parts = .ok parts) (hid : name.id = .ok id)
      (hroot : parts.root = setting.params.root)
      (hlength : setting.params.minNameLength.toNat ≤ parts.parent.utf8ByteSize)
      (hfree : book (.registration id) = none) (hnew : book (.auction id) = none)
      (hend : setting.now.after setting.params.bidPeriod = .ok endTime) :
      Handled setting book (.openAuction name organizer)
        ⟨(book.set (.auction id) (some (.opened name endTime))).set (.queued .bid ⟨endTime, id⟩)
            (some ()),
          [], [.opened name organizer endTime]⟩
  | bidPlaced {name : Name} {commitment : String} {deposit : Coin} {bidder : Account} {id : NameId}
      {auction : Auction} {hidden : Commitment}
      (hid : name.id = .ok id) (hauction : book (.auction id) = some auction)
      (hphase : auction.phase = .bid) (hfirst : book (.bid id bidder) = none)
      (hcovers : deposit.Covers setting.params.minDeposit)
      (hhidden : Id.ofHex commitment = .ok hidden) :
      Handled setting book (.bid name commitment deposit bidder)
        ⟨book.set (.bid id bidder) (some ⟨hidden, deposit, bidder⟩),
          [.deposit bidder (.ofCoin deposit)], [.bidPlaced name bidder deposit]⟩
  | revealedTop {name : Name} {salt : String} {amount : Coin} {bidder : Account} {id : NameId}
      {auction : Auction} {bid : Bid} {surplus : Amount}
      (hid : name.id = .ok id) (hauction : book (.auction id) = some auction)
      (hphase : auction.phase = .reveal) (hbid : book (.bid id bidder) = some bid)
      (hseal : Commitment.seal salt name amount bidder = bid.commitment)
      (hcovers : bid.deposit.Covers amount) (hleads : leads auction amount = true)
      (hsurplus : bid.deposit.amount.sub? amount.amount = some surplus) :
      Handled setting book (.reveal name salt amount bidder)
        ⟨(book.set (.bid id bidder) none).set (.auction id)
            (some { auction with topBid := some ⟨bidder, amount⟩ }),
          backToTop auction ++ [.payOut bidder (.ofCoin ⟨amount.denom, surplus⟩)],
          [.bidRevealed name bidder amount true]⟩
  | revealedBelow {name : Name} {salt : String} {amount : Coin} {bidder : Account} {id : NameId}
      {auction : Auction} {bid : Bid}
      (hid : name.id = .ok id) (hauction : book (.auction id) = some auction)
      (hphase : auction.phase = .reveal) (hbid : book (.bid id bidder) = some bid)
      (hseal : Commitment.seal salt name amount bidder = bid.commitment)
      (hcovers : bid.deposit.Covers amount) (hleads : leads auction amount = false) :
      Handled setting book (.reveal name salt amount bidder)
        ⟨(book.set (.bid id bidder) none).set (.auction id) (some auction),
          [.payOut bidder (.ofCoin bid.deposit)], [.bidRevealed name bidder amount false]⟩
  | renewed {name : Name} {fee : Bundle} {owner : Account} {parts : Name.Parts} {id : NameId}
      {registration : Registration} {extension endTime : Time}
      (hparts : name.parts = .ok parts) (hid : name.id = .ok id)
      (hregistration : book (.registration id) = some registration)
      (howner : registration.owner = owner)
      (hextension : Renewal.extension fee parts.parent.utf8ByteSize setting.params setting.rates =
        .ok extension)
      (hend : registration.endTime.after extension = .ok endTime) :
      Handled setting book (.renew name fee owner)
        ⟨((book.set (.queued .registration ⟨registration.endTime, id⟩) none).set (.registration id)
            (some { registration with endTime := endTime })).set
            (.queued .registration ⟨endTime, id⟩) (some ()),
          [.deposit owner fee, .burn fee], [.renewed name fee endTime]⟩
  | ownerChanged {name : Name} {newOwner owner : Account} {id : NameId}
      {registration : Registration}
      (hid : name.id = .ok id) (hregistration : book (.registration id) = some registration)
      (howner : registration.owner = owner) :
      Handled setting book (.changeOwner name newOwner owner)
        ⟨book.set (.registration id) (some { registration with owner := newOwner }), [],
          [.ownerChanged name owner newOwner]⟩
  | subNameSet {name : Name} {account owner : Account} {id child : NameId}
      {registration : Registration}
      (hids : name.ids = .ok (id, child))
      (hregistration : book (.registration id) = some registration)
      (howner : registration.owner = owner) (hreverse : book (.reverse account) = none)
      (hfree : book (.resolution id child) = none) :
      Handled setting book (.setSubName name account owner)
        ⟨(book.set (.resolution id child) (some account)).set (.reverse account) (some id), [],
          [.subNameSet name account]⟩
  | subNameCleared {name : Name} {account owner : Account} {id child : NameId}
      {registration : Registration}
      (hids : name.ids = .ok (id, child))
      (hregistration : book (.registration id) = some registration)
      (howner : registration.owner = owner)
      (hresolution : book (.resolution id child) = some account) :
      Handled setting book (.clearSubName name owner)
        ⟨(book.set (.resolution id child) none).set (.reverse account) none, [],
          [.subNameCleared name account]⟩

/-! ### One command after another -/

open Step Turn

variable {setting : Setting} {book : Book} {turn : Turn}

/-- What a command leads to. -/
abbrev Handles (setting : Setting) (book : Book) (turn : Turn) (command : Command) (step : Step Unit) :
    Prop :=
  step.Ends turn (fun _ next => ∃ outcome, Handled setting book command outcome ∧
    turn.Becomes outcome next) Fault.Sound

theorem openAuction_ends (hkeeps : turn.store.Keeps book) {name : Name} (hname : Text.Fits name.text)
    (organizer : Account) :
    Handles setting book turn (.openAuction name organizer) (openAuction setting name organizer) := by
  refine .bind (.raise (fun parts hparts => ?_) fun _ _ => not_false)
  refine .bind (.ensure (fun hroot => ?_) fun _ => not_false)
  refine .bind (.ensure (fun hlength => ?_) fun _ => not_false)
  refine .bind (.raise (fun id hid => ?_) fun _ _ => not_false)
  refine .bind (.expect (fun hfree => ?_) fun _ => not_false)
  refine .bind (.expect (fun hnew => ?_) fun _ => not_false)
  refine .bind (.raise (fun endTime hend => ?_) fun _ _ => not_false)
  refine .bind (.change (.bind (.change (.tell ?_))))
  rw [hkeeps.hasRegistration] at hfree
  rw [hkeeps.hasAuction] at hnew
  have hfits : (Slot.auction id).Fits (.opened name endTime) := ⟨hname, nofun⟩
  refine ⟨_, .opened hparts hid hroot hlength (by simpa using hfree) (by simpa using hnew) hend, ?_⟩
  exact (((Becomes.refl hkeeps).put _ hfits).enqueue .bid ⟨endTime, id⟩).tell _

theorem placeBid_ends (hkeeps : turn.store.Keeps book) {name : Name} {commitment : String}
    {deposit : Coin} (hfits : deposit.Fits) (bidder : Account) :
    Handles setting book turn (.bid name commitment deposit bidder)
      (placeBid setting name commitment deposit bidder) := by
  refine .bind (.raise (fun id hid => ?_) fun _ _ => not_false)
  refine .bind (.find (hkeeps.auction? id) (fun auction hauction => ?_) fun _ => not_false)
  refine .bind (.ensure (fun hphase => ?_) fun _ => not_false)
  refine .bind (.look (hkeeps.bid? id bidder) ?_)
  refine .bind (.ensure (fun hfirst => ?_) fun _ => not_false)
  refine .bind (.ensure (fun hcovers => ?_) fun _ => not_false)
  refine .bind (.raise (fun hidden hhidden => ?_) fun _ _ => not_false)
  refine .bind (.move (fun vault hmove => ?_) fun _ _ => not_false)
  refine .bind (.change (.tell ?_))
  refine ⟨_, .bidPlaced hid hauction hphase hfirst hcovers hhidden, ?_⟩
  have hslot : (Slot.bid id bidder).Fits ⟨hidden, deposit, bidder⟩ := ⟨rfl, hfits⟩
  exact (((Becomes.refl hkeeps).move hmove).put _ hslot).tell _

theorem payBackTop_ends (hkeeps : turn.store.Keeps book) (auction : Auction) :
    (payBackTop auction).Ends turn
      (fun _ next => turn.Becomes ⟨book, backToTop auction, []⟩ next) Fault.Sound := by
  unfold payBackTop backToTop
  cases auction.topBid with
  | none => exact .pure (.refl hkeeps)
  | some top =>
    refine .move ?_ fun _ _ => not_false
    intro vault hmove
    exact (Becomes.refl hkeeps).move hmove

/-- What is paid out when a bid takes the lead. -/
theorem payOutRevealed_ends (hkeeps : turn.store.Keeps book) {auction : Auction} {bid : Bid}
    {amount : Coin} (hleads : leads auction amount = true) (bidder : Account) :
    (payOutRevealed auction bid amount bidder).Ends turn
      (fun _ next => ∃ surplus, bid.deposit.amount.sub? amount.amount = some surplus ∧
        turn.Becomes ⟨book, backToTop auction ++ [.payOut bidder (.ofCoin ⟨amount.denom, surplus⟩)], []⟩
          next) Fault.Sound := by
  rw [payOutRevealed, if_pos hleads]
  refine .bind ((payBackTop_ends hkeeps auction).mono (fun _ mid hmid => ?_) fun _ h => h)
  refine .bind (.demand (fun surplus hsurplus => ?_) fun _ => not_false)
  refine .move ?_ fun _ _ => not_false
  intro vault hmove
  exact ⟨surplus, hsurplus, hmid.move hmove⟩

theorem revealBid_ends (hkeeps : turn.store.Keeps book) (name : Name) (salt : String) (amount : Coin)
    (bidder : Account) :
    Handles setting book turn (.reveal name salt amount bidder) (revealBid name salt amount bidder) := by
  refine .bind (.raise (fun id hid => ?_) fun _ _ => not_false)
  refine .bind (.find (hkeeps.auction? id) (fun auction hauction => ?_) fun _ => not_false)
  refine .bind (.ensure (fun hphase => ?_) fun _ => not_false)
  refine .bind (.find (hkeeps.bid? id bidder) (fun bid hbid => ?_) fun _ => not_false)
  refine .bind (.ensure (fun hseal => ?_) fun _ => not_false)
  refine .bind (.ensure (fun hcovers => ?_) fun _ => not_false)
  have hauctionFits : auction.Fits := hkeeps.fits (.auction id) auction hauction
  cases hleads : leads auction amount with
  | true =>
    refine .bind ((payOutRevealed_ends hkeeps hleads bidder).mono ?_ fun _ h => h)
    rintro ⟨⟩ mid ⟨surplus, hsurplus, hmid⟩
    refine .bind (.change (.bind (.change (.tell ?_))))
    refine ⟨_, .revealedTop hid hauction hphase hbid hseal hcovers hleads hsurplus, ?_⟩
    have hdenom : amount.denom = bid.deposit.denom := hcovers.1.symm
    have hamount : amount.Fits := by
      rw [Coin.Fits, hdenom]
      exact (hkeeps.fits (.bid id bidder) bid hbid).2
    have hfits : (Slot.auction id).Fits { auction with topBid := some ⟨bidder, amount⟩ } :=
      ⟨hauctionFits.name, fun top htop => by cases htop; exact hamount⟩
    have hafter : afterReveal auction amount bidder = { auction with topBid := some ⟨bidder, amount⟩ } :=
      by rw [afterReveal, if_pos hleads]
    rw [hafter]
    exact ((hmid.delete (.bid id bidder)).put _ hfits).tell _
  | false =>
    have hnot : ¬ leads auction amount = true := by rw [hleads]; decide
    rw [payOutRevealed, if_neg hnot]
    refine .bind (.move (fun vault hmove => ?_) fun _ _ => not_false)
    refine .bind (.change (.bind (.change (.tell ?_))))
    refine ⟨_, .revealedBelow hid hauction hphase hbid hseal hcovers hleads, ?_⟩
    have hafter : afterReveal auction amount bidder = auction := by rw [afterReveal, if_neg hnot]
    rw [hafter]
    have hfits : (Slot.auction id).Fits auction := hauctionFits
    exact ((((Becomes.refl hkeeps).move hmove).delete (.bid id bidder)).put _ hfits).tell _

/-! ### Registrations -/

theorem ownedBy_ends (hkeeps : turn.store.Keeps book) (id : NameId) (owner : Account)
    {done : Registration → Turn → Prop}
    (h : ∀ registration : Registration, book (.registration id) = some registration →
      registration.owner = owner → done registration turn) :
    (ownedBy id owner).Ends turn done Fault.Sound := by
  refine .bind (.find (hkeeps.registration? id) (fun registration hregistration => ?_)
    fun _ => not_false)
  refine .bind (.ensure (fun howner => ?_) fun _ => not_false)
  exact .pure (h registration hregistration howner)

theorem renew_ends (hkeeps : turn.store.Keeps book) (name : Name) (fee : Bundle) (owner : Account) :
    Handles setting book turn (.renew name fee owner) (renew setting name fee owner) := by
  refine .bind (.raise (fun id hid => ?_) fun _ _ => not_false)
  refine .bind (ownedBy_ends hkeeps id owner fun registration hregistration howner => ?_)
  refine .bind (.raise (fun parts hparts => ?_) fun _ _ => not_false)
  refine .bind (.lift (fun extension hextension => ?_) (Renewal.extension_sound _ _ _ _))
  refine .bind (.raise (fun endTime hend => ?_) fun _ _ => not_false)
  refine .bind (.move (fun vault hdeposit => ?_) fun _ _ => not_false)
  refine .bind (.move (fun vault' hburn => ?_) fun _ _ => not_false)
  refine .bind (.change (.bind (.change (.bind (.change (.tell ?_))))))
  refine ⟨_, .renewed hparts hid hregistration howner hextension hend, ?_⟩
  have hfits : (Slot.registration id).Fits { registration with endTime := endTime } :=
    hkeeps.fits (.registration id) registration hregistration
  have hpaid := ((Becomes.refl hkeeps).move hdeposit).move hburn
  exact (((hpaid.delete (.queued .registration ⟨registration.endTime, id⟩)).put _ hfits).enqueue
    .registration ⟨endTime, id⟩).tell _

theorem changeOwner_ends (hkeeps : turn.store.Keeps book) (name : Name) (newOwner owner : Account) :
    Handles setting book turn (.changeOwner name newOwner owner) (changeOwner name newOwner owner) := by
  refine .bind (.raise (fun id hid => ?_) fun _ _ => not_false)
  refine .bind (ownedBy_ends hkeeps id owner fun registration hregistration howner => ?_)
  refine .bind (.change (.tell ?_))
  refine ⟨_, .ownerChanged hid hregistration howner, ?_⟩
  have hfits : (Slot.registration id).Fits { registration with owner := newOwner } :=
    hkeeps.fits (.registration id) registration hregistration
  exact ((Becomes.refl hkeeps).put _ hfits).tell _

theorem setSubName_ends (hkeeps : turn.store.Keeps book) (name : Name) (account owner : Account) :
    Handles setting book turn (.setSubName name account owner) (setSubName name account owner) := by
  refine .bind (.raise (fun ids hids => ?_) fun _ _ => not_false)
  refine .bind (ownedBy_ends hkeeps ids.1 owner fun registration hregistration howner => ?_)
  refine .bind (.look (hkeeps.reverse? account) ?_)
  refine .bind (.ensure (fun hreverse => ?_) fun _ => not_false)
  refine .bind (.look (hkeeps.resolution? ids.1 ids.2) ?_)
  refine .bind (.ensure (fun hfree => ?_) fun _ => not_false)
  refine .bind (.change (.bind (.change (.tell ?_))))
  refine ⟨_, .subNameSet hids hregistration howner hreverse hfree, ?_⟩
  exact (((Becomes.refl hkeeps).put (.resolution ids.1 ids.2) trivial).put (.reverse account)
    trivial).tell _

theorem clearSubName_ends (hkeeps : turn.store.Keeps book) (name : Name) (owner : Account) :
    Handles setting book turn (.clearSubName name owner) (clearSubName name owner) := by
  refine .bind (.raise (fun ids hids => ?_) fun _ _ => not_false)
  refine .bind (ownedBy_ends hkeeps ids.1 owner fun registration hregistration howner => ?_)
  refine .bind (.find (hkeeps.resolution? ids.1 ids.2) (fun account hresolution => ?_)
    fun _ => not_false)
  refine .bind (.change (.bind (.change (.tell ?_))))
  refine ⟨_, .subNameCleared hids hregistration howner hresolution, ?_⟩
  exact (((Becomes.refl hkeeps).delete (.resolution ids.1 ids.2)).delete (.reverse account)).tell _

/-- **What a checked command leads to.** -/
theorem handle_ends (hkeeps : turn.store.Keeps book) {command : Command}
    (hcheck : command.check = .ok ()) : Handles setting book turn command (handle setting command) := by
  have hname := Command.name_fits hcheck
  cases command with
  | openAuction name organizer => exact openAuction_ends hkeeps hname organizer
  | bid name commitment deposit bidder =>
    exact placeBid_ends hkeeps (Command.deposit_fits hcheck) bidder
  | reveal name salt amount bidder => exact revealBid_ends hkeeps name salt amount bidder
  | renew name fee owner => exact renew_ends hkeeps name fee owner
  | changeOwner name newOwner owner => exact changeOwner_ends hkeeps name newOwner owner
  | setSubName name account owner => exact setSubName_ends hkeeps name account owner
  | clearSubName name owner => exact clearSubName_ends hkeeps name owner

end Registrar

end NameAuction
