import NameAuction.Proofs.Registrar.Footprint

/-!
# What the result of a command depends on

A command reads its own slots and moves coins, nothing else.  So from two turns whose stores agree in these
slots and whose vaults make its moves alike, it leads to the same value or to the same fault
(`Step.Twins`, `handle_twins`), and what it does is the same as well (`Handled.transfer`, `Handled.unique`).
Where the escrow covers the liabilities and the worth of the bank fits, a move of a command is refused for the
balance of its signer only (`Handled.movesAlike`).  So two such registrars answer a command alike if they agree
in its slots and in that balance (`Covers.deliver_alike`).
-/

namespace NameAuction

/-! ### Two vaults -/

namespace Vault

/-- Both vaults make the moves, or both refuse the same one of them with the same fault. -/
def MovesAlike : Vault → Vault → List Move → Prop
  | _, _, [] => True
  | vault, other, move :: rest =>
    (∃ fault, vault.apply move = .error fault ∧ other.apply move = .error fault) ∨
      ∃ next next', vault.apply move = .ok next ∧ other.apply move = .ok next' ∧
        next.MovesAlike next' rest

theorem MovesAlike.of_ok {vault other last last' : Vault} {moves : List Move}
    (h : vault.applyAll moves = .ok last) (h' : other.applyAll moves = .ok last') :
    vault.MovesAlike other moves := by
  induction moves generalizing vault other with
  | nil => trivial
  | cons move rest ih =>
    obtain ⟨next, hmove, hrest⟩ := Except.bind_eq_ok_iff.mp h
    obtain ⟨next', hmove', hrest'⟩ := Except.bind_eq_ok_iff.mp h'
    exact .inr ⟨next, next', hmove, hmove', ih hrest hrest'⟩

theorem apply_eq_error {bank : Bank} {stage : Stage} {below : List Stage} {move : Move} {fault : EscrowFault}
    (h : (funds ⟨bank, stage :: below⟩).apply move = .error fault) :
    (⟨bank, stage :: below⟩ : Vault).apply move = .error fault := by
  have hstep := apply_eq bank stage below move
  cases hcase : (⟨bank, stage :: below⟩ : Vault).apply move with
  | ok next =>
    rw [hcase] at hstep
    rw [hstep.2] at h
    cases h
  | error other =>
    rw [hcase] at hstep
    rw [Except.error.inj (hstep.symm.trans h)]

end Vault

/-! ### Two turns -/

/-- From both turns the step leads to the same value and to turns that satisfy `done`, or from both to the same
fault. -/
def Step.Twins {α : Type} (step : Step α) (turn other : Turn) (done : α → Turn → Turn → Prop) : Prop :=
  (∃ value next next', step turn = .ok (value, next) ∧ step other = .ok (value, next') ∧
    done value next next') ∨
  ∃ fault, step turn = .error fault ∧ step other = .error fault

namespace Step.Twins

variable {α β : Type} {turn other : Turn} {done : α → Turn → Turn → Prop}

theorem pure {value : α} (h : done value turn other) : Twins (pure value) turn other done :=
  .inl ⟨value, turn, other, rfl, rfl, h⟩

theorem bind {step : Step β} {rest : β → Step α}
    (h : Twins step turn other fun value next next' => Twins (rest value) next next' done) :
    Twins (step >>= rest) turn other done := by
  have hrun : ∀ turn, (step >>= rest) turn = step turn >>= fun result => rest result.1 result.2 :=
    fun _ => rfl
  rw [Twins, hrun, hrun]
  rcases h with ⟨value, next, next', hnext, hnext', hrest⟩ | ⟨fault, hfault, hfault'⟩
  · rw [hnext, hnext']
    exact hrest
  · rw [hfault, hfault']
    exact .inr ⟨fault, rfl, rfl⟩

theorem lift {check : Except Fault α} (h : ∀ value, check = .ok value → done value turn other) :
    Twins (liftM check) turn other done := by
  cases check with
  | ok value => exact .pure (h value rfl)
  | error fault => exact .inr ⟨fault, rfl, rfl⟩

theorem raise {ε : Type} {wrap : ε → Fault} {check : Except ε α}
    (h : ∀ value, check = .ok value → done value turn other) :
    Twins (StateT.lift (Fault.lift wrap check)) turn other done := by
  cases check with
  | ok value => exact .pure (h value rfl)
  | error fault => exact .inr ⟨wrap fault, rfl, rfl⟩

theorem ensure {done : Unit → Turn → Turn → Prop} {condition : Prop} [Decidable condition] {fault : Fault}
    (h : condition → done () turn other) :
    Twins (liftM (NameAuction.ensure condition fault)) turn other done :=
  .lift fun _ hok => h (ensure_eq_ok_iff.mp hok)

theorem look {question : Store → Except Fault α} {value : α} (hvalue : question turn.store = .ok value)
    (hvalue' : question other.store = .ok value) (h : done value turn other) :
    Twins (Turn.look question) turn other done := by
  rw [Twins, Turn.look, Turn.look, hvalue, hvalue']
  exact .inl ⟨value, turn, other, rfl, rfl, h⟩

theorem find {question : Store → Except Fault (Option α)} {fault : Fault} {found : Option α}
    (hfound : question turn.store = .ok found) (hfound' : question other.store = .ok found)
    (h : ∀ value, found = some value → done value turn other) :
    Twins (Turn.find question fault) turn other done := by
  rw [Twins, Turn.find, Turn.look, Turn.look, hfound, hfound']
  cases found with
  | none => exact .inr ⟨fault, rfl, rfl⟩
  | some value => exact .inl ⟨value, turn, other, rfl, rfl, h value rfl⟩

theorem expect {done : Unit → Turn → Turn → Prop} {condition : Store → Bool} {fault : Fault}
    (hsame : condition other.store = condition turn.store)
    (h : condition turn.store = true → done () turn other) :
    Twins (Turn.expect condition fault) turn other done := by
  rw [Twins, Turn.expect, Turn.look, Turn.look, hsame]
  cases hcase : condition turn.store with
  | true => exact .inl ⟨(), turn, other, rfl, rfl, h hcase⟩
  | false => exact .inr ⟨fault, rfl, rfl⟩

theorem change {done : Unit → Turn → Turn → Prop} {edit : Store → Store}
    (h : done () { turn with store := edit turn.store } { other with store := edit other.store }) :
    Twins (Turn.change edit) turn other done := .inl ⟨(), _, _, rfl, rfl, h⟩

theorem tell {done : Unit → Turn → Turn → Prop} {event : Event}
    (h : done () { turn with events := turn.events ++ [event] }
      { other with events := other.events ++ [event] }) :
    Twins (Turn.tell event) turn other done := .inl ⟨(), _, _, rfl, rfl, h⟩

theorem move {done : Unit → Turn → Turn → Prop} {move : Move} {rest : List Move}
    (halike : turn.vault.MovesAlike other.vault (move :: rest))
    (h : ∀ vault vault', vault.MovesAlike vault' rest →
      done () { turn with vault := vault } { other with vault := vault' }) :
    Twins (Turn.move move) turn other done := by
  rw [Twins, Turn.move, Turn.move]
  rcases halike with ⟨fault, hfault, hfault'⟩ | ⟨next, next', hnext, hnext', hrest⟩
  · rw [hfault, hfault']
    exact .inr ⟨_, rfl, rfl⟩
  · rw [hnext, hnext']
    exact .inl ⟨(), _, _, rfl, rfl, h next next' hrest⟩

end Step.Twins

namespace Registrar

open Step

variable {setting : Setting} {book book' : Book} {command : Command}

/-! ### The commands -/

section

variable {turn other : Turn} {start : Store}

abbrev SameResult (turn other : Turn) (step : Step Unit) : Prop := step.Twins turn other fun _ _ _ => True

/-- Two turns that a command cannot tell apart: the stores keep books that agree in its own slots, which
`start` tells, and the vaults make alike what it moves. -/
structure Indistinct (setting : Setting) (start : Store) (book book' : Book) (turn other : Turn)
    (command : Command) : Prop where
  keeps : turn.store.Keeps book
  keeps' : other.store.Keeps book'
  own : ∀ slot, command.Owns start slot → book' slot = book slot
  moves : ∀ outcome, Handled setting book command outcome →
    turn.vault.MovesAlike other.vault outcome.moves

namespace Indistinct

variable {id : NameId} (h : Indistinct setting start book book' turn other command)
  (hid : command.name.id = .ok id)

include h hid

theorem auction? : other.store.auction? id = .ok (book (.auction id)) := by
  rw [h.keeps'.auction?, h.own (.auction id) (.ofName hid rfl)]

theorem bid? (bidder : Account) : other.store.bid? id bidder = .ok (book (.bid id bidder)) := by
  rw [h.keeps'.bid?, h.own (.bid id bidder) (.ofName hid rfl)]

theorem registration? : other.store.registration? id = .ok (book (.registration id)) := by
  rw [h.keeps'.registration?, h.own (.registration id) (.ofName hid rfl)]

theorem resolution? (child : NameId) :
    other.store.resolution? id child = .ok (book (.resolution id child)) := by
  rw [h.keeps'.resolution?, h.own (.resolution id child) (.ofName hid rfl)]

theorem hasAuction : other.store.hasAuction id = turn.store.hasAuction id := by
  rw [h.keeps.hasAuction, h.keeps'.hasAuction, h.own (.auction id) (.ofName hid rfl)]

theorem hasRegistration : other.store.hasRegistration id = turn.store.hasRegistration id := by
  rw [h.keeps.hasRegistration, h.keeps'.hasRegistration, h.own (.registration id) (.ofName hid rfl)]

theorem ownedBy_twins (owner : Account) {done : Registration → Turn → Turn → Prop}
    (hdone : ∀ registration : Registration, book (.registration id) = some registration →
      registration.owner = owner → done registration turn other) :
    (ownedBy id owner).Twins turn other done := by
  refine .bind (.find (h.keeps.registration? id) (h.registration? hid) fun registration hfound => ?_)
  refine .bind (.ensure fun howner => ?_)
  exact .pure (hdone registration hfound howner)

end Indistinct

theorem openAuction_twins {name : Name} {organizer : Account}
    (h : Indistinct setting start book book' turn other (.openAuction name organizer)) :
    SameResult turn other (openAuction setting name organizer) := by
  refine .bind (.raise fun parts hparts => ?_)
  refine .bind (.ensure fun hroot => ?_)
  refine .bind (.ensure fun hlength => ?_)
  refine .bind (.raise fun id hid => ?_)
  refine .bind (.expect (congrArg Bool.not (h.hasRegistration hid)) fun hfree => ?_)
  refine .bind (.expect (congrArg Bool.not (h.hasAuction hid)) fun hnew => ?_)
  refine .bind (.raise fun endTime hend => ?_)
  exact .bind (.change (.bind (.change (.tell trivial))))

theorem placeBid_twins {name : Name} {commitment : String} {deposit : Coin} {bidder : Account}
    (h : Indistinct setting start book book' turn other (.bid name commitment deposit bidder)) :
    SameResult turn other (placeBid setting name commitment deposit bidder) := by
  refine .bind (.raise fun id hid => ?_)
  refine .bind (.find (h.keeps.auction? id) (h.auction? hid) fun auction hauction => ?_)
  refine .bind (.ensure fun hphase => ?_)
  refine .bind (.look (h.keeps.bid? id bidder) (h.bid? hid bidder) ?_)
  refine .bind (.ensure fun hfirst => ?_)
  refine .bind (.ensure fun hcovers => ?_)
  refine .bind (.raise fun hidden hhidden => ?_)
  refine .bind (.move (h.moves _ (.bidPlaced hid hauction hphase hfirst hcovers hhidden)) ?_)
  exact fun _ _ _ => .bind (.change (.tell trivial))

theorem payBackTop_twins {auction : Auction} {rest : List Move} {done : Unit → Turn → Turn → Prop}
    (halike : turn.vault.MovesAlike other.vault (backToTop auction ++ rest))
    (h : ∀ vault vault', vault.MovesAlike vault' rest →
      done () { turn with vault := vault } { other with vault := vault' }) :
    (payBackTop auction).Twins turn other done := by
  unfold payBackTop
  unfold backToTop at halike
  cases htop : auction.topBid with
  | none =>
    rw [htop] at halike
    exact .pure (h turn.vault other.vault halike)
  | some top =>
    rw [htop] at halike
    exact .move halike h

theorem payOutRevealed_twins {auction : Auction} {bid : Bid} {amount : Coin} {surplus : Amount}
    {bidder : Account} {done : Unit → Turn → Turn → Prop}
    (hsurplus : bid.deposit.amount.sub? amount.amount = some surplus)
    (halike : turn.vault.MovesAlike other.vault (revealMoves auction bid amount surplus bidder))
    (h : ∀ vault vault', done () { turn with vault := vault } { other with vault := vault' }) :
    (payOutRevealed auction bid amount bidder).Twins turn other done := by
  unfold payOutRevealed
  unfold revealMoves at halike
  by_cases hleads : leads auction amount = true
  · rw [if_pos hleads] at halike ⊢
    refine .bind (payBackTop_twins halike fun vault vault' hrest => ?_)
    rw [hsurplus]
    exact .bind (.pure (.move hrest fun _ _ _ => h _ _))
  · rw [if_neg hleads] at halike ⊢
    exact .move halike fun _ _ _ => h _ _

theorem exists_surplus {deposit amount : Coin} (hcovers : deposit.Covers amount) :
    ∃ surplus, deposit.amount.sub? amount.amount = some surplus := by
  rw [Word.sub?, if_pos hcovers.2]
  exact ⟨_, rfl⟩

/-- What a reveal does, with its moves in one form. -/
theorem Handled.of_sealed (setting : Setting) {name : Name} {salt : String} {amount : Coin}
    {bidder : Account} {id : NameId} {auction : Auction} {bid : Bid} {surplus : Amount}
    (hid : name.id = .ok id)
    (hauction : book (.auction id) = some auction) (hphase : auction.phase = .reveal)
    (hbid : book (.bid id bidder) = some bid)
    (hseal : Commitment.seal salt name amount bidder = bid.commitment)
    (hcovers : bid.deposit.Covers amount)
    (hsurplus : bid.deposit.amount.sub? amount.amount = some surplus) :
    ∃ outcome, Handled setting book (.reveal name salt amount bidder) outcome ∧
      outcome.moves = revealMoves auction bid amount surplus bidder := by
  rw [revealMoves]
  cases hleads : leads auction amount with
  | true => exact ⟨_, .revealedTop hid hauction hphase hbid hseal hcovers hleads hsurplus, rfl⟩
  | false => exact ⟨_, .revealedBelow hid hauction hphase hbid hseal hcovers hleads, rfl⟩

theorem revealBid_twins {name : Name} {salt : String} {amount : Coin} {bidder : Account}
    (h : Indistinct setting start book book' turn other (.reveal name salt amount bidder)) :
    SameResult turn other (revealBid name salt amount bidder) := by
  refine .bind (.raise fun id hid => ?_)
  refine .bind (.find (h.keeps.auction? id) (h.auction? hid) fun auction hauction => ?_)
  refine .bind (.ensure fun hphase => ?_)
  refine .bind (.find (h.keeps.bid? id bidder) (h.bid? hid bidder) fun bid hbid => ?_)
  refine .bind (.ensure fun hseal => ?_)
  refine .bind (.ensure fun hcovers => ?_)
  obtain ⟨surplus, hsurplus⟩ := exists_surplus hcovers
  obtain ⟨outcome, hhandled, hmoves⟩ :=
    Handled.of_sealed setting hid hauction hphase hbid hseal hcovers hsurplus
  refine .bind (payOutRevealed_twins hsurplus (hmoves ▸ h.moves _ hhandled) fun vault vault' => ?_)
  exact .bind (.change (.bind (.change (.tell trivial))))

theorem renew_twins {name : Name} {fee : Bundle} {owner : Account}
    (h : Indistinct setting start book book' turn other (.renew name fee owner)) :
    SameResult turn other (renew setting name fee owner) := by
  refine .bind (.raise fun id hid => ?_)
  refine .bind (h.ownedBy_twins hid owner fun registration hregistration howner => ?_)
  refine .bind (.raise fun parts hparts => ?_)
  refine .bind (.lift fun extension hextension => ?_)
  refine .bind (.raise fun endTime hend => ?_)
  refine .bind (.move (h.moves _ (.renewed hparts hid hregistration howner hextension hend)) ?_)
  refine fun _ _ hburn => .bind (.move hburn fun _ _ _ => ?_)
  exact .bind (.change (.bind (.change (.bind (.change (.tell trivial))))))

theorem changeOwner_twins {name : Name} {newOwner owner : Account}
    (h : Indistinct setting start book book' turn other (.changeOwner name newOwner owner)) :
    SameResult turn other (changeOwner name newOwner owner) := by
  refine .bind (.raise fun id hid => ?_)
  refine .bind (h.ownedBy_twins hid owner fun registration hregistration howner => ?_)
  exact .bind (.change (.tell trivial))

theorem setSubName_twins {name : Name} {account owner : Account}
    (h : Indistinct setting start book book' turn other (.setSubName name account owner)) :
    SameResult turn other (setSubName name account owner) := by
  refine .bind (.raise fun ids hids => ?_)
  have hid : name.id = .ok ids.1 := id_of_ids hids
  have hreverse : other.store.reverse? account = .ok (book (.reverse account)) := by
    rw [h.keeps'.reverse?, h.own (.reverse account) (.ofAccount rfl)]
  refine .bind (h.ownedBy_twins hid owner fun registration hregistration howner => ?_)
  refine .bind (.look (h.keeps.reverse? account) hreverse ?_)
  refine .bind (.ensure fun _ => ?_)
  refine .bind (.look (h.keeps.resolution? ids.1 ids.2) (h.resolution? hid ids.2) ?_)
  refine .bind (.ensure fun _ => ?_)
  exact .bind (.change (.bind (.change (.tell trivial))))

theorem clearSubName_twins {name : Name} {owner : Account}
    (h : Indistinct setting start book book' turn other (.clearSubName name owner)) :
    SameResult turn other (clearSubName name owner) := by
  refine .bind (.raise fun ids hids => ?_)
  have hid : name.id = .ok ids.1 := id_of_ids hids
  refine .bind (h.ownedBy_twins hid owner fun registration hregistration howner => ?_)
  refine .bind (.find (h.keeps.resolution? ids.1 ids.2) (h.resolution? hid ids.2) fun account _ => ?_)
  exact .bind (.change (.bind (.change (.tell trivial))))

/-- **A command has the same result from two turns that it cannot tell apart.** -/
theorem handle_twins (h : Indistinct setting start book book' turn other command) :
    SameResult turn other (handle setting command) := by
  cases command with
  | openAuction => exact openAuction_twins h
  | bid => exact placeBid_twins h
  | reveal => exact revealBid_twins h
  | renew => exact renew_twins h
  | changeOwner => exact changeOwner_twins h
  | setSubName => exact setSubName_twins h
  | clearSubName => exact clearSubName_twins h

end

/-! ### What it does -/

/-- **In one book a command does one thing at most.** -/
theorem Handled.unique {first second : Outcome} (h : Handled setting book command first)
    (h' : Handled setting book command second) : first = second := by
  cases h with
  | opened _ hid _ _ _ _ hend =>
    cases h' with
    | opened _ hid' _ _ _ _ hend' =>
      cases hid.symm.trans hid'
      cases hend.symm.trans hend'
      rfl
  | bidPlaced hid _ _ _ _ hhidden =>
    cases h' with
    | bidPlaced hid' _ _ _ _ hhidden' =>
      cases hid.symm.trans hid'
      cases hhidden.symm.trans hhidden'
      rfl
  | revealedTop hid hauction _ hbid _ _ hleads hsurplus =>
    cases h' with
    | revealedTop hid' hauction' _ hbid' _ _ _ hsurplus' =>
      cases hid.symm.trans hid'
      cases hauction.symm.trans hauction'
      cases hbid.symm.trans hbid'
      cases hsurplus.symm.trans hsurplus'
      rfl
    | revealedBelow hid' hauction' _ _ _ _ hleads' =>
      cases hid.symm.trans hid'
      cases hauction.symm.trans hauction'
      cases hleads.symm.trans hleads'
  | revealedBelow hid hauction _ hbid _ _ hleads =>
    cases h' with
    | revealedTop hid' hauction' _ _ _ _ hleads' =>
      cases hid.symm.trans hid'
      cases hauction.symm.trans hauction'
      cases hleads.symm.trans hleads'
    | revealedBelow hid' hauction' _ hbid' =>
      cases hid.symm.trans hid'
      cases hauction.symm.trans hauction'
      cases hbid.symm.trans hbid'
      rfl
  | renewed hparts hid hregistration _ hextension hend =>
    cases h' with
    | renewed hparts' hid' hregistration' _ hextension' hend' =>
      cases hid.symm.trans hid'
      cases hparts.symm.trans hparts'
      cases hregistration.symm.trans hregistration'
      cases hextension.symm.trans hextension'
      cases hend.symm.trans hend'
      rfl
  | ownerChanged hid hregistration =>
    cases h' with
    | ownerChanged hid' hregistration' =>
      cases hid.symm.trans hid'
      cases hregistration.symm.trans hregistration'
      rfl
  | subNameSet hids =>
    cases h' with
    | subNameSet hids' =>
      cases hids.symm.trans hids'
      rfl
  | subNameCleared hids _ _ hresolution =>
    cases h' with
    | subNameCleared hids' _ _ hresolution' =>
      cases hids.symm.trans hids'
      cases hresolution.symm.trans hresolution'
      rfl

/-- The two outcomes make the same moves, tell the same events and leave the same in some slots. -/
structure SameEffect (slots : Slot → Prop) (first second : Outcome) : Prop where
  moves : second.moves = first.moves
  events : second.events = first.events
  book : ∀ slot, slots slot → second.book slot = first.book slot

/-- A write to two books that agree in some slots leaves them so. -/
theorem agree_set {slots : Slot → Prop} (h : ∀ slot, slots slot → book' slot = book slot) (written : Slot)
    (value : Option written.Value) (slot : Slot) (hslot : slots slot) :
    book'.set written value slot = book.set written value slot := by
  by_cases heq : slot = written
  · subst heq
    rw [Book.set_self, Book.set_self]
  · rw [Book.set_of_ne _ _ heq, Book.set_of_ne _ _ heq, h slot hslot]

/-- **A command does the same in two books that agree in its own slots.** -/
theorem Handled.transfer {store : Store} {outcome : Outcome} (h : Handled setting book command outcome)
    (hown : ∀ slot, command.Owns store slot → book' slot = book slot) :
    ∃ outcome', Handled setting book' command outcome' ∧
      SameEffect (command.Owns store) outcome outcome' := by
  have hname : ∀ {id : NameId}, command.name.id = .ok id → ∀ slot : Slot, slot.name? = some id →
      book' slot = book slot := fun hid slot hslot => hown slot (.ofName hid hslot)
  cases h with
  | opened hparts hid hroot hlength hfree hnew hend =>
    exact ⟨_, .opened hparts hid hroot hlength ((hname hid (.registration _) rfl).trans hfree)
      ((hname hid (.auction _) rfl).trans hnew) hend,
      rfl, rfl, agree_set (agree_set hown _ _) _ _⟩
  | bidPlaced hid hauction hphase hfirst hcovers hhidden =>
    exact ⟨_, .bidPlaced hid ((hname hid (.auction _) rfl).trans hauction) hphase
      ((hname hid (.bid _ _) rfl).trans hfirst) hcovers hhidden, rfl, rfl, agree_set hown _ _⟩
  | revealedTop hid hauction hphase hbid hseal hcovers hleads hsurplus =>
    exact ⟨_, .revealedTop hid ((hname hid (.auction _) rfl).trans hauction) hphase
      ((hname hid (.bid _ _) rfl).trans hbid) hseal hcovers hleads hsurplus,
      rfl, rfl, agree_set (agree_set hown _ _) _ _⟩
  | revealedBelow hid hauction hphase hbid hseal hcovers hleads =>
    exact ⟨_, .revealedBelow hid ((hname hid (.auction _) rfl).trans hauction) hphase
      ((hname hid (.bid _ _) rfl).trans hbid) hseal hcovers hleads,
      rfl, rfl, agree_set (agree_set hown _ _) _ _⟩
  | renewed hparts hid hregistration howner hextension hend =>
    exact ⟨_, .renewed hparts hid ((hname hid (.registration _) rfl).trans hregistration) howner
      hextension hend, rfl, rfl, agree_set (agree_set (agree_set hown _ _) _ _) _ _⟩
  | ownerChanged hid hregistration howner =>
    exact ⟨_, .ownerChanged hid ((hname hid (.registration _) rfl).trans hregistration) howner,
      rfl, rfl, agree_set hown _ _⟩
  | subNameSet hids hregistration howner hreverse hfree =>
    have hid := id_of_ids hids
    exact ⟨_, .subNameSet hids ((hname hid (.registration _) rfl).trans hregistration) howner
      ((hown (.reverse _) (.ofAccount rfl)).trans hreverse)
      ((hname hid (.resolution _ _) rfl).trans hfree), rfl, rfl, agree_set (agree_set hown _ _) _ _⟩
  | subNameCleared hids hregistration howner hresolution =>
    have hid := id_of_ids hids
    exact ⟨_, .subNameCleared hids ((hname hid (.registration _) rfl).trans hregistration) howner
      ((hname hid (.resolution _ _) rfl).trans hresolution),
      rfl, rfl, agree_set (agree_set hown _ _) _ _⟩

/-! ### What can be refused -/

variable {registrar other : Registrar}

theorem funds_firstTurn (registrar : Registrar) :
    Vault.funds ⟨registrar.bank, [.empty]⟩ = registrar.bank.funds := Vault.funds_stage ⟨registrar.bank, []⟩

theorem deposit_eq_ok (hfits : registrar.bank.Fits) {source : Account} {amount left : Bundle}
    {fault : EscrowFault} (hdebit : (registrar.bank.balance source).debit amount fault = .ok left)
    {rest : List Move} (hburns : ∀ move ∈ rest, move.IsBurn)
    (hcovered : ∀ denom, Move.sum (Move.burnt denom) rest ≤ amount.held denom) :
    ∃ last, registrar.firstTurn.vault.applyAll (.deposit source amount :: rest) = .ok last := by
  have hheld := Bundle.debit_eq_ok_iff.mp hdebit
  have hmade : ∃ funds, registrar.bank.funds.apply (.deposit source amount) = .ok funds := by
    cases hcase : registrar.bank.funds.apply (.deposit source amount) with
    | ok funds => exact ⟨funds, rfl⟩
    | error other =>
      obtain hrefused | ⟨rest, -, hcredit⟩ := Except.bind_eq_error_iff.mp hcase
      · obtain ⟨-, denom, hlt⟩ := Bundle.debit_eq_error_iff.mp hrefused
        have hdenom := hheld denom
        change (registrar.bank.balance source).held denom < _ at hlt
        omega
      · obtain hcredit | ⟨escrow, -, hcredit⟩ := Except.bind_eq_error_iff.mp hcredit
        · obtain ⟨-, denom, hover⟩ := Bundle.credit_eq_error_iff.mp hcredit
          have hdenom := hheld denom
          have hlt := hfits.balance_add_escrow_lt source denom
          change _ ≤ registrar.bank.escrow.held denom + _ at hover
          omega
        · cases hcredit
  obtain ⟨mid, hmid⟩ := hmade
  have hescrow : ∀ denom, Move.sum (Move.burnt denom) rest ≤ mid.escrow.held denom := by
    intro denom
    have hdenom := (Funds.apply_eq_ok hmid).2 denom
    have hle := hcovered denom
    simp only [Move.released, Move.burnt, Move.collected] at hdenom
    omega
  obtain ⟨last, hlast⟩ := Funds.applyAll_burns hburns hescrow
  have hall : (Vault.funds ⟨registrar.bank, [.empty]⟩).applyAll (.deposit source amount :: rest) =
      .ok last := by
    rw [funds_firstTurn]
    exact Except.bind_eq_ok_iff.mpr ⟨mid, hmid, hlast⟩
  exact Vault.applyAll_of_funds hall

theorem deposit_eq_error {source : Account} {amount : Bundle} {fault : EscrowFault}
    (hdebit : (registrar.bank.balance source).debit amount
      (.insufficientFunds source (registrar.bank.balance source) amount) = .error fault) :
    registrar.firstTurn.vault.apply (.deposit source amount) = .error fault := by
  refine Vault.apply_eq_error ?_
  rw [funds_firstTurn]
  exact Except.bind_eq_error_iff.mpr (.inl hdebit)

theorem deposit_alike (hfits : registrar.bank.Fits) (hfits' : other.bank.Fits) {source : Account}
    (hbalance : other.bank.balance source = registrar.bank.balance source) {amount : Bundle}
    {rest : List Move} (hburns : ∀ move ∈ rest, move.IsBurn)
    (hcovered : ∀ denom, Move.sum (Move.burnt denom) rest ≤ amount.held denom) :
    registrar.firstTurn.vault.MovesAlike other.firstTurn.vault (.deposit source amount :: rest) := by
  cases hdebit : (registrar.bank.balance source).debit amount
      (.insufficientFunds source (registrar.bank.balance source) amount) with
  | error fault => exact .inl ⟨fault, deposit_eq_error hdebit, deposit_eq_error (hbalance ▸ hdebit)⟩
  | ok left =>
    obtain ⟨last, hlast⟩ := deposit_eq_ok hfits hdebit hburns hcovered
    obtain ⟨last', hlast'⟩ := deposit_eq_ok hfits' (hbalance ▸ hdebit) hburns hcovered
    exact .of_ok hlast hlast'

/-- **What a command moves is refused for the balance of its signer only.** -/
theorem Handled.movesAlike {outcome : Outcome} (hhandled : Handled setting book command outcome)
    (h : registrar.Covers book) (h' : other.Covers book') (hfits : registrar.bank.Fits)
    (hfits' : other.bank.Fits)
    (hown : ∀ slot, command.Owns registrar.store slot → book' slot = book slot)
    (hbalance : other.bank.balance command.signer = registrar.bank.balance command.signer) :
    registrar.firstTurn.vault.MovesAlike other.firstTurn.vault outcome.moves := by
  have hname : ∀ {id : NameId}, command.name.id = .ok id → ∀ slot : Slot, slot.name? = some id →
      book' slot = book slot := fun hid slot hslot => hown slot (.ofName hid hslot)
  have hreveal : ∀ {id : NameId} {bidder : Account} {auction : Auction} {bid : Bid} {amount : Coin}
      {surplus : Amount}, command.name.id = .ok id → book (.auction id) = some auction →
      book (.bid id bidder) = some bid → bid.deposit.Covers amount →
      bid.deposit.amount.sub? amount.amount = some surplus →
      registrar.firstTurn.vault.MovesAlike other.firstTurn.vault
        (revealMoves auction bid amount surplus bidder) := by
    intro id bidder auction bid amount surplus hid hauction hbid hcovers hsurplus
    obtain ⟨last, hlast⟩ := h.revealMoves_eq_ok hfits hauction hbid hcovers hsurplus
    obtain ⟨last', hlast'⟩ := h'.revealMoves_eq_ok hfits' ((hname hid (.auction id) rfl).trans hauction)
      ((hname hid (.bid id bidder) rfl).trans hbid) hcovers hsurplus
    exact .of_ok hlast hlast'
  cases hhandled with
  | bidPlaced =>
    exact deposit_alike hfits hfits' hbalance (fun _ hmem => absurd hmem List.not_mem_nil)
      fun denom => Nat.zero_le _
  | renewed =>
    refine deposit_alike hfits hfits' hbalance (fun move hmem => ?_) fun denom => Nat.le_refl _
    exact ⟨_, List.mem_singleton.mp hmem⟩
  | revealedTop hid hauction _ hbid _ hcovers hleads hsurplus =>
    have halike := hreveal hid hauction hbid hcovers hsurplus
    rwa [revealMoves, if_pos hleads] at halike
  | revealedBelow hid hauction _ hbid _ hcovers hleads =>
    obtain ⟨surplus, hsurplus⟩ := exists_surplus hcovers
    have halike := hreveal hid hauction hbid hcovers hsurplus
    rwa [revealMoves, if_neg (by rw [hleads]; decide)] at halike
  | opened => trivial
  | ownerChanged => trivial
  | subNameSet => trivial
  | subNameCleared => trivial

/-! ### Two registrars -/

/-- How two registrars answer a command alike: both refuse it for the same fault and stay as they are, or both
carry it out, with the same effect on its own slots. -/
inductive AnsweredAlike (registrar other : Registrar) (book book' : Book) (now : Time) (command : Command) :
    Prop
  | refused {fault : Fault} (h : registrar.deliver now command = (.error fault, registrar))
      (h' : other.deliver now command = (.error fault, other))
  | done {outcome outcome' : Outcome} {next next' : Registrar}
      (hhandled : Handled (registrar.setting now) book command outcome)
      (hhandled' : Handled (registrar.setting now) book' command outcome')
      (hsame : SameEffect (command.Owns registrar.store) outcome outcome')
      (h : registrar.deliver now command = (.ok outcome.events, next))
      (h' : other.deliver now command = (.ok outcome.events, next'))
      (happlied : Applied registrar now outcome next) (happlied' : Applied other now outcome' next')

theorem run_of_ok {now : Time} {step : Step Unit} {turn : Turn}
    (h : step registrar.firstTurn = .ok ((), turn)) : registrar.run now step = registrar.settle now turn := by
  have hrun : step.run registrar.firstTurn = .ok ((), turn) := h
  rw [run, hrun]

theorem run_of_error {now : Time} {step : Step Unit} {fault : Fault}
    (h : step registrar.firstTurn = .error fault) : registrar.run now step = (.error fault, registrar) := by
  have hrun : step.run registrar.firstTurn = .error fault := h
  rw [run, hrun]

/-- A turn that has succeeded is carried out where the worth of the bank fits. -/
theorem settle_of_worth (hroom : registrar.disk.room = none) (hfits : registrar.bank.Fits) (now : Time)
    {outcome : Outcome} {turn : Turn} (hturn : registrar.firstTurn.Becomes outcome turn) :
    ∃ next, registrar.settle now turn = (.ok outcome.events, next) ∧
      Applied registrar now outcome next := by
  obtain ⟨-, -, hfunds⟩ := replay_turn hturn
  exact settle_of_fits now hroom hturn (hfits.burnt_lt hfunds)

/-- **Two registrars answer a command alike if they agree in its own slots and in the balance of its signer**,
as long as the escrow of both covers the liabilities and the worth of their banks fits. -/
theorem Covers.deliver_alike (h : registrar.Covers book) (h' : other.Covers book')
    (hfits : registrar.bank.Fits) (hfits' : other.bank.Fits)
    (hsetting : other.setting = registrar.setting)
    (hown : ∀ slot, command.Owns registrar.store slot → book' slot = book slot)
    (hbalance : other.bank.balance command.signer = registrar.bank.balance command.signer) (now : Time) :
    AnsweredAlike registrar other book book' now command := by
  have hsettingNow : other.setting now = registrar.setting now := congrFun hsetting now
  cases hcheck : command.check with
  | error fault => exact .refused (by rw [deliver, hcheck]) (by rw [deliver, hcheck])
  | ok u =>
    have hkeeps := firstTurn_keeps h.sound.keeps
    have hkeeps' := firstTurn_keeps h'.sound.keeps
    have hindistinct : Indistinct (registrar.setting now) registrar.store book book' registrar.firstTurn
        other.firstTurn command :=
      ⟨hkeeps, hkeeps', hown, fun _ hhandled => hhandled.movesAlike h h' hfits hfits' hown hbalance⟩
    have hends : Handles (registrar.setting now) book registrar.firstTurn command
        (handle (registrar.setting now) command) := handle_ends hkeeps hcheck
    have hends' : Handles (registrar.setting now) book' other.firstTurn command
        (handle (registrar.setting now) command) := handle_ends hkeeps' hcheck
    have hrun : registrar.deliver now command =
        registrar.run now (handle (registrar.setting now) command) := by
      rw [deliver, hcheck]
    have hrun' : other.deliver now command = other.run now (handle (registrar.setting now) command) := by
      rw [deliver, hcheck, hsettingNow]
    rcases handle_twins hindistinct with ⟨⟨⟩, turn, turn', hturn, hturn', -⟩ | ⟨fault, hfault, hfault'⟩
    · obtain ⟨outcome, hhandled, hbecomes⟩ := hends.of_ok hturn
      obtain ⟨outcome', hhandled', hbecomes'⟩ := hends'.of_ok hturn'
      obtain ⟨found, hfound, hsame⟩ := hhandled.transfer hown
      obtain rfl := hhandled'.unique hfound
      obtain ⟨next, hnext, happlied⟩ := settle_of_worth h.sound.room hfits now hbecomes
      obtain ⟨next', hnext', happlied'⟩ := settle_of_worth h'.sound.room hfits' now hbecomes'
      refine .done hhandled hhandled' hsame ?_ ?_ happlied happlied'
      · rw [hrun, run_of_ok hturn, hnext]
      · rw [hrun', run_of_ok hturn', hnext', hsame.events]
    · exact .refused (by rw [hrun, run_of_error hfault]) (by rw [hrun', run_of_error hfault'])

end Registrar

end NameAuction
