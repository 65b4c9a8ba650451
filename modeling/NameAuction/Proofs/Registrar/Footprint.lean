import NameAuction.Proofs.Registrar.ByName
import NameAuction.Proofs.Registrar.Reveal

/-!
# What a command can touch

A command writes to the slots of its own name, and to the reverse entry of one account where it sets or clears
a sub-name (`Command.Owns`, `Handled.book_eq`).  What it moves concerns its signer and, where a reveal takes the
lead, the account that has led so far (`Handled.party_mem`).  So delivering it leaves the rest of the store and
all other balances as they are (`Reachable.deliver_touches_own`).
-/

namespace NameAuction

/-- The name that a slot belongs to; a reverse entry belongs to an account. -/
def Slot.name? : Slot → Option NameId
  | .auction id => some id
  | .bid id _ => some id
  | .registration id => some id
  | .resolution id _ => some id
  | .reverse _ => none
  | .queued _ due => some due.id

namespace Command

/-- The account whose reverse entry a command writes: the target of a sub-name that it sets, or the account to
which the sub-name leads that it clears. -/
def address? (store : Store) : Command → Option Account
  | .setSubName _ account _ => some account
  | .clearSubName name _ => do
    let ids ← name.ids.toOption
    (← (store.resolution? ids.1 ids.2).toOption)
  | _ => none

def topBid? (store : Store) : Command → Option TopBid
  | .reveal name _ _ _ => do
    let id ← name.id.toOption
    let auction ← (← (store.auction? id).toOption)
    auction.topBid
  | _ => none

/-- The account from which a reveal takes the lead. -/
def displaced? (store : Store) (command : Command) : Option Account :=
  match command with
  | .reveal _ _ amount _ =>
    ((command.topBid? store).filter fun top => top.amount.amount < amount.amount).map (·.bidder)
  | _ => none

/-- The accounts whose balances a command may change: its signer, and the top bidder of the auction in which it
reveals a bid. -/
def Touches (command : Command) (store : Store) (account : Account) : Prop :=
  account = command.signer ∨ (command.topBid? store).map (·.bidder) = some account

theorem Touches.of_displaced {command : Command} {store : Store} {account : Account}
    (h : command.displaced? store = some account) : command.Touches store account := by
  cases command with
  | reveal name salt amount bidder =>
    obtain ⟨top, htop, rfl⟩ := Option.map_eq_some_iff.mp h
    exact .inr (Option.map_eq_some_iff.mpr ⟨top, (Option.filter_eq_some_iff.mp htop).1, rfl⟩)
  | _ => cases h

inductive Owns (command : Command) (store : Store) : Slot → Prop
  | ofName {id : NameId} {slot : Slot} (hname : command.name.id = .ok id) (hslot : slot.name? = some id) :
      Owns command store slot
  | ofAccount {account : Account} (haddress : command.address? store = some account) :
      Owns command store (.reverse account)

variable {store : Store} {book : Book}

theorem address?_clearSubName (hkeeps : store.Keeps book) {name : Name} {id child : NameId}
    (hids : name.ids = .ok (id, child)) (owner : Account) :
    (Command.clearSubName name owner).address? store = book (.resolution id child) := by
  rw [address?, hids]
  show (do (← (store.resolution? id child).toOption) : Option Account) = _
  rw [hkeeps.resolution?]
  rfl

theorem topBid?_reveal (hkeeps : store.Keeps book) {name : Name} {id : NameId} (hid : name.id = .ok id)
    {auction : Auction} (hauction : book (.auction id) = some auction) (salt : String) (amount : Coin)
    (bidder : Account) : (Command.reveal name salt amount bidder).topBid? store = auction.topBid := by
  rw [topBid?, hid]
  show (do let auction ← (← (store.auction? id).toOption); auction.topBid : Option TopBid) = _
  rw [hkeeps.auction?, hauction]
  rfl

end Command

namespace Registrar

variable {setting : Setting} {book : Book} {outcome : Outcome} {command : Command} {store : Store}

/-- **A command leaves every slot as it is that is not its own.** -/
theorem Handled.book_eq (h : Handled setting book command outcome) (hkeeps : store.Keeps book) {slot : Slot}
    (hslot : ¬ command.Owns store slot) : outcome.book slot = book slot := by
  have hname : ∀ {id : NameId} (own : Slot), command.name.id = .ok id → own.name? = some id →
      slot ≠ own := by
    rintro id own hid hown rfl
    exact hslot (.ofName hid hown)
  have haccount : ∀ {account : Account}, command.address? store = some account →
      slot ≠ .reverse account := by
    rintro account haddress rfl
    exact hslot (.ofAccount haddress)
  cases h with
  | opened _ hid => simp [hname (.auction _) hid rfl, hname (.queued _ ⟨_, _⟩) hid rfl]
  | bidPlaced hid => simp [hname (.bid _ _) hid rfl]
  | revealedTop hid => simp [hname (.bid _ _) hid rfl, hname (.auction _) hid rfl]
  | revealedBelow hid => simp [hname (.bid _ _) hid rfl, hname (.auction _) hid rfl]
  | renewed _ hid => simp [hname (.registration _) hid rfl, hname (.queued _ ⟨_, _⟩) hid rfl]
  | ownerChanged hid => simp [hname (.registration _) hid rfl]
  | subNameSet hids => simp [hname (.resolution _ _) (id_of_ids hids) rfl, haccount rfl]
  | subNameCleared hids _ _ hresolution =>
    have hreverse := haccount ((Command.address?_clearSubName hkeeps hids _).trans hresolution)
    simp [hname (.resolution _ _) (id_of_ids hids) rfl, hreverse]

/-- **What a command moves concerns its signer or the account that it takes the lead from.** -/
theorem Handled.party_mem (h : Handled setting book command outcome) (hkeeps : store.Keeps book)
    {move : Move} (hmove : move ∈ outcome.moves) {account : Account} (hparty : move.party = some account) :
    account = command.signer ∨ command.displaced? store = some account := by
  have hsigner : ∀ {party : Account}, some party = some account → account = party :=
    fun heq => (Option.some.inj heq).symm
  cases h with
  | @revealedTop name salt amount bidder id auction _ _ hid hauction _ _ _ _ hleads =>
    rcases List.mem_append.mp hmove with htop | hown
    · rw [backToTop] at htop
      cases hcase : auction.topBid with
      | none =>
        rw [hcase] at htop
        cases htop
      | some top =>
        rw [hcase] at htop
        obtain rfl := List.mem_singleton.mp htop
        rw [leads, hcase] at hleads
        refine .inr ?_
        rw [Command.displaced?, Command.topBid?_reveal hkeeps hid hauction, hcase, Option.filter_some,
          if_pos hleads]
        exact hparty
    · obtain rfl := List.mem_singleton.mp hown
      exact .inl (hsigner hparty)
  | bidPlaced =>
    obtain rfl := List.mem_singleton.mp hmove
    exact .inl (hsigner hparty)
  | revealedBelow =>
    obtain rfl := List.mem_singleton.mp hmove
    exact .inl (hsigner hparty)
  | renewed =>
    rcases List.mem_cons.mp hmove with rfl | hburn
    · exact .inl (hsigner hparty)
    · obtain rfl := List.mem_singleton.mp hburn
      cases hparty
  | opened => cases hmove
  | ownerChanged => cases hmove
  | subNameSet => cases hmove
  | subNameCleared => cases hmove

variable {registrar next : Registrar}

theorem Applied.balance_eq {now : Time} (happlied : Applied registrar now outcome next)
    (h : Handled setting book command outcome) (hkeeps : registrar.store.Keeps book) {account : Account}
    (hsigner : account ≠ command.signer) (hdisplaced : command.displaced? registrar.store ≠ some account) :
    next.bank.balance account = registrar.bank.balance account := by
  refine Funds.balance_eq_of_party happlied.funds fun move hmove hparty => ?_
  rcases h.party_mem hkeeps hmove hparty with heq | heq
  · exact hsigner heq
  · exact hdisplaced heq

/-- Slots that are not a command's own keep their bytes. -/
theorem Applied.get?_eq {now : Time} (happlied : Applied registrar now outcome next)
    (h : Handled setting book command outcome) (hkeeps : registrar.store.Keeps book) {slot : Slot}
    (hslot : ¬ command.Owns registrar.store slot) :
    next.store.get? slot.key = registrar.store.get? slot.key := by
  rw [happlied.keeps.get?_key, hkeeps.get?_key, h.book_eq hkeeps hslot]

/-- **A command that is accepted touches only its own name.**  Every entry of the store that belongs to another
name, be it an auction, a registration, a bid, a resolution or a queue entry, keeps its bytes; so does every
reverse entry but that of the account whose sub-name is set or cleared.  Only the signer's balance can change,
and the balance of an account from which a reveal takes the lead. -/
theorem Reachable.deliver_touches_own (h : Reachable registrar) {now : Time} {events : List Event}
    (hok : registrar.deliver now command = (.ok events, next)) :
    ∃ id, command.name.id = .ok id ∧
      (∀ (slot : Slot) other, slot.name? = some other → other ≠ id →
        next.store.get? slot.key = registrar.store.get? slot.key) ∧
      (∀ account, command.address? registrar.store ≠ some account →
        next.store.get? (Key.reverse account) = registrar.store.get? (Key.reverse account)) ∧
      ∀ account, account ≠ command.signer → command.displaced? registrar.store ≠ some account →
        next.bank.balance account = registrar.bank.balance account := by
  obtain ⟨book, hsound⟩ := h.sound
  obtain ⟨outcome, -, hhandled, -, happlied, -⟩ := hsound.deliver_ok hok
  obtain ⟨id, hid⟩ := hhandled.exists_id
  refine ⟨id, hid, ?_, ?_, fun account => happlied.balance_eq hhandled hsound.keeps⟩
  · intro slot other hother hne
    refine happlied.get?_eq hhandled hsound.keeps ?_
    rintro (⟨hname, hslot⟩ | -)
    · have hown := Except.ok.inj (hname.symm.trans hid)
      exact hne (Option.some.inj (hother.symm.trans (hown ▸ hslot)))
    · cases hother
  · intro account haddress
    have hnot : ¬ command.Owns registrar.store (.reverse account) := by
      rintro (⟨-, hslot⟩ | hown)
      · cases hslot
      · exact haddress hown
    exact happlied.get?_eq hhandled hsound.keeps hnot

def crowdedRun : List Call :=
  rivalRun ++ [.deliver (moment 400000) (.openAuction ⟨"other.terra"⟩ Demo.shop)]

theorem deliver_touches_own_crowdedRun :
    revealOfBob.displaced? (standard.afterAll crowdedRun).store = some Demo.alice ∧
      (standard.afterAll crowdedRun).store.hasAuction (.ofText "other.terra") = true ∧
      ∃ events next, (standard.afterAll crowdedRun).deliver (moment 400000) revealOfBob =
          (.ok events, next) ∧
        next.store.get? (Key.auction (.ofText "other.terra")) =
          (standard.afterAll crowdedRun).store.get? (Key.auction (.ofText "other.terra")) ∧
        next.bank.balance Demo.shop = (standard.afterAll crowdedRun).bank.balance Demo.shop := by
  have hrun : revealOfBob.displaced? (standard.afterAll crowdedRun).store = some Demo.alice ∧
      (standard.afterAll crowdedRun).store.hasAuction (.ofText "other.terra") = true ∧
      ((standard.afterAll crowdedRun).deliver (moment 400000) revealOfBob).1.isOk = true := by
    decide +kernel
  obtain ⟨hdisplaced, hauction, hok⟩ := hrun
  obtain ⟨events, hresult⟩ := exists_events_of_isOk hok
  have hreachable : Reachable (standard.afterAll crowdedRun) := reachable_standard.calledAll _
  obtain ⟨id, hid, hstore, -, hbalance⟩ := hreachable.deliver_touches_own hresult
  have hname : revealOfBob.name.id = .ok (.ofText "label.terra") := by decide +kernel
  obtain rfl := Except.ok.inj (hid.symm.trans hname)
  refine ⟨hdisplaced, hauction, events, _, hresult, ?_, ?_⟩
  · exact hstore (.auction (.ofText "other.terra")) _ rfl (by decide +kernel)
  · exact hbalance Demo.shop (by decide +kernel) (by rw [hdisplaced]; decide +kernel)

end Registrar

end NameAuction
