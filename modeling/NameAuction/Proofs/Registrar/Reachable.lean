import NameAuction.Demo.Accounts
import NameAuction.Proofs.Genesis.Seed
import NameAuction.Proofs.Registrar.Call

/-!
# Reachable registrars

A registrar is reachable if it has been started on an empty disk or seeded from a genesis, and then been
called any number of times, with any commands, at any times, successfully or not; in between its host may
mint coins, set exchange rates and parameters, and drain the log.  The store of every reachable registrar
keeps a sane book (`Reachable.sound`).
-/

namespace NameAuction.Registrar

/-- What a host can ask of a registrar. -/
inductive Call
  | deliver (now : Time) (command : Command)
  | endBlock (now : Time)
  | setParams (params : Params)
  | setRates (rates : Rates)
  | mint (account : Account) (amount : Bundle)
  | drain

/-- The registrar after a call, whether it has succeeded or not. -/
def after (registrar : Registrar) : Call → Registrar
  | .deliver now command => (registrar.deliver now command).2
  | .endBlock now => (registrar.endBlock now).2
  | .setParams params =>
    match registrar.setParams params with
    | .ok next => next
    | .error _ => registrar
  | .setRates rates => { registrar with rates := rates }
  | .mint account amount =>
    match registrar.bank.mint account amount with
    | .ok bank => { registrar with bank := bank }
    | .error _ => registrar
  | .drain => registrar.drain.2

def afterAll (registrar : Registrar) (calls : List Call) : Registrar := calls.foldl after registrar

/-- The registrars that a host can come to. -/
inductive Reachable : Registrar → Prop
  | started {bank : Bank} {rates : Rates} {params : Params} {registrar : Registrar}
      (h : start (.ofEntries ∅) bank rates params = .ok registrar) : Reachable registrar
  | seeded {bank : Bank} {rates : Rates} {genesis : Genesis} {registrar : Registrar}
      (hfits : genesis.Fits) (h : ofGenesis bank rates genesis = .ok registrar) : Reachable registrar
  | called {registrar : Registrar} (h : Reachable registrar) (call : Call) :
      Reachable (registrar.after call)

theorem Reachable.calledAll {registrar : Registrar} (h : Reachable registrar) (calls : List Call) :
    Reachable (registrar.afterAll calls) := by
  induction calls generalizing registrar with
  | nil => exact h
  | cons call rest ih => exact ih (h.called call)

/-! ### What holds of all of them -/

/-- The disk has room, the store keeps a sane book, and the parameters are good. -/
structure Sound (registrar : Registrar) (book : Book) : Prop where
  keeps : registrar.store.Keeps book
  room : registrar.disk.room = none
  sane : book.Sane
  checked : registrar.params.check = .ok ()

variable {registrar next : Registrar} {book : Book}

theorem Sound.of_applied {now : Time} {outcome : Outcome} (h : registrar.Sound book)
    (happlied : Applied registrar now outcome next) (hsane : outcome.book.Sane) :
    next.Sound outcome.book where
  keeps := happlied.keeps
  room := happlied.room
  sane := hsane
  checked := by
    rw [happlied.params]
    exact h.checked

/-- A call that succeeds, is refused or is torn leaves a sound registrar behind, with what its outcomes have
in common. -/
theorem Ran.sound {now : Time} {can : Outcome → Prop} {may : Fault → Prop}
    {result : Except Fault (List Event) × Registrar} (hran : Ran registrar now can may result)
    {Inv : Book → Prop} (h : registrar.Sound book) (hinv : Inv book)
    (hsane : ∀ outcome, can outcome → outcome.book.Sane)
    (hcan : ∀ outcome, can outcome → Inv outcome.book) : ∃ book, result.2.Sound book ∧ Inv book := by
  cases hran with
  | refused => exact ⟨book, h, hinv⟩
  | done houtcome happlied => exact ⟨_, h.of_applied happlied (hsane _ houtcome), hcan _ houtcome⟩
  | torn houtcome htorn =>
    exact ⟨_, ⟨htorn.keeps, htorn.room, hsane _ houtcome, htorn.params ▸ h.checked⟩, hcan _ houtcome⟩

theorem start_eq_ok {disk : Disk} {bank : Bank} {rates : Rates} {params : Params} :
    start disk bank rates params = .ok registrar ↔
      params.check = .ok () ∧ registrar = ⟨disk, bank, rates, params, .empty⟩ := by
  constructor
  · intro h
    obtain ⟨u, hcheck, hstart⟩ := Except.bind_eq_ok_iff.mp h
    exact ⟨Fault.lift_eq_ok hcheck, (Except.ok.inj hstart).symm⟩
  · rintro ⟨hcheck, rfl⟩
    exact Except.bind_eq_ok_iff.mpr ⟨(), by rw [hcheck]; rfl, rfl⟩

theorem setParams_eq_ok {params : Params} (h : registrar.setParams params = .ok next) :
    params.check = .ok () ∧ next = { registrar with params := params } := by
  obtain ⟨u, hcheck, hnext⟩ := Except.bind_eq_ok_iff.mp h
  exact ⟨Fault.lift_eq_ok hcheck, (Except.ok.inj hnext).symm⟩

/-- Neither the disk nor the escrow has changed, and the parameters are good. -/
structure Idle (registrar next : Registrar) : Prop where
  disk : next.disk = registrar.disk
  checked : next.params.check = .ok ()
  escrow : next.bank.escrow = registrar.bank.escrow

/-- **A call runs a turn or is idle.** -/
theorem after_cases (h : registrar.params.check = .ok ()) (call : Call) :
    (∃ now command, call = .deliver now command) ∨ (∃ now, call = .endBlock now) ∨
      registrar.Idle (registrar.after call) := by
  cases call with
  | deliver now command => exact .inl ⟨now, command, rfl⟩
  | endBlock now => exact .inr (.inl ⟨now, rfl⟩)
  | setParams params =>
    refine .inr (.inr ?_)
    rw [after]
    cases hset : registrar.setParams params with
    | error fault => exact ⟨rfl, h, rfl⟩
    | ok next =>
      obtain ⟨hcheck, rfl⟩ := setParams_eq_ok hset
      exact ⟨rfl, hcheck, rfl⟩
  | setRates rates => exact .inr (.inr ⟨rfl, h, rfl⟩)
  | mint account amount =>
    refine .inr (.inr ?_)
    rw [after]
    cases hmint : registrar.bank.mint account amount with
    | error fault => exact ⟨rfl, h, rfl⟩
    | ok bank =>
      obtain ⟨balance, -, rfl⟩ := Bank.mint_eq_ok hmint
      exact ⟨rfl, h, rfl⟩
  | drain => exact .inr (.inr ⟨rfl, h, rfl⟩)

namespace Sound

/-- **What delivering a command to a sound registrar does.** -/
theorem deliver_ran (h : registrar.Sound book) (now : Time) (command : Command) :
    Ran registrar now (fun outcome => command.check = .ok () ∧
      Handled (registrar.setting now) book command outcome) Fault.Sound
      (registrar.deliver now command) :=
  Registrar.deliver_ran h.keeps h.room now command

theorem endBlock_ran (h : registrar.Sound book) (now : Time) :
    Ran registrar now (Swept (registrar.setting now) book) Fault.OfSweep (registrar.endBlock now) :=
  Registrar.endBlock_ran now (sweepable_sane _) h.keeps h.room h.sane

/-- **Delivering a command with success.** -/
theorem deliver_ok (h : registrar.Sound book) {now : Time} {command : Command} {events : List Event}
    (hok : registrar.deliver now command = (.ok events, next)) :
    ∃ outcome, command.check = .ok () ∧ Handled (registrar.setting now) book command outcome ∧
      events = outcome.events ∧ Applied registrar now outcome next ∧ next.Sound outcome.book := by
  have hran := h.deliver_ran now command
  rw [hok] at hran
  cases hran with
  | @done outcome _ hcan happlied =>
    exact ⟨outcome, hcan.1, hcan.2, rfl, happlied, h.of_applied happlied (h.sane.handled hcan.2)⟩

theorem endBlock_ok (h : registrar.Sound book) {now : Time} {events : List Event}
    (hok : registrar.endBlock now = (.ok events, next)) :
    ∃ outcome, Swept (registrar.setting now) book outcome ∧ events = outcome.events ∧
      Applied registrar now outcome next ∧ next.Sound outcome.book := by
  have hran := h.endBlock_ran now
  rw [hok] at hran
  cases hran with
  | @done outcome _ hswept happlied =>
    exact ⟨outcome, hswept, rfl, happlied, h.of_applied happlied (hswept.sane h.sane)⟩

theorem of_eq (h : registrar.Sound book) (hdisk : next.disk = registrar.disk)
    (hparams : next.params.check = .ok ()) : next.Sound book where
  keeps := by
    have hstore : next.store = registrar.store := congrArg Disk.store hdisk
    rw [hstore]
    exact h.keeps
  room := by
    rw [hdisk]
    exact h.room
  sane := h.sane
  checked := hparams

/-- **One call**, and what the outcomes that it can have do to a property of the book. -/
theorem after_of (h : registrar.Sound book) (Inv : Book → Prop) (hinv : Inv book) (call : Call)
    (hdeliver : ∀ now command outcome, call = .deliver now command → command.check = .ok () →
      Handled (registrar.setting now) book command outcome → Inv outcome.book)
    (hendBlock : ∀ now outcome, call = .endBlock now → Swept (registrar.setting now) book outcome →
      Inv outcome.book) : ∃ book, (registrar.after call).Sound book ∧ Inv book := by
  rcases after_cases h.checked call with ⟨now, command, rfl⟩ | ⟨now, rfl⟩ | hidle
  · exact (h.deliver_ran now command).sound h hinv (fun _ hcan => h.sane.handled hcan.2)
      fun outcome hcan => hdeliver now command outcome rfl hcan.1 hcan.2
  · exact (h.endBlock_ran now).sound h hinv (fun _ hswept => hswept.sane h.sane)
      fun outcome hswept => hendBlock now outcome rfl hswept
  · exact ⟨book, h.of_eq hidle.disk hidle.checked, hinv⟩

theorem after_lasting {Inv : Book → Prop} (hlasting : Lasting Inv) (h : registrar.Sound book)
    (hinv : Inv book) (call : Call) : ∃ book, (registrar.after call).Sound book ∧ Inv book :=
  h.after_of Inv hinv call (fun _ _ _ _ hcheck hhandled => hlasting.handled h.sane hinv hcheck hhandled)
    fun _ _ _ hswept => hlasting.swept h.sane hinv hswept

theorem of_start {entries : Entries} {bank : Bank} {rates : Rates} {params : Params}
    (h : start (.ofEntries entries) bank rates params = .ok registrar)
    (hkeeps : (Store.ofEntries entries).Keeps book) (hsane : book.Sane) : registrar.Sound book := by
  obtain ⟨hcheck, rfl⟩ := start_eq_ok.mp h
  exact ⟨hkeeps, rfl, hsane, hcheck⟩

end Sound

/-- **What commands and sweeps preserve**, and what holds of a blank book and of every book that is seeded from
a genesis, holds of the book of every reachable registrar. -/
theorem Reachable.lasting {Inv : Book → Prop} (hlasting : Lasting Inv) (hblank : Inv .blank)
    (hfounds : ∀ {genesis : Genesis} {book : Book}, genesis.Founds book → Inv book)
    (h : Reachable registrar) : ∃ book, registrar.Sound book ∧ Inv book := by
  induction h with
  | started hstart => exact ⟨.blank, .of_start hstart .blank .blank, hblank⟩
  | seeded hfits hgenesis =>
    obtain ⟨store, hseed, hstart⟩ := Except.bind_eq_ok_iff.mp hgenesis
    obtain ⟨book, hkeeps, hbook⟩ := Genesis.seed_keeps hfits hseed
    exact ⟨book, .of_start hstart hkeeps hbook.sane, hfounds hbook⟩
  | called _ call ih =>
    obtain ⟨book, hsound, hinv⟩ := ih
    exact hsound.after_lasting hlasting hinv call

theorem Reachable.sound_proper (h : Reachable registrar) : ∃ book, registrar.Sound book ∧ book.Proper :=
  h.lasting lasting_proper proper_blank fun hfounds => hfounds.proper

/-- **The store of a reachable registrar keeps a sane book.** -/
theorem Reachable.sound (h : Reachable registrar) : ∃ book, registrar.Sound book := by
  have hlasting : Lasting fun _ => True := ⟨fun _ _ _ _ => trivial, fun _ _ _ _ => trivial⟩
  obtain ⟨book, hsound, -⟩ := h.lasting hlasting trivial fun _ => trivial
  exact ⟨book, hsound⟩

/-! ### The standard registrar -/

def moment (seconds : Nat) : Time := (Word.ofNat? seconds).getD 0

/-- A coin in the denomination of the standard deposit. -/
def luna (amount : Nat) : Coin := ⟨"uluna", (Word.ofNat? amount).getD 0⟩

def standardRates : Rates := .quotedIn Params.standard.minDeposit.denom

def standard : Registrar := ⟨.ofEntries ∅, .empty, standardRates, .standard, .empty⟩

theorem exists_ok_of_isOk {ε α : Type} {result : Except ε α} (h : result.isOk = true) :
    ∃ value, result = .ok value := by
  cases result with
  | ok value => exact ⟨value, rfl⟩
  | error fault => cases h

theorem exists_events_of_isOk {result : Except Fault (List Event) × Registrar}
    (h : result.1.isOk = true) : ∃ events, result = (.ok events, result.2) := by
  obtain ⟨events, hevents⟩ := exists_ok_of_isOk h
  exact ⟨events, Prod.ext hevents rfl⟩

theorem start_standard : start (.ofEntries ∅) .empty standardRates .standard = .ok standard := by
  have hcheck : Params.standard.check.isOk = true := by decide +kernel
  obtain ⟨u, hparams⟩ := exists_ok_of_isOk hcheck
  exact start_eq_ok.mpr ⟨hparams, rfl⟩

theorem reachable_standard : Reachable standard := .started start_standard

end NameAuction.Registrar
