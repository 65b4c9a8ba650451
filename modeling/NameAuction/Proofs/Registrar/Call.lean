import NameAuction.Proofs.Registrar.Handled
import NameAuction.Proofs.Registrar.Swept
import NameAuction.Registrar.Basic

/-!
# What a call does

A call on a disk with room ends in one of three ways (`Ran`): it is refused and nothing has changed, it is
done and its outcome has been applied, or it is torn, because the writes have reached the disk and the
burned total of the bank overflows when the moves follow.  `deliver_ran` and `endBlock_ran` say this of the
two calls that run a turn.
-/

namespace NameAuction

/-! ### Flushing -/

theorem Disk.flush_eq (entries : Entries) (changes : List (Bytes × Option Bytes)) :
    (Disk.ofEntries entries).flush changes =
      (Disk.ofEntries (Store.writeAll entries changes), none) := by
  induction changes generalizing entries with
  | nil => rfl
  | cons change rest ih => exact ih (Store.write entries change.1 change.2)

theorem Store.get?_flush {entries : Entries} {store : Store} (h : (ofEntries entries).layer.Extends store)
    (key : Bytes) : (ofEntries (writeAll entries store.pending)).get? key = store.get? key := by
  obtain ⟨hlayers, hdiscard⟩ := h (by simp [layer])
  obtain ⟨base, layers⟩ := store
  cases layers with
  | nil => exact absurd rfl hlayers
  | cons layer below =>
    cases hdiscard
    rw [get?_ofEntries, get?_eq]
    rfl

namespace Registrar

/-! ### How a call ends -/

/-- The outcome of a call has been applied. -/
structure Applied (registrar : Registrar) (now : Time) (outcome : Outcome) (next : Registrar) :
    Prop where
  keeps : next.store.Keeps outcome.book
  room : next.disk.room = none
  funds : registrar.bank.funds.applyAll outcome.moves = .ok next.bank.funds
  burned : ∀ denom, next.bank.burned.held denom =
    registrar.bank.burned.held denom + Move.sum (Move.burnt denom) outcome.moves
  params : next.params = registrar.params
  rates : next.rates = registrar.rates
  log : next.log = registrar.log.appendAll now outcome.events

/-- The writes of a call have been made, and its moves up to a burn that overflows the burned total. -/
structure Torn (registrar : Registrar) (outcome : Outcome) (next : Registrar) : Prop where
  keeps : next.store.Keeps outcome.book
  room : next.disk.room = none
  funds : ∃ funds, registrar.bank.funds.applyAll outcome.moves = .ok funds
  overflows : ∃ denom, 256 ^ 16 ≤
    registrar.bank.burned.held denom + Move.sum (Move.burnt denom) outcome.moves
  bank : Vault.replay ⟨registrar.bank, []⟩ outcome.moves = (⟨next.bank, []⟩, some .overflow)
  params : next.params = registrar.params
  rates : next.rates = registrar.rates
  log : next.log = registrar.log

/-- The ways in which a call ends: it can have the outcomes `can`, and it is refused for the faults
`may`. -/
inductive Ran (registrar : Registrar) (now : Time) (can : Outcome → Prop) (may : Fault → Prop) :
    Except Fault (List Event) × Registrar → Prop
  | refused {fault : Fault} (hmay : may fault) : Ran registrar now can may (.error fault, registrar)
  | done {outcome : Outcome} {next : Registrar} (hcan : can outcome)
      (happlied : Applied registrar now outcome next) :
      Ran registrar now can may (.ok outcome.events, next)
  | torn {outcome : Outcome} {next : Registrar} (hcan : can outcome)
      (htorn : Torn registrar outcome next) :
      Ran registrar now can may (.error (.escrow .overflow), next)

theorem firstTurn_keeps {registrar : Registrar} {book : Book} (h : registrar.store.Keeps book) :
    registrar.firstTurn.store.Keeps book := h.layer

/-- The writes of a turn are flushed, and its moves are those of its outcome. -/
theorem flush_turn {registrar : Registrar} (hroom : registrar.disk.room = none) {outcome : Outcome}
    {turn : Turn} (hturn : registrar.firstTurn.Becomes outcome turn) :
    ∃ disk, registrar.disk.flush turn.store.pending = (disk, none) ∧
      disk.store.Keeps outcome.book ∧ disk.room = none := by
  obtain ⟨⟨entries, room⟩, bank, rates, params, log⟩ := registrar
  obtain rfl : room = none := hroom
  refine ⟨_, Disk.flush_eq entries turn.store.pending, ?_, rfl⟩
  exact hturn.keeps.of_get?_eq (Store.get?_flush hturn.extends_store)

theorem replay_turn {registrar : Registrar} {outcome : Outcome} {turn : Turn}
    (hturn : registrar.firstTurn.Becomes outcome turn) :
    turn.vault.commit = Vault.replay ⟨registrar.bank, []⟩ outcome.moves ∧
      turn.vault.pending = outcome.moves.flatMap Vault.recorded ∧
      registrar.bank.funds.applyAll outcome.moves = .ok turn.vault.funds := by
  obtain ⟨⟨top, hvault, hmoves⟩, hfunds⟩ := Vault.applyAll_staged hturn.vault
  have hseen : Vault.funds ⟨registrar.bank, [.empty]⟩ = registrar.bank.funds :=
    Vault.funds_stage ⟨registrar.bank, []⟩
  rw [hseen] at hfunds
  have hpending : top.moves = outcome.moves.flatMap Vault.recorded := hmoves
  refine ⟨?_, ?_, hfunds⟩
  · rw [hvault]
    show Vault.replay ⟨registrar.bank, []⟩ top.moves = _
    rw [hpending]
    exact Vault.replay_recorded registrar.bank outcome.moves
  · rw [hvault]
    exact hpending

/-- A turn that has succeeded is carried out if its burns fit. -/
theorem settle_of_fits {registrar : Registrar} (now : Time) (hroom : registrar.disk.room = none)
    {outcome : Outcome} {turn : Turn} (hturn : registrar.firstTurn.Becomes outcome turn)
    (hfits : ∀ denom,
      registrar.bank.burned.held denom + Move.sum (Move.burnt denom) outcome.moves < 256 ^ 16) :
    ∃ next, registrar.settle now turn = (.ok outcome.events, next) ∧
      Applied registrar now outcome next := by
  obtain ⟨disk, hflush, hkeeps, hdisk⟩ := flush_turn hroom hturn
  obtain ⟨hcommit, -, hfunds⟩ := replay_turn hturn
  obtain ⟨bank, hbank, hbankFunds, hburned⟩ := Vault.replay_eq hfunds hfits
  have hevents : turn.events = outcome.events := hturn.events
  rw [settle, hflush]
  simp only [hcommit, hbank, hevents]
  refine ⟨_, rfl, hkeeps, hdisk, ?_, hburned, rfl, rfl, rfl⟩
  rw [hbankFunds]
  exact hfunds

/-- Otherwise it is torn. -/
theorem settle_of_overflow {registrar : Registrar} (now : Time) (hroom : registrar.disk.room = none)
    {outcome : Outcome} {turn : Turn} (hturn : registrar.firstTurn.Becomes outcome turn) {denom : String}
    (hover : 256 ^ 16 ≤
      registrar.bank.burned.held denom + Move.sum (Move.burnt denom) outcome.moves) :
    ∃ next, registrar.settle now turn = (.error (.escrow .overflow), next) ∧
      Torn registrar outcome next := by
  obtain ⟨disk, hflush, hkeeps, hdisk⟩ := flush_turn hroom hturn
  obtain ⟨hcommit, -, hfunds⟩ := replay_turn hturn
  obtain ⟨bank, hbank⟩ := Vault.replay_of_overflow hfunds hover
  rw [settle, hflush]
  simp only [hcommit, hbank]
  exact ⟨_, rfl, hkeeps, hdisk, ⟨_, hfunds⟩, ⟨denom, hover⟩, hbank, rfl, rfl, rfl⟩

/-- **Carrying out a turn that has succeeded.** -/
theorem settle_ran {registrar : Registrar} {now : Time} {can : Outcome → Prop} {may : Fault → Prop}
    (hroom : registrar.disk.room = none) {outcome : Outcome} {turn : Turn} (hcan : can outcome)
    (hturn : registrar.firstTurn.Becomes outcome turn) :
    Ran registrar now can may (registrar.settle now turn) := by
  by_cases hfits : ∀ denom,
      registrar.bank.burned.held denom + Move.sum (Move.burnt denom) outcome.moves < 256 ^ 16
  · obtain ⟨next, hnext, happlied⟩ := settle_of_fits now hroom hturn hfits
    rw [hnext]
    exact .done hcan happlied
  · obtain ⟨denom, hdenom⟩ := Classical.not_forall.mp hfits
    obtain ⟨next, hnext, htorn⟩ := settle_of_overflow now hroom hturn (Nat.le_of_not_lt hdenom)
    rw [hnext]
    exact .torn hcan htorn

/-- **How a call ends whose step leads to one of some outcomes.** -/
theorem run_ran {registrar : Registrar} {now : Time} {step : Step Unit} {can : Outcome → Prop}
    {may : Fault → Prop} (hroom : registrar.disk.room = none)
    (hends : step.Ends registrar.firstTurn
      (fun _ next => ∃ outcome, can outcome ∧ registrar.firstTurn.Becomes outcome next) may) :
    Ran registrar now can may (registrar.run now step) := by
  rw [run]
  cases hstep : step.run registrar.firstTurn with
  | error fault => exact .refused (hends.of_error hstep)
  | ok result =>
    obtain ⟨⟨⟩, turn⟩ := result
    obtain ⟨outcome, hcan, hturn⟩ := hends.of_ok hstep
    exact settle_ran hroom hcan hturn

/-! ### The two calls -/

variable {registrar : Registrar} {book : Book}

/-- **What delivering a command does.** -/
theorem deliver_ran (hkeeps : registrar.store.Keeps book) (hroom : registrar.disk.room = none)
    (now : Time) (command : Command) :
    Ran registrar now (fun outcome => command.check = .ok () ∧
      Handled (registrar.setting now) book command outcome) Fault.Sound
      (registrar.deliver now command) := by
  rw [deliver]
  cases hcheck : command.check with
  | error fault => exact .refused (Command.check_sound command fault hcheck)
  | ok u =>
    refine run_ran hroom ((handle_ends (firstTurn_keeps hkeeps) hcheck).mono ?_ fun _ h => h)
    rintro ⟨⟩ next ⟨outcome, hhandled, hbecomes⟩
    exact ⟨outcome, ⟨rfl, hhandled⟩, hbecomes⟩

/-- **What a sweep does, under an invariant that it preserves.** -/
theorem endBlock_ran {Inv : Book → Turn → Prop} {may : Fault → Prop} (now : Time)
    (hsweep : Sweepable (registrar.setting now) Inv may) (hkeeps : registrar.store.Keeps book)
    (hroom : registrar.disk.room = none) (hinv : Inv book registrar.firstTurn) :
    Ran registrar now (Swept (registrar.setting now) book) may (registrar.endBlock now) :=
  run_ran hroom (sweep_ends hsweep (firstTurn_keeps hkeeps) hinv)

end Registrar

end NameAuction
