import NameAuction.Proofs.Registrar.Alone
import NameAuction.Proofs.Registrar.Backing

/-!
# Sweeps cannot be blocked

A sweep burns top bids and unrevealed deposits, and all of these are liabilities.  So as long as the escrow
covers the liabilities, which no handled entry changes (`sweepable_solvent`), every burn of a sweep is
covered.  A registrar whose escrow covers its liabilities goes on to do so, even after calls that are torn
(`Covers.after`), because whatever a call moves after a burn is burned as well (`Handled.burns_last`).  If
the total of its bank fits, its sweeps succeed, until the moment is so late that a period has no end
(`endBlock_succeeds`).
-/

namespace NameAuction.Registrar

open Turn

variable {setting : Setting} {book : Book} {outcome : Outcome}

/-! ### Within a sweep -/

/-- The escrow, as the turn sees it, covers what the book is liable for. -/
structure Solvent (book : Book) (turn : Turn) : Prop where
  sane : book.Sane
  staged : ∃ bank stage, turn.vault = ⟨bank, [stage]⟩
  covered : ∀ denom, book.liability denom ≤ turn.vault.escrow.held denom

theorem Solvent.becomes {turn next : Turn} (h : Solvent book turn) (hbecomes : turn.Becomes outcome next)
    (hbalances : outcome.Balances book) (hburns : ∀ move ∈ outcome.moves, move.IsBurn)
    (hsane : outcome.book.Sane) : Solvent outcome.book next := by
  obtain ⟨bank, stage, hvault⟩ := h.staged
  have hall := hbecomes.vault
  rw [hvault] at hall
  obtain ⟨⟨top, htop, -⟩, hfunds⟩ := Vault.applyAll_staged hall
  refine ⟨hsane, ⟨bank, top, htop⟩, ?_⟩
  intro denom
  have hescrow := (Funds.applyAll_eq_ok hfunds).2 denom
  have hreleased : Move.sum (Move.released denom) outcome.moves = 0 :=
    sum_eq_zero_of_burns (fun _ => rfl) hburns
  have hcollected : Move.sum (Move.collected denom) outcome.moves = 0 :=
    sum_eq_zero_of_burns (fun _ => rfl) hburns
  have hburnt := burnt_of_balances hbalances hburns denom
  have hcovered := h.covered denom
  rw [hvault] at hcovered
  change next.vault.escrow.held denom + _ + _ = (Vault.escrow ⟨bank, [stage]⟩).held denom + _ at hescrow
  omega

/-- The burns of an outcome that balances are not refused. -/
theorem Solvent.not_refused {turn : Turn} (h : Solvent book turn) (hbalances : outcome.Balances book)
    (hburns : ∀ move ∈ outcome.moves, move.IsBurn) (fault : EscrowFault) :
    turn.vault.applyAll outcome.moves ≠ .error fault := by
  intro hrefused
  obtain ⟨bank, stage, hvault⟩ := h.staged
  have hcovered : ∀ denom, Move.sum (Move.burnt denom) outcome.moves ≤
      (Vault.funds ⟨bank, [stage]⟩).escrow.held denom := by
    intro denom
    have hburnt := burnt_of_balances hbalances hburns denom
    have hheld := h.covered denom
    rw [hvault] at hheld
    change book.liability denom ≤ (Vault.funds ⟨bank, [stage]⟩).escrow.held denom at hheld
    omega
  obtain ⟨funds, hfunds⟩ := Funds.applyAll_burns hburns hcovered
  obtain ⟨next, hnext⟩ := Vault.applyAll_of_funds hfunds
  rw [hvault, hnext] at hrefused
  cases hrefused

/-- **While the escrow covers the liabilities, every queued entry can be handled.** -/
theorem sweepable_solvent (hlate : ¬ Late setting) : Sweepable setting Solvent fun _ => False where
  settles := by
    intro book turn kind due hkeeps h hqueued
    have hfin := hkeeps.finitary
    have hagrees := Book.agrees_of_waiting (h.sane.paired.waiting_eq hqueued)
    -- taking the entry off its queue does not touch the vault
    have htaken : Solvent book (taken turn kind due) := ⟨h.sane, h.staged, h.covered⟩
    refine (settle_taken_ends hkeeps hagrees).mono ?_ ?_
    · rintro _ next ⟨outcome, hsettled, hbecomes⟩
      have hbalances := hsettled.balances_taken hfin h.sane
      exact ⟨outcome, hsettled, hbecomes,
        htaken.becomes hbecomes hbalances hsettled.burns_only (h.sane.settled hqueued hsettled)⟩
    · intro fault hstuck
      cases hstuck with
      | late hlate' => exact hlate hlate'
      | refused hsettled hrefused =>
        exact htaken.not_refused (hsettled.balances_taken hfin h.sane) hsettled.burns_only _ hrefused

/-! ### Torn calls -/

/-- After a burn a command moves nothing but burns. -/
theorem Handled.burns_last {command : Command} (h : Handled setting book command outcome) :
    outcome.moves.Pairwise fun first later => first.IsBurn → later.IsBurn := by
  cases h with
  | @revealedTop name salt amount bidder id auction =>
    rw [backToTop]
    cases auction.topBid <;> simp [Move.IsBurn]
  | renewed => simp [Move.IsBurn]
  | opened => exact .nil
  | bidPlaced => exact List.pairwise_singleton ..
  | revealedBelow => exact List.pairwise_singleton ..
  | ownerChanged => exact .nil
  | subNameSet => exact .nil
  | subNameCleared => exact .nil

theorem Swept.burns_last (h : Swept setting book outcome) :
    outcome.moves.Pairwise fun first later => first.IsBurn → later.IsBurn :=
  List.pairwise_of_forall_mem_list fun _ _ later hlater _ => h.burns_only later hlater

variable {registrar next : Registrar}

/-- A torn call leaves more in the escrow than it would have, had it been done. -/
theorem Torn.escrow_le (h : Torn registrar outcome next)
    (hlast : outcome.moves.Pairwise fun first later => first.IsBurn → later.IsBurn) {funds : Funds}
    (hfunds : registrar.bank.funds.applyAll outcome.moves = .ok funds) (denom : String) :
    funds.escrow.held denom ≤ next.bank.escrow.held denom := by
  obtain ⟨done, amount, rest, hmoves, hleft⟩ := Vault.replay_stops hfunds h.bank
  rw [hmoves] at hlast
  obtain ⟨-, hlast, -⟩ := List.pairwise_append.mp hlast
  have hburns : ∀ move ∈ Move.burn amount :: rest, move.IsBurn := by
    intro move hmove
    rcases List.mem_cons.mp hmove with rfl | hrest
    · exact ⟨amount, rfl⟩
    · exact (List.pairwise_cons.mp hlast).1 move hrest ⟨amount, rfl⟩
  have hescrow := (Funds.applyAll_eq_ok hleft).2 denom
  have hcollected : Move.sum (Move.collected denom) (.burn amount :: rest) = 0 :=
    sum_eq_zero_of_burns (fun _ => rfl) hburns
  change _ = next.bank.escrow.held denom + _ at hescrow
  omega

/-! ### Any calls -/

/-- The registrar is sound and its escrow covers what the book is liable for. -/
structure Covers (registrar : Registrar) (book : Book) : Prop where
  sound : registrar.Sound book
  covered : ∀ denom, book.liability denom ≤ registrar.bank.escrow.held denom

/-- An outcome that balances leaves the escrow covering the liabilities. -/
theorem Covers.of_applied {now : Time} (h : registrar.Covers book)
    (happlied : Applied registrar now outcome next) (hbalances : outcome.Balances book)
    (hsane : outcome.book.Sane) : next.Covers outcome.book where
  sound := h.sound.of_applied happlied hsane
  covered denom := by
    have hescrow := happlied.escrow hbalances denom
    have hcovered := h.covered denom
    omega

theorem Ran.covers {now : Time} {can : Outcome → Prop} {may : Fault → Prop}
    {result : Except Fault (List Event) × Registrar} (hran : Ran registrar now can may result)
    (h : registrar.Covers book) (hcan : Sustains book can)
    (hlast : ∀ outcome, can outcome →
      outcome.moves.Pairwise fun first later => first.IsBurn → later.IsBurn) :
    ∃ book, result.2.Covers book := by
  cases hran with
  | refused => exact ⟨book, h⟩
  | @done outcome next houtcome happlied =>
    obtain ⟨hbalances, hsane⟩ := hcan outcome houtcome
    exact ⟨outcome.book, h.of_applied happlied hbalances hsane⟩
  | @torn outcome next houtcome htorn =>
    obtain ⟨hbalances, hsane⟩ := hcan outcome houtcome
    obtain ⟨funds, hfunds⟩ := htorn.funds
    refine ⟨outcome.book, ⟨htorn.keeps, htorn.room, hsane, htorn.params ▸ h.sound.checked⟩, ?_⟩
    intro denom
    have hleft := htorn.escrow_le (hlast outcome houtcome) hfunds denom
    have hescrow := (Funds.applyAll_eq_ok hfunds).2 denom
    have hdenom := hbalances denom
    have hcovered := h.covered denom
    change _ = registrar.bank.escrow.held denom + _ at hescrow
    show outcome.book.liability denom ≤ next.bank.escrow.held denom
    omega

theorem Covers.of_idle (h : registrar.Covers book) (hidle : registrar.Idle next) :
    next.Covers book where
  sound := h.sound.of_eq hidle.disk hidle.checked
  covered denom := by
    rw [hidle.escrow]
    exact h.covered denom

/-- **A call leaves the escrow covering the liabilities, whether it succeeds, is refused or is torn.** -/
theorem Covers.after (h : registrar.Covers book) (call : Call) :
    ∃ book, (registrar.after call).Covers book := by
  rcases after_cases h.sound.checked call with ⟨now, command, rfl⟩ | ⟨now, rfl⟩ | hidle
  · exact (h.sound.deliver_ran now command).covers h (h.sound.sustains_deliver now command)
      fun _ hcan => hcan.2.burns_last
  · exact (h.sound.endBlock_ran now).covers h (h.sound.sustains_endBlock now)
      fun _ hswept => hswept.burns_last
  · exact ⟨book, h.of_idle hidle⟩

theorem Covers.afterAll (h : registrar.Covers book) (calls : List Call) :
    ∃ book, (registrar.afterAll calls).Covers book := by
  induction calls generalizing registrar book with
  | nil => exact ⟨book, h⟩
  | cons call rest ih =>
    obtain ⟨mid, hmid⟩ := h.after call
    exact ih hmid

/-- **A sweep succeeds where the escrow covers the liabilities and the total of the bank fits.** -/
theorem Covers.endBlock_eq_ok (h : registrar.Covers book) {total : Bundle}
    (htotal : registrar.bank.total = .ok total) {now : Time} (hlate : ¬ Late (registrar.setting now)) :
    ∃ events next, registrar.endBlock now = (.ok events, next) := by
  have hsolvent : Solvent book registrar.firstTurn := ⟨h.sound.sane, ⟨registrar.bank, .empty, rfl⟩, h.covered⟩
  have hran := Registrar.endBlock_ran now (sweepable_solvent hlate) h.sound.keeps h.sound.room hsolvent
  generalize registrar.endBlock now = result at hran
  cases hran with
  | refused hmay => exact hmay.elim
  | done => exact ⟨_, _, rfl⟩
  | torn _ htorn => exact absurd htorn (not_torn_of_total htotal)

/-- The escrow holds at least what the stored bids and auctions keep in it. -/
def Covered (registrar : Registrar) : Prop :=
  ∀ denom, ∃ owed, registrar.liability denom = .ok owed ∧ owed ≤ registrar.bank.escrow.held denom

theorem Covered.covers (h : registrar.Covered) (hsound : registrar.Sound book) :
    registrar.Covers book where
  sound := hsound
  covered denom := by
    obtain ⟨owed, howed, hle⟩ := h denom
    rw [hsound.liability_eq] at howed
    rw [Except.ok.inj howed]
    exact hle

theorem not_late {setting : Setting}
    (hreveal : setting.now.toNat + setting.params.revealPeriod.toNat < 2 ^ 64)
    (hrenewal : setting.now.toNat + setting.params.renewalInterval.toNat < 2 ^ 64) :
    ¬ Late setting := by
  have hfits : ∀ {period : Time} {place : Overflow},
      setting.now.toNat + period.toNat < 2 ^ 64 → setting.now.after period ≠ .error place := by
    intro period place hlt herror
    rw [Time.after] at herror
    cases hsum : setting.now.add? period with
    | none =>
      have hle := Word.ofNat?_eq_none_iff.mp hsum
      omega
    | some sum =>
      rw [hsum] at herror
      cases herror
  rintro ⟨place, herror | herror⟩
  · exact hfits hreveal herror
  · exact hfits hrenewal herror

/-- **A sweep cannot be blocked.**  If the escrow of a reachable registrar covers its liabilities, then after
any calls every sweep succeeds, as long as the total of the bank fits and the periods that start have an
end. -/
theorem endBlock_succeeds {first : Registrar} (h : Reachable first) (hcovered : first.Covered)
    (calls : List Call) {total : Bundle} (htotal : (first.afterAll calls).bank.total = .ok total)
    {now : Time} (hreveal : now.toNat + (first.afterAll calls).params.revealPeriod.toNat < 2 ^ 64)
    (hrenewal : now.toNat + (first.afterAll calls).params.renewalInterval.toNat < 2 ^ 64) :
    ∃ events next, (first.afterAll calls).endBlock now = (.ok events, next) := by
  obtain ⟨start, hsound⟩ := h.sound
  obtain ⟨book, hcovers⟩ := (hcovered.covers hsound).afterAll calls
  exact hcovers.endBlock_eq_ok htotal (not_late hreveal hrenewal)

theorem Backed.covered (h : registrar.Backed book) : registrar.Covered := by
  intro denom
  refine ⟨_, h.sound.liability_eq denom, ?_⟩
  rw [h.held_eq]

theorem Covers.to_covered (h : registrar.Covers book) : registrar.Covered :=
  fun denom => ⟨_, h.sound.liability_eq denom, h.covered denom⟩

theorem covered_standard (calls : List Call) : (standard.afterAll calls).Covered := by
  have hbacked : standard.Backed .blank := .of_start start_standard rfl
  obtain ⟨book, hcovers⟩ := (hbacked.covered.covers hbacked.sound).afterAll calls
  exact hcovers.to_covered

/-- Two accounts bid for a name, and one of them has revealed its bid. -/
def rivalRun : List Call :=
  [.mint Demo.alice (.ofCoin (luna 600000000)), .mint Demo.bob (.ofCoin (luna 700000000)),
    .deliver (moment 1000) (.openAuction ⟨"label.terra"⟩ Demo.shop),
    .deliver (moment 2000) (.sealedBid ⟨"label.terra"⟩
      (Commitment.seal "salt" ⟨"label.terra"⟩ (luna 550000000) Demo.alice) (luna 600000000) Demo.alice),
    .deliver (moment 3000) (.sealedBid ⟨"label.terra"⟩
      (Commitment.seal "rose" ⟨"label.terra"⟩ (luna 650000000) Demo.bob) (luna 700000000) Demo.bob),
    .endBlock (moment 200000),
    .deliver (moment 300000) (.reveal ⟨"label.terra"⟩ "salt" (luna 550000000) Demo.alice)]

/-- The highest amount revealed is burned, and so is the deposit of the bid that has not been revealed. -/
theorem endBlock_succeeds_rivalRun :
    ∃ next, (standard.afterAll rivalRun).endBlock (moment 459200) =
        (.ok [.settled ⟨"label.terra"⟩ Demo.alice (luna 550000000) (moment 31995200),
          .slashed ⟨"label.terra"⟩ Demo.bob (luna 700000000)], next) ∧
      next.bank.burned = .ofCoin (luna 1250000000) ∧ next.bank.escrow = .empty := by
  have hcovered : standard.Covered := (Backed.of_start start_standard rfl).covered
  obtain ⟨hok, hreveal, hrenewal, heffect⟩ : (standard.afterAll rivalRun).bank.total.isOk = true ∧
      (moment 459200).toNat + (standard.afterAll rivalRun).params.revealPeriod.toNat < 2 ^ 64 ∧
      (moment 459200).toNat + (standard.afterAll rivalRun).params.renewalInterval.toNat < 2 ^ 64 ∧
      ((standard.afterAll rivalRun).endBlock (moment 459200)).1 =
        .ok [.settled ⟨"label.terra"⟩ Demo.alice (luna 550000000) (moment 31995200),
          .slashed ⟨"label.terra"⟩ Demo.bob (luna 700000000)] ∧
      ((standard.afterAll rivalRun).endBlock (moment 459200)).2.bank.burned = .ofCoin (luna 1250000000) ∧
      ((standard.afterAll rivalRun).endBlock (moment 459200)).2.bank.escrow = .empty := by
    decide +kernel
  obtain ⟨total, htotal⟩ := exists_ok_of_isOk hok
  obtain ⟨events, next, hswept⟩ :=
    endBlock_succeeds reachable_standard hcovered rivalRun htotal hreveal hrenewal
  rw [hswept] at heffect
  obtain ⟨hevents, hbank⟩ := heffect
  obtain rfl := Except.ok.inj hevents
  exact ⟨next, hswept, hbank⟩

end NameAuction.Registrar
