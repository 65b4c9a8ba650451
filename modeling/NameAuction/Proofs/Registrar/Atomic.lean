import NameAuction.Proofs.Registrar.Reachable

/-!
# Calls that fail

A call that fails changes nothing, unless its turn succeeds and burns more than the burned total can take
(`Registrar.Overburns`).  The stage over the bank does not know that total, so such a turn reaches the disk
before a burn of it is refused: a renewal has then brought its fee into the escrow, and a sweep has
forgotten an auction.  So the condition is exact (`unchanged_iff_not_overburns`).
-/

namespace NameAuction

/-! ### What a torn call has changed -/

/-- No auction is new, and where something is burned an auction is gone. -/
structure Outcome.Shrinks (outcome : Outcome) (book : Book) : Prop where
  gone : ∀ id, book (.auction id) = none → outcome.book (.auction id) = none
  burned : ∀ denom, 0 < Move.sum (Move.burnt denom) outcome.moves →
    ∃ id, book (.auction id) ≠ none ∧ outcome.book (.auction id) = none

namespace Outcome.Shrinks

variable {book : Book} {outcome : Outcome}

theorem andThen {first second : Outcome} (h : first.Shrinks book) (h' : second.Shrinks first.book) :
    (first.andThen second).Shrinks book where
  gone id hnone := h'.gone id (h.gone id hnone)
  burned denom hpos := by
    simp only [Outcome.andThen, Move.sum_append] at hpos
    by_cases hfirst : 0 < Move.sum (Move.burnt denom) first.moves
    · obtain ⟨id, hsome, hnone⟩ := h.burned denom hfirst
      exact ⟨id, hsome, h'.gone id hnone⟩
    · obtain ⟨id, hsome, hnone⟩ := h'.burned denom (by omega)
      exact ⟨id, fun hbook => hsome (h.gone id hbook), hnone⟩

theorem of_auctions_eq {before : Book} (h : outcome.Shrinks before)
    (hauctions : ∀ id, before (.auction id) = book (.auction id)) : outcome.Shrinks book where
  gone id hnone := h.gone id ((hauctions id).trans hnone)
  burned denom hpos := by
    obtain ⟨id, hsome, hnone⟩ := h.burned denom hpos
    exact ⟨id, fun heq => hsome ((hauctions id).trans heq), hnone⟩

/-- One auction is gone. -/
theorem of_gone {id : NameId} {auction : Auction} (hauction : book (.auction id) = some auction)
    (hnone : outcome.book (.auction id) = none)
    (hother : ∀ other, other ≠ id → outcome.book (.auction other) = book (.auction other)) :
    outcome.Shrinks book where
  gone other hfree := by
    by_cases heq : other = id
    · rw [heq]
      exact hnone
    · rw [hother other heq]
      exact hfree
  burned _ _ := by
    refine ⟨id, ?_, hnone⟩
    rw [hauction]
    exact Option.some_ne_none _

theorem of_moves_nil {next : Book} {events : List Event}
    (h : ∀ id, book (.auction id) = none → next (.auction id) = none) :
    Outcome.Shrinks ⟨next, [], events⟩ book where
  gone := h
  burned denom hpos := absurd hpos (by simp)

end Outcome.Shrinks

namespace Registrar

open Book

variable {setting : Setting} {book : Book} {outcome : Outcome}

theorem Settled.shrinks {kind : QueueKind} {due : Due} (h : Settled setting book kind due outcome) :
    outcome.Shrinks book := by
  cases h with
  | @revealStarted _ auction endTime hauction =>
    refine .of_moves_nil ?_
    intro id hnone
    have hne : id ≠ due.id := by
      rintro rfl
      rw [hauction] at hnone
      cases hnone
    simpa [hne] using hnone
  | closedEmpty hauction => exact .of_gone hauction (by simp) fun other hne => by simp [hne]
  | awarded hauction =>
    exact .of_gone hauction (by simp [clear, bidSlots]) fun other hne => by simp [clear, bidSlots, hne]
  | closedUnsold hauction =>
    exact .of_gone hauction (by simp [clear, bidSlots]) fun other hne => by simp [clear, bidSlots, hne]
  | expired => exact .of_moves_nil fun id hnone => by simp [clear, resolutionSlots, hnone]

theorem Swept.shrinks (h : Swept setting book outcome) : outcome.Shrinks book := by
  have hcarried : Carried setting (fun _ => True) fun book outcome => outcome.Shrinks book :=
    { start := fun _ => .of_moves_nil fun _ hnone => hnone
      andThen := fun hfirst hsecond => hfirst.andThen hsecond
      settled := fun _ _ _ hsettled => ⟨hsettled.shrinks.of_auctions_eq fun id => by simp, trivial⟩ }
  exact (h.related hcarried trivial).1

/-- A renewal whose burn is refused has brought its fee into the escrow. -/
theorem escrow_grows {bank next : Bank} {owner : Account} {fee : Bundle} {funds : Funds}
    (hfunds : bank.funds.applyAll [.deposit owner fee, .burn fee] = .ok funds) {denom : String}
    (hover : 256 ^ 16 ≤ bank.burned.held denom + fee.held denom)
    (hreplay : Vault.replay ⟨bank, []⟩ [.deposit owner fee, .burn fee] =
      (⟨next, []⟩, some .overflow)) :
    next.escrow.held denom = bank.escrow.held denom + fee.held denom := by
  obtain ⟨mid, hdeposit, hrest⟩ := Except.bind_eq_ok_iff.mp hfunds
  have hfits : ∀ other, bank.burned.held other + Move.burnt other (.deposit owner fee) < 256 ^ 16 :=
    fun other => bank.burned.held_lt other
  obtain ⟨paid, hpaid, hpaidFunds, hburned⟩ := Bank.apply_eq_ok hdeposit hfits
  obtain ⟨last, hburn, -⟩ := Except.bind_eq_ok_iff.mp hrest
  have hrefused : paid.apply (.burn fee) = .error .overflow := by
    have hpaidOver : 256 ^ 16 ≤ paid.burned.held denom + Move.burnt denom (.burn fee) := by
      rw [hburned denom]
      exact hover
    rw [← hpaidFunds] at hburn
    exact Bank.apply_of_overflow hburn hpaidOver
  rw [Vault.replay, Vault.apply_bank, hpaid] at hreplay
  simp only [Except.map] at hreplay
  rw [Vault.replay, Vault.apply_bank, hrefused] at hreplay
  obtain rfl : paid = next := congrArg (fun result => result.1.bank) hreplay
  obtain ⟨-, hescrow⟩ := Funds.apply_eq_ok hdeposit
  have hheld := hescrow denom
  rw [← hpaidFunds] at hheld
  exact hheld

/-! ### When a call that fails changes nothing -/

/-- The step succeeds, but the moves that it has staged burn more than the burned total can take. -/
def Overburns (registrar : Registrar) (step : Step Unit) : Prop :=
  ∃ turn denom, step.run registrar.firstTurn = .ok ((), turn) ∧
    256 ^ 16 ≤ registrar.bank.burned.held denom + Move.sum (Move.burnt denom) turn.vault.pending

variable {registrar next : Registrar}

theorem burnt_recorded (moves : List Move) (denom : String) :
    Move.sum (Move.burnt denom) (moves.flatMap Vault.recorded) = Move.sum (Move.burnt denom) moves := by
  induction moves with
  | nil => rfl
  | cons move rest ih =>
    rw [List.flatMap_cons, Move.sum_append, Move.sum_cons, ih, Vault.recorded]
    split
    · rename_i hempty
      rw [Move.sum_nil, Bank.burnt_of_isEmpty hempty]
    · rw [Move.sum_cons, Move.sum_nil, Nat.add_zero]

/-- A step that leads to an outcome overburns if the moves of the outcome do. -/
theorem overburns_iff {step : Step Unit} {turn : Turn} (hstep : step.run registrar.firstTurn = .ok ((), turn))
    (hturn : registrar.firstTurn.Becomes outcome turn) :
    registrar.Overburns step ↔ ∃ denom, 256 ^ 16 ≤
      registrar.bank.burned.held denom + Move.sum (Move.burnt denom) outcome.moves := by
  obtain ⟨-, hpending, -⟩ := replay_turn hturn
  have hburnt : ∀ denom, Move.sum (Move.burnt denom) turn.vault.pending =
      Move.sum (Move.burnt denom) outcome.moves := fun denom => by
    rw [hpending, burnt_recorded]
  constructor
  · rintro ⟨other, denom, hother, hover⟩
    rw [hstep] at hother
    cases hother
    exact ⟨denom, by rwa [hburnt] at hover⟩
  · rintro ⟨denom, hover⟩
    exact ⟨turn, denom, hstep, by rwa [hburnt]⟩

/-- **When running a step fails without a trace.** -/
theorem run_unchanged_iff {now : Time} {step : Step Unit} {can : Outcome → Prop} {may : Fault → Prop}
    (hroom : registrar.disk.room = none)
    (hends : step.Ends registrar.firstTurn
      (fun _ next => ∃ outcome, can outcome ∧ registrar.firstTurn.Becomes outcome next) may)
    (htorn : ∀ outcome next, can outcome → Torn registrar outcome next → next ≠ registrar)
    {fault : Fault} (h : registrar.run now step = (.error fault, next)) :
    next = registrar ↔ ¬ registrar.Overburns step := by
  rw [run] at h
  cases hstep : step.run registrar.firstTurn with
  | error other =>
    rw [hstep] at h
    refine ⟨?_, fun _ => (congrArg Prod.snd h).symm⟩
    intro _
    rintro ⟨turn, denom, hother, -⟩
    rw [hstep] at hother
    cases hother
  | ok result =>
    obtain ⟨⟨⟩, turn⟩ := result
    rw [hstep] at h
    obtain ⟨outcome, hcan, hturn⟩ := hends.of_ok hstep
    rw [overburns_iff hstep hturn]
    by_cases hover : ∃ denom, 256 ^ 16 ≤
        registrar.bank.burned.held denom + Move.sum (Move.burnt denom) outcome.moves
    · obtain ⟨denom, hdenom⟩ := hover
      obtain ⟨left, hsettle, hleft⟩ := settle_of_overflow now hroom hturn hdenom
      obtain rfl : left = next := congrArg Prod.snd (hsettle.symm.trans h)
      exact ⟨fun heq => absurd heq (htorn outcome left hcan hleft), fun hnot => absurd ⟨denom, hdenom⟩ hnot⟩
    · have hfits : ∀ denom, registrar.bank.burned.held denom +
          Move.sum (Move.burnt denom) outcome.moves < 256 ^ 16 :=
        fun denom => Nat.lt_of_not_le fun hle => hover ⟨denom, hle⟩
      obtain ⟨done, hsettle, -⟩ := settle_of_fits now hroom hturn hfits
      have hok := congrArg Prod.fst (hsettle.symm.trans h)
      cases hok

theorem Handled.burns {command : Command} (h : Handled setting book command outcome) :
    (∀ denom, Move.sum (Move.burnt denom) outcome.moves = 0) ∨
      ∃ owner fee, outcome.moves = [.deposit owner fee, .burn fee] := by
  cases h with
  | @revealedTop name salt amount bidder id auction =>
    refine .inl ?_
    intro denom
    rw [Move.sum_append, backToTop]
    cases auction.topBid <;> rfl
  | @renewed name fee owner => exact .inr ⟨owner, fee, rfl⟩
  | opened => exact .inl fun _ => rfl
  | bidPlaced => exact .inl fun _ => rfl
  | revealedBelow => exact .inl fun _ => rfl
  | ownerChanged => exact .inl fun _ => rfl
  | subNameSet => exact .inl fun _ => rfl
  | subNameCleared => exact .inl fun _ => rfl

theorem Torn.exists_burnt (h : Torn registrar outcome next) :
    ∃ denom, 0 < Move.sum (Move.burnt denom) outcome.moves ∧
      256 ^ 16 ≤ registrar.bank.burned.held denom + Move.sum (Move.burnt denom) outcome.moves := by
  obtain ⟨denom, hover⟩ := h.overflows
  have hlt := registrar.bank.burned.held_lt denom
  exact ⟨denom, by omega, hover⟩

/-- A torn command was a renewal, and its fee is in the escrow. -/
theorem ne_of_torn_command {command : Command} (hhandled : Handled setting book command outcome)
    (htorn : Torn registrar outcome next) : next ≠ registrar := by
  rintro rfl
  obtain ⟨denom, hpos, hover⟩ := htorn.exists_burnt
  rcases hhandled.burns with hzero | ⟨owner, fee, hmoves⟩
  · rw [hzero denom] at hpos
    exact Nat.lt_irrefl 0 hpos
  · obtain ⟨funds, hfunds⟩ := htorn.funds
    have hreplay := htorn.bank
    have hburnt : Move.sum (Move.burnt denom) outcome.moves = fee.held denom := by
      rw [hmoves]
      simp [Move.burnt]
    rw [hmoves] at hfunds hreplay
    rw [hburnt] at hpos hover
    have hescrow := escrow_grows hfunds hover hreplay
    omega

theorem ne_of_torn_sweep (hkeeps : registrar.store.Keeps book) (hswept : Swept setting book outcome)
    (htorn : Torn registrar outcome next) : next ≠ registrar := by
  rintro rfl
  obtain ⟨denom, hpos, -⟩ := htorn.exists_burnt
  obtain ⟨id, hsome, hnone⟩ := hswept.shrinks.burned denom hpos
  rw [htorn.keeps.unique hkeeps] at hnone
  exact hsome hnone

/-- **A call that fails changes nothing, exactly where its turn does not overburn.** -/
theorem unchanged_iff_not_overburns (h : Reachable registrar) (now : Time) :
    (∀ command fault next, registrar.deliver now command = (.error fault, next) →
      (next = registrar ↔ ¬ (command.check = .ok () ∧
        registrar.Overburns (handle (registrar.setting now) command)))) ∧
    ∀ fault next, registrar.endBlock now = (.error fault, next) →
      (next = registrar ↔ ¬ registrar.Overburns (sweep (registrar.setting now))) := by
  obtain ⟨book, hsound⟩ := h.sound
  have hkeeps : registrar.firstTurn.store.Keeps book := firstTurn_keeps hsound.keeps
  constructor
  · intro command fault next hdeliver
    rw [deliver] at hdeliver
    cases hcheck : command.check with
    | error other =>
      rw [hcheck] at hdeliver
      refine ⟨?_, fun _ => (congrArg Prod.snd hdeliver).symm⟩
      intro _
      rintro ⟨hok, -⟩
      cases hok
    | ok u =>
      rw [hcheck] at hdeliver
      have hiff := run_unchanged_iff hsound.room (handle_ends hkeeps hcheck)
        (fun outcome next hhandled htorn => ne_of_torn_command hhandled htorn) hdeliver
      rw [hiff, and_iff_right rfl]
  · intro fault next hendBlock
    exact run_unchanged_iff hsound.room (sweep_ends (sweepable_sane _) hkeeps hsound.sane)
      (fun outcome next hswept htorn => ne_of_torn_sweep hsound.keeps hswept htorn) hendBlock

/-! ### A sweep that is torn -/

/-- The most coins that there can be of a denomination are burned as an unrevealed deposit, and then
another deposit is due to be burned. -/
def burnedOut : List Call :=
  [.mint Demo.alice (.ofCoin (luna (2 ^ 128 - 1))),
    .deliver (moment 1000) (.openAuction ⟨"first.terra"⟩ Demo.shop),
    .deliver (moment 1000) (.sealedBid ⟨"first.terra"⟩ Id.zero (luna (2 ^ 128 - 1)) Demo.alice),
    .endBlock (moment 200000), .endBlock (moment 500000),
    .mint Demo.bob (.ofCoin (luna 512000000)),
    .deliver (moment 600000) (.openAuction ⟨"second.terra"⟩ Demo.shop),
    .deliver (moment 600000) (.sealedBid ⟨"second.terra"⟩ Id.zero (luna 512000000) Demo.bob),
    .endBlock (moment 800000)]

def lastId : NameId := .ofText "second.terra"

/-- The last sweep fails, but the auction of the name is gone. -/
theorem endBlock_burnedOut :
    ((standard.afterAll burnedOut).endBlock (moment 1100000)).1.isOk = false ∧
      (standard.afterAll burnedOut).store.hasAuction lastId = true ∧
      ((standard.afterAll burnedOut).endBlock (moment 1100000)).2.store.hasAuction lastId = false := by
  decide +kernel

theorem exists_fault_of_not_isOk {result : Except Fault (List Event) × Registrar}
    (h : result.1.isOk = false) : ∃ fault, result = (.error fault, result.2) := by
  obtain ⟨answer, next⟩ := result
  cases answer with
  | ok events => cases h
  | error fault => exact ⟨fault, rfl⟩

theorem unchanged_iff_not_overburns_burnedOut :
    ∃ fault next, (standard.afterAll burnedOut).endBlock (moment 1100000) = (.error fault, next) ∧
      next ≠ standard.afterAll burnedOut ∧ (standard.afterAll burnedOut).Overburns
        (sweep ((standard.afterAll burnedOut).setting (moment 1100000))) := by
  obtain ⟨hfails, hbefore, hafter⟩ := endBlock_burnedOut
  obtain ⟨fault, hresult⟩ := exists_fault_of_not_isOk hfails
  have hreachable : Reachable (standard.afterAll burnedOut) := reachable_standard.calledAll burnedOut
  have hiff := (unchanged_iff_not_overburns hreachable (moment 1100000)).2 fault _ hresult
  have hne : ((standard.afterAll burnedOut).endBlock (moment 1100000)).2 ≠
      standard.afterAll burnedOut := by
    intro heq
    rw [heq, hbefore] at hafter
    cases hafter
  exact ⟨fault, _, hresult, hne, by_contra fun hnot => hne (hiff.mpr hnot)⟩

/-- **A call that fails can leave something behind.** -/
theorem endBlock_leaves_writes :
    Reachable (standard.afterAll burnedOut) ∧ ∃ fault next,
      (standard.afterAll burnedOut).endBlock (moment 1100000) = (.error fault, next) ∧
      (standard.afterAll burnedOut).store.hasAuction lastId = true ∧
      next.store.hasAuction lastId = false := by
  obtain ⟨hfails, hbefore, hafter⟩ := endBlock_burnedOut
  obtain ⟨fault, hresult⟩ := exists_fault_of_not_isOk hfails
  exact ⟨reachable_standard.calledAll burnedOut, fault, _, hresult, hbefore, hafter⟩

end Registrar

end NameAuction
