import NameAuction.Proofs.Registrar.Lossless
import NameAuction.Proofs.Registrar.Told

/-!
# Every burn is told

What a call burns is what its events tell (`Handled.burnt_told`, `Swept.burnt_told`), and the worth of the bank
stays what it was (`Applied.worth_eq`).  So in a run in which every call succeeds, the burned total can be
checked against the log: it has grown by the sum of what the entries of the run tell
(`Reachable.burns_told`), whether they have been drained meanwhile or not (`Registrar.logged`).
-/

namespace NameAuction

theorem EventLog.pending_appendAll (log : EventLog) (now : Time) (events : List Event) :
    ∃ entries, (log.appendAll now events).pending = log.pending ++ entries ∧
      entries.map LogEntry.event = events := by
  induction events generalizing log with
  | nil => exact ⟨[], (List.append_nil _).symm, rfl⟩
  | cons event rest ih =>
    obtain ⟨entries, hpending, hevents⟩ := ih (log.append now event)
    refine ⟨.following log.head now event :: entries, ?_, congrArg (event :: ·) hevents⟩
    show ((log.append now event).appendAll now rest).pending = _
    rw [hpending]
    exact List.append_assoc ..

namespace Registrar

variable {registrar next : Registrar} {book : Book} {setting : Setting} {outcome : Outcome}

/-! ### One call -/

/-- **A command tells what it burns.** -/
theorem Handled.burnt_told {command : Command} (h : Handled setting book command outcome)
    (denom : String) :
    Move.sum (Move.burnt denom) outcome.moves = (outcome.events.map (Event.burnt denom)).sum := by
  cases h with
  | revealedTop => rw [Move.sum_append, burnt_backToTop, Nat.zero_add]; rfl
  | @renewed name fee => simp [Move.burnt, Event.burnt]
  | opened => rfl
  | bidPlaced => rfl
  | revealedBelow => rfl
  | ownerChanged => rfl
  | subNameSet => rfl
  | subNameCleared => rfl

/-- The burned total has grown by what some events tell, and the bank is worth what it was. -/
structure Burns (registrar : Registrar) (events : List Event) (next : Registrar) : Prop where
  burned : ∀ denom, next.bank.burned.held denom =
    registrar.bank.burned.held denom + (events.map (Event.burnt denom)).sum
  worth : ∀ denom, next.bank.worth denom = registrar.bank.worth denom

theorem Sound.deliver_burns (h : registrar.Sound book) {now : Time} {command : Command}
    {events : List Event} (hok : registrar.deliver now command = (.ok events, next)) :
    Burns registrar events next ∧ next.log = registrar.log.appendAll now events := by
  obtain ⟨outcome, -, hhandled, rfl, happlied, -⟩ := h.deliver_ok hok
  refine ⟨⟨fun denom => ?_, happlied.worth_eq⟩, happlied.log⟩
  rw [happlied.burned, hhandled.burnt_told]

theorem Sound.endBlock_burns (h : registrar.Sound book) {now : Time} {events : List Event}
    (hok : registrar.endBlock now = (.ok events, next)) :
    Burns registrar events next ∧ next.log = registrar.log.appendAll now events := by
  obtain ⟨outcome, hswept, rfl, happlied, -⟩ := h.endBlock_ok hok
  refine ⟨⟨fun denom => ?_, happlied.worth_eq⟩, happlied.log⟩
  rw [happlied.burned, hswept.burnt_told]

/-! ### Any calls that succeed -/

def succeeds : Registrar → List Call → Bool
  | _, [] => true
  | registrar, call :: rest => (registrar.answer call).isOk && (registrar.after call).succeeds rest

def handedOver (registrar : Registrar) : Call → List LogEntry
  | .drain => registrar.drain.1
  | _ => []

/-- The whole log of a run: the entries that calls hand over, and then those that are pending at last. -/
def logged : Registrar → List Call → List LogEntry
  | registrar, [] => registrar.log.pending
  | registrar, call :: rest => registrar.handedOver call ++ (registrar.after call).logged rest

def burntIn (entries : List LogEntry) (denom : String) : Nat :=
  (entries.map fun entry => entry.event.burnt denom).sum

/-- A call runs a turn, or it leaves the burned total and every entry of the log as they are. -/
theorem after_quiet (registrar : Registrar) (call : Call) :
    (∃ now command, call = .deliver now command) ∨ (∃ now, call = .endBlock now) ∨
      (registrar.after call).bank.burned = registrar.bank.burned ∧
        registrar.handedOver call ++ (registrar.after call).log.pending = registrar.log.pending := by
  cases call with
  | deliver now command => exact .inl ⟨now, command, rfl⟩
  | endBlock now => exact .inr (.inl ⟨now, rfl⟩)
  | setParams params =>
    refine .inr (.inr ?_)
    rw [after]
    cases hset : registrar.setParams params with
    | error fault => exact ⟨rfl, rfl⟩
    | ok next =>
      obtain ⟨-, rfl⟩ := setParams_eq_ok hset
      exact ⟨rfl, rfl⟩
  | setRates rates => exact .inr (.inr ⟨rfl, rfl⟩)
  | mint account amount =>
    refine .inr (.inr ?_)
    rw [after]
    cases hmint : registrar.bank.mint account amount with
    | error fault => exact ⟨rfl, rfl⟩
    | ok bank =>
      obtain ⟨balance, -, rfl⟩ := Bank.mint_eq_ok hmint
      exact ⟨rfl, rfl⟩
  | drain => exact .inr (.inr ⟨rfl, List.append_nil _⟩)

theorem Burns.entries {now : Time} {events : List Event} (h : Burns registrar events next)
    (hlog : next.log = registrar.log.appendAll now events) :
    ∃ entries, next.log.pending = registrar.log.pending ++ entries ∧ ∀ denom,
      next.bank.burned.held denom = registrar.bank.burned.held denom + burntIn entries denom := by
  obtain ⟨entries, hpending, hevents⟩ := registrar.log.pending_appendAll now events
  refine ⟨entries, hlog ▸ hpending, fun denom => ?_⟩
  rw [h.burned, ← hevents, List.map_map]
  rfl

/-- **A call that succeeds** adds entries to the log that tell what it has burned. -/
theorem Sound.after_burns (h : registrar.Sound book) {call : Call}
    (hok : (registrar.answer call).isOk = true) :
    ∃ entries, registrar.handedOver call ++ (registrar.after call).log.pending =
        registrar.log.pending ++ entries ∧
      ∀ denom, (registrar.after call).bank.burned.held denom =
        registrar.bank.burned.held denom + burntIn entries denom := by
  rcases registrar.after_quiet call with ⟨now, command, rfl⟩ | ⟨now, rfl⟩ | ⟨hburned, hpending⟩
  · obtain ⟨events, hresult⟩ := exists_events_of_isOk hok
    obtain ⟨hburns, hlog⟩ := h.deliver_burns hresult
    exact hburns.entries hlog
  · obtain ⟨events, hresult⟩ := exists_events_of_isOk hok
    obtain ⟨hburns, hlog⟩ := h.endBlock_burns hresult
    exact hburns.entries hlog
  · refine ⟨[], by rw [hpending, List.append_nil], fun denom => ?_⟩
    rw [hburned]
    rfl

/-- **A run in which every call succeeds** adds entries to the log that tell what it has burned. -/
theorem Reachable.afterAll_burns (h : Reachable registrar) {calls : List Call}
    (hok : registrar.succeeds calls = true) :
    ∃ entries, registrar.logged calls = registrar.log.pending ++ entries ∧
      ∀ denom, (registrar.afterAll calls).bank.burned.held denom =
        registrar.bank.burned.held denom + burntIn entries denom := by
  induction calls generalizing registrar with
  | nil => exact ⟨[], (List.append_nil _).symm, fun _ => rfl⟩
  | cons call rest ih =>
    rw [succeeds, Bool.and_eq_true] at hok
    obtain ⟨book, hsound⟩ := h.sound
    obtain ⟨first, hfirst, hburned⟩ := hsound.after_burns hok.1
    obtain ⟨more, hmore, hburnedMore⟩ := ih (h.called call) hok.2
    refine ⟨first ++ more, ?_, fun denom => ?_⟩
    · rw [logged, hmore, ← List.append_assoc, hfirst, List.append_assoc]
    · have htotal := hburnedMore denom
      rw [hburned denom] at htotal
      rw [burntIn, List.map_append, List.sum_append, ← Nat.add_assoc]
      exact htotal

/-- **Every burn is told.**  With every command and every sweep of a reachable registrar that succeeds, the
burned total grows in every denomination by what the returned events tell to be burned: the amounts of
settlements, slashed deposits and renewal fees.  The sum of all balances, the escrow and the burned total
stays the same.  In a run in which every call succeeds, the whole log goes on with entries that tell what the
run has burned. -/
theorem Reachable.burns_told (h : Reachable registrar) :
    (∀ now command events next, registrar.deliver now command = (.ok events, next) →
      Burns registrar events next) ∧
    (∀ now events next, registrar.endBlock now = (.ok events, next) → Burns registrar events next) ∧
    ∀ calls, registrar.succeeds calls = true →
      ∃ entries, registrar.logged calls = registrar.log.pending ++ entries ∧
        ∀ denom, (registrar.afterAll calls).bank.burned.held denom =
          registrar.bank.burned.held denom + burntIn entries denom := by
  obtain ⟨book, hsound⟩ := h.sound
  refine ⟨fun now command events next hok => (hsound.deliver_burns hok).1,
    fun now events next hok => (hsound.endBlock_burns hok).1, fun calls hok => h.afterAll_burns hok⟩

/-- The owner of an awarded name renews it, and the log is drained in between. -/
def renewalRun : List Call :=
  shopRun ++ [.drain, .mint Demo.alice (.ofCoin ⟨"usdr", (Word.ofNat? 5000000).getD 0⟩),
    .deliver (moment 700000) (.renew ⟨"label.terra"⟩
      (.ofCoin ⟨"usdr", (Word.ofNat? 5000000).getD 0⟩) Demo.alice)]

theorem burns_told_renewalRun :
    standard.succeeds renewalRun = true ∧ standard.log.pending = [] ∧
      (standard.afterAll renewalRun).bank.burned.held "uluna" = 550000000 ∧
      (standard.afterAll renewalRun).bank.burned.held "usdr" = 5000000 ∧
      ∀ denom, (standard.afterAll renewalRun).bank.burned.held denom =
        burntIn (standard.logged renewalRun) denom := by
  have hrun : standard.succeeds renewalRun = true ∧
      (standard.afterAll renewalRun).bank.burned.held "uluna" = 550000000 ∧
      (standard.afterAll renewalRun).bank.burned.held "usdr" = 5000000 := by decide +kernel
  obtain ⟨hok, hluna, hsdr⟩ := hrun
  obtain ⟨entries, hlogged, hburned⟩ := reachable_standard.burns_told.2.2 renewalRun hok
  refine ⟨hok, rfl, hluna, hsdr, fun denom => ?_⟩
  rw [hlogged, hburned]
  exact Nat.zero_add _

end Registrar

end NameAuction
