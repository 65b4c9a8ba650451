import NameAuction.Proofs.Event.History
import NameAuction.Proofs.Registrar.Burns

/-!
# The log of a registrar

A call does with the log what a host of a log can do: one that runs a turn appends the events that it returns,
a drain drains, and the others leave it alone (`Registrar.history_after`).  So what is true of every history
is true of the log of every run, whether its calls succeed or not (`Registrar.run_chained`).
-/

namespace NameAuction

theorem History.afterAll_append (log : EventLog) (segments : List (List LogEntry)) (now : Time)
    (events : List Event) : (History.mk log segments).afterAll (events.map (.append now)) =
      ⟨log.appendAll now events, segments⟩ := by
  induction events generalizing log with
  | nil => rfl
  | cons event rest ih => exact ih (log.append now event)

namespace Registrar

def turnUses (now : Time) : Except Fault (List Event) → List LogUse
  | .ok events => events.map (.append now)
  | .error _ => []

/-- What a call does with the log. -/
def logUses (registrar : Registrar) : Call → List LogUse
  | .deliver now command => turnUses now (registrar.deliver now command).1
  | .endBlock now => turnUses now (registrar.endBlock now).1
  | .drain => [.drain]
  | _ => []

def runUses : Registrar → List Call → List LogUse
  | _, [] => []
  | registrar, call :: rest => registrar.logUses call ++ (registrar.after call).runUses rest

section Turn

variable (registrar : Registrar) (now : Time) (segments : List (List LogEntry))

theorem history_settle (turn : Turn) :
    (History.mk registrar.log segments).afterAll (turnUses now (registrar.settle now turn).1) =
      ⟨(registrar.settle now turn).2.log, segments⟩ := by
  rw [settle]
  split
  · rfl
  · split
    · rfl
    · exact History.afterAll_append ..

theorem history_run (step : Step Unit) :
    (History.mk registrar.log segments).afterAll (turnUses now (registrar.run now step).1) =
      ⟨(registrar.run now step).2.log, segments⟩ := by
  rw [run]
  split
  · rfl
  · exact registrar.history_settle now segments _

theorem history_deliver (command : Command) :
    (History.mk registrar.log segments).afterAll (turnUses now (registrar.deliver now command).1) =
      ⟨(registrar.deliver now command).2.log, segments⟩ := by
  rw [deliver]
  split
  · rfl
  · exact registrar.history_run now segments _

end Turn

/-- The history goes on with a call: its log is that of the registrar, and what the call hands over has been
drained. -/
theorem history_after (registrar : Registrar) (segments : List (List LogEntry)) (call : Call) :
    ∃ segments', (History.mk registrar.log segments).afterAll (registrar.logUses call) =
        ⟨(registrar.after call).log, segments'⟩ ∧
      segments'.flatten = segments.flatten ++ registrar.handedOver call := by
  have hquiet : segments.flatten = segments.flatten ++ [] := (List.append_nil _).symm
  cases call with
  | deliver now command => exact ⟨segments, registrar.history_deliver now segments command, hquiet⟩
  | endBlock now => exact ⟨segments, registrar.history_run now segments _, hquiet⟩
  | setParams params =>
    refine ⟨segments, ?_, hquiet⟩
    rw [after]
    cases hset : registrar.setParams params with
    | error fault => rfl
    | ok next =>
      obtain ⟨-, rfl⟩ := setParams_eq_ok hset
      rfl
  | setRates rates => exact ⟨segments, rfl, hquiet⟩
  | mint account amount =>
    refine ⟨segments, ?_, hquiet⟩
    rw [after]
    cases registrar.bank.mint account amount <;> rfl
  | drain =>
    refine ⟨segments ++ [registrar.log.pending], rfl, ?_⟩
    rw [List.flatten_append, List.flatten_singleton]
    rfl

theorem history_afterAll (registrar : Registrar) (segments : List (List LogEntry)) (calls : List Call) :
    ((History.mk registrar.log segments).afterAll (registrar.runUses calls)).log =
        (registrar.afterAll calls).log ∧
      ((History.mk registrar.log segments).afterAll (registrar.runUses calls)).entries =
        segments.flatten ++ registrar.logged calls := by
  induction calls generalizing registrar segments with
  | nil => exact ⟨rfl, rfl⟩
  | cons call rest ih =>
    obtain ⟨segments', hcall, hflatten⟩ := registrar.history_after segments call
    have hrest := ih (registrar.after call) segments'
    rw [runUses, History.afterAll, List.foldl_append, ← History.afterAll, ← History.afterAll, hcall, logged,
      ← List.append_assoc, ← hflatten]
    exact hrest

/-- **The log of a run is a chain.**  Whatever calls a registrar with a new log is given, its log verifies,
and the entries that have been handed over with those that are pending lead from the zero digest to the
head. -/
theorem run_chained {registrar : Registrar} (hnew : registrar.log = .empty) (calls : List Call) :
    (registrar.afterAll calls).log.verify = true ∧
      LogEntry.linked Block.zero (registrar.logged calls) = true ∧
      (registrar.afterAll calls).log.head = LogEntry.lastDigest Block.zero (registrar.logged calls) ∧
      (registrar.afterAll calls).log.length = (registrar.logged calls).length := by
  obtain ⟨hlog, hentries⟩ := registrar.history_afterAll [] calls
  have hchained : ((History.mk registrar.log []).afterAll (registrar.runUses calls)).Chained := by
    rw [hnew]
    exact History.Chained.start.afterAll _
  rw [List.flatten_nil, List.nil_append] at hentries
  rw [← hlog, ← hentries]
  exact ⟨hchained.verify, hchained.linked, hchained.head, hchained.length⟩

end Registrar

end NameAuction
