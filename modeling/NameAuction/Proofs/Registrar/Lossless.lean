import NameAuction.Proofs.Genesis.Export
import NameAuction.Proofs.Registrar.Consistency

/-!
# Export and import lose nothing

As long as a host does not change the root of the names, the book of its registrar is exportable
(`Rooted.sound`).  So the registrar exports a genesis that can be imported, and the registrar that is restored
from it differs from the first one in nothing but its log.  No call depends on the log (`Alike.after`), so from
there on both answer every call alike (`Rooted.export_import_lossless`).
-/

namespace NameAuction.Registrar

variable {registrar other : Registrar} {book : Book} {setting : Setting} {outcome : Outcome}

/-! ### Registrars under one root -/

/-- The registrars that a host can come to without changing the root of the names. -/
inductive Rooted : Registrar → Prop
  | started {bank : Bank} {rates : Rates} {params : Params} {registrar : Registrar}
      (h : start (.ofEntries ∅) bank rates params = .ok registrar) : Rooted registrar
  | seeded {bank : Bank} {rates : Rates} {genesis : Genesis} {registrar : Registrar}
      (hfits : genesis.Fits) (h : ofGenesis bank rates genesis = .ok registrar) : Rooted registrar
  | called {registrar : Registrar} (h : Rooted registrar) (call : Call)
      (hroot : (registrar.after call).params.root = registrar.params.root) :
      Rooted (registrar.after call)

theorem Rooted.calledAll (h : Rooted registrar) {calls : List Call}
    (hroot : ∀ made, made <+: calls →
      (registrar.afterAll made).params.root = registrar.params.root) :
    Rooted (registrar.afterAll calls) := by
  induction calls generalizing registrar with
  | nil => exact h
  | cons call rest ih =>
    have hfirst : (registrar.after call).params.root = registrar.params.root :=
      hroot [call] ((List.prefix_cons_inj call).mpr List.nil_prefix)
    refine ih (h.called call hfirst) fun made hmade => ?_
    rw [hfirst]
    exact hroot (call :: made) ((List.prefix_cons_inj call).mpr hmade)

theorem exportable_blank (root : String) : Book.blank.Exportable root :=
  ⟨.blank, .blank, proper_blank, under_blank root⟩

theorem Handled.exportable {command : Command} (hhandled : Handled setting book command outcome)
    (hcheck : command.check = .ok ()) (h : book.Exportable setting.params.root) :
    outcome.book.Exportable setting.params.root where
  sane := h.sane.handled hhandled
  reverses := Book.lasting_mutual.handled h.sane h.reverses hcheck hhandled
  proper := hhandled.proper hcheck h.proper
  under := hhandled.under h.under

theorem Swept.exportable {root : String} (hswept : Swept setting book outcome)
    (h : book.Exportable root) : outcome.book.Exportable root where
  sane := hswept.sane h.sane
  reverses := Book.lasting_mutual.swept h.sane h.reverses hswept
  proper := lasting_proper.swept h.sane h.proper hswept
  under := hswept.under h.sane h.under

/-- **Under one root the book of a registrar stays exportable.** -/
theorem Rooted.sound (h : Rooted registrar) :
    ∃ book, registrar.Sound book ∧ book.Exportable registrar.params.root := by
  induction h with
  | started hstart => exact ⟨.blank, .of_start hstart .blank .blank, exportable_blank _⟩
  | seeded hfits hgenesis =>
    obtain ⟨store, hseed, hstart⟩ := Except.bind_eq_ok_iff.mp hgenesis
    obtain ⟨u, hcheck, -⟩ := Except.bind_eq_ok_iff.mp hseed
    obtain ⟨book, hkeeps, hbook⟩ := Genesis.seed_keeps hfits hseed
    refine ⟨book, .of_start hstart hkeeps hbook.sane, hbook.sane, hbook.reverses, hbook.proper, ?_⟩
    rw [(start_eq_ok.mp hstart).2]
    exact Genesis.under_of_holds hcheck hbook.holds
  | @called registrar _ call hroot ih =>
    obtain ⟨book, hsound, hexportable⟩ := ih
    rw [hroot]
    exact hsound.after_of (·.Exportable registrar.params.root) hexportable call
      (fun _ _ _ _ hcheck hhandled => hhandled.exportable hcheck hexportable)
      fun _ _ _ hswept => hswept.exportable hexportable

/-! ### Registrars that differ in their logs -/

/-- The two differ in their logs at most. -/
def Alike (registrar other : Registrar) : Prop := ∃ log, other = { registrar with log := log }

/-- What a call is answered, apart from entries of the log. -/
def answer (registrar : Registrar) : Call → Except Fault (List Event)
  | .deliver now command => (registrar.deliver now command).1
  | .endBlock now => (registrar.endBlock now).1
  | .setParams params => (registrar.setParams params).map fun _ => []
  | .setRates _ => .ok []
  | .mint account amount => Fault.lift .escrow ((registrar.bank.mint account amount).map fun _ => [])
  | .drain => .ok []

namespace Alike

theorem settle (h : registrar.Alike other) (now : Time) (turn : Turn) :
    (registrar.settle now turn).1 = (other.settle now turn).1 ∧
      (registrar.settle now turn).2.Alike (other.settle now turn).2 := by
  obtain ⟨log, rfl⟩ := h
  simp only [Registrar.settle]
  cases registrar.disk.flush turn.store.pending with
  | mk disk failed =>
    cases failed with
    | some fault => exact ⟨rfl, log, rfl⟩
    | none =>
      cases turn.vault.commit with
      | mk vault refused =>
        cases refused with
        | some fault => exact ⟨rfl, log, rfl⟩
        | none => exact ⟨rfl, log.appendAll now turn.events, rfl⟩

theorem run (h : registrar.Alike other) (now : Time) (step : Step Unit) :
    (registrar.run now step).1 = (other.run now step).1 ∧
      (registrar.run now step).2.Alike (other.run now step).2 := by
  have hturn : other.firstTurn = registrar.firstTurn := by
    obtain ⟨log, rfl⟩ := h
    rfl
  rw [Registrar.run, Registrar.run, hturn]
  cases step.run registrar.firstTurn with
  | error fault => exact ⟨rfl, h⟩
  | ok result => exact h.settle now result.2

theorem deliver (h : registrar.Alike other) (now : Time) (command : Command) :
    (registrar.deliver now command).1 = (other.deliver now command).1 ∧
      (registrar.deliver now command).2.Alike (other.deliver now command).2 := by
  have hsetting : other.setting now = registrar.setting now := by
    obtain ⟨log, rfl⟩ := h
    rfl
  rw [Registrar.deliver, Registrar.deliver, hsetting]
  cases command.check with
  | error fault => exact ⟨rfl, h⟩
  | ok u => exact h.run now (handle (registrar.setting now) command)

theorem endBlock (h : registrar.Alike other) (now : Time) :
    (registrar.endBlock now).1 = (other.endBlock now).1 ∧
      (registrar.endBlock now).2.Alike (other.endBlock now).2 := by
  have hsetting : other.setting now = registrar.setting now := by
    obtain ⟨log, rfl⟩ := h
    rfl
  rw [Registrar.endBlock, Registrar.endBlock, hsetting]
  exact h.run now (sweep (registrar.setting now))

/-- **A call is answered alike and leads to registrars that are alike.** -/
theorem after (h : registrar.Alike other) (call : Call) :
    registrar.answer call = other.answer call ∧ (registrar.after call).Alike (other.after call) := by
  cases call with
  | deliver now command => exact h.deliver now command
  | endBlock now => exact h.endBlock now
  | setParams params =>
    obtain ⟨log, rfl⟩ := h
    simp only [answer, Registrar.after, Registrar.setParams]
    cases params.check with
    | error fault => exact ⟨rfl, log, rfl⟩
    | ok u => exact ⟨rfl, log, rfl⟩
  | setRates rates =>
    obtain ⟨log, rfl⟩ := h
    exact ⟨rfl, log, rfl⟩
  | mint account amount =>
    obtain ⟨log, rfl⟩ := h
    refine ⟨rfl, ?_⟩
    simp only [Registrar.after]
    cases registrar.bank.mint account amount with
    | error fault => exact ⟨log, rfl⟩
    | ok bank => exact ⟨log, rfl⟩
  | drain =>
    obtain ⟨log, rfl⟩ := h
    exact ⟨rfl, log.drain.2, rfl⟩

theorem afterAll (h : registrar.Alike other) (calls : List Call) :
    (registrar.afterAll calls).Alike (other.afterAll calls) := by
  induction calls generalizing registrar other with
  | nil => exact h
  | cons call rest ih => exact ih (h.after call).2

theorem query (h : registrar.Alike other) (query : Query) : registrar.query query = other.query query := by
  obtain ⟨log, rfl⟩ := h
  rfl

end Alike

/-- **Export and import lose nothing.**  Under one root every registrar can be exported, what is exported
passes its check, and from it and an empty disk a registrar with the same bank and the same rates is restored
that is the first one but for the log: every byte on the disk is the same.  So whatever both are called from
there on, they answer every call and every query alike. -/
theorem Rooted.export_import_lossless (h : Rooted registrar) :
    ∃ genesis restored, registrar.genesis = .ok genesis ∧ genesis.check = .ok () ∧
      ofGenesis registrar.bank registrar.rates genesis = .ok restored ∧
      restored = { registrar with log := .empty } ∧
      ∀ calls, (registrar.afterAll calls).Alike (restored.afterAll calls) ∧
        (∀ call, (registrar.afterAll calls).answer call = (restored.afterAll calls).answer call) ∧
        ∀ query, (registrar.afterAll calls).query query = (restored.afterAll calls).query query := by
  obtain ⟨book, hsound, hexportable⟩ := h.sound
  obtain ⟨⟨entries, room⟩, bank, rates, params, log⟩ := registrar
  obtain rfl : room = none := hsound.room
  obtain ⟨genesis, store, hexport, rfl, hcheck, hseed, hentries⟩ :=
    Genesis.ofStore_seed hsound.keeps hexportable hsound.checked
  have hrestored : ofGenesis bank rates genesis =
      .ok ⟨.ofEntries entries, bank, rates, genesis.params, .empty⟩ := by
    refine Except.bind_eq_ok_iff.mpr ⟨store, hseed, ?_⟩
    rw [hentries]
    exact start_eq_ok.mpr ⟨hsound.checked, rfl⟩
  refine ⟨genesis, _, hexport, hcheck, hrestored, rfl, ?_⟩
  intro calls
  have halike : Alike ⟨⟨entries, none⟩, bank, rates, genesis.params, log⟩
      ⟨.ofEntries entries, bank, rates, genesis.params, .empty⟩ := ⟨.empty, rfl⟩
  have hlater := halike.afterAll calls
  exact ⟨hlater, fun call => (hlater.after call).1, hlater.query⟩

theorem export_import_lossless_shopRun :
    ∃ genesis restored, (standard.afterAll shopRun).genesis = .ok genesis ∧
      genesis.resolutions.map (·.account) = [Demo.shop] ∧
      ofGenesis (standard.afterAll shopRun).bank (standard.afterAll shopRun).rates genesis = .ok restored ∧
      restored.disk = (standard.afterAll shopRun).disk := by
  have hroots : ∀ made ∈ shopRun.inits,
      (standard.afterAll made).params.root = standard.params.root := by
    decide +kernel
  have hrooted : Rooted (standard.afterAll shopRun) := (Rooted.started start_standard).calledAll
    fun made hmade => hroots made ((List.mem_inits _ _).mpr hmade)
  have haccounts : (standard.afterAll shopRun).genesis.toOption.map
      (fun genesis => genesis.resolutions.map (·.account)) = some [Demo.shop] := by
    decide +kernel
  obtain ⟨genesis, restored, hexport, -, himport, hsame, -⟩ := hrooted.export_import_lossless
  rw [hexport] at haccounts
  refine ⟨genesis, restored, hexport, Option.some.inj haccounts, himport, ?_⟩
  rw [hsame]

end NameAuction.Registrar
