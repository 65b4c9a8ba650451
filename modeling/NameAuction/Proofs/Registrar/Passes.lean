import NameAuction.Proofs.Registrar.Consistency
import NameAuction.Proofs.Registrar.Defects

/-!
# Passes over a queue

A pass reads the next due entry, takes it off the queue and handles it, and then reads on behind it, while the
handling writes to the same store.  It might as well list what is due when it starts and go through that list
(`sweepQueue_eq`), whether the handling succeeds or not: handling an entry leaves the region of its own queue
alone.  A sweep of a reachable registrar is three such passes, each of which handles every entry that is due when
it starts once and in order, and the events of the sweep are those of the entries one after another
(`Reachable.sweep_handles_due`).
-/

namespace NameAuction.Registrar

open Turn

/-! ### Plain loops -/

def settleEach (queue : Queue) (settle : Due → Step Unit) : List Due → Step Unit
  | [] => pure ()
  | due :: rest => do
    change (·.dequeue queue due)
    settle due
    settleEach queue settle rest

def settleListed (setting : Setting) (queue : Queue) (settle : Due → Step Unit) : Step Unit := do
  let dues ← look (·.dueBefore queue setting.now)
  settleEach queue settle dues

/-- A sweep whose passes list what is due when they start. -/
def sweepListed (setting : Setting) : Step Unit := do
  settleListed setting QueueKind.bid.queue (endBidPhase setting)
  settleListed setting QueueKind.reveal.queue (endRevealPhase setting)
  settleListed setting QueueKind.registration.queue expire

variable {setting : Setting} {queue : Queue} {settle : Due → Step Unit} {turn : Turn} {cursor : Option Due}
  {dues : List Due}

theorem settleEach_cons (due : Due) (rest : List Due) :
    settleEach queue settle (due :: rest) turn =
      settle due { turn with store := turn.store.dequeue queue due } >>=
        fun result => settleEach queue settle rest result.2 := rfl

theorem settleListed_eq (h : turn.store.dueBefore queue setting.now = .ok dues) :
    settleListed setting queue settle turn = settleEach queue settle dues turn := by
  show look _ turn >>= (fun result => settleEach queue settle result.1 result.2) = _
  rw [look, h]
  rfl

theorem takeDue_eq {found : Option Due} (h : turn.store.dueFrom queue setting.now cursor = .ok found) :
    takeDue setting queue cursor turn =
      .ok (found, { turn with store := dequeue? turn.store queue found }) := by
  show look _ turn >>= _ = _
  rw [look, h]
  rfl

theorem sweepFrom_of_none (h : turn.store.dueFrom queue setting.now cursor = .ok none) (bound : Nat) :
    sweepFrom setting queue settle (bound + 1) cursor turn = .ok ((), turn) := by
  show takeDue setting queue cursor turn >>= _ = _
  rw [takeDue_eq h]
  rfl

theorem sweepFrom_of_some {due : Due} (h : turn.store.dueFrom queue setting.now cursor = .ok (some due))
    (bound : Nat) :
    sweepFrom setting queue settle (bound + 1) cursor turn =
      settle due { turn with store := turn.store.dequeue queue due } >>=
        fun result => sweepFrom setting queue settle bound (some due) result.2 := by
  show takeDue setting queue cursor turn >>= _ = _
  rw [takeDue_eq h]
  rfl

/-! ### The cursor -/

/-- Behind an entry that has been taken off its queue the others wait, whatever has been written to other
regions since. -/
theorem waiting_behind {store next : Store} {now : Time} {due : Due} {rest : List Due}
    (h : store.Waiting queue now cursor (due :: rest))
    (hnext : (store.dequeue queue due).SameIn queue.region next) :
    next.Waiting queue now (some due) rest := by
  rw [Store.Waiting, range_behind now hnext]
  exact h.behind

/-- **A cursor goes through what waits when it starts.** -/
theorem sweepFrom_eq (hsettle : ∀ due, (settle due).Spares queue.region)
    (hwaiting : turn.store.Waiting queue setting.now cursor dues) {bound : Nat} (hbound : dues.length < bound) :
    sweepFrom setting queue settle bound cursor turn = settleEach queue settle dues turn := by
  induction dues generalizing turn cursor bound with
  | nil =>
    obtain ⟨bound, rfl⟩ := Nat.exists_eq_add_one_of_ne_zero (Nat.ne_zero_of_lt hbound)
    exact sweepFrom_of_none hwaiting.dueFrom bound
  | cons due rest ih =>
    obtain ⟨bound, rfl⟩ := Nat.exists_eq_add_one_of_ne_zero (Nat.ne_zero_of_lt hbound)
    rw [sweepFrom_of_some hwaiting.dueFrom, settleEach_cons]
    cases hcase : settle due { turn with store := turn.store.dequeue queue due } with
    | error fault => rfl
    | ok result =>
      have hsame := (hsettle due _).of_ok hcase
      exact ih (waiting_behind hwaiting hsame) (Nat.lt_of_succ_lt_succ hbound)

/-- **A pass is a plain loop over what is due when it starts.** -/
theorem sweepQueue_eq (hsettle : ∀ due, (settle due).Spares queue.region)
    (horderly : turn.store.Orderly queue) :
    sweepQueue setting queue settle turn = settleListed setting queue settle turn := by
  obtain ⟨dues, hdues⟩ := horderly.exists_waiting setting.now none
  have hlength : (turn.store.range (queue.dueSpan setting.now)).length = dues.length := by
    have hmap := congrArg List.length hdues
    rwa [List.length_map, List.length_map] at hmap
  rw [settleListed_eq hdues.dueBefore]
  show sweepFrom setting queue settle ((turn.store.range (queue.dueSpan setting.now)).length + 1) none turn = _
  exact sweepFrom_eq hsettle hdues (Nat.lt_succ_of_le (Nat.le_of_eq hlength.symm))

/-! ### Passes -/

theorem settleOf_spares (kind : QueueKind) (due : Due) :
    (settleOf setting kind due).Spares kind.queue.region := by
  cases kind with
  | bid => exact endBidPhase_spares due
  | reveal => exact endRevealPhase_spares due
  | registration => exact expire_spares due

/-- An entry that has been handled, and the events that this has told. -/
structure Handling where
  due : Due
  told : List Event

/-- Takes the next due entry off a queue and handles it, for as long as there is one.  Nothing bounds the number of
rounds. -/
inductive Rounds (setting : Setting) (kind : QueueKind) :
    Option Due → Turn → List Handling → Turn → Prop
  | done {cursor : Option Due} {turn next : Turn}
      (htake : takeDue setting kind.queue cursor turn = .ok (none, next)) :
      Rounds setting kind cursor turn [] next
  | round {cursor : Option Due} {turn taken mid next : Turn} {due : Due} {told : List Event}
      {rest : List Handling} (htake : takeDue setting kind.queue cursor turn = .ok (some due, taken))
      (hsettle : settleOf setting kind due taken = .ok ((), mid))
      (htold : mid.events = taken.events ++ told)
      (hrest : Rounds setting kind (some due) mid rest next) :
      Rounds setting kind cursor turn (⟨due, told⟩ :: rest) next

/-- A pass over a queue that succeeds, and what it handles on the way. -/
structure Pass (setting : Setting) (kind : QueueKind) (turn : Turn) (handled : List Handling) (next : Turn) :
    Prop where
  run : sweepQueue setting kind.queue (settleOf setting kind) turn = .ok ((), next)
  /-- The cursor comes to its end after these entries. -/
  rounds : Rounds setting kind none turn handled next
  /-- They are all that is due when the pass starts. -/
  due : turn.store.dueBefore kind.queue setting.now = .ok (handled.map Handling.due)
  /-- Each of them is handled once, by time and then by name. -/
  sorted : (handled.map Handling.due).Pairwise Due.Before
  /-- Going through them in a plain loop does the same. -/
  plain : settleEach kind.queue (settleOf setting kind) (handled.map Handling.due) turn = .ok ((), next)
  events : next.events = turn.events ++ handled.flatMap Handling.told

variable {Inv : Book → Turn → Prop} {may : Fault → Prop} {book : Book} {next : Turn}

/-- Entries that are handled one after another are those that a cursor finds. -/
theorem exists_rounds (hsweep : Sweepable setting Inv may) (kind : QueueKind) (hkeeps : turn.store.Keeps book)
    (hinv : Inv book turn) (hdues : turn.store.Waiting kind.queue setting.now cursor dues)
    (hrun : settleEach kind.queue (settleOf setting kind) dues turn = .ok ((), next)) :
    ∃ handled, handled.map Handling.due = dues ∧ Rounds setting kind cursor turn handled next ∧
      next.events = turn.events ++ handled.flatMap Handling.told := by
  induction dues generalizing turn book cursor with
  | nil =>
    obtain rfl : turn = next := (Prod.mk.inj (Except.ok.inj hrun)).2
    exact ⟨[], rfl, .done (takeDue_eq hdues.dueFrom), (List.append_nil _).symm⟩
  | cons due rest ih =>
    rw [settleEach_cons] at hrun
    obtain ⟨⟨⟨⟩, mid⟩, hsettle, hrest⟩ := Except.bind_eq_ok_iff.mp hrun
    have hqueued := hkeeps.queued_of_waiting hdues (List.mem_cons_self ..)
    obtain ⟨first, -, hfirst, hmid⟩ := (hsweep.settles hkeeps hinv hqueued).of_ok hsettle
    -- what has been written meanwhile is in other regions, so the rest still waits
    have htail := waiting_behind hdues ((settleOf_spares kind due _).of_ok hsettle)
    obtain ⟨handled, rfl, hrounds, hevents⟩ := ih hfirst.keeps hmid htail hrest
    refine ⟨⟨due, first.events⟩ :: handled, rfl, ?_, ?_⟩
    · exact .round (takeDue_eq hdues.dueFrom) hsettle hfirst.events hrounds
    · rw [hevents, hfirst.events, List.append_assoc]
      rfl

/-- **What a pass handles.** -/
theorem exists_pass (hsweep : Sweepable setting Inv may) (kind : QueueKind) (hkeeps : turn.store.Keeps book)
    (hinv : Inv book turn) (hrun : sweepQueue setting kind.queue (settleOf setting kind) turn = .ok ((), next)) :
    (∃ handled, Pass setting kind turn handled next) ∧ ∃ book, next.store.Keeps book ∧ Inv book next := by
  obtain ⟨-, outcome, -, -, hbecomes, hinv'⟩ := (sweepQueue_ends hsweep kind hkeeps hinv).of_ok hrun
  refine ⟨?_, outcome.book, hbecomes.keeps, hinv'⟩
  obtain ⟨dues, hdues⟩ := (hkeeps.orderly kind).exists_waiting setting.now none
  have hplain := hrun
  rw [sweepQueue_eq (settleOf_spares kind) (hkeeps.orderly kind), settleListed_eq hdues.dueBefore] at hplain
  obtain ⟨handled, rfl, hrounds, hevents⟩ := exists_rounds hsweep kind hkeeps hinv hdues hplain
  exact ⟨handled, hrun, hrounds, hdues.dueBefore, hdues.sorted, hplain, hevents⟩

/-! ### Sweeps -/

theorem seq_eq {first first' rest rest' : Step Unit} (hfirst : first turn = first' turn)
    (hrest : ∀ mid, first turn = .ok ((), mid) → rest mid = rest' mid) :
    (first >>= fun _ => rest) turn = (first' >>= fun _ => rest') turn := by
  show (first turn >>= fun result => rest result.2) = (first' turn >>= fun result => rest' result.2)
  rw [← hfirst]
  cases hcase : first turn with
  | error fault => rfl
  | ok result => exact hrest result.2 hcase

/-- **Every pass of a sweep may list what is due when it starts.** -/
theorem sweep_eq (hsweep : Sweepable setting Inv may) (hkeeps : turn.store.Keeps book) (hinv : Inv book turn) :
    sweep setting turn = sweepListed setting turn := by
  have hpass : ∀ (kind : QueueKind) {turn : Turn} {book : Book}, turn.store.Keeps book →
      sweepQueue setting kind.queue (settleOf setting kind) turn =
        settleListed setting kind.queue (settleOf setting kind) turn := fun kind _ _ hkeeps =>
    sweepQueue_eq (settleOf_spares kind) (hkeeps.orderly kind)
  refine seq_eq (hpass .bid hkeeps) fun mid hbids => ?_
  obtain ⟨-, book₁, hkeeps₁, hinv₁⟩ := exists_pass hsweep .bid hkeeps hinv hbids
  refine seq_eq (hpass .reveal hkeeps₁) fun last hreveals => ?_
  obtain ⟨-, book₂, hkeeps₂, -⟩ := exists_pass hsweep .reveal hkeeps₁ hinv₁ hreveals
  exact hpass .registration hkeeps₂

theorem exists_passes (hsweep : Sweepable setting Inv may) (hkeeps : turn.store.Keeps book) (hinv : Inv book turn)
    (hrun : sweep setting turn = .ok ((), next)) :
    ∃ bids reveals ends second third, Pass setting .bid turn bids second ∧
      Pass setting .reveal second reveals third ∧ Pass setting .registration third ends next := by
  obtain ⟨⟨⟨⟩, second⟩, hbids, hrun⟩ := Except.bind_eq_ok_iff.mp hrun
  obtain ⟨⟨⟨⟩, third⟩, hreveals, hends⟩ := Except.bind_eq_ok_iff.mp hrun
  obtain ⟨⟨bids, hfirst⟩, book₁, hkeeps₁, hinv₁⟩ := exists_pass hsweep .bid hkeeps hinv hbids
  obtain ⟨⟨reveals, hsecond⟩, book₂, hkeeps₂, hinv₂⟩ := exists_pass hsweep .reveal hkeeps₁ hinv₁ hreveals
  obtain ⟨⟨ends, hthird⟩, -⟩ := exists_pass hsweep .registration hkeeps₂ hinv₂ hends
  exact ⟨bids, reveals, ends, second, third, hfirst, hsecond, hthird⟩

theorem settle_eq_ok {registrar after : Registrar} {now : Time} {events : List Event}
    (h : registrar.settle now turn = (.ok events, after)) : events = turn.events := by
  unfold settle at h
  split at h
  · cases h
  · split at h
    · cases h
    · exact (Except.ok.inj (congrArg Prod.fst h)).symm

theorem run_eq_ok {registrar after : Registrar} {now : Time} {step : Step Unit} {events : List Event}
    (h : registrar.run now step = (.ok events, after)) :
    ∃ last, step registrar.firstTurn = .ok ((), last) ∧ registrar.settle now last = (.ok events, after) := by
  rw [run] at h
  cases hstep : step.run registrar.firstTurn with
  | error fault =>
    rw [hstep] at h
    cases h
  | ok result =>
    rw [hstep] at h
    exact ⟨result.2, hstep, h⟩

/-- **A sweep handles every due entry once and in order.**  It is what it would be if each of its passes listed
what is due when it starts.  When it succeeds, each pass takes the entries of that list off its queue, one after
another and no others, and the events are those of the entries, in the same order. -/
theorem Reachable.sweep_handles_due {registrar : Registrar} (h : Reachable registrar) (now : Time) :
    registrar.endBlock now = registrar.run now (sweepListed (registrar.setting now)) ∧
      ∀ events after, registrar.endBlock now = (.ok events, after) →
        ∃ bids reveals ends second third last,
          Pass (registrar.setting now) .bid registrar.firstTurn bids second ∧
          Pass (registrar.setting now) .reveal second reveals third ∧
          Pass (registrar.setting now) .registration third ends last ∧
          events = (bids ++ reveals ++ ends).flatMap Handling.told ∧
          registrar.settle now last = (.ok events, after) := by
  obtain ⟨book, hsound⟩ := h.sound
  have hsweep := sweepable_sane (registrar.setting now)
  have hkeeps := firstTurn_keeps hsound.keeps
  constructor
  · have hsame : (sweep (registrar.setting now)).run registrar.firstTurn =
        (sweepListed (registrar.setting now)).run registrar.firstTurn := sweep_eq hsweep hkeeps hsound.sane
    rw [endBlock, run, hsame, run]
  · intro events after hok
    obtain ⟨last, hrun, hsettle⟩ := run_eq_ok hok
    obtain ⟨bids, reveals, ends, second, third, hfirst, hsecond, hthird⟩ :=
      exists_passes hsweep hkeeps hsound.sane hrun
    refine ⟨bids, reveals, ends, second, third, last, hfirst, hsecond, hthird, ?_, hsettle⟩
    have hstart : registrar.firstTurn.events = [] := rfl
    rw [settle_eq_ok hsettle, hthird.events, hsecond.events, hfirst.events, hstart]
    simp only [List.flatMap_append, List.nil_append]

/-- After `shopRun` one more name is revealed, with a bid that nobody reveals, and two names are opened at one time,
of which one gets a bid. -/
def busyRun : List Call :=
  shopRun ++
  [.mint Demo.bob (.ofCoin (luna 1200000000)),
    .deliver (moment 700000) (.openAuction ⟨"other.terra"⟩ Demo.shop),
    .deliver (moment 800000) (.sealedBid ⟨"other.terra"⟩ Id.zero (luna 600000000) Demo.bob),
    .endBlock (moment 900000),
    .deliver (moment 1000000) (.openAuction ⟨"first.terra"⟩ Demo.shop),
    .deliver (moment 1000000) (.openAuction ⟨"second.terra"⟩ Demo.shop),
    .deliver (moment 1100000) (.sealedBid ⟨"second.terra"⟩ Id.zero (luna 600000000) Demo.bob)]

/-- A registrar in which all four names are due at last. -/
def busy : Registrar := standard.afterAll busyRun

/-- What its bid queue holds then.  The times are the same, so the identifiers decide. -/
def busyDues : List Due :=
  [⟨moment 1172800, .ofText "second.terra"⟩, ⟨moment 1172800, .ofText "first.terra"⟩]

def busyEvents : List Event :=
  [.revealStarted ⟨"second.terra"⟩ (moment 40259200), .closed ⟨"first.terra"⟩, .closed ⟨"other.terra"⟩,
    .slashed ⟨"other.terra"⟩ Demo.bob (luna 600000000), .expired ⟨"label.terra"⟩ Demo.alice]

theorem sweep_handles_due_busyRun :
    ∃ bids reveals ends second third last,
      Pass (busy.setting (moment 40000000)) .bid busy.firstTurn bids second ∧
      Pass (busy.setting (moment 40000000)) .reveal second reveals third ∧
      Pass (busy.setting (moment 40000000)) .registration third ends last ∧
      bids.map Handling.due = busyDues ∧ (bids ++ reveals ++ ends).flatMap Handling.told = busyEvents := by
  have hreachable : Reachable busy := reachable_standard.calledAll _
  have hrun : (busy.endBlock (moment 40000000)).1 = .ok busyEvents ∧
      busy.firstTurn.store.dueBefore QueueKind.bid.queue (moment 40000000) = .ok busyDues := by
    decide +kernel
  obtain ⟨hevents, hdue⟩ := hrun
  obtain ⟨-, hpasses⟩ := hreachable.sweep_handles_due (moment 40000000)
  generalize busy.endBlock (moment 40000000) = result at hevents hpasses
  obtain ⟨outcome, after⟩ := result
  obtain rfl := hevents
  obtain ⟨bids, reveals, ends, second, third, last, hfirst, hsecond, hthird, htold, -⟩ := hpasses _ _ rfl
  exact ⟨bids, reveals, ends, second, third, last, hfirst, hsecond, hthird,
    Except.ok.inj (hfirst.due.symm.trans hdue), htold.symm⟩

end NameAuction.Registrar
