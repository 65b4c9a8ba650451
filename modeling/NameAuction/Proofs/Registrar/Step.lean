import NameAuction.Proofs.Escrow.Funds
import NameAuction.Proofs.Store.Book
import NameAuction.Registrar.Turn

/-!
# What steps lead to

`Step.Ends` says of a step where it leads from a turn: to a value and a next turn, or to a fault.  It is
proved along the structure of the step, one rule for each kind of step.  What a step has done is an
outcome: the book that the store keeps afterwards, the moves made and the events told, and
`Turn.Becomes` ties it to the turns before and after.
-/

namespace NameAuction

/-! ### Where a step leads -/

/-- From the turn the step leads to a value and a turn that satisfy `done`, or to a fault that satisfies
`failed`. -/
def Step.Ends {α : Type} (step : Step α) (turn : Turn) (done : α → Turn → Prop)
    (failed : Fault → Prop) : Prop :=
  match step turn with
  | .ok (value, next) => done value next
  | .error fault => failed fault

namespace Step.Ends

variable {α β : Type} {turn : Turn} {done : α → Turn → Prop} {failed : Fault → Prop}

theorem of_ok {step : Step α} (h : Ends step turn done failed) {value : α} {next : Turn}
    (hok : step turn = .ok (value, next)) : done value next := by
  rw [Ends, hok] at h
  exact h

theorem of_error {step : Step α} (h : Ends step turn done failed) {fault : Fault}
    (herror : step turn = .error fault) : failed fault := by
  rw [Ends, herror] at h
  exact h

theorem mono {step : Step α} {done' : α → Turn → Prop} {failed' : Fault → Prop}
    (h : Ends step turn done failed) (hdone : ∀ value next, done value next → done' value next)
    (hfailed : ∀ fault, failed fault → failed' fault) : Ends step turn done' failed' := by
  rw [Ends] at h ⊢
  cases hcase : step turn with
  | ok result =>
    rw [hcase] at h
    exact hdone _ _ h
  | error fault =>
    rw [hcase] at h
    exact hfailed _ h

theorem and {step : Step α} {done' : α → Turn → Prop} {failed' : Fault → Prop}
    (h : Ends step turn done failed) (h' : Ends step turn done' failed') :
    Ends step turn (fun value next => done value next ∧ done' value next)
      fun fault => failed fault ∧ failed' fault := by
  rw [Ends] at h h' ⊢
  cases hcase : step turn with
  | ok result =>
    rw [hcase] at h h'
    exact ⟨h, h'⟩
  | error fault =>
    rw [hcase] at h h'
    exact ⟨h, h'⟩

theorem pure {value : α} (h : done value turn) : Ends (pure value) turn done failed := h

/-- **Steps in sequence.** -/
theorem bind {step : Step β} {rest : β → Step α}
    (h : Ends step turn (fun value mid => Ends (rest value) mid done failed) failed) :
    Ends (step >>= rest) turn done failed := by
  have hrun : (step >>= rest) turn = step turn >>= fun result => rest result.1 result.2 := rfl
  rw [Ends] at h ⊢
  rw [hrun]
  cases hcase : step turn with
  | ok result =>
    rw [hcase] at h
    exact h
  | error fault =>
    rw [hcase] at h
    exact h

theorem lift {check : Except Fault α} (hok : ∀ value, check = .ok value → done value turn)
    (herror : ∀ fault, check = .error fault → failed fault) :
    Ends (liftM check) turn done failed := by
  cases check with
  | ok value => exact hok value rfl
  | error fault => exact herror fault rfl

/-- A check of a part, whose fault is wrapped. -/
theorem raise {ε : Type} {wrap : ε → Fault} {check : Except ε α}
    (hok : ∀ value, check = .ok value → done value turn)
    (herror : ∀ fault, check = .error fault → failed (wrap fault)) :
    Ends (StateT.lift (Fault.lift wrap check)) turn done failed := by
  cases check with
  | ok value => exact hok value rfl
  | error fault => exact herror fault rfl

theorem ensure {done : Unit → Turn → Prop} {condition : Prop} [Decidable condition] {fault : Fault}
    (hok : condition → done () turn) (herror : ¬ condition → failed fault) :
    Ends (liftM (NameAuction.ensure condition fault)) turn done failed := by
  by_cases h : condition
  · rw [NameAuction.ensure, if_pos h]
    exact hok h
  · rw [NameAuction.ensure, if_neg h]
    exact herror h

theorem demand {value : Option α} {fault : Fault} (hok : ∀ found, value = some found → done found turn)
    (herror : value = none → failed fault) :
    Ends (liftM (NameAuction.demand value fault)) turn done failed := by
  cases value with
  | some found => exact hok found rfl
  | none => exact herror rfl

theorem look {question : Store → Except Fault α} {value : α}
    (hvalue : question turn.store = .ok value) (h : done value turn) :
    Ends (Turn.look question) turn done failed := by
  rw [Ends, Turn.look, hvalue]
  exact h

theorem find {question : Store → Except Fault (Option α)} {fault : Fault} {found : Option α}
    (hfound : question turn.store = .ok found) (hok : ∀ value, found = some value → done value turn)
    (herror : found = none → failed fault) :
    Ends (Turn.find question fault) turn done failed := by
  rw [Ends, Turn.find, Turn.look]
  cases found with
  | none =>
    simp only [hfound]
    exact herror rfl
  | some value =>
    simp only [hfound]
    exact hok value rfl

theorem expect {done : Unit → Turn → Prop} {condition : Store → Bool} {fault : Fault}
    (hok : condition turn.store = true → done () turn)
    (herror : condition turn.store = false → failed fault) :
    Ends (Turn.expect condition fault) turn done failed := by
  rw [Ends, Turn.expect, Turn.look]
  cases h : condition turn.store with
  | true => exact hok h
  | false => exact herror h

theorem change {done : Unit → Turn → Prop} {edit : Store → Store}
    (h : done () { turn with store := edit turn.store }) :
    Ends (Turn.change edit) turn done failed := h

theorem move {done : Unit → Turn → Prop} {move : Move}
    (hok : ∀ vault, turn.vault.apply move = .ok vault → done () { turn with vault := vault })
    (herror : ∀ fault, turn.vault.apply move = .error fault → failed (.escrow fault)) :
    Ends (Turn.move move) turn done failed := by
  rw [Ends, Turn.move]
  cases h : turn.vault.apply move with
  | ok vault => exact hok vault h
  | error fault => exact herror fault h

/-- The first of some moves that the vault makes. -/
theorem pay {done : Unit → Turn → Prop} {move : Move} {rest : List Move} {last : Vault}
    (hall : turn.vault.applyAll (move :: rest) = .ok last)
    (h : ∀ vault, vault.applyAll rest = .ok last → done () { turn with vault := vault }) :
    Ends (Turn.move move) turn done failed := by
  obtain ⟨mid, hmid, hrest⟩ := Except.bind_eq_ok_iff.mp hall
  rw [Ends, Turn.move, hmid]
  exact h mid hrest

theorem tell {done : Unit → Turn → Prop} {event : Event}
    (h : done () { turn with events := turn.events ++ [event] }) :
    Ends (Turn.tell event) turn done failed := h

end Step.Ends

/-! ### What has been done -/

/-- What some steps have done. -/
structure Outcome where
  book : Book
  moves : List Move
  /-- The latest event comes last. -/
  events : List Event

namespace Outcome

def start (book : Book) : Outcome := ⟨book, [], []⟩

/-- One outcome after another; the second one tells what the book has become. -/
def andThen (first second : Outcome) : Outcome :=
  ⟨second.book, first.moves ++ second.moves, first.events ++ second.events⟩

end Outcome

/-- Writes go to the innermost layer and leave what lies below. -/
def Store.Extends (store next : Store) : Prop :=
  store.layers ≠ [] → next.layers ≠ [] ∧ next.discard = store.discard

namespace Store.Extends

theorem refl (store : Store) : store.Extends store := fun h => ⟨h, rfl⟩

theorem trans {a b c : Store} (hab : a.Extends b) (hbc : b.Extends c) : a.Extends c := by
  intro h
  obtain ⟨hb, hdiscard⟩ := hab h
  obtain ⟨hc, hdiscard'⟩ := hbc hb
  exact ⟨hc, hdiscard'.trans hdiscard⟩

theorem set (store : Store) (key : Bytes) (value : Option Bytes) :
    store.Extends (store.set key value) := by
  intro h
  obtain ⟨base, layers⟩ := store
  cases layers with
  | nil => exact absurd rfl h
  | cons layer below => exact ⟨by simp [Store.set], rfl⟩

end Store.Extends

namespace Turn

/-- The second turn is the first one with an outcome. -/
structure Becomes (turn : Turn) (outcome : Outcome) (next : Turn) : Prop where
  keeps : next.store.Keeps outcome.book
  extends_store : turn.store.Extends next.store
  vault : turn.vault.applyAll outcome.moves = .ok next.vault
  events : next.events = turn.events ++ outcome.events

namespace Becomes

variable {turn next : Turn} {outcome : Outcome}

theorem refl {book : Book} (h : turn.store.Keeps book) : turn.Becomes (.start book) turn where
  keeps := h
  extends_store := .refl _
  vault := rfl
  events := (List.append_nil _).symm

theorem trans {mid : Turn} {second : Outcome} (h : turn.Becomes outcome mid)
    (h' : mid.Becomes second next) : turn.Becomes (outcome.andThen second) next where
  keeps := h'.keeps
  extends_store := h.extends_store.trans h'.extends_store
  vault := Vault.applyAll_append.mpr ⟨mid.vault, h.vault, h'.vault⟩
  events := by rw [h'.events, h.events, Outcome.andThen, List.append_assoc]

theorem put (h : turn.Becomes outcome next) (slot : Slot) {value : slot.Value}
    (hfits : slot.Fits value) :
    turn.Becomes { outcome with book := outcome.book.set slot (some value) }
      { next with store := next.store.put slot.key (slot.bytes value) } where
  keeps := h.keeps.put slot hfits
  extends_store := h.extends_store.trans (Store.Extends.set next.store _ _)
  vault := h.vault
  events := h.events

theorem delete (h : turn.Becomes outcome next) (slot : Slot) :
    turn.Becomes { outcome with book := outcome.book.set slot none }
      { next with store := next.store.delete slot.key } where
  keeps := h.keeps.delete slot
  extends_store := h.extends_store.trans (Store.Extends.set next.store _ _)
  vault := h.vault
  events := h.events

theorem move (h : turn.Becomes outcome next) {move : Move} {vault : Vault}
    (hmove : next.vault.apply move = .ok vault) :
    turn.Becomes { outcome with moves := outcome.moves ++ [move] } { next with vault := vault } where
  keeps := h.keeps
  extends_store := h.extends_store
  vault := Vault.applyAll_append.mpr
    ⟨next.vault, h.vault, Except.bind_eq_ok_iff.mpr ⟨vault, hmove, rfl⟩⟩
  events := h.events

theorem refuse (h : turn.Becomes outcome next) {move : Move} {fault : EscrowFault}
    (hmove : next.vault.apply move = .error fault) (rest : List Move) :
    turn.vault.applyAll (outcome.moves ++ move :: rest) = .error fault := by
  refine Vault.applyAll_append_error h.vault ?_
  show (next.vault.apply move >>= fun vault => vault.applyAll rest) = _
  rw [hmove]
  rfl

theorem enqueue (h : turn.Becomes outcome next) (kind : QueueKind) (due : Due) :
    turn.Becomes { outcome with book := outcome.book.set (.queued kind due) (some ()) }
      { next with store := next.store.enqueue kind.queue due } :=
  h.put (.queued kind due) trivial

theorem tell (h : turn.Becomes outcome next) (event : Event) :
    turn.Becomes { outcome with events := outcome.events ++ [event] }
      { next with events := next.events ++ [event] } where
  keeps := h.keeps
  extends_store := h.extends_store
  vault := h.vault
  events := by rw [h.events, List.append_assoc]

end Becomes

end Turn

end NameAuction
