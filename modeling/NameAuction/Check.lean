/-!
# Checks

A check either passes or ends with a fault.  `ensure` asks for a condition and `demand` for a value; both
say nothing more where they pass, so that a sequence of checks reads as a list of what is asked for.
-/

namespace NameAuction

/-- Passes where the condition holds. -/
def ensure {ε : Type} (condition : Prop) [Decidable condition] (otherwise : ε) : Except ε Unit :=
  if condition then .ok () else .error otherwise

/-- Passes where there is a value. -/
def demand {ε α : Type} (value : Option α) (otherwise : ε) : Except ε α :=
  match value with
  | some value => .ok value
  | none => .error otherwise

@[simp] theorem ensure_eq_ok_iff {ε : Type} {condition : Prop} [Decidable condition]
    {otherwise : ε} {u : Unit} : ensure condition otherwise = .ok u ↔ condition := by
  unfold ensure
  split <;> simp_all

@[simp] theorem demand_eq_ok_iff {ε α : Type} {value : Option α} {otherwise : ε} {a : α} :
    demand value otherwise = .ok a ↔ value = some a := by
  unfold demand
  split <;> simp

theorem demand_eq_error_iff {ε α : Type} {value : Option α} {otherwise fault : ε} :
    demand value otherwise = .error fault ↔ value = none ∧ otherwise = fault := by
  unfold demand
  split <;> simp

/-- A sequence of checks passes where each of them does. -/
theorem Except.bind_eq_ok_iff {ε α β : Type} {x : Except ε α} {f : α → Except ε β} {b : β} :
    (x >>= f) = .ok b ↔ ∃ a, x = .ok a ∧ f a = .ok b := by
  cases x <;> simp [bind, Except.bind]

/-- A sequence of checks ends where the first of them that does not pass ends. -/
theorem Except.bind_eq_error_iff {ε α β : Type} {x : Except ε α} {f : α → Except ε β} {e : ε} :
    (x >>= f) = .error e ↔ x = .error e ∨ ∃ a, x = .ok a ∧ f a = .error e := by
  cases x <;> simp [bind, Except.bind]

end NameAuction
