import Mathlib.Logic.Function.Iterate

/-!
# Levels

Something has levels if a level can be opened on top of it, on which everything is then done, until the level
is committed to what lies beneath or discarded (`Levels`).  What is done above a level leaves what lies
beneath it as it is (`Levels.beneath_afterAll`).  Where two of them agree on every level, they do so after any
requests, if each single request keeps the agreement of the innermost levels (`Simulates.mirrors`).

The plainest thing with levels is a state of which a copy is put aside whenever a level is opened (`Copies`):
a commit forgets the copy, and a discard goes back to it.
-/

namespace NameAuction

inductive Request (ω : Type)
  | make (op : ω)
  | begin
  | commit
  | discard

/-- How levels are opened and closed; with no level open, a commit and a discard do nothing. -/
structure Levels (σ ω : Type) where
  /-- The number of open levels. -/
  height : σ → Nat
  make : σ → ω → σ
  begin : σ → σ
  commit : σ → σ
  discard : σ → σ
  height_make : ∀ s op, height (make s op) = height s
  height_begin : ∀ s, height (begin s) = height s + 1
  height_commit : ∀ s, height (commit s) = height s - 1
  height_discard : ∀ s, height (discard s) = height s - 1
  commit_of_height : ∀ s, height s = 0 → commit s = s
  discard_of_height : ∀ s, height s = 0 → discard s = s
  discard_make : ∀ s op, 0 < height s → discard (make s op) = discard s
  discard_begin : ∀ s, discard (begin s) = s
  discard_commit : ∀ s, 1 < height s → discard (commit s) = discard (discard s)

namespace Levels

variable {σ ω : Type} (levels : Levels σ ω)

def after (s : σ) : Request ω → σ
  | .make op => levels.make s op
  | .begin => levels.begin s
  | .commit => levels.commit s
  | .discard => levels.discard s

def afterAll (s : σ) (requests : List (Request ω)) : σ := requests.foldl levels.after s

/-- What remains if all levels but the lowest `count` are discarded. -/
def beneath (count : Nat) (s : σ) : σ := levels.discard^[levels.height s - count] s

variable {levels} {s : σ} {count : Nat}

theorem beneath_of_le (h : levels.height s ≤ count) : levels.beneath count s = s := by
  rw [beneath, Nat.sub_eq_zero_of_le h]
  rfl

theorem beneath_of_lt (h : count < levels.height s) :
    levels.beneath count s = levels.beneath count (levels.discard s) := by
  obtain ⟨more, hmore⟩ := Nat.exists_eq_add_of_lt h
  have hheight : levels.height s - count = (levels.height (levels.discard s) - count) + 1 := by
    rw [levels.height_discard]
    omega
  rw [beneath, beneath, hheight, Function.iterate_succ_apply]

theorem height_beneath : levels.height (levels.beneath count s) = min count (levels.height s) := by
  have hdiscards : ∀ times, levels.height (levels.discard^[times] s) = levels.height s - times := by
    intro times
    induction times with
    | zero => rfl
    | succ times ih =>
      rw [Function.iterate_succ_apply', levels.height_discard, ih]
      omega
  rw [beneath, hdiscards]
  omega

theorem beneath_pred (h : 0 < levels.height s) :
    levels.beneath (levels.height s - 1) s = levels.discard s := by
  rw [beneath_of_lt (by omega), beneath_of_le (Nat.le_of_eq (levels.height_discard s))]

theorem beneath_make (op : ω) (h : count < levels.height s) :
    levels.beneath count (levels.make s op) = levels.beneath count s := by
  have hmade : count < levels.height (levels.make s op) := by rwa [levels.height_make]
  rw [beneath_of_lt hmade, beneath_of_lt h, levels.discard_make s op (Nat.zero_lt_of_lt h)]

theorem beneath_begin (h : count ≤ levels.height s) :
    levels.beneath count (levels.begin s) = levels.beneath count s := by
  have hbegun : count < levels.height (levels.begin s) := by
    rw [levels.height_begin]
    omega
  rw [beneath_of_lt hbegun, levels.discard_begin]

theorem beneath_commit (h : count + 1 < levels.height s) :
    levels.beneath count (levels.commit s) = levels.beneath count s := by
  have hcommitted : count < levels.height (levels.commit s) := by
    rw [levels.height_commit]
    omega
  have hdiscarded : count < levels.height (levels.discard s) := by
    rw [levels.height_discard]
    omega
  rw [beneath_of_lt hcommitted, levels.discard_commit s (by omega), ← beneath_of_lt hdiscarded,
    ← beneath_of_lt (by omega)]

/-- A request on a higher level, after which a higher level is still open. -/
theorem beneath_after (request : Request ω) (h : count < levels.height s)
    (hafter : count < levels.height (levels.after s request)) :
    levels.beneath count (levels.after s request) = levels.beneath count s := by
  cases request with
  | make op => exact beneath_make op h
  | begin => exact beneath_begin (Nat.le_of_lt h)
  | commit =>
    rw [after, levels.height_commit] at hafter
    exact beneath_commit (by omega)
  | discard => exact (beneath_of_lt h).symm

/-- **As long as a higher level is open, what lies beneath stays as it is.** -/
theorem beneath_afterAll {requests : List (Request ω)}
    (hopen : ∀ made, made <+: requests → count < levels.height (levels.afterAll s made)) :
    levels.beneath count (levels.afterAll s requests) = levels.beneath count s := by
  induction requests generalizing s with
  | nil => rfl
  | cons request rest ih =>
    have hrest : ∀ made, made <+: rest →
        count < levels.height (levels.afterAll (levels.after s request) made) :=
      fun made hmade => hopen (request :: made) ((List.prefix_cons_inj request).mpr hmade)
    have hone := beneath_after request (hopen [] List.nil_prefix) (hrest [] List.nil_prefix)
    exact (ih hrest).trans hone

theorem beneath_begin_afterAll {requests : List (Request ω)}
    (hopen : ∀ made, made <+: requests →
      levels.height s < levels.height (levels.afterAll (levels.begin s) made)) :
    levels.beneath (levels.height s) (levels.afterAll (levels.begin s) requests) = s := by
  rw [beneath_afterAll hopen, beneath_begin (Nat.le_refl _), beneath_of_le (Nat.le_refl _)]

end Levels

/-! ### Agreement level by level -/

section

variable {σ τ ω : Type} {first : Levels σ ω} {second : Levels τ ω} {agree : σ → τ → Prop}

/-- As many levels are open on both sides, and they agree on each of them. -/
structure Mirrors (first : Levels σ ω) (second : Levels τ ω) (agree : σ → τ → Prop) (s : σ) (t : τ) :
    Prop where
  height_eq : first.height s = second.height t
  beneath : ∀ count, agree (first.beneath count s) (second.beneath count t)

/-- Single requests keep the agreement of the innermost levels. -/
structure Simulates (first : Levels σ ω) (second : Levels τ ω) (agree : σ → τ → Prop) : Prop where
  make : ∀ {s t} op, first.height s = second.height t → agree s t →
    agree (first.make s op) (second.make t op)
  begin : ∀ {s t}, agree s t → agree (first.begin s) (second.begin t)
  commit : ∀ {s t}, first.height s = second.height t → 0 < first.height s → agree s t →
    agree (first.discard s) (second.discard t) → agree (first.commit s) (second.commit t)

namespace Mirrors

variable {s : σ} {t : τ}

theorem top (h : Mirrors first second agree s t) : agree s t := by
  have htop := h.beneath (first.height s)
  rwa [Levels.beneath_of_le (Nat.le_refl _), Levels.beneath_of_le (Nat.le_of_eq h.height_eq.symm)]
    at htop

theorem of_height (hfirst : first.height s = 0) (hsecond : second.height t = 0) (h : agree s t) :
    Mirrors first second agree s t where
  height_eq := hfirst.trans hsecond.symm
  beneath count := by
    rw [Levels.beneath_of_le (by omega), Levels.beneath_of_le (by omega)]
    exact h

/-- The levels agree where the innermost ones do and those beneath have not changed. -/
theorem of_innermost (h : Mirrors first second agree s t) {s' : σ} {t' : τ}
    (hheight : first.height s' = second.height t') (htop : agree s' t')
    (hbeneath : ∀ count, count < first.height s' →
      first.beneath count s' = first.beneath count s ∧ second.beneath count t' = second.beneath count t) :
    Mirrors first second agree s' t' := by
  refine ⟨hheight, ?_⟩
  intro count
  by_cases hcount : count < first.height s'
  · obtain ⟨hfirst, hsecond⟩ := hbeneath count hcount
    rw [hfirst, hsecond]
    exact h.beneath count
  · rw [Levels.beneath_of_le (by omega), Levels.beneath_of_le (by omega)]
    exact htop

theorem discard_top (h : Mirrors first second agree s t) (hopen : 0 < first.height s) :
    agree (first.discard s) (second.discard t) := by
  have hlast := h.beneath (first.height s - 1)
  rw [Levels.beneath_pred hopen] at hlast
  rw [h.height_eq] at hlast hopen
  rwa [Levels.beneath_pred hopen] at hlast

theorem discard (h : Mirrors first second agree s t) :
    Mirrors first second agree (first.discard s) (second.discard t) := by
  have hheight := h.height_eq
  by_cases hnone : first.height s = 0
  · rwa [first.discard_of_height s hnone, second.discard_of_height t (hheight.symm.trans hnone)]
  · have hfirst : first.height (first.discard s) = first.height s - 1 := first.height_discard s
    have hsecond : second.height (second.discard t) = second.height t - 1 := second.height_discard t
    refine h.of_innermost (by omega) (h.discard_top (by omega)) ?_
    intro count hcount
    exact ⟨(Levels.beneath_of_lt (by omega)).symm, (Levels.beneath_of_lt (by omega)).symm⟩

end Mirrors

namespace Simulates

variable {s : σ} {t : τ}

theorem make_mirrors (hsim : Simulates first second agree) (h : Mirrors first second agree s t) (op : ω) :
    Mirrors first second agree (first.make s op) (second.make t op) := by
  have hheight := h.height_eq
  have hfirst : first.height (first.make s op) = first.height s := first.height_make s op
  have hsecond : second.height (second.make t op) = second.height t := second.height_make t op
  refine h.of_innermost (by omega) (hsim.make op hheight h.top) ?_
  intro count hcount
  exact ⟨Levels.beneath_make op (by omega), Levels.beneath_make op (by omega)⟩

theorem begin_mirrors (hsim : Simulates first second agree) (h : Mirrors first second agree s t) :
    Mirrors first second agree (first.begin s) (second.begin t) := by
  have hheight := h.height_eq
  have hfirst : first.height (first.begin s) = first.height s + 1 := first.height_begin s
  have hsecond : second.height (second.begin t) = second.height t + 1 := second.height_begin t
  refine h.of_innermost (by omega) (hsim.begin h.top) ?_
  intro count hcount
  exact ⟨Levels.beneath_begin (by omega), Levels.beneath_begin (by omega)⟩

theorem commit_mirrors (hsim : Simulates first second agree) (h : Mirrors first second agree s t) :
    Mirrors first second agree (first.commit s) (second.commit t) := by
  have hheight := h.height_eq
  by_cases hnone : first.height s = 0
  · rwa [first.commit_of_height s hnone, second.commit_of_height t (hheight.symm.trans hnone)]
  · have hopen : 0 < first.height s := Nat.pos_of_ne_zero hnone
    have hfirst : first.height (first.commit s) = first.height s - 1 := first.height_commit s
    have hsecond : second.height (second.commit t) = second.height t - 1 := second.height_commit t
    refine h.of_innermost (by omega) (hsim.commit hheight hopen h.top (h.discard_top hopen)) ?_
    intro count hcount
    exact ⟨Levels.beneath_commit (by omega), Levels.beneath_commit (by omega)⟩

theorem after (hsim : Simulates first second agree) (h : Mirrors first second agree s t)
    (request : Request ω) :
    Mirrors first second agree (first.after s request) (second.after t request) := by
  cases request with
  | make op => exact hsim.make_mirrors h op
  | begin => exact hsim.begin_mirrors h
  | commit => exact hsim.commit_mirrors h
  | discard => exact h.discard

/-- **What single requests keep, any requests keep.** -/
theorem mirrors (hsim : Simulates first second agree) (h : Mirrors first second agree s t)
    (requests : List (Request ω)) :
    Mirrors first second agree (first.afterAll s requests) (second.afterAll t requests) := by
  induction requests generalizing s t with
  | nil => exact h
  | cons request rest ih => exact ih (hsim.after h request)

end Simulates

end

/-! ### Copies -/

/-- A state, and the copies of it that have been put aside, the latest first. -/
structure Copies (α : Type) where
  top : α
  below : List α

namespace Copies

variable {α ω : Type}

def restore (copies : Copies α) : Copies α :=
  match copies.below with
  | [] => copies
  | last :: rest => ⟨last, rest⟩

/-- Opening a level puts a copy aside, a commit forgets it, and a discard goes back to it. -/
def levels (make : α → ω → α) : Levels (Copies α) ω where
  height copies := copies.below.length
  make copies op := ⟨make copies.top op, copies.below⟩
  begin copies := ⟨copies.top, copies.top :: copies.below⟩
  commit copies := ⟨copies.top, copies.below.tail⟩
  discard := restore
  height_make _ _ := rfl
  height_begin _ := rfl
  height_commit _ := List.length_tail
  height_discard copies := by rcases copies with ⟨top, _ | ⟨last, rest⟩⟩ <;> rfl
  commit_of_height copies h := by
    obtain ⟨top, below⟩ := copies
    obtain rfl : below = [] := List.length_eq_zero_iff.mp h
    rfl
  discard_of_height copies h := by
    obtain ⟨top, below⟩ := copies
    obtain rfl : below = [] := List.length_eq_zero_iff.mp h
    rfl
  discard_make copies op h := by
    rcases copies with ⟨top, _ | ⟨last, rest⟩⟩
    · cases h
    · rfl
  discard_begin _ := rfl
  discard_commit copies h := by
    rcases copies with ⟨top, _ | ⟨last, _ | ⟨next, rest⟩⟩⟩
    · cases h
    · exact absurd h (Nat.lt_irrefl 1)
    · rfl

end Copies

end NameAuction
