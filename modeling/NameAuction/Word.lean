/-!
# Words

A `Word size` is a number that fits in `size` bytes.  Its sums, differences and products are checked:
each is `none` where the exact result does not fit, so no operation here wraps around.  `Amount` counts
coins and `Time` counts seconds.
-/

namespace NameAuction

/-- A number below the power of 256 that its size says. -/
structure Word (size : Nat) where
  toNat : Nat
  toNat_lt : toNat < Nat.pow 256 size
deriving DecidableEq

abbrev Amount := Word 16

abbrev Time := Word 8

/-- A length or a position. -/
abbrev Count := Word 8

namespace Word

variable {size : Nat}

@[ext] theorem ext {a b : Word size} (h : a.toNat = b.toNat) : a = b := by
  cases a; cases b; simp_all

def ofNat? (n : Nat) : Option (Word size) :=
  if h : n < Nat.pow 256 size then some ⟨n, h⟩ else none

theorem ofNat?_eq_some_iff {n : Nat} {a : Word size} : ofNat? n = some a ↔ a.toNat = n := by
  unfold ofNat?
  split
  · simp only [Option.some.injEq]
    constructor
    · rintro rfl; rfl
    · rintro rfl; rfl
  · rename_i h
    simp only [reduceCtorEq, false_iff]
    rintro rfl
    exact h a.toNat_lt

instance : Zero (Word size) := ⟨0, Nat.pow_pos (by decide)⟩

instance : Inhabited (Word size) := ⟨0⟩

instance : LE (Word size) := ⟨fun a b => a.toNat ≤ b.toNat⟩

instance : LT (Word size) := ⟨fun a b => a.toNat < b.toNat⟩

instance (a b : Word size) : Decidable (a ≤ b) := inferInstanceAs (Decidable (a.toNat ≤ b.toNat))

instance (a b : Word size) : Decidable (a < b) := inferInstanceAs (Decidable (a.toNat < b.toNat))

def max : Word size := ⟨Nat.pow 256 size - 1, Nat.sub_one_lt (Nat.ne_of_gt (Nat.pow_pos (by decide)))⟩

def add? (a b : Word size) : Option (Word size) := ofNat? (a.toNat + b.toNat)

def sub? (a b : Word size) : Option (Word size) :=
  if b ≤ a then some ⟨a.toNat - b.toNat, Nat.lt_of_le_of_lt (Nat.sub_le ..) a.toNat_lt⟩ else none

def mul? (a b : Word size) : Option (Word size) := ofNat? (a.toNat * b.toNat)

/-- The quotient rounded down; `none` for a zero divisor. -/
def div? (a b : Word size) : Option (Word size) :=
  if b = 0 then none
  else some ⟨a.toNat / b.toNat, Nat.lt_of_le_of_lt (Nat.div_le_self ..) a.toNat_lt⟩

end Word

instance {size : Nat} : ToString (Word size) := ⟨fun a => Nat.repr a.toNat⟩

end NameAuction
