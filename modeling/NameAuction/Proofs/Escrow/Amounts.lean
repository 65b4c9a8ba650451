import Mathlib.Algebra.Ring.Nat
import NameAuction.Escrow.Bank

/-!
# What a bundle holds

A bundle is known by how much it holds of each denomination (`Bundle.held`, `Bundle.eq_of_held_eq`).  Sums
and differences are sums and differences of what is held (`Bundle.add_eq_ok_iff`, `Bundle.sub?_eq_some_iff`);
a sum fails exactly where an amount does not fit (`Bundle.add_eq_error_iff`), and a difference exactly where
something is not covered (`Bundle.sub?_eq_none_iff`).  Credits and debits are the same with other faults.
-/

namespace NameAuction

/-! ### Listings of coins -/

namespace Coin

/-- How much of a denomination a coin is. -/
def held (coin : Coin) (denom : String) : Nat := if coin.denom = denom then coin.amount.toNat else 0

def heldIn (coins : List Coin) (denom : String) : Nat := (coins.map (·.held denom)).sum

@[simp] theorem heldIn_cons (coin : Coin) (coins : List Coin) (denom : String) :
    heldIn (coin :: coins) denom = coin.held denom + heldIn coins denom := by
  simp [heldIn]

theorem held_self (coin : Coin) : coin.held coin.denom = coin.amount.toNat := if_pos rfl

theorem held_of_ne {coin : Coin} {denom : String} (h : coin.denom ≠ denom) : coin.held denom = 0 :=
  if_neg h

theorem heldIn_eq_zero {coins : List Coin} {denom : String} (h : ∀ c ∈ coins, c.denom ≠ denom) :
    heldIn coins denom = 0 := by
  induction coins with
  | nil => rfl
  | cons c rest ih =>
    rw [heldIn_cons, held_of_ne (h c (List.mem_cons_self ..)),
      ih fun d hd => h d (List.mem_cons_of_mem _ hd)]

theorem Ascending.heldIn_of_mem {coins : List Coin} (h : Ascending coins) {coin : Coin}
    (hmem : coin ∈ coins) : heldIn coins coin.denom = coin.amount.toNat := by
  induction coins with
  | nil => cases hmem
  | cons c rest ih =>
    have hlt := h.head_lt
    rw [heldIn_cons]
    rcases List.mem_cons.mp hmem with rfl | hmem
    · have hrest : heldIn rest coin.denom = 0 :=
        heldIn_eq_zero fun d hd heq => Std.lt_irrefl (heq ▸ hlt d hd)
      rw [held_self, hrest, Nat.add_zero]
    · have hne : c.denom ≠ coin.denom := fun heq => Std.lt_irrefl (heq ▸ hlt coin hmem)
      rw [held_of_ne hne, ih h.tail hmem, Nat.zero_add]

theorem exists_mem_of_heldIn_pos {coins : List Coin} {denom : String} (h : 0 < heldIn coins denom) :
    ∃ c ∈ coins, c.denom = denom := by
  apply Classical.byContradiction
  intro hnone
  have hzero : heldIn coins denom = 0 := heldIn_eq_zero fun c hc heq => hnone ⟨c, hc, heq⟩
  omega

theorem Ascending.mem_iff {coins : List Coin} (h : Ascending coins) (coin : Coin) :
    coin ∈ coins ↔ coin.IsPositive ∧ heldIn coins coin.denom = coin.amount.toNat := by
  constructor
  · intro hmem
    exact ⟨h.positive coin hmem, h.heldIn_of_mem hmem⟩
  · rintro ⟨hpos, hheld⟩
    have hlt : 0 < heldIn coins coin.denom := by
      rw [hheld]
      exact hpos
    obtain ⟨c, hc, hdenom⟩ := exists_mem_of_heldIn_pos hlt
    have hamount := h.heldIn_of_mem hc
    rw [hdenom, hheld] at hamount
    have heq : coin = c := by
      cases coin
      cases c
      simp only [Coin.mk.injEq] at hdenom ⊢
      exact ⟨hdenom.symm, Word.ext hamount⟩
    rw [heq]
    exact hc

/-- **An ascending listing is known by what it holds.** -/
theorem Ascending.eq_of_heldIn_eq {a b : List Coin} (ha : Ascending a) (hb : Ascending b)
    (h : ∀ denom, heldIn a denom = heldIn b denom) : a = b := by
  have hmem : ∀ coin, coin ∈ a ↔ coin ∈ b := fun coin => by
    rw [ha.mem_iff, hb.mem_iff, h]
  have hnodup : ∀ {coins : List Coin}, Ascending coins → coins.Nodup := by
    intro coins hasc
    refine List.Pairwise.imp ?_ hasc.pairwise
    rintro c _ hlt rfl
    exact Std.lt_irrefl hlt
  have hperm := (List.perm_ext_iff_of_nodup (hnodup ha) (hnodup hb)).mpr hmem
  exact hperm.eq_of_pairwise (fun c d _ _ hcd hdc => absurd (Std.lt_trans hcd hdc) Std.lt_irrefl)
    ha.pairwise hb.pairwise

end Coin

namespace Word

variable {size : Nat}

theorem ofNat?_eq_none_iff {n : Nat} : (ofNat? n : Option (Word size)) = none ↔ 256 ^ size ≤ n := by
  rw [ofNat?]
  split
  · rename_i hlt
    exact ⟨fun hnone => absurd hnone (Option.some_ne_none _),
      fun hle => absurd hlt (Nat.not_lt_of_le hle)⟩
  · rename_i hnot
    exact ⟨fun _ => Nat.le_of_not_lt hnot, fun _ => rfl⟩

theorem sub?_eq_some {a b rest : Word size} (h : a.sub? b = some rest) :
    a.toNat = rest.toNat + b.toNat := by
  unfold sub? at h
  split at h
  · rename_i hle
    obtain rfl := Option.some.inj h
    have hle' : b.toNat ≤ a.toNat := hle
    show a.toNat = a.toNat - b.toNat + b.toNat
    omega
  · cases h

theorem sub?_eq_none {a b : Word size} (h : a.sub? b = none) : a.toNat < b.toNat := by
  unfold sub? at h
  split at h
  · cases h
  · rename_i hle
    exact Nat.lt_of_not_le hle

end Word

namespace Bundle

open Coin

/-! ### Adding and taking coins -/

theorem heldIn_addCoin? {coin : Coin} {coins out : List Coin} (h : addCoin? coin coins = some out)
    (denom : String) : heldIn out denom = heldIn coins denom + coin.held denom := by
  induction coins generalizing out with
  | nil =>
    obtain rfl := Option.some.inj h
    exact Nat.add_comm ..
  | cons c rest ih =>
    unfold addCoin? at h
    split at h
    · obtain rfl := Option.some.inj h
      rw [heldIn_cons, Nat.add_comm]
    · split at h
      · rename_i heq
        obtain ⟨total, htotal, rfl⟩ := Option.map_eq_some_iff.mp h
        have hsum := Word.ofNat?_eq_some_iff.mp htotal
        simp only [heldIn_cons, held, heq]
        split <;> omega
      · obtain ⟨rest', hrest, rfl⟩ := Option.map_eq_some_iff.mp h
        rw [heldIn_cons, heldIn_cons, ih hrest, Nat.add_assoc]

theorem addCoin?_eq_none {coin : Coin} {coins : List Coin} (h : addCoin? coin coins = none) :
    256 ^ 16 ≤ heldIn coins coin.denom + coin.amount.toNat := by
  induction coins with
  | nil => cases h
  | cons c rest ih =>
    unfold addCoin? at h
    split at h
    · cases h
    · split at h
      · rename_i heq
        have hsum := Word.ofNat?_eq_none_iff.mp (Option.map_eq_none_iff.mp h)
        rw [heldIn_cons, heq, held_self]
        omega
      · have hrest := ih (Option.map_eq_none_iff.mp h)
        rw [heldIn_cons]
        omega

theorem heldIn_subCoin? {coin : Coin} {coins out : List Coin} (h : subCoin? coin coins = some out)
    (denom : String) : heldIn coins denom = heldIn out denom + coin.held denom := by
  induction coins generalizing out with
  | nil => cases h
  | cons c rest ih =>
    unfold subCoin? at h
    split at h
    · rename_i heq
      obtain ⟨left, hleft, rfl⟩ := Option.map_eq_some_iff.mp h
      have hsub := Word.sub?_eq_some hleft
      split
      · simp only [heldIn_cons, held, heq]
        split <;> omega
      · rename_i hzero
        have hleft0 : left.toNat = 0 := Nat.eq_zero_of_not_pos hzero
        simp only [heldIn_cons, held, heq]
        split <;> omega
    · obtain ⟨rest', hrest, rfl⟩ := Option.map_eq_some_iff.mp h
      rw [heldIn_cons, heldIn_cons, ih hrest, Nat.add_assoc]

theorem subCoin?_eq_none {coin : Coin} {coins : List Coin} (hasc : Ascending coins)
    (hpos : coin.IsPositive) (h : subCoin? coin coins = none) :
    heldIn coins coin.denom < coin.amount.toNat := by
  induction coins with
  | nil => exact hpos
  | cons c rest ih =>
    unfold subCoin? at h
    split at h
    · rename_i heq
      have hlt := Word.sub?_eq_none (Option.map_eq_none_iff.mp h)
      have hheld := hasc.heldIn_of_mem (List.mem_cons_self ..)
      rw [← heq] at hheld
      omega
    · rename_i hne
      have hrest := ih hasc.tail (Option.map_eq_none_iff.mp h)
      rw [heldIn_cons, held_of_ne (Ne.symm hne)]
      omega

theorem heldIn_addCoins? {coins other out : List Coin} (h : addCoins? coins other = some out)
    (denom : String) : heldIn out denom = heldIn coins denom + heldIn other denom := by
  induction other generalizing coins with
  | nil =>
    obtain rfl := Option.some.inj h
    rfl
  | cons coin rest ih =>
    obtain ⟨mid, hmid, h⟩ := Option.bind_eq_some_iff.mp h
    rw [ih h, heldIn_addCoin? hmid, heldIn_cons, Nat.add_assoc]

theorem addCoins?_eq_none {coins other : List Coin} (h : addCoins? coins other = none) :
    ∃ denom, 256 ^ 16 ≤ heldIn coins denom + heldIn other denom := by
  induction other generalizing coins with
  | nil => cases h
  | cons coin rest ih =>
    cases hmid : addCoin? coin coins with
    | none =>
      have hle := addCoin?_eq_none hmid
      refine ⟨coin.denom, ?_⟩
      rw [heldIn_cons, held_self]
      omega
    | some mid =>
      rw [addCoins?, hmid] at h
      obtain ⟨denom, hle⟩ := ih h
      rw [heldIn_addCoin? hmid] at hle
      refine ⟨denom, ?_⟩
      rw [heldIn_cons]
      omega

theorem heldIn_subCoins? {coins other out : List Coin} (h : subCoins? coins other = some out)
    (denom : String) : heldIn coins denom = heldIn out denom + heldIn other denom := by
  induction other generalizing coins with
  | nil =>
    obtain rfl := Option.some.inj h
    rfl
  | cons coin rest ih =>
    obtain ⟨mid, hmid, h⟩ := Option.bind_eq_some_iff.mp h
    rw [heldIn_subCoin? hmid, ih h, heldIn_cons]
    omega

theorem subCoins?_eq_none {coins other : List Coin} (hasc : Ascending coins)
    (hpos : ∀ coin ∈ other, coin.IsPositive) (h : subCoins? coins other = none) :
    ∃ denom, heldIn coins denom < heldIn other denom := by
  induction other generalizing coins with
  | nil => cases h
  | cons coin rest ih =>
    cases hmid : subCoin? coin coins with
    | none =>
      have hlt := subCoin?_eq_none hasc (hpos coin (List.mem_cons_self ..)) hmid
      refine ⟨coin.denom, ?_⟩
      rw [heldIn_cons, held_self]
      omega
    | some mid =>
      rw [subCoins?, hmid] at h
      obtain ⟨denom, hlt⟩ := ih (ascending_subCoin? hasc hmid)
        (fun c hc => hpos c (List.mem_cons_of_mem _ hc)) h
      refine ⟨denom, ?_⟩
      rw [heldIn_subCoin? hmid, heldIn_cons]
      omega

/-! ### Bundles -/

/-- How much of a denomination a bundle holds. -/
def held (bundle : Bundle) (denom : String) : Nat := (bundle.amountOf denom).toNat

theorem held_lt (bundle : Bundle) (denom : String) : bundle.held denom < 256 ^ 16 :=
  (bundle.amountOf denom).toNat_lt

theorem held_eq (bundle : Bundle) (denom : String) : bundle.held denom = heldIn bundle.coins denom := by
  rw [held, amountOf]
  cases hfind : bundle.coins.find? (·.denom = denom) with
  | none =>
    have hnone := List.find?_eq_none.mp hfind
    rw [heldIn_eq_zero fun c hc => by simpa using hnone c hc]
    rfl
  | some coin =>
    have hdenom : coin.denom = denom := by simpa using List.find?_some hfind
    have hheld := bundle.ascending.heldIn_of_mem (List.mem_of_find?_eq_some hfind)
    rw [hdenom] at hheld
    exact hheld.symm

theorem eq_of_held_eq {a b : Bundle} (h : ∀ denom, a.held denom = b.held denom) : a = b := by
  have hcoins : a.coins = b.coins := a.ascending.eq_of_heldIn_eq b.ascending fun denom => by
    rw [← held_eq, ← held_eq, h]
  cases a
  cases b
  cases hcoins
  rfl

@[simp] theorem held_empty (denom : String) : empty.held denom = 0 := rfl

theorem isEmpty_iff (bundle : Bundle) : bundle.isEmpty = true ↔ bundle = empty := by
  rw [isEmpty, List.isEmpty_iff]
  constructor
  · intro h
    cases bundle
    cases h
    rfl
  · rintro rfl
    rfl

@[simp] theorem held_ofCoin (coin : Coin) (denom : String) : (ofCoin coin).held denom = coin.held denom := by
  rw [held_eq, ofCoin]
  split
  · simp [heldIn]
  · rename_i hzero
    have hamount : coin.amount.toNat = 0 := Nat.eq_zero_of_not_pos hzero
    simp [empty, heldIn, Coin.held, hamount]

theorem held_add {a b total : Bundle} (h : a.add b = .ok total) (denom : String) :
    total.held denom = a.held denom + b.held denom := by
  unfold add at h
  split at h
  · rename_i hsome
    obtain rfl := Except.ok.inj h
    rw [held_eq, held_eq, held_eq, heldIn_addCoins? hsome]
  · cases h

theorem add_eq_error {a b : Bundle} {place : Overflow} (h : a.add b = .error place) :
    place = .coinAddition ∧ ∃ denom, 256 ^ 16 ≤ a.held denom + b.held denom := by
  unfold add at h
  split at h
  · cases h
  · rename_i hnone
    obtain rfl := Except.error.inj h
    obtain ⟨denom, hle⟩ := addCoins?_eq_none hnone
    exact ⟨rfl, denom, by rw [held_eq, held_eq]; exact hle⟩

/-- **A sum holds the sums of what is held.** -/
theorem add_eq_ok_iff {a b total : Bundle} :
    a.add b = .ok total ↔ ∀ denom, total.held denom = a.held denom + b.held denom := by
  refine ⟨fun h => held_add h, fun h => ?_⟩
  cases hadd : a.add b with
  | ok sum =>
    refine congrArg Except.ok (eq_of_held_eq fun denom => ?_)
    rw [held_add hadd, h]
  | error place =>
    obtain ⟨-, denom, hle⟩ := add_eq_error hadd
    have hlt := total.held_lt denom
    have hsum := h denom
    omega

/-- **A sum fails where an amount does not fit.** -/
theorem add_eq_error_iff {a b : Bundle} {place : Overflow} :
    a.add b = .error place ↔
      place = .coinAddition ∧ ∃ denom, 256 ^ 16 ≤ a.held denom + b.held denom := by
  refine ⟨add_eq_error, ?_⟩
  rintro ⟨rfl, denom, hle⟩
  cases hadd : a.add b with
  | ok total =>
    have hsum := held_add hadd denom
    have hlt := total.held_lt denom
    omega
  | error place => rw [(add_eq_error hadd).1]

theorem held_sub? {a b rest : Bundle} (h : a.sub? b = some rest) (denom : String) :
    a.held denom = rest.held denom + b.held denom := by
  unfold sub? at h
  split at h
  · rename_i hsome
    obtain rfl := Option.some.inj h
    rw [held_eq, held_eq, held_eq, heldIn_subCoins? hsome]
  · cases h

theorem sub?_eq_none_iff {a b : Bundle} :
    a.sub? b = none ↔ ∃ denom, a.held denom < b.held denom := by
  constructor
  · intro h
    unfold sub? at h
    split at h
    · cases h
    · rename_i hnone
      obtain ⟨denom, hlt⟩ := subCoins?_eq_none a.ascending b.ascending.positive hnone
      exact ⟨denom, by rw [held_eq, held_eq]; exact hlt⟩
  · rintro ⟨denom, hlt⟩
    cases hsub : a.sub? b with
    | none => rfl
    | some rest =>
      have hheld := held_sub? hsub denom
      omega

theorem sub?_eq_some_iff {a b rest : Bundle} :
    a.sub? b = some rest ↔ ∀ denom, a.held denom = rest.held denom + b.held denom := by
  refine ⟨fun h => held_sub? h, fun h => ?_⟩
  cases hsub : a.sub? b with
  | none =>
    obtain ⟨denom, hlt⟩ := sub?_eq_none_iff.mp hsub
    have hheld := h denom
    omega
  | some left =>
    refine congrArg some (eq_of_held_eq fun denom => ?_)
    have hheld := h denom
    have hleft := held_sub? hsub denom
    omega

theorem credit_eq_ok_iff {balance amount total : Bundle} :
    balance.credit amount = .ok total ↔
      ∀ denom, total.held denom = balance.held denom + amount.held denom := by
  rw [credit, ← add_eq_ok_iff]
  cases balance.add amount <;> simp

theorem credit_eq_error_iff {balance amount : Bundle} {fault : EscrowFault} :
    balance.credit amount = .error fault ↔
      fault = .overflow ∧ ∃ denom, 256 ^ 16 ≤ balance.held denom + amount.held denom := by
  rw [credit]
  cases hadd : balance.add amount with
  | ok total =>
    refine ⟨nofun, fun h => ?_⟩
    cases hadd.symm.trans (add_eq_error_iff.mpr ⟨rfl, h.2⟩)
  | error place =>
    simp only [Except.error.injEq, (add_eq_error_iff.mp hadd).2, and_true]
    exact eq_comm

theorem debit_eq_ok_iff {available needed rest : Bundle} {fault : EscrowFault} :
    available.debit needed fault = .ok rest ↔
      ∀ denom, available.held denom = rest.held denom + needed.held denom := by
  rw [debit, demand_eq_ok_iff, sub?_eq_some_iff]

theorem debit_eq_error_iff {available needed : Bundle} {fault other : EscrowFault} :
    available.debit needed fault = .error other ↔
      other = fault ∧ ∃ denom, available.held denom < needed.held denom := by
  rw [debit, ← sub?_eq_none_iff]
  cases available.sub? needed with
  | none =>
    simp only [demand, Except.error.injEq, and_true]
    exact eq_comm
  | some rest => simp [demand]

end Bundle

end NameAuction
