import Mathlib.Algebra.BigOperators.Group.Finset.Basic
import Mathlib.Data.Finset.Basic
import NameAuction.Proofs.Escrow.Amounts

/-!
# Bundles are maps from denominations to amounts

Two bundles with the same amounts are the same bundle, so every law of sums and differences is one of numbers,
denomination by denomination.  A sum exists where all amounts fit, and in which order it is taken does not
matter, not even to whether it fails (`Bundle.add_comm`, `Bundle.add_assoc`).  A difference exists where
everything is covered (`Bundle.covers_iff`), and it undoes a sum as a sum undoes it.  A bundle that is built
from coins is a rearrangement of them (`Bundle.ofCoins_eq_ok_iff`), so the order in which they come does not
matter either.  `Bundle.canonical_map` says all this together.
-/

namespace NameAuction

namespace Bundle

/-! ### Amounts -/

theorem eq_iff_amountOf {a b : Bundle} : a = b ↔ ∀ denom, a.amountOf denom = b.amountOf denom := by
  constructor
  · rintro rfl denom
    rfl
  · intro h
    exact eq_of_held_eq fun denom => congrArg Word.toNat (h denom)

theorem held_of_mem {bundle : Bundle} {coin : Coin} (h : coin ∈ bundle.coins) :
    bundle.held coin.denom = coin.amount.toNat := by
  rw [held_eq, bundle.ascending.heldIn_of_mem h]

theorem exists_mem_of_held_pos {bundle : Bundle} {denom : String} (h : 0 < bundle.held denom) :
    ∃ coin ∈ bundle.coins, coin.denom = denom := by
  rw [held_eq] at h
  exact Coin.exists_mem_of_heldIn_pos h

/-- **A bundle covers another where it holds at least as much of everything.** -/
theorem covers_iff {a b : Bundle} :
    a.covers b = true ↔ ∀ denom, b.held denom ≤ a.held denom := by
  simp only [covers, List.all_eq_true, decide_eq_true_eq]
  constructor
  · intro h denom
    cases Nat.eq_zero_or_pos (b.held denom) with
    | inl hzero =>
      rw [hzero]
      exact Nat.zero_le _
    | inr hpos =>
      obtain ⟨coin, hcoin, rfl⟩ := exists_mem_of_held_pos hpos
      rw [held_of_mem hcoin]
      exact h coin hcoin
  · intro h coin hcoin
    have hle := h coin.denom
    rw [held_of_mem hcoin] at hle
    exact hle

def denoms (bundle : Bundle) : Finset String := (bundle.coins.map (·.denom)).toFinset

theorem nodup_denoms {coins : List Coin} (h : Coin.Ascending coins) : (coins.map (·.denom)).Nodup := by
  refine List.pairwise_map.mpr (h.pairwise.imp ?_)
  intro a b hlt heq
  exact Std.lt_irrefl (heq ▸ hlt)

theorem amountOf_of_mem {bundle : Bundle} {coin : Coin} (h : coin ∈ bundle.coins) :
    bundle.amountOf coin.denom = coin.amount :=
  Word.ext (held_of_mem h)

theorem mem_denoms_iff {bundle : Bundle} {denom : String} :
    denom ∈ bundle.denoms ↔ 0 < bundle.held denom := by
  rw [denoms, List.mem_toFinset, List.mem_map]
  constructor
  · rintro ⟨coin, hcoin, rfl⟩
    rw [held_of_mem hcoin]
    exact bundle.ascending.positive coin hcoin
  · exact exists_mem_of_held_pos

/-- A sum over the coins of a bundle is one over any denominations among which theirs are. -/
theorem sum_coins {value : Coin → Nat} (hvalue : ∀ denom, value ⟨denom, 0⟩ = 0) {bundle : Bundle}
    {denoms : Finset String} (h : bundle.denoms ⊆ denoms) :
    (bundle.coins.map value).sum = ∑ denom ∈ denoms, value ⟨denom, bundle.amountOf denom⟩ := by
  have hsub : ∑ denom ∈ bundle.denoms, value ⟨denom, bundle.amountOf denom⟩ =
      ∑ denom ∈ denoms, value ⟨denom, bundle.amountOf denom⟩ :=
    Finset.sum_subset h fun denom _ hnot => by
      rw [mem_denoms_iff] at hnot
      rw [show bundle.amountOf denom = 0 from Word.ext (Nat.eq_zero_of_not_pos hnot), hvalue]
  rw [← hsub, Bundle.denoms, List.sum_toFinset _ (nodup_denoms bundle.ascending), List.map_map]
  refine congrArg List.sum (List.map_congr_left fun coin hcoin => ?_)
  rw [Function.comp_apply, amountOf_of_mem hcoin]

/-! ### Sums -/

section

variable {a b c total : Bundle}

theorem exists_add_iff :
    (∃ total, a.add b = .ok total) ↔ ∀ denom, a.held denom + b.held denom < 256 ^ 16 := by
  constructor
  · rintro ⟨total, htotal⟩ denom
    rw [← held_add htotal]
    exact total.held_lt denom
  · intro h
    cases hadd : a.add b with
    | ok total => exact ⟨total, rfl⟩
    | error place =>
      obtain ⟨-, denom, hle⟩ := add_eq_error_iff.mp hadd
      exact absurd (h denom) (Nat.not_lt_of_le hle)

/-- Computations that can fail in one way only are known by what they give. -/
theorem eq_of_gives {x y : Except Overflow Bundle} (hx : ∀ place, x = .error place → place = .coinAddition)
    (hy : ∀ place, y = .error place → place = .coinAddition)
    (h : ∀ total, x = .ok total ↔ y = .ok total) : x = y := by
  cases x with
  | ok total => exact ((h total).mp rfl).symm
  | error place =>
    cases y with
    | ok total => cases (h total).mpr rfl
    | error other => rw [hx place rfl, hy other rfl]

theorem add_fails_so {place : Overflow} (h : a.add b = .error place) : place = .coinAddition :=
  (add_eq_error_iff.mp h).1

/-- **Sums do not depend on the order of two bundles**, and neither do their failures. -/
theorem add_comm (a b : Bundle) : a.add b = b.add a := by
  refine eq_of_gives (fun _ => add_fails_so) (fun _ => add_fails_so) fun total => ?_
  rw [add_eq_ok_iff, add_eq_ok_iff]
  exact forall_congr' fun denom => by rw [Nat.add_comm]

theorem add_add_eq_ok_iff : (do (← a.add b).add c) = .ok total ↔
    ∀ denom, total.held denom = a.held denom + b.held denom + c.held denom := by
  rw [Except.bind_eq_ok_iff]
  constructor
  · rintro ⟨sum, hsum, htotal⟩ denom
    rw [held_add htotal, held_add hsum]
  · intro h
    have hfits : ∀ denom, a.held denom + b.held denom < 256 ^ 16 := by
      intro denom
      have hlt := total.held_lt denom
      have hdenom := h denom
      omega
    obtain ⟨sum, hsum⟩ := exists_add_iff.mpr hfits
    refine ⟨sum, hsum, add_eq_ok_iff.mpr fun denom => ?_⟩
    rw [h, held_add hsum]

theorem add_add_fails_so {place : Overflow} (h : (do (← a.add b).add c) = .error place) :
    place = .coinAddition := by
  obtain hfirst | ⟨sum, -, hsecond⟩ := Except.bind_eq_error_iff.mp h
  · exact add_fails_so hfirst
  · exact add_fails_so hsecond

theorem add_assoc (a b c : Bundle) : (do (← a.add b).add c) = (do a.add (← b.add c)) := by
  simp only [add_comm a]
  refine eq_of_gives (fun _ h => ?_) (fun _ => add_add_fails_so) fun total => ?_
  · rw [add_comm b a] at h
    exact add_add_fails_so h
  · rw [add_comm b a, add_add_eq_ok_iff, add_add_eq_ok_iff]
    exact forall_congr' fun denom => by rw [Nat.add_comm (b.held denom + _), Nat.add_assoc]

end

/-! ### Differences -/

section

variable {a b rest total : Bundle}

theorem exists_sub?_iff : (∃ rest, a.sub? b = some rest) ↔ a.covers b = true := by
  rw [covers_iff, ← Option.isSome_iff_exists, ← not_iff_not, Option.not_isSome_iff_eq_none, sub?_eq_none_iff,
    not_forall]
  exact exists_congr fun denom => Nat.not_le.symm

theorem sub?_of_add (h : a.add b = .ok total) : total.sub? b = some a :=
  sub?_eq_some_iff.mpr (held_add h)

theorem add_of_sub? (h : a.sub? b = some rest) : rest.add b = .ok a :=
  add_eq_ok_iff.mpr (held_sub? h)

end

/-! ### Bundles from coins -/

/-- Coins that can be a bundle: proper denominations, none of them twice, and positive amounts. -/
structure Proper (coins : List Coin) : Prop where
  denoms : ∀ coin ∈ coins, Coin.isDenom coin.denom = true
  positive : ∀ coin ∈ coins, coin.IsPositive
  distinct : (coins.map (·.denom)).Nodup

theorem Proper.perm {coins other : List Coin} (h : Proper coins) (hperm : coins.Perm other) :
    Proper other where
  denoms coin hcoin := h.denoms coin (hperm.mem_iff.mpr hcoin)
  positive coin hcoin := h.positive coin (hperm.mem_iff.mpr hcoin)
  distinct := (hperm.map _).nodup_iff.mp h.distinct

theorem checkMembers_eq_ok_iff {coins : List Coin} :
    checkMembers coins = .ok () ↔ ∀ coin ∈ coins, Coin.isDenom coin.denom = true ∧ coin.IsPositive := by
  induction coins with
  | nil => simp [checkMembers]
  | cons coin rest ih =>
    have hcoin : checkMember coin = .ok () ↔ Coin.isDenom coin.denom = true ∧ coin.IsPositive := by
      simp [checkMember, Coin.check, Except.bind_eq_ok_iff]
    rw [List.forall_mem_cons, ← hcoin, ← ih, checkMembers]
    cases checkMember coin <;> simp

theorem perm_insertByDenom (coin : Coin) (coins : List Coin) :
    (insertByDenom coin coins).Perm (coin :: coins) := by
  induction coins with
  | nil => exact .refl _
  | cons c rest ih =>
    unfold insertByDenom
    split
    · exact .refl _
    · exact (ih.cons c).trans (.swap coin c rest)

theorem perm_sortByDenom (coins : List Coin) : (sortByDenom coins).Perm coins := by
  induction coins with
  | nil => exact .refl _
  | cons coin rest ih => exact (perm_insertByDenom coin (sortByDenom rest)).trans (ih.cons coin)

theorem repeatedDenom?_of_nodup {coins : List Coin} (h : (coins.map (·.denom)).Nodup) :
    repeatedDenom? coins = none := by
  induction coins with
  | nil => rfl
  | cons a rest ih =>
    cases rest with
    | nil => rfl
    | cons b rest =>
      rw [List.map_cons, List.nodup_cons] at h
      have hne : a.denom ≠ b.denom := fun heq => h.1 (by simp [heq])
      rw [repeatedDenom?, if_neg hne]
      exact ih h.2

theorem heldIn_perm {coins other : List Coin} (h : coins.Perm other) (denom : String) :
    Coin.heldIn coins denom = Coin.heldIn other denom :=
  (h.map _).sum_nat

theorem coins_of_ofCoins {coins : List Coin} {bundle : Bundle} (h : ofCoins coins = .ok bundle) :
    checkMembers coins = .ok () ∧ repeatedDenom? (sortByDenom coins) = none ∧
      bundle.coins = sortByDenom coins := by
  unfold ofCoins at h
  split at h
  · cases h
  · split at h
    · cases h
    · obtain rfl := Except.ok.inj h
      exact ⟨‹_›, ‹_›, rfl⟩

/-- **The bundle of some coins is a rearrangement of them**, and only proper coins have one. -/
theorem ofCoins_eq_ok_iff {coins : List Coin} {bundle : Bundle} :
    ofCoins coins = .ok bundle ↔ Proper coins ∧ bundle.coins.Perm coins := by
  constructor
  · intro h
    obtain ⟨hcheck, -, hcoins⟩ := coins_of_ofCoins h
    have hmembers := checkMembers_eq_ok_iff.mp hcheck
    have hperm : bundle.coins.Perm coins := hcoins ▸ perm_sortByDenom coins
    refine ⟨⟨fun coin hcoin => (hmembers coin hcoin).1, fun coin hcoin => (hmembers coin hcoin).2, ?_⟩, hperm⟩
    exact (hperm.map _).nodup_iff.mp (nodup_denoms bundle.ascending)
  · rintro ⟨hproper, hperm⟩
    have hcheck : checkMembers coins = .ok () :=
      checkMembers_eq_ok_iff.mpr fun coin hcoin => ⟨hproper.denoms coin hcoin, hproper.positive coin hcoin⟩
    have hnone : repeatedDenom? (sortByDenom coins) = none :=
      repeatedDenom?_of_nodup (hproper.perm (perm_sortByDenom coins).symm).distinct
    unfold ofCoins
    split
    · rename_i hfault
      rw [hcheck] at hfault
      cases hfault
    · split
      · rename_i hrepeated
        rw [hnone] at hrepeated
        cases hrepeated
      · refine congrArg Except.ok (eq_of_held_eq fun denom => ?_)
        rw [held_eq, held_eq]
        exact heldIn_perm ((perm_sortByDenom coins).trans hperm.symm) denom

theorem exists_ofCoins_iff {coins : List Coin} : (∃ bundle, ofCoins coins = .ok bundle) ↔ Proper coins := by
  constructor
  · rintro ⟨bundle, h⟩
    exact (ofCoins_eq_ok_iff.mp h).1
  · intro h
    have hsorted : Coin.Ascending (sortByDenom coins) :=
      ⟨pairwise_lt_of_repeatedDenom?_eq_none (pairwise_sortByDenom coins)
          (repeatedDenom?_of_nodup (h.perm (perm_sortByDenom coins).symm).distinct),
        fun coin hcoin => h.positive coin (mem_sortByDenom.mp hcoin)⟩
    exact ⟨⟨_, hsorted⟩, ofCoins_eq_ok_iff.mpr ⟨h, perm_sortByDenom coins⟩⟩

theorem ofCoins_perm {coins other : List Coin} (hperm : coins.Perm other) {bundle : Bundle} :
    ofCoins coins = .ok bundle ↔ ofCoins other = .ok bundle := by
  rw [ofCoins_eq_ok_iff, ofCoins_eq_ok_iff]
  constructor
  · rintro ⟨hproper, h⟩
    exact ⟨hproper.perm hperm, h.trans hperm⟩
  · rintro ⟨hproper, h⟩
    exact ⟨hproper.perm hperm.symm, h.trans hperm.symm⟩

/-! ### The laws together -/

structure Laws (a b c : Bundle) : Prop where
  ascending : a.coins.Pairwise (fun coin other => coin.denom < other.denom) ∧
    ∀ coin ∈ a.coins, 0 < coin.amount
  eq_iff : a = b ↔ ∀ denom, a.amountOf denom = b.amountOf denom
  sum_exists : (∃ total, a.add b = .ok total) ↔ ∀ denom, a.held denom + b.held denom < 256 ^ 16
  sum : ∀ total, a.add b = .ok total → ∀ denom, total.held denom = a.held denom + b.held denom
  /-- Failures included. -/
  comm : a.add b = b.add a
  assoc : (do (← a.add b).add c) = (do a.add (← b.add c))
  difference_exists : (∃ rest, a.sub? b = some rest) ↔ a.covers b = true
  difference : ∀ rest, a.sub? b = some rest → ∀ denom, rest.held denom = a.held denom - b.held denom
  sum_undone : ∀ total, a.add b = .ok total → total.sub? b = some a
  difference_undone : ∀ rest, a.sub? b = some rest → rest.add b = .ok a

theorem laws (a b c : Bundle) : Laws a b c where
  ascending := ⟨a.ascending.pairwise, a.ascending.positive⟩
  eq_iff := eq_iff_amountOf
  sum_exists := exists_add_iff
  sum _ h := held_add h
  comm := add_comm a b
  assoc := add_assoc a b c
  difference_exists := exists_sub?_iff
  difference rest h denom := by
    have hheld := held_sub? h denom
    omega
  sum_undone _ h := sub?_of_add h
  difference_undone _ h := add_of_sub? h

/-- The laws of building a bundle from coins. -/
structure Gathers (coins : List Coin) : Prop where
  exists_iff : (∃ bundle, ofCoins coins = .ok bundle) ↔ Proper coins
  perm : ∀ bundle, ofCoins coins = .ok bundle → bundle.coins.Perm coins
  any_order : ∀ other, coins.Perm other → ∀ bundle, ofCoins coins = .ok bundle ↔ ofCoins other = .ok bundle

theorem gathers (coins : List Coin) : Gathers coins where
  exists_iff := exists_ofCoins_iff
  perm _ h := (ofCoins_eq_ok_iff.mp h).2
  any_order _ hperm _ := ofCoins_perm hperm

/-- **Bundles are maps from denominations to amounts**, and are listed in one way only.  Sums and differences
are those of the amounts and undo each other; a sum exists just where all amounts fit and can be taken in any
order; a difference exists just where everything is covered.  Coins in any order give the same bundle, if they
are proper, and none else; one coin gives the bundle of its amount. -/
theorem canonical_map :
    (∀ a b c : Bundle, Laws a b c) ∧ (∀ coins : List Coin, Gathers coins) ∧
      ∀ (coin : Coin) (denom : String), (ofCoin coin).held denom = coin.held denom :=
  ⟨laws, gathers, held_ofCoin⟩

/-- Two denominations, not in their order, and all that there can be of one of them. -/
def mixed : List Coin := [⟨"usdr", ⟨5, by decide⟩⟩, ⟨"uluna", .max⟩]

/-- With one coin more of it, the sum of three fails, whichever two are added first. -/
theorem canonical_map_mixed :
    ∃ bundle, ofCoins mixed = .ok bundle ∧ ofCoins mixed.reverse = .ok bundle ∧
      (do (← bundle.add (ofCoin ⟨"usdr", ⟨1, by decide⟩⟩)).add (ofCoin ⟨"uluna", ⟨1, by decide⟩⟩)) =
        .error .coinAddition ∧
      (do bundle.add (← (ofCoin ⟨"usdr", ⟨1, by decide⟩⟩).add (ofCoin ⟨"uluna", ⟨1, by decide⟩⟩))) =
        .error .coinAddition := by
  obtain ⟨hlaws, hgathers, -⟩ := canonical_map
  have hproper : Proper mixed := ⟨by decide, by decide, by decide⟩
  obtain ⟨bundle, hbundle⟩ := (hgathers mixed).exists_iff.mpr hproper
  refine ⟨bundle, hbundle, ((hgathers mixed).any_order _ mixed.reverse_perm.symm bundle).mp hbundle, ?_⟩
  have hmixed : ofCoins mixed = .ok ((ofCoins mixed).toOption.getD default) := by decide +kernel
  obtain rfl := Except.ok.inj (hbundle.symm.trans hmixed)
  rw [← (hlaws _ _ _).assoc]
  exact ⟨by decide +kernel, by decide +kernel⟩

end Bundle

end NameAuction
