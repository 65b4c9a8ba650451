import NameAuction.Coin
import NameAuction.Overflow

/-!
# Bundles of coins

A bundle holds a positive amount of some denominations, listed in ascending order, each once.  The type
carries this, so a bundle is a finite map from denominations to positive amounts and nothing else: two
bundles with the same amounts are the same bundle.

`Bundle.ofCoins` builds one from coins in any order and says what is wrong with a list that has none.
Sums are checked, and a difference exists only where every denomination is covered.
-/

namespace NameAuction

/-- The listing that a bundle keeps: strictly ascending denominations and positive amounts. -/
structure Coin.Ascending (coins : List Coin) : Prop where
  pairwise : coins.Pairwise fun a b => a.denom < b.denom
  positive : ∀ coin ∈ coins, coin.IsPositive

structure Bundle where
  coins : List Coin
  ascending : Coin.Ascending coins

namespace Coin.Ascending

theorem nil : Ascending [] := ⟨.nil, by simp⟩

theorem tail {coin : Coin} {coins : List Coin} (h : Ascending (coin :: coins)) : Ascending coins :=
  ⟨h.pairwise.of_cons, fun c hc => h.positive c (List.mem_cons_of_mem _ hc)⟩

theorem cons {coin : Coin} {coins : List Coin} (h : Ascending coins) (hpos : coin.IsPositive)
    (hlt : ∀ c ∈ coins, coin.denom < c.denom) : Ascending (coin :: coins) :=
  ⟨.cons hlt h.pairwise, by simpa using ⟨hpos, h.positive⟩⟩

theorem head_lt {coin : Coin} {coins : List Coin} (h : Ascending (coin :: coins)) :
    ∀ c ∈ coins, coin.denom < c.denom := by
  simpa using (List.pairwise_cons.1 h.pairwise).1

end Coin.Ascending

namespace Bundle

instance : DecidableEq Bundle := fun a b =>
  decidable_of_iff (a.coins = b.coins) ⟨fun h => by cases a; cases b; simp_all, congrArg _⟩

def empty : Bundle := ⟨[], .nil⟩

instance : Inhabited Bundle := ⟨empty⟩

def isEmpty (bundle : Bundle) : Bool := bundle.coins.isEmpty

def render (bundle : Bundle) : String := String.intercalate "," (bundle.coins.map Coin.render)

instance : ToString Bundle := ⟨render⟩

/-- The amount of one denomination; zero where the bundle has none. -/
def amountOf (bundle : Bundle) (denom : String) : Amount :=
  ((bundle.coins.find? (·.denom = denom)).map (·.amount)).getD 0

def covers (bundle other : Bundle) : Bool :=
  other.coins.all fun coin => coin.amount ≤ bundle.amountOf coin.denom

/-- A bundle of one coin, whatever its denomination; a zero amount gives the empty bundle. -/
def ofCoin (coin : Coin) : Bundle :=
  if h : coin.IsPositive then ⟨[coin], Coin.Ascending.nil.cons h (by simp)⟩ else empty

/-! ### Bundles from coins in any order -/

def insertByDenom (coin : Coin) : List Coin → List Coin
  | [] => [coin]
  | c :: rest => if coin.denom ≤ c.denom then coin :: c :: rest else c :: insertByDenom coin rest

def sortByDenom (coins : List Coin) : List Coin := coins.foldr insertByDenom []

/-- The first denomination that stands twice in a row. -/
def repeatedDenom? : List Coin → Option String
  | a :: b :: rest => if a.denom = b.denom then some a.denom else repeatedDenom? (b :: rest)
  | _ => none

theorem mem_insertByDenom {coin c : Coin} {coins : List Coin} :
    c ∈ insertByDenom coin coins ↔ c = coin ∨ c ∈ coins := by
  induction coins with
  | nil => simp [insertByDenom]
  | cons a rest ih =>
    unfold insertByDenom
    split
    · simp
    · simp only [List.mem_cons, ih]
      constructor <;> rintro (h | h | h) <;> simp [h]

theorem mem_sortByDenom {c : Coin} {coins : List Coin} : c ∈ sortByDenom coins ↔ c ∈ coins := by
  induction coins with
  | nil => simp [sortByDenom]
  | cons a rest ih =>
    simp only [sortByDenom, List.foldr_cons, mem_insertByDenom, List.mem_cons]
    rw [← sortByDenom, ih]

theorem pairwise_insertByDenom (coin : Coin) {coins : List Coin}
    (h : coins.Pairwise fun a b => a.denom ≤ b.denom) :
    (insertByDenom coin coins).Pairwise fun a b => a.denom ≤ b.denom := by
  induction coins with
  | nil => simp [insertByDenom]
  | cons a rest ih =>
    have hrest := List.pairwise_cons.1 h
    unfold insertByDenom
    split
    · rename_i hle
      refine .cons (fun c hc => ?_) h
      rcases List.mem_cons.1 hc with rfl | hc
      · exact hle
      · exact Std.le_trans hle (hrest.1 c hc)
    · rename_i hle
      refine .cons (fun c hc => ?_) (ih hrest.2)
      rcases mem_insertByDenom.1 hc with rfl | hc
      · exact Std.le_of_lt (String.not_le.mp hle)
      · exact hrest.1 c hc

theorem pairwise_sortByDenom (coins : List Coin) :
    (sortByDenom coins).Pairwise fun a b => a.denom ≤ b.denom := by
  induction coins with
  | nil => simp [sortByDenom]
  | cons a rest ih => exact pairwise_insertByDenom a ih

theorem pairwise_lt_of_repeatedDenom?_eq_none {coins : List Coin}
    (h : coins.Pairwise fun a b => a.denom ≤ b.denom) (hnone : repeatedDenom? coins = none) :
    coins.Pairwise fun a b => a.denom < b.denom := by
  induction coins with
  | nil => simp
  | cons a rest ih =>
    have ha := List.pairwise_cons.1 h
    cases rest with
    | nil => simp
    | cons b rest =>
      unfold repeatedDenom? at hnone
      split at hnone
      · simp at hnone
      · rename_i hne
        have hab : a.denom < b.denom := Std.lt_of_le_of_ne (ha.1 b (by simp)) hne
        have hb := List.pairwise_cons.1 ha.2
        refine .cons (fun c hc => ?_) (ih ha.2 hnone)
        rcases List.mem_cons.1 hc with rfl | hc
        · exact hab
        · exact Std.lt_of_lt_of_le hab (hb.1 c hc)

/-- What is wrong with a coin that should be part of a bundle; the denomination is looked at first. -/
def checkMember (coin : Coin) : Except CoinFault Unit := do
  coin.check
  ensure coin.IsPositive (.zeroAmount coin.denom)

def checkMembers : List Coin → Except CoinFault Unit
  | [] => .ok ()
  | coin :: rest =>
    match checkMember coin with
    | .ok () => checkMembers rest
    | .error fault => .error fault

theorem positive_of_checkMembers {coins : List Coin} (h : checkMembers coins = .ok ()) :
    ∀ coin ∈ coins, coin.IsPositive := by
  induction coins with
  | nil => simp
  | cons a rest ih =>
    unfold checkMembers at h
    split at h
    · rename_i ha
      obtain ⟨-, -, hpos⟩ := Except.bind_eq_ok_iff.1 ha
      simpa using ⟨ensure_eq_ok_iff.1 hpos, ih h⟩
    · simp at h

/-- The bundle of some coins: each of them must be proper and positive, and no denomination may come
twice.  Faults of single coins come first, in the order of the list; of two repeated denominations the
smaller one is named. -/
def ofCoins (coins : List Coin) : Except CoinFault Bundle :=
  match hcheck : checkMembers coins with
  | .error fault => .error fault
  | .ok () =>
    match hnone : repeatedDenom? (sortByDenom coins) with
    | some denom => .error (.repeatedDenom denom)
    | none => .ok ⟨sortByDenom coins,
        pairwise_lt_of_repeatedDenom?_eq_none (pairwise_sortByDenom coins) hnone,
        fun coin hc => positive_of_checkMembers hcheck coin (mem_sortByDenom.1 hc)⟩

/-! ### Sums and differences -/

/-- Adds one coin to a listing by denomination; `none` where the sum does not fit. -/
def addCoin? (coin : Coin) : List Coin → Option (List Coin)
  | [] => some [coin]
  | c :: rest =>
    if coin.denom < c.denom then some (coin :: c :: rest)
    else if coin.denom = c.denom then
      (c.amount.add? coin.amount).map fun total => ⟨c.denom, total⟩ :: rest
    else (addCoin? coin rest).map (c :: ·)

/-- Takes one coin from a listing by denomination; an amount that reaches zero leaves it. -/
def subCoin? (coin : Coin) : List Coin → Option (List Coin)
  | [] => none
  | c :: rest =>
    if coin.denom = c.denom then
      (c.amount.sub? coin.amount).map fun left => if 0 < left then ⟨c.denom, left⟩ :: rest else rest
    else (subCoin? coin rest).map (c :: ·)

theorem denom_of_mem_addCoin? {coin c : Coin} {coins out : List Coin}
    (h : addCoin? coin coins = some out) (hc : c ∈ out) :
    c.denom = coin.denom ∨ ∃ d ∈ coins, c.denom = d.denom := by
  induction coins generalizing out with
  | nil =>
    simp only [addCoin?, Option.some.injEq] at h
    subst h
    simp_all
  | cons a rest ih =>
    unfold addCoin? at h
    split at h
    · simp only [Option.some.injEq] at h
      subst h
      rcases List.mem_cons.1 hc with rfl | hc
      · exact .inl rfl
      · exact .inr ⟨c, hc, rfl⟩
    · split at h
      · obtain ⟨total, -, rfl⟩ := Option.map_eq_some_iff.1 h
        rcases List.mem_cons.1 hc with rfl | hc
        · exact .inr ⟨a, by simp, rfl⟩
        · exact .inr ⟨c, by simp [hc], rfl⟩
      · obtain ⟨rest', hrest, rfl⟩ := Option.map_eq_some_iff.1 h
        rcases List.mem_cons.1 hc with rfl | hc
        · exact .inr ⟨c, by simp, rfl⟩
        · rcases ih hrest hc with h | ⟨d, hd, h⟩
          · exact .inl h
          · exact .inr ⟨d, by simp [hd], h⟩

theorem ascending_addCoin? {coin : Coin} {coins out : List Coin} (hasc : Coin.Ascending coins)
    (hpos : coin.IsPositive) (h : addCoin? coin coins = some out) : Coin.Ascending out := by
  induction coins generalizing out with
  | nil =>
    simp only [addCoin?, Option.some.injEq] at h
    subst h
    exact Coin.Ascending.nil.cons hpos (by simp)
  | cons a rest ih =>
    unfold addCoin? at h
    split at h
    · rename_i hlt
      simp only [Option.some.injEq] at h
      subst h
      refine hasc.cons hpos fun c hc => ?_
      rcases List.mem_cons.1 hc with rfl | hc
      · exact hlt
      · exact Std.lt_trans hlt (hasc.head_lt c hc)
    · rename_i hnlt
      split at h
      · obtain ⟨total, htotal, rfl⟩ := Option.map_eq_some_iff.1 h
        refine hasc.tail.cons ?_ hasc.head_lt
        have := Word.ofNat?_eq_some_iff.1 htotal
        have ha : 0 < a.amount.toNat := hasc.positive a (by simp)
        change 0 < total.toNat
        omega
      · rename_i hne
        obtain ⟨rest', hrest, rfl⟩ := Option.map_eq_some_iff.1 h
        refine (ih hasc.tail hrest).cons (hasc.positive a (by simp)) fun c hc => ?_
        rcases denom_of_mem_addCoin? hrest hc with h | ⟨d, hd, h⟩
        · rw [h]
          exact Std.lt_of_le_of_ne (String.not_lt.mp hnlt) (Ne.symm hne)
        · rw [h]
          exact hasc.head_lt d hd

theorem denom_of_mem_subCoin? {coin c : Coin} {coins out : List Coin}
    (h : subCoin? coin coins = some out) (hc : c ∈ out) : ∃ d ∈ coins, c.denom = d.denom := by
  induction coins generalizing out with
  | nil => simp [subCoin?] at h
  | cons a rest ih =>
    unfold subCoin? at h
    split at h
    · obtain ⟨left, -, rfl⟩ := Option.map_eq_some_iff.1 h
      split at hc
      · rcases List.mem_cons.1 hc with rfl | hc
        · exact ⟨a, by simp, rfl⟩
        · exact ⟨c, by simp [hc], rfl⟩
      · exact ⟨c, by simp [hc], rfl⟩
    · obtain ⟨rest', hrest, rfl⟩ := Option.map_eq_some_iff.1 h
      rcases List.mem_cons.1 hc with rfl | hc
      · exact ⟨c, by simp, rfl⟩
      · obtain ⟨d, hd, h⟩ := ih hrest hc
        exact ⟨d, by simp [hd], h⟩

theorem ascending_subCoin? {coin : Coin} {coins out : List Coin} (hasc : Coin.Ascending coins)
    (h : subCoin? coin coins = some out) : Coin.Ascending out := by
  induction coins generalizing out with
  | nil => simp [subCoin?] at h
  | cons a rest ih =>
    unfold subCoin? at h
    split at h
    · obtain ⟨left, -, rfl⟩ := Option.map_eq_some_iff.1 h
      split
      · rename_i hleft
        exact hasc.tail.cons hleft hasc.head_lt
      · exact hasc.tail
    · obtain ⟨rest', hrest, rfl⟩ := Option.map_eq_some_iff.1 h
      refine (ih hasc.tail hrest).cons (hasc.positive a (by simp)) fun c hc => ?_
      obtain ⟨d, hd, h⟩ := denom_of_mem_subCoin? hrest hc
      rw [h]
      exact hasc.head_lt d hd

def addCoins? : List Coin → List Coin → Option (List Coin)
  | coins, [] => some coins
  | coins, coin :: rest => (addCoin? coin coins).bind (addCoins? · rest)

def subCoins? : List Coin → List Coin → Option (List Coin)
  | coins, [] => some coins
  | coins, coin :: rest => (subCoin? coin coins).bind (subCoins? · rest)

theorem ascending_addCoins? {coins other out : List Coin} (hasc : Coin.Ascending coins)
    (hpos : ∀ coin ∈ other, coin.IsPositive) (h : addCoins? coins other = some out) :
    Coin.Ascending out := by
  induction other generalizing coins with
  | nil =>
    simp only [addCoins?, Option.some.injEq] at h
    exact h ▸ hasc
  | cons coin rest ih =>
    obtain ⟨mid, hmid, h⟩ := Option.bind_eq_some_iff.1 h
    exact ih (ascending_addCoin? hasc (hpos coin (by simp)) hmid)
      (fun c hc => hpos c (by simp [hc])) h

theorem ascending_subCoins? {coins other out : List Coin} (hasc : Coin.Ascending coins)
    (h : subCoins? coins other = some out) : Coin.Ascending out := by
  induction other generalizing coins with
  | nil =>
    simp only [subCoins?, Option.some.injEq] at h
    exact h ▸ hasc
  | cons coin rest ih =>
    obtain ⟨mid, hmid, h⟩ := Option.bind_eq_some_iff.1 h
    exact ih (ascending_subCoin? hasc hmid) h

/-- The sum of two bundles, where every amount fits. -/
def add (bundle other : Bundle) : Except Overflow Bundle :=
  match h : addCoins? bundle.coins other.coins with
  | some coins => .ok ⟨coins, ascending_addCoins? bundle.ascending other.ascending.positive h⟩
  | none => .error .coinAddition

/-- What is left of a bundle; `none` where some denomination would go below zero. -/
def sub? (bundle other : Bundle) : Option Bundle :=
  match h : subCoins? bundle.coins other.coins with
  | some coins => some ⟨coins, ascending_subCoins? bundle.ascending h⟩
  | none => none

end Bundle

end NameAuction
