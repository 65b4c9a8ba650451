import Mathlib.Algebra.Order.Floor.Semifield
import Mathlib.Data.Rat.Floor
import Mathlib.Tactic.Positivity
import NameAuction.Proofs.Escrow.Amounts
import NameAuction.Rates

/-!
# Conversions lose, if anything

A conversion between different denominations gives the exact value at the quoted prices, rounded down
(`Rates.convert_eq_ok_iff`, `Rate.floor_crossed`), and it fails only where a price is missing or a product
does not fit (`Rates.convert_eq_error`); there is always something to divide by.  So a detour through a third
denomination never gives more than the direct way (`Rates.detour_le`), since rounding down twice gives at most
what rounding down once does, and parts never give more than the whole (`Rates.convert_parts`).  The prices are
those of the last quotes (`Rates.price?_ofQuotes`).
-/

namespace NameAuction

/-! ### Rates as rational numbers -/

namespace Rate

/-- What one unit of the reference is worth, exactly. -/
def ratio (rate : Rate) : ℚ := rate.num.toNat / rate.den.toNat

theorem ratio_pos (rate : Rate) : 0 < rate.ratio := by
  have hnum : 0 < rate.num.toNat := rate.num_pos
  have hden : 0 < rate.den.toNat := rate.den_pos
  unfold ratio
  positivity

theorem divisor_pos (source target : Rate) : 0 < target.den.toNat * source.num.toNat :=
  Nat.mul_pos target.den_pos source.num_pos

theorem denominator_ne_zero {source target : Rate} {denominator : Amount}
    (h : target.den.mul? source.num = some denominator) : denominator ≠ 0 := by
  rintro rfl
  have hproduct : 0 = target.den.toNat * source.num.toNat := Word.ofNat?_eq_some_iff.mp h
  exact Nat.ne_of_lt (source.divisor_pos target) hproduct

/-- The quotient that a conversion takes is the exact value, rounded down. -/
theorem floor_crossed (amount : Nat) (source target : Rate) :
    amount * target.num.toNat * source.den.toNat / (target.den.toNat * source.num.toNat) =
      ⌊(amount : ℚ) * target.ratio / source.ratio⌋₊ := by
  have hsource : (source.den.toNat : ℚ) ≠ 0 := Nat.cast_ne_zero.mpr (Nat.ne_of_gt source.den_pos)
  have hnum : (source.num.toNat : ℚ) ≠ 0 := Nat.cast_ne_zero.mpr (Nat.ne_of_gt source.num_pos)
  have htarget : (target.den.toNat : ℚ) ≠ 0 := Nat.cast_ne_zero.mpr (Nat.ne_of_gt target.den_pos)
  rw [← Nat.floor_div_eq_div (K := ℚ)]
  congr 1
  push_cast
  unfold ratio
  field_simp

end Rate

namespace Word

variable {size : Nat}

theorem mul?_mul?_eq {a b c : Word size} (hc : 0 < c) :
    (a.mul? b >>= (·.mul? c)) = (ofNat? (a.toNat * b.toNat * c.toNat) : Option (Word size)) := by
  cases hproduct : a.mul? b with
  | some product =>
    show product.mul? c = _
    rw [mul?, ofNat?_eq_some_iff.mp hproduct]
  | none =>
    -- the second product is no smaller than the first, which does not fit
    have hle := Nat.le_trans (ofNat?_eq_none_iff.mp hproduct) (Nat.le_mul_of_pos_right _ hc)
    exact (ofNat?_eq_none_iff.mpr hle).symm

theorem div?_eq_none_iff {a b : Word size} : a.div? b = none ↔ b = 0 := by
  unfold div?
  split <;> simp_all

theorem div?_eq_some_iff {a b quotient : Word size} :
    a.div? b = some quotient ↔ b ≠ 0 ∧ quotient.toNat = a.toNat / b.toNat := by
  unfold div?
  split
  · simp_all
  · rename_i hne
    rw [Option.some.injEq]
    constructor
    · rintro rfl
      exact ⟨hne, rfl⟩
    · rintro ⟨-, h⟩
      exact ext h.symm

end Word

namespace Rates

variable {rates : Rates} {coin there back direct : Coin} {via target : String} {source goal : Rate}

/-! ### Single conversions -/

theorem scale_eq_ok_iff {result : Amount} :
    scale coin source goal = .ok result ↔
      coin.amount.toNat * goal.num.toNat * source.den.toNat < 256 ^ 16 ∧
      goal.den.toNat * source.num.toNat < 256 ^ 16 ∧
      result.toNat = coin.amount.toNat * goal.num.toNat * source.den.toNat /
        (goal.den.toNat * source.num.toNat) := by
  rw [scale, Word.mul?_mul?_eq source.den_pos]
  simp only [Except.bind_eq_ok_iff, demand_eq_ok_iff, Word.mul?, Word.ofNat?_eq_some_iff, Word.div?_eq_some_iff]
  constructor
  · rintro ⟨numerator, hnumerator, divisor, hdivisor, -, hresult⟩
    rw [← hnumerator, ← hdivisor]
    exact ⟨numerator.toNat_lt, divisor.toNat_lt, hresult⟩
  · rintro ⟨hnumerator, hdivisor, hresult⟩
    refine ⟨⟨_, hnumerator⟩, rfl, ⟨_, hdivisor⟩, rfl, ?_, hresult⟩
    exact Rate.denominator_ne_zero (Word.ofNat?_eq_some_iff.mpr rfl)

/-- **There is always something to divide by**, so only a product can stand in the way. -/
theorem scale_eq_error {fault : PriceFault} (h : scale coin source goal = .error fault) :
    fault = .overflow coin ∧ (256 ^ 16 ≤ coin.amount.toNat * goal.num.toNat * source.den.toNat ∨
      256 ^ 16 ≤ goal.den.toNat * source.num.toNat) := by
  rw [scale, Word.mul?_mul?_eq source.den_pos] at h
  obtain hnumerator | ⟨numerator, -, h⟩ := Except.bind_eq_error_iff.mp h
  · obtain ⟨hnone, rfl⟩ := demand_eq_error_iff.mp hnumerator
    exact ⟨rfl, .inl (Word.ofNat?_eq_none_iff.mp hnone)⟩
  obtain hdivisor | ⟨divisor, hdivisor, h⟩ := Except.bind_eq_error_iff.mp h
  · obtain ⟨hnone, rfl⟩ := demand_eq_error_iff.mp hdivisor
    exact ⟨rfl, .inr (Word.ofNat?_eq_none_iff.mp hnone)⟩
  · obtain ⟨hnone, -⟩ := demand_eq_error_iff.mp h
    exact absurd (Word.div?_eq_none_iff.mp hnone) (Rate.denominator_ne_zero (demand_eq_ok_iff.mp hdivisor))

theorem convert_self (rates : Rates) (coin : Coin) : rates.convert coin coin.denom = .ok coin := by
  rw [convert, if_pos rfl]

/-- **What a conversion between different denominations gives.** -/
theorem convert_eq_ok_iff (hne : coin.denom ≠ target) :
    rates.convert coin target = .ok there ↔
      ∃ source goal, rates.rate coin.denom = .ok source ∧ rates.rate target = .ok goal ∧
        scale coin source goal = .ok there.amount ∧ there.denom = target := by
  rw [convert, if_neg hne, Except.bind_eq_ok_iff]
  refine exists_congr fun source => ?_
  rw [Except.bind_eq_ok_iff, ← exists_and_left]
  refine exists_congr fun goal => and_congr_right fun _ => and_congr_right fun _ => ?_
  simp only [Except.bind_eq_ok_iff, pure, Except.pure, Except.ok.injEq]
  constructor
  · rintro ⟨amount, hamount, rfl⟩
    exact ⟨hamount, rfl⟩
  · rintro ⟨hamount, rfl⟩
    exact ⟨there.amount, hamount, rfl⟩

/-- **A conversion gives as much as the exact value allows**, whether it is one into the same denomination or
not. -/
theorem le_amount_iff (h : rates.convert coin target = .ok there)
    (hsource : rates.rate coin.denom = .ok source) (hgoal : rates.rate target = .ok goal) (n : Nat) :
    n ≤ there.amount.toNat ↔ (n : ℚ) ≤ coin.amount.toNat * goal.ratio / source.ratio := by
  by_cases heq : coin.denom = target
  · subst heq
    obtain rfl := Except.ok.inj (hsource.symm.trans hgoal)
    obtain rfl := Except.ok.inj ((rates.convert_self coin).symm.trans h)
    rw [mul_div_assoc, div_self (ne_of_gt source.ratio_pos), mul_one, Nat.cast_le]
  · obtain ⟨source', goal', hsource', hgoal', hscale, -⟩ := (convert_eq_ok_iff heq).mp h
    obtain rfl := Except.ok.inj (hsource.symm.trans hsource')
    obtain rfl := Except.ok.inj (hgoal.symm.trans hgoal')
    obtain ⟨-, -, hamount⟩ := scale_eq_ok_iff.mp hscale
    have hpos : 0 ≤ (coin.amount.toNat : ℚ) * goal.ratio / source.ratio := by
      have hgoalPos := goal.ratio_pos
      have hsourcePos := source.ratio_pos
      positivity
    rw [hamount, Rate.floor_crossed, Nat.le_floor_iff hpos]

/-! ### Detours -/

/-- **A detour never gives more than the direct way.** -/
theorem detour_le (hthere : rates.convert coin via = .ok there)
    (hback : rates.convert there target = .ok back)
    (hdirect : rates.convert coin target = .ok direct) : back.amount ≤ direct.amount := by
  by_cases hstays : coin.denom = via
  · subst hstays
    obtain rfl := Except.ok.inj ((rates.convert_self coin).symm.trans hthere)
    obtain rfl := Except.ok.inj (hback.symm.trans hdirect)
    exact Nat.le_refl _
  obtain ⟨source, middle, hsource, hmiddle, -, rfl⟩ := (convert_eq_ok_iff hstays).mp hthere
  by_cases hends : there.denom = target
  · subst hends
    obtain rfl := Except.ok.inj ((rates.convert_self there).symm.trans hback)
    obtain rfl := Except.ok.inj (hthere.symm.trans hdirect)
    exact Nat.le_refl _
  obtain ⟨_, goal, _, hgoal, -, -⟩ := (convert_eq_ok_iff hends).mp hback
  have hfirst := (le_amount_iff hthere hsource hmiddle there.amount.toNat).mp (Nat.le_refl _)
  have hsecond := (le_amount_iff hback hmiddle hgoal back.amount.toNat).mp (Nat.le_refl _)
  refine (le_amount_iff hdirect hsource hgoal back.amount.toNat).mpr ?_
  have hmiddlePos := middle.ratio_pos
  have hgoalPos := goal.ratio_pos
  calc (back.amount.toNat : ℚ) ≤ there.amount.toNat * goal.ratio / middle.ratio := hsecond
    _ ≤ coin.amount.toNat * middle.ratio / source.ratio * goal.ratio / middle.ratio := by gcongr
    _ = coin.amount.toNat * goal.ratio / source.ratio := by field_simp

/-- **Less can be converted where more can, and gives no more.** -/
theorem convert_monotone {denom : String} {less more : Amount} (hle : less ≤ more)
    (h : rates.convert ⟨denom, more⟩ target = .ok there) :
    ∃ fewer, rates.convert ⟨denom, less⟩ target = .ok fewer ∧ fewer.amount ≤ there.amount := by
  by_cases heq : denom = target
  · subst heq
    obtain rfl := Except.ok.inj ((rates.convert_self _).symm.trans h)
    exact ⟨_, rates.convert_self _, hle⟩
  obtain ⟨source, goal, hsource, hgoal, hscale, -⟩ := (convert_eq_ok_iff heq).mp h
  obtain ⟨hnumerator, hdivisor, hamount⟩ := scale_eq_ok_iff.mp hscale
  have hproducts : less.toNat * goal.num.toNat * source.den.toNat ≤
      more.toNat * goal.num.toNat * source.den.toNat :=
    Nat.mul_le_mul_right _ (Nat.mul_le_mul_right _ hle)
  have hquotients := Nat.div_le_div_right (c := goal.den.toNat * source.num.toNat) hproducts
  rw [← hamount] at hquotients
  let result : Amount := ⟨_, Nat.lt_of_le_of_lt hquotients there.amount.toNat_lt⟩
  have hresult : scale ⟨denom, less⟩ source goal = .ok result :=
    scale_eq_ok_iff.mpr ⟨Nat.lt_of_le_of_lt hproducts hnumerator, hdivisor, rfl⟩
  refine ⟨⟨target, result⟩, ?_, hquotients⟩
  exact (convert_eq_ok_iff heq).mpr ⟨source, goal, hsource, hgoal, hresult, rfl⟩

/-- **Parts give no more than the whole.**  Each of them is rounded down by itself. -/
theorem convert_parts {denom : String} {part other whole : Amount} {first second : Coin}
    (hle : part.toNat + other.toNat ≤ whole.toNat) (hwhole : rates.convert ⟨denom, whole⟩ target = .ok there)
    (hfirst : rates.convert ⟨denom, part⟩ target = .ok first)
    (hsecond : rates.convert ⟨denom, other⟩ target = .ok second) :
    first.amount.toNat + second.amount.toNat ≤ there.amount.toNat := by
  by_cases heq : denom = target
  · subst heq
    obtain rfl := Except.ok.inj ((rates.convert_self _).symm.trans hwhole)
    obtain rfl := Except.ok.inj ((rates.convert_self _).symm.trans hfirst)
    obtain rfl := Except.ok.inj ((rates.convert_self _).symm.trans hsecond)
    exact hle
  obtain ⟨source, goal, hsource, hgoal, -, -⟩ := (convert_eq_ok_iff heq).mp hwhole
  have hone := (le_amount_iff hfirst hsource hgoal first.amount.toNat).mp (Nat.le_refl _)
  have htwo := (le_amount_iff hsecond hsource hgoal second.amount.toNat).mp (Nat.le_refl _)
  refine (le_amount_iff hwhole hsource hgoal _).mpr ?_
  have hsum : (part.toNat : ℚ) + other.toNat ≤ whole.toNat := by exact_mod_cast hle
  have hsourcePos := source.ratio_pos
  have hgoalPos := goal.ratio_pos
  push_cast
  calc (first.amount.toNat : ℚ) + second.amount.toNat
      ≤ part.toNat * goal.ratio / source.ratio + other.toNat * goal.ratio / source.ratio :=
        add_le_add hone htwo
    _ = (part.toNat + other.toNat) * goal.ratio / source.ratio := by ring
    _ ≤ whole.toNat * goal.ratio / source.ratio := by gcongr

/-! ### Quotes -/

/-- What is said about the price of a denomination: one unit of the reference for `num / den` units of it. -/
structure Quote where
  denom : String
  num : Amount
  den : Amount

def ofQuotes (reference : String) (quotes : List Quote) : Rates :=
  quotes.foldl (fun rates quote => rates.set quote.denom quote.num quote.den) (quotedIn reference)

/-- The price by the last quote of a denomination.  A quote with a zero in it leaves it without a price, and
the reference has its own price whatever is quoted. -/
def lastPrice? (reference : String) (quotes : List Quote) (denom : String) : Option ℚ :=
  if denom = reference then some 1
  else
    match quotes.reverse.find? (·.denom = denom) with
    | some quote =>
      if quote.num = 0 ∨ quote.den = 0 then none else some (quote.num.toNat / quote.den.toNat)
    | none => none

def price? (rates : Rates) (denom : String) : Option ℚ := (rates.rate denom).toOption.map Rate.ratio

theorem price?_of_rate {denom : String} (h : rates.rate denom = .ok source) :
    rates.price? denom = some source.ratio := by
  rw [price?, h]
  rfl

theorem rate_eq_error {denom : String} {fault : PriceFault} (h : rates.rate denom = .error fault) :
    fault = .noPrice denom ∧ rates.price? denom = none := by
  rw [price?, h]
  refine ⟨?_, rfl⟩
  unfold rate at h
  split at h
  · cases h
  · cases hget : rates.table[denom]? with
    | some rate =>
      rw [hget] at h
      cases h
    | none =>
      rw [hget] at h
      exact (Except.error.inj h).symm

theorem reference_set (rates : Rates) (denom : String) (num den : Amount) :
    (rates.set denom num den).reference = rates.reference := by
  unfold set
  split <;> rfl

theorem ratio_ofAmounts? (num den : Amount) :
    (Rate.ofAmounts? num den).map Rate.ratio =
      if num = 0 ∨ den = 0 then none else some ((num.toNat : ℚ) / den.toNat) := by
  have hpos : ∀ amount : Amount, 0 < amount ↔ amount ≠ 0 := fun amount =>
    Nat.pos_iff_ne_zero.trans (not_congr (Word.ext_iff (b := 0)).symm)
  unfold Rate.ofAmounts?
  by_cases h : 0 < num ∧ 0 < den
  · have hnot : ¬ (num = 0 ∨ den = 0) := not_or.mpr ⟨(hpos num).mp h.1, (hpos den).mp h.2⟩
    rw [dif_pos h, if_neg hnot]
    rfl
  · rw [hpos, hpos, ← not_or, not_not] at h
    rw [dif_neg (by rw [hpos, hpos, ← not_or, not_not]; exact h), if_pos h]
    rfl

theorem price?_set (rates : Rates) (denom : String) (num den : Amount) {other : String}
    (hother : other ≠ rates.reference) :
    (rates.set denom num den).price? other =
      if denom = other then if num = 0 ∨ den = 0 then none else some ((num.toNat : ℚ) / den.toNat)
      else rates.price? other := by
  rw [price?, price?, rate, rate, reference_set, if_neg hother, if_neg hother, ← ratio_ofAmounts?, set]
  cases Rate.ofAmounts? num den with
  | some rate =>
    simp only [Std.ExtTreeMap.getElem?_insert, Std.compare_eq_iff_eq]
    by_cases heq : denom = other
    · rw [if_pos heq, if_pos heq]
      rfl
    · rw [if_neg heq, if_neg heq]
  | none =>
    simp only [Std.ExtTreeMap.getElem?_erase, Std.compare_eq_iff_eq]
    by_cases heq : denom = other
    · rw [if_pos heq, if_pos heq]
      rfl
    · rw [if_neg heq, if_neg heq]

theorem reference_ofQuotes (reference : String) (quotes : List Quote) :
    (ofQuotes reference quotes).reference = reference := by
  induction quotes using List.reverseRecOn with
  | nil => rfl
  | append_singleton quotes quote ih =>
    rw [ofQuotes, List.foldl_append]
    exact (reference_set _ _ _ _).trans ih

/-- **Prices are those of the last quotes.** -/
theorem price?_ofQuotes (reference : String) (quotes : List Quote) (denom : String) :
    (ofQuotes reference quotes).price? denom = lastPrice? reference quotes denom := by
  by_cases href : denom = reference
  · rw [price?, rate, reference_ofQuotes, if_pos href, lastPrice?, if_pos href]
    simp [Except.toOption, Rate.ratio, Rate.one]
  -- the last quote of all is the last one of its denomination
  · induction quotes using List.reverseRecOn with
    | nil =>
      rw [price?, rate, if_neg (by rwa [reference_ofQuotes]), lastPrice?, if_neg href]
      rfl
    | append_singleton quotes quote ih =>
      have hother : denom ≠ (ofQuotes reference quotes).reference := by rwa [reference_ofQuotes]
      have hset := price?_set (ofQuotes reference quotes) quote.denom quote.num quote.den hother
      rw [lastPrice?, if_neg href] at ih
      rw [ofQuotes, List.foldl_append, lastPrice?, if_neg href, List.reverse_append]
      refine hset.trans ?_
      rw [List.reverse_singleton, List.singleton_append, List.find?_cons]
      by_cases heq : quote.denom = denom
      · rw [if_pos heq, decide_eq_true heq]
      · rw [if_neg heq, decide_eq_false heq, ih]

/-! ### The laws together -/

inductive Refusal (rates : Rates) (coin : Coin) (target : String) : PriceFault → Prop
  | unpriced (h : rates.price? coin.denom = none) : Refusal rates coin target (.noPrice coin.denom)
  | unpricedTarget (h : rates.price? target = none) : Refusal rates coin target (.noPrice target)
  | overflow {source goal : Rate} (hsource : rates.rate coin.denom = .ok source)
      (hgoal : rates.rate target = .ok goal)
      (h : 256 ^ 16 ≤ coin.amount.toNat * goal.num.toNat * source.den.toNat ∨
        256 ^ 16 ≤ goal.den.toNat * source.num.toNat) :
      Refusal rates coin target (.overflow coin)

/-- **A conversion fails only where a price is missing or a product does not fit.** -/
theorem convert_eq_error {fault : PriceFault} (h : rates.convert coin target = .error fault) :
    rates.Refusal coin target fault := by
  unfold convert at h
  split at h
  · cases h
  obtain hsource | ⟨source, hsource, h⟩ := Except.bind_eq_error_iff.mp h
  · obtain ⟨rfl, hprice⟩ := rate_eq_error hsource
    exact .unpriced hprice
  obtain hgoal | ⟨goal, hgoal, h⟩ := Except.bind_eq_error_iff.mp h
  · obtain ⟨rfl, hprice⟩ := rate_eq_error hgoal
    exact .unpricedTarget hprice
  obtain hscale | ⟨amount, -, h⟩ := Except.bind_eq_error_iff.mp h
  · obtain ⟨rfl, hlarge⟩ := scale_eq_error hscale
    exact .overflow hsource hgoal hlarge
  · cases h

/-- Conversions at some prices never create value. -/
structure Fair (rates : Rates) (price? : String → Option ℚ) : Prop where
  detour : ∀ coin via target there back direct, rates.convert coin via = .ok there →
    rates.convert there target = .ok back → rates.convert coin target = .ok direct →
    back.amount ≤ direct.amount
  there_and_back : ∀ coin via there back, rates.convert coin via = .ok there →
    rates.convert there coin.denom = .ok back → back.amount ≤ coin.amount
  same : ∀ coin, rates.convert coin coin.denom = .ok coin
  /-- The exact value, rounded down. -/
  exact : ∀ coin target there, coin.denom ≠ target → rates.convert coin target = .ok there →
    there.denom = target ∧ ∃ source goal, price? coin.denom = some source ∧ price? target = some goal ∧
      0 < source ∧ there.amount.toNat = ⌊(coin.amount.toNat : ℚ) * goal / source⌋₊
  /-- No division by zero. -/
  divisor : ∀ denom target source goal, rates.rate denom = .ok source → rates.rate target = .ok goal →
    goal.den.toNat * source.num.toNat ≠ 0
  refusal : ∀ coin target fault, rates.convert coin target = .error fault → rates.Refusal coin target fault
  monotone : ∀ denom less more target there, less ≤ more → rates.convert ⟨denom, more⟩ target = .ok there →
    ∃ fewer, rates.convert ⟨denom, less⟩ target = .ok fewer ∧ fewer.amount ≤ there.amount

/-- **Conversions never create value.**  Whatever has been quoted: a detour never gives more than the direct
way, and the way back no more than was put in; a conversion gives the exact value at the last quotes rounded
down, fails for a missing price or an overflow and never for a zero to divide by, and does not fail for less
where it does not for more. -/
theorem convert_never_gains (reference : String) (quotes : List Quote) :
    (ofQuotes reference quotes).Fair (lastPrice? reference quotes) where
  detour _ _ _ _ _ _ hthere hback hdirect := detour_le hthere hback hdirect
  there_and_back coin _ _ _ hthere hback := detour_le hthere hback (convert_self _ coin)
  same := convert_self _
  exact coin target there hne h := by
    obtain ⟨source, goal, hsource, hgoal, hscale, hdenom⟩ := (convert_eq_ok_iff hne).mp h
    obtain ⟨-, -, hamount⟩ := scale_eq_ok_iff.mp hscale
    rw [Rate.floor_crossed] at hamount
    simp only [← price?_ofQuotes]
    exact ⟨hdenom, source.ratio, goal.ratio, price?_of_rate hsource, price?_of_rate hgoal, source.ratio_pos,
      hamount⟩
  divisor _ _ source goal _ _ := Nat.ne_of_gt (source.divisor_pos goal)
  refusal _ _ _ h := convert_eq_error h
  monotone _ _ _ _ _ hle h := convert_monotone hle h

def quote (denom : String) (num den : Nat) : Quote :=
  ⟨denom, (Word.ofNat? num).getD 0, (Word.ofNat? den).getD 0⟩

/-- One uluna is two usdr, and ten of them are one uxau; the first quote of uxau does not count. -/
def quoted : List Quote := [quote "uxau" 7 1, quote "usdr" 2 1, quote "uxau" 1 10]

/-- Almost two uxau are rounded down to one, so that half of the value is lost on the way. -/
theorem convert_never_gains_quoted :
    (ofQuotes "uluna" quoted).convert ⟨"usdr", ⟨39, by decide⟩⟩ "uxau" = .ok ⟨"uxau", ⟨1, by decide⟩⟩ ∧
      (ofQuotes "uluna" quoted).convert ⟨"uxau", ⟨1, by decide⟩⟩ "uluna" = .ok ⟨"uluna", ⟨10, by decide⟩⟩ ∧
      (ofQuotes "uluna" quoted).convert ⟨"usdr", ⟨39, by decide⟩⟩ "uluna" = .ok ⟨"uluna", ⟨19, by decide⟩⟩ ∧
      (⟨10, by decide⟩ : Amount) ≤ ⟨19, by decide⟩ := by
  have hthere : (ofQuotes "uluna" quoted).convert ⟨"usdr", ⟨39, by decide⟩⟩ "uxau" =
      .ok ⟨"uxau", ⟨1, by decide⟩⟩ := by decide +kernel
  have hback : (ofQuotes "uluna" quoted).convert ⟨"uxau", ⟨1, by decide⟩⟩ "uluna" =
      .ok ⟨"uluna", ⟨10, by decide⟩⟩ := by decide +kernel
  have hdirect : (ofQuotes "uluna" quoted).convert ⟨"usdr", ⟨39, by decide⟩⟩ "uluna" =
      .ok ⟨"uluna", ⟨19, by decide⟩⟩ := by decide +kernel
  exact ⟨hthere, hback, hdirect,
    (convert_never_gains "uluna" quoted).detour _ _ _ _ _ _ hthere hback hdirect⟩

end Rates

end NameAuction
