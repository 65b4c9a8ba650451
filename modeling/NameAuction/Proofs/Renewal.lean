import NameAuction.Proofs.Bundle
import NameAuction.Proofs.Command
import NameAuction.Proofs.Rates
import NameAuction.Renewal

/-!
# Renewals cannot be had for less

What a payment buys is its worth in the denomination of the fee row, times the interval, divided by the price
(`Renewal.extension_eq_ok_iff`).  Every coin is rounded down by itself and the quotient once more, so parts of
a payment buy together no more than the whole, and wherever the whole is accepted, so are its parts
(`Renewal.extension_of_parts`).  The rows of a checked table ask for different lengths, so it does not matter
in which order they are listed (`FeeTable.row?_perm`, `Renewal.leastLength_perm`).
-/

namespace NameAuction

/-! ### Fee tables -/

/-- **The rows of a checked table ask for different lengths and have proper prices.** -/
theorem Params.checkRows_eq_ok_iff {seen : List Count} {rows : List FeeRow} :
    checkRows seen rows = .ok () ↔ (∀ row ∈ rows, row.length ∉ seen) ∧ (rows.map (·.length)).Nodup ∧
      ∀ row ∈ rows, Coin.isDenom row.amount.denom = true ∧ row.amount.IsPositive := by
  induction rows generalizing seen with
  | nil => simp [checkRows]
  | cons row rest ih =>
    unfold checkRows
    by_cases hseen : row.length ∈ seen
    · simp [hseen]
    by_cases hprice : Coin.isDenom row.amount.denom = true ∧ row.amount.IsPositive
    · rw [if_neg hseen, if_pos hprice, ih]
      simp only [List.mem_cons, not_or, forall_and, List.map_cons, List.nodup_cons,
        List.mem_map, not_exists, not_and]
      grind
    · rw [if_neg hseen, if_neg hprice]
      simp [hprice]

theorem Params.checkRows_of_check {params : Params} (h : params.check = .ok ()) :
    checkRows [] params.fees.rows = .ok () := by
  obtain ⟨_, -, h⟩ := Except.bind_eq_ok_iff.mp h
  obtain ⟨_, -, h⟩ := Except.bind_eq_ok_iff.mp h
  obtain ⟨_, -, h⟩ := Except.bind_eq_ok_iff.mp h
  obtain ⟨_, -, h⟩ := Except.bind_eq_ok_iff.mp h
  obtain ⟨_, -, h⟩ := Except.bind_eq_ok_iff.mp h
  obtain ⟨_, -, h⟩ := Except.bind_eq_ok_iff.mp h
  exact h

theorem Params.check_withRows {params : Params} (h : params.check = .ok ()) {rows : List FeeRow}
    (hrows : checkRows [] rows = .ok ()) : { params with fees := ⟨rows⟩ }.check = .ok () := by
  obtain ⟨_, hbid, h⟩ := Except.bind_eq_ok_iff.mp h
  obtain ⟨_, hreveal, h⟩ := Except.bind_eq_ok_iff.mp h
  obtain ⟨_, hrenewal, h⟩ := Except.bind_eq_ok_iff.mp h
  obtain ⟨_, hdeposit, h⟩ := Except.bind_eq_ok_iff.mp h
  obtain ⟨_, hroot, h⟩ := Except.bind_eq_ok_iff.mp h
  obtain ⟨_, hlength, -⟩ := Except.bind_eq_ok_iff.mp h
  simp only [check, hbid, hreveal, hrenewal, hdeposit, hroot, hlength]
  exact hrows

namespace FeeTable

variable {table : FeeTable} {labelLength : Nat} {row : FeeRow}

theorem mem_of_row? (h : table.row? labelLength = some row) : row ∈ table.rows := by
  have hfold : ∀ (rows : List FeeRow) (best : Option FeeRow), rows.foldl better best = some row →
      row ∈ rows ∨ best = some row := by
    intro rows
    induction rows with
    | nil => exact fun _ hbest => .inr hbest
    | cons first rest ih =>
      intro best hbest
      rcases ih _ hbest with hrest | hfirst
      · exact .inl (List.mem_cons_of_mem _ hrest)
      · -- the better of the two is one of them
        unfold better at hfirst
        split at hfirst
        · cases hfirst
          exact .inl (List.mem_cons_self ..)
        · split at hfirst
          · cases hfirst
            exact .inl (List.mem_cons_self ..)
          · exact .inr hfirst
  rcases hfold _ _ h with hmem | hnone
  · exact List.mem_of_mem_filter hmem
  · cases hnone

theorem better_comm {one two : FeeRow} (h : one.length = two.length → one = two) (best : Option FeeRow) :
    better (better best one) two = better (better best two) one := by
  have hle : ∀ a b : FeeRow, a.length ≤ b.length ↔ a.length.toNat ≤ b.length.toNat := fun _ _ => Iff.rfl
  have hne : one = two ∨ one.length.toNat ≠ two.length.toNat :=
    (Classical.em (one = two)).imp_right fun hne heq => hne (h (Word.ext heq))
  rcases hne with rfl | hne
  · rfl
  cases best with
  | none =>
    simp only [better, hle]
    grind
  | some best =>
    simp only [better, hle]
    grind

/-- **In which order the rows are listed does not matter**, if they ask for different lengths. -/
theorem row?_perm {rows other : List FeeRow} (hdistinct : (rows.map (·.length)).Nodup) (h : rows.Perm other)
    (labelLength : Nat) : row? ⟨other⟩ labelLength = row? ⟨rows⟩ labelLength := by
  refine (List.Perm.foldl_eq' (h.filter _) (fun one hone two htwo best => better_comm ?_ best) none).symm
  exact List.inj_on_of_nodup_map hdistinct (List.mem_of_mem_filter hone) (List.mem_of_mem_filter htwo)

end FeeTable

/-- **Checked parameters have no price of zero.** -/
theorem Params.price_ne_zero {params : Params} (h : params.check = .ok ()) {labelLength : Nat}
    {row : FeeRow} (hrow : params.fees.row? labelLength = some row) : row.amount.amount ≠ 0 := by
  obtain ⟨-, -, hprices⟩ := checkRows_eq_ok_iff.mp (checkRows_of_check h)
  intro hzero
  have hpositive := (hprices row (FeeTable.mem_of_row? hrow)).2
  rw [Coin.IsPositive, hzero] at hpositive
  exact Nat.lt_irrefl 0 hpositive

namespace Renewal

variable {rates : Rates} {params : Params} {target : String} {labelLength : Nat}

theorem leastLength_perm {rows other : List FeeRow} (h : rows.Perm other) :
    leastLength ⟨other⟩ = leastLength ⟨rows⟩ := by
  have hlt : ∀ a b : Count, a < b ↔ a.toNat < b.toNat := fun _ _ => Iff.rfl
  refine (List.Perm.foldl_eq' h (fun one _ two _ least => Word.ext ?_) _).symm
  simp only [hlt]
  grind

/-! ### What a payment is worth -/

/-- What a coin is worth in a denomination; nothing where it cannot be converted. -/
def worthOfCoin (rates : Rates) (target : String) (coin : Coin) : Nat :=
  match rates.convert coin target with
  | .ok converted => converted.amount.toNat
  | .error _ => 0

theorem worthOfCoin_of_convert {coin converted : Coin} (h : rates.convert coin target = .ok converted) :
    worthOfCoin rates target coin = converted.amount.toNat := by
  rw [worthOfCoin, h]

theorem worthOfCoin_zero (rates : Rates) (target denom : String) :
    worthOfCoin rates target ⟨denom, 0⟩ = 0 := by
  cases h : rates.convert ⟨denom, 0⟩ target with
  | error fault => rw [worthOfCoin, h]
  | ok converted =>
    have hle : (0 : Amount).toNat + (0 : Amount).toNat ≤ (0 : Amount).toNat := Nat.le_refl 0
    have hparts := Rates.convert_parts hle h h h
    rw [worthOfCoin_of_convert h]
    omega

def worth (rates : Rates) (target : String) (coins : List Coin) : Nat :=
  (coins.map (worthOfCoin rates target)).sum

def Convertible (rates : Rates) (target : String) (coins : List Coin) : Prop :=
  ∀ coin ∈ coins, ∃ converted, rates.convert coin target = .ok converted

/-- **The value of a payment is what its coins are worth together.** -/
theorem value_eq_ok_iff {paid total : Amount} {coins : List Coin} :
    value rates target paid coins = .ok total ↔
      Convertible rates target coins ∧ total.toNat = paid.toNat + worth rates target coins := by
  induction coins generalizing paid with
  | nil => simp [value, Convertible, worth, Word.ext_iff, eq_comm]
  | cons coin rest ih =>
    have hstep : value rates target paid (coin :: rest) = .ok total ↔
        ∃ converted, rates.convert coin target = .ok converted ∧
          ∃ sum : Amount, sum.toNat = paid.toNat + converted.amount.toNat ∧
            value rates target sum rest = .ok total := by
      rw [value, Except.bind_eq_ok_iff]
      refine exists_congr fun converted => and_congr Fault.lift_eq_ok_iff ?_
      rw [Except.bind_eq_ok_iff]
      refine exists_congr fun sum => and_congr_left fun _ => ?_
      rw [demand_eq_ok_iff, Word.add?, Word.ofNat?_eq_some_iff]
    rw [hstep, Convertible, List.forall_mem_cons, worth, List.map_cons, List.sum_cons]
    constructor
    · rintro ⟨converted, hconverted, sum, hsum, hrest⟩
      obtain ⟨hconvertible, htotal⟩ := ih.mp hrest
      refine ⟨⟨⟨converted, hconverted⟩, hconvertible⟩, ?_⟩
      rw [htotal, hsum, worthOfCoin_of_convert hconverted, Nat.add_assoc, worth]
    · rintro ⟨⟨⟨converted, hconverted⟩, hconvertible⟩, htotal⟩
      rw [worthOfCoin_of_convert hconverted] at htotal
      have hfits : paid.toNat + converted.amount.toNat < 256 ^ 16 := by
        have hlt : total.toNat < 256 ^ 16 := total.toNat_lt
        omega
      refine ⟨converted, hconverted, ⟨_, hfits⟩, rfl, ih.mpr ⟨hconvertible, ?_⟩⟩
      rw [htotal, worth, Nat.add_assoc]

/-! ### Parts of a payment -/

section

variable {part other whole : Bundle}

theorem Convertible.of_le (h : Convertible rates target whole.coins)
    (hle : ∀ denom, part.held denom ≤ whole.held denom) : Convertible rates target part.coins := by
  intro coin hcoin
  have hheld := hle coin.denom
  rw [Bundle.held_of_mem hcoin] at hheld
  have hpos : 0 < coin.amount.toNat := part.ascending.positive coin hcoin
  obtain ⟨more, hmore, hdenom⟩ := Bundle.exists_mem_of_held_pos (Nat.lt_of_lt_of_le hpos hheld)
  rw [← hdenom, Bundle.held_of_mem hmore] at hheld
  obtain ⟨converted, hconverted⟩ := h more hmore
  have heq : more = ⟨coin.denom, more.amount⟩ := by rw [← hdenom]
  rw [heq] at hconverted
  obtain ⟨fewer, hfewer, -⟩ := Rates.convert_monotone hheld hconverted
  exact ⟨fewer, hfewer⟩

/-- **Parts of a payment are worth no more than the whole.** -/
theorem worth_parts (h : Convertible rates target whole.coins)
    (hle : ∀ denom, part.held denom + other.held denom ≤ whole.held denom) :
    worth rates target part.coins + worth rates target other.coins ≤ worth rates target whole.coins := by
  have hpart : part.denoms ⊆ whole.denoms := fun denom hdenom => by
    have hle := hle denom
    rw [Bundle.mem_denoms_iff] at hdenom ⊢
    omega
  have hother : other.denoms ⊆ whole.denoms := fun denom hdenom => by
    have hle := hle denom
    rw [Bundle.mem_denoms_iff] at hdenom ⊢
    omega
  have hzero := worthOfCoin_zero rates target
  rw [worth, worth, worth, Bundle.sum_coins hzero hpart, Bundle.sum_coins hzero hother,
    Bundle.sum_coins hzero (Finset.Subset.refl _), ← Finset.sum_add_distrib]
  refine Finset.sum_le_sum fun denom hdenom => ?_
  obtain ⟨coin, hcoin, rfl⟩ := Bundle.exists_mem_of_held_pos (Bundle.mem_denoms_iff.mp hdenom)
  obtain ⟨converted, hconverted⟩ := h coin hcoin
  rw [Bundle.amountOf_of_mem hcoin, worthOfCoin_of_convert hconverted]
  have hamounts := hle coin.denom
  rw [Bundle.held_of_mem hcoin] at hamounts
  have hless : part.amountOf coin.denom ≤ coin.amount := Nat.le_trans (Nat.le_add_right _ _) hamounts
  have hmore : other.amountOf coin.denom ≤ coin.amount := Nat.le_trans (Nat.le_add_left _ _) hamounts
  obtain ⟨first, hfirst, -⟩ := Rates.convert_monotone hless hconverted
  obtain ⟨second, hsecond, -⟩ := Rates.convert_monotone hmore hconverted
  rw [worthOfCoin_of_convert hfirst, worthOfCoin_of_convert hsecond]
  exact Rates.convert_parts hamounts hconverted hfirst hsecond

end

/-! ### The seconds that a payment buys -/

theorem seconds_eq_ok_iff {interval time : Time} {paid price : Amount} :
    seconds interval paid price = .ok time ↔ price ≠ 0 ∧ interval.toNat * paid.toNat < 256 ^ 16 ∧
      time.toNat = interval.toNat * paid.toNat / price.toNat := by
  simp only [seconds, Except.bind_eq_ok_iff, demand_eq_ok_iff, Word.ofNat?_eq_some_iff, Word.div?_eq_some_iff]
  constructor
  · rintro ⟨product, hproduct, quotient, ⟨hprice, hquotient⟩, htime⟩
    have hlt := product.toNat_lt
    rw [hproduct] at hlt hquotient
    exact ⟨hprice, hlt, htime.trans hquotient⟩
  · rintro ⟨hprice, hlt, htime⟩
    exact ⟨⟨_, hlt⟩, rfl, ⟨_, Nat.lt_of_le_of_lt (Nat.div_le_self _ _) hlt⟩, ⟨hprice, rfl⟩, htime⟩

/-- **What a payment buys.** -/
theorem extension_eq_ok_iff {fee : Bundle} {time : Time} :
    extension fee labelLength params rates = .ok time ↔
      ∃ row, params.fees.row? labelLength = some row ∧ row.amount.amount ≠ 0 ∧
        Convertible rates row.amount.denom fee.coins ∧ worth rates row.amount.denom fee.coins < 256 ^ 16 ∧
        params.renewalInterval.toNat * worth rates row.amount.denom fee.coins < 256 ^ 16 ∧
        time.toNat = params.renewalInterval.toNat * worth rates row.amount.denom fee.coins /
          row.amount.amount.toNat := by
  unfold extension
  cases params.fees.row? labelLength with
  | none => simp
  | some row =>
    have hstart : ∀ n, (0 : Amount).toNat + n = n := Nat.zero_add
    simp only [Except.bind_eq_ok_iff, value_eq_ok_iff, seconds_eq_ok_iff, hstart, Option.some.injEq,
      exists_eq_left']
    constructor
    · rintro ⟨paid, ⟨hconvertible, hpaid⟩, hprice, hproduct, htime⟩
      rw [hpaid] at hproduct htime
      exact ⟨hprice, hconvertible, hpaid ▸ paid.toNat_lt, hproduct, htime⟩
    · rintro ⟨hprice, hconvertible, hlt, hproduct, htime⟩
      exact ⟨⟨_, hlt⟩, ⟨hconvertible, rfl⟩, hprice, hproduct, htime⟩

theorem extension_of_worth_le {row : FeeRow} (hrow : params.fees.row? labelLength = some row)
    {fee more : Bundle} {time : Time} (h : extension more labelLength params rates = .ok time)
    (hfee : Convertible rates row.amount.denom fee.coins)
    (hle : worth rates row.amount.denom fee.coins ≤ worth rates row.amount.denom more.coins) :
    ∃ bought : Time, extension fee labelLength params rates = .ok bought ∧
      bought.toNat = params.renewalInterval.toNat * worth rates row.amount.denom fee.coins /
        row.amount.amount.toNat := by
  obtain ⟨row', hrow', hprice, -, hworth, hproduct, htime⟩ := extension_eq_ok_iff.mp h
  obtain rfl := Option.some.inj (hrow.symm.trans hrow')
  have hproducts := Nat.mul_le_mul_left params.renewalInterval.toNat hle
  have hquotients := Nat.div_le_div_right (c := row.amount.amount.toNat) hproducts
  rw [← htime] at hquotients
  refine ⟨⟨_, Nat.lt_of_le_of_lt hquotients time.toNat_lt⟩, ?_, rfl⟩
  exact extension_eq_ok_iff.mpr ⟨row, hrow, hprice, hfee, Nat.lt_of_le_of_lt hle hworth,
    Nat.lt_of_le_of_lt hproducts hproduct, rfl⟩

/-- **Parts of a payment are accepted with the whole, and buy no more than it does.** -/
theorem extension_of_parts {part other whole : Bundle} {time : Time}
    (hle : ∀ denom, part.held denom + other.held denom ≤ whole.held denom)
    (h : extension whole labelLength params rates = .ok time) :
    ∃ first second, extension part labelLength params rates = .ok first ∧
      extension other labelLength params rates = .ok second ∧ first.toNat + second.toNat ≤ time.toNat := by
  obtain ⟨row, hrow, -, hconvertible, -, -, htime⟩ := extension_eq_ok_iff.mp h
  have hworth := worth_parts hconvertible hle
  have hpart : ∀ denom, part.held denom ≤ whole.held denom := fun denom =>
    Nat.le_trans (Nat.le_add_right _ _) (hle denom)
  have hother : ∀ denom, other.held denom ≤ whole.held denom := fun denom =>
    Nat.le_trans (Nat.le_add_left _ _) (hle denom)
  obtain ⟨first, hfirst, hfirstTime⟩ :=
    extension_of_worth_le hrow h (hconvertible.of_le hpart) (Nat.le_trans (Nat.le_add_right _ _) hworth)
  obtain ⟨second, hsecond, hsecondTime⟩ :=
    extension_of_worth_le hrow h (hconvertible.of_le hother) (Nat.le_trans (Nat.le_add_left _ _) hworth)
  refine ⟨first, second, hfirst, hsecond, ?_⟩
  rw [hfirstTime, hsecondTime, htime]
  refine Nat.le_trans Nat.div_add_div_le_add_div (Nat.div_le_div_right ?_)
  rw [← Nat.mul_add]
  exact Nat.mul_le_mul_left _ hworth

/-- **The price of a row buys one interval.** -/
theorem extension_of_price {row : FeeRow} (hrow : params.fees.row? labelLength = some row)
    (hpositive : row.amount.IsPositive)
    (hfits : params.renewalInterval.toNat * row.amount.amount.toNat < 256 ^ 16) (rates : Rates) :
    extension (.ofCoin row.amount) labelLength params rates = .ok params.renewalInterval := by
  have hcoins : (Bundle.ofCoin row.amount).coins = [row.amount] := by rw [Bundle.ofCoin, dif_pos hpositive]
  have hconvert := rates.convert_self row.amount
  have hworth : worth rates row.amount.denom [row.amount] = row.amount.amount.toNat := by
    rw [worth, List.map_singleton, List.sum_singleton, worthOfCoin_of_convert hconvert]
  have hprice : row.amount.amount ≠ 0 := fun hzero =>
    Nat.ne_of_gt hpositive (congrArg Word.toNat hzero)
  refine extension_eq_ok_iff.mpr ⟨row, hrow, hprice, ?_⟩
  rw [hcoins, hworth, Nat.mul_div_cancel _ hpositive]
  refine ⟨fun coin hcoin => ?_, row.amount.amount.toNat_lt, hfits, rfl⟩
  obtain rfl := List.mem_singleton.mp hcoin
  exact ⟨_, hconvert⟩

theorem extension_perm (hdistinct : (params.fees.rows.map (·.length)).Nodup) {rows : List FeeRow}
    (h : params.fees.rows.Perm rows) (fee : Bundle) (labelLength : Nat) (rates : Rates) :
    extension fee labelLength { params with fees := ⟨rows⟩ } rates =
      extension fee labelLength params rates := by
  simp only [extension, FeeTable.row?_perm hdistinct h, leastLength_perm h]

/-! ### The laws together -/

/-- Renewals cannot be had for less than their price. -/
structure Fair (params : Params) (rates : Rates) : Prop where
  split : ∀ labelLength part other whole time, part.add other = .ok whole →
    extension whole labelLength params rates = .ok time →
    ∃ first second, extension part labelLength params rates = .ok first ∧
      extension other labelLength params rates = .ok second ∧ first.toNat + second.toNat ≤ time.toNat
  more : ∀ labelLength less more time, more.covers less = true →
    extension more labelLength params rates = .ok time →
    ∃ bought, extension less labelLength params rates = .ok bought ∧ bought ≤ time
  price : ∀ labelLength row, params.fees.row? labelLength = some row →
    params.renewalInterval.toNat * row.amount.amount.toNat < 256 ^ 16 →
    extension (.ofCoin row.amount) labelLength params rates = .ok params.renewalInterval
  order : ∀ rows, params.fees.rows.Perm rows →
    { params with fees := ⟨rows⟩ }.check = .ok () ∧
      ∀ fee labelLength, extension fee labelLength { params with fees := ⟨rows⟩ } rates =
        extension fee labelLength params rates

/-- **Renewals cannot be had for less.**  Under checked parameters and any rates: where a payment is accepted,
so are two parts of it, and they buy together no more than the whole; to pay less buys no more; to pay just the
price of the row buys one interval, if the product fits; and the fee table can be listed in any order. -/
theorem extension_fair {params : Params} (h : params.check = .ok ()) (rates : Rates) : Fair params rates where
  split _ _ _ _ _ hadd := extension_of_parts fun denom => Nat.le_of_eq (Bundle.held_add hadd denom).symm
  more _ less _ _ hcovers hmore := by
    have hle : ∀ denom, less.held denom + Bundle.empty.held denom ≤ _ := Bundle.covers_iff.mp hcovers
    obtain ⟨bought, _, hbought, -, hle⟩ := extension_of_parts hle hmore
    exact ⟨bought, hbought, Nat.le_trans (Nat.le_add_right _ _) hle⟩
  price _ row hrow hfits := by
    obtain ⟨-, -, hprices⟩ := Params.checkRows_eq_ok_iff.mp (Params.checkRows_of_check h)
    exact extension_of_price hrow (hprices row (FeeTable.mem_of_row? hrow)).2 hfits rates
  order rows hperm := by
    obtain ⟨-, hdistinct, hprices⟩ := Params.checkRows_eq_ok_iff.mp (Params.checkRows_of_check h)
    have hrows : Params.checkRows [] rows = .ok () :=
      Params.checkRows_eq_ok_iff.mpr ⟨fun _ _ => List.not_mem_nil, (hperm.map _).nodup_iff.mp hdistinct,
        fun row hrow => hprices row (hperm.mem_iff.mpr hrow)⟩
    refine ⟨Params.check_withRows h hrows, fun fee labelLength => ?_⟩
    exact extension_perm hdistinct hperm fee labelLength rates

def twofold : Rates := .ofQuotes "uluna" [Rates.quote "usdr" 2 1]

def fee (uluna usdr : Nat) : Bundle :=
  ((Bundle.ofCoin ⟨"uluna", (Word.ofNat? uluna).getD 0⟩).add
    (.ofCoin ⟨"usdr", (Word.ofNat? usdr).getD 0⟩)).toOption.getD .empty

/-- Two parts of a payment of thirty-seven seconds, one of them in two denominations. -/
theorem extension_fair_twofold :
    Params.standard.check = .ok () ∧ (fee 1 1).add (fee 0 3) = .ok (fee 1 4) ∧
      extension (fee 1 4) 6 .standard twofold = .ok ⟨37, by decide⟩ ∧
      ∃ first second, extension (fee 1 1) 6 .standard twofold = .ok first ∧
        extension (fee 0 3) 6 .standard twofold = .ok second ∧ first.toNat + second.toNat ≤ 37 := by
  have hcheck : Params.standard.check = .ok () := by decide +kernel
  have hadd : (fee 1 1).add (fee 0 3) = .ok (fee 1 4) := by decide +kernel
  have hwhole : extension (fee 1 4) 6 .standard twofold = .ok ⟨37, by decide⟩ := by decide +kernel
  exact ⟨hcheck, hadd, hwhole, (extension_fair hcheck twofold).split _ _ _ _ _ hadd hwhole⟩

end Renewal

end NameAuction
