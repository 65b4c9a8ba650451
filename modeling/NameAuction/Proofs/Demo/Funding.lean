import NameAuction.Demo.Script
import NameAuction.Proofs.Escrow.Funds
import NameAuction.Proofs.Registrar.Reachable
import NameAuction.Proofs.Renewal

/-!
# What the bidders of the demonstration start with

Every bidder is given ten of the least deposits, and four times the price of each renewal that is not in the
denomination of the deposit.  These coins make a bundle just where no two of them are of one denomination
(`Demo.Admissible.exists_initialBalance_iff`), and into an empty bank a bundle can be minted for any accounts
(`Demo.exists_fund`).  The bundle pays every renewal just where those in the denomination of the deposit cost
no more than the ten deposits, so parameters of which two rows share another denomination, as in the standard
ones, do not start the demonstration (`Demo.funds_iff`).
-/

namespace NameAuction.Demo

def bidders : List Account := [alice, bob, carol]

def foreignRows (params : Params) : List FeeRow :=
  params.fees.rows.filter fun row => row.amount.denom ≠ params.minDeposit.denom

/-! ### The coins -/

def multiple (amount : Amount) (factor : Nat) : Amount := (Word.ofNat? (amount.toNat * factor)).getD 0

def fourfold (row : FeeRow) : Coin := ⟨row.amount.denom, multiple row.amount.amount 4⟩

section

variable {amount : Amount} {factor : Nat} (h : amount.toNat * factor < 256 ^ 16)

include h

theorem ofNat?_multiple : Word.ofNat? (amount.toNat * factor) = some (multiple amount factor) := by
  have hproduct : Word.ofNat? (amount.toNat * factor) = some (⟨amount.toNat * factor, h⟩ : Amount) :=
    Word.ofNat?_eq_some_iff.mpr rfl
  rw [multiple, hproduct, Option.getD_some]

theorem toNat_multiple : (multiple amount factor).toNat = amount.toNat * factor :=
  Word.ofNat?_eq_some_iff.mp (ofNat?_multiple h)

theorem times_eq : times amount factor = .ok (multiple amount factor) := by
  rw [times, ofNat?_multiple h]

end

theorem feeFunds_eq (denom : String) {rows : List FeeRow}
    (h : ∀ row ∈ rows, row.amount.amount.toNat * 4 < 256 ^ 16) :
    feeFunds denom rows = .ok ((rows.filter fun row => row.amount.denom ≠ denom).map fourfold) := by
  induction rows with
  | nil => rfl
  | cons row rest ih =>
    obtain ⟨hrow, hrest⟩ := List.forall_mem_cons.mp h
    by_cases hdenom : row.amount.denom = denom
    · rw [feeFunds, if_pos hdenom, ih hrest, List.filter_cons_of_neg (by simpa using hdenom)]
    · rw [feeFunds, if_neg hdenom, times_eq hrow, ih hrest, List.filter_cons_of_pos (by simpa using hdenom)]
      rfl

def grant (params : Params) : List Coin :=
  ⟨params.minDeposit.denom, multiple params.minDeposit.amount 10⟩ :: (foreignRows params).map fourfold

theorem map_denom_fourfold (rows : List FeeRow) :
    (rows.map fourfold).map (·.denom) = rows.map (·.amount.denom) := List.map_map

/-! ### The bundle -/

/-- Parameters that are checked, ask for a deposit, and of which the multiples that are minted fit. -/
structure Admissible (params : Params) : Prop where
  check_eq : params.check = .ok ()
  positive : 0 < params.minDeposit.amount.toNat
  deposits : params.minDeposit.amount.toNat * 10 < 256 ^ 16
  renewals : ∀ row ∈ params.fees.rows, row.amount.amount.toNat * 4 < 256 ^ 16

variable {params : Params}

namespace Admissible

variable (h : Admissible params)

include h

theorem isDenom : Coin.isDenom params.minDeposit.denom = true := by
  obtain ⟨_, -, h⟩ := Except.bind_eq_ok_iff.mp h.check_eq
  obtain ⟨_, -, h⟩ := Except.bind_eq_ok_iff.mp h
  obtain ⟨_, -, h⟩ := Except.bind_eq_ok_iff.mp h
  obtain ⟨_, hdeposit, -⟩ := Except.bind_eq_ok_iff.mp h
  unfold Params.checkMinDeposit at hdeposit
  split at hdeposit
  · cases hdeposit
  · rename_i hcheck
    exact ensure_eq_ok_iff.mp hcheck

theorem prices : ∀ row ∈ params.fees.rows, Coin.isDenom row.amount.denom = true ∧ row.amount.IsPositive :=
  (Params.checkRows_eq_ok_iff.mp (Params.checkRows_of_check h.check_eq)).2.2

theorem initialBalance_eq : initialBalance params =
    match Bundle.ofCoins (grant params) with
    | .ok balance => .ok balance
    | .error fault => .error (.because "Failed to build initial balances" (.coins fault)) := by
  rw [initialBalance, times_eq h.deposits, feeFunds_eq _ h.renewals]
  rfl

theorem positive_fourfold {row : FeeRow} (hrow : row ∈ params.fees.rows) : (fourfold row).IsPositive := by
  have hprice : 0 < row.amount.amount.toNat := (h.prices row hrow).2
  have hfour : (fourfold row).amount.toNat = row.amount.amount.toNat * 4 := toNat_multiple (h.renewals row hrow)
  change 0 < (fourfold row).amount.toNat
  omega

/-- **The coins make a bundle where no two rows share a denomination** other than that of the deposit. -/
theorem proper_grant_iff :
    Bundle.Proper (grant params) ↔ ((foreignRows params).map (·.amount.denom)).Nodup := by
  have hfresh : params.minDeposit.denom ∉ (foreignRows params).map (·.amount.denom) := by
    intro hmem
    obtain ⟨row, hrow, heq⟩ := List.mem_map.mp hmem
    exact of_decide_eq_true (List.mem_filter.mp hrow).2 heq
  have hdistinct : ((grant params).map (·.denom)).Nodup ↔
      ((foreignRows params).map (·.amount.denom)).Nodup := by
    rw [grant, List.map_cons, List.nodup_cons, map_denom_fourfold]
    exact and_iff_right hfresh
  refine ⟨fun hproper => hdistinct.mp hproper.distinct, fun hnodup => ⟨?_, ?_, hdistinct.mpr hnodup⟩⟩
  · refine List.forall_mem_cons.mpr ⟨h.isDenom, List.forall_mem_map.mpr fun row hrow => ?_⟩
    exact (h.prices row (List.mem_of_mem_filter hrow)).1
  · refine List.forall_mem_cons.mpr ⟨?_, List.forall_mem_map.mpr fun row hrow => ?_⟩
    · have hten := toNat_multiple h.deposits
      have hpositive := h.positive
      change 0 < (multiple params.minDeposit.amount 10).toNat
      omega
    · exact h.positive_fourfold (List.mem_of_mem_filter hrow)

theorem exists_initialBalance_iff : (∃ balance, initialBalance params = .ok balance) ↔
    ((foreignRows params).map (·.amount.denom)).Nodup := by
  rw [← h.proper_grant_iff, ← Bundle.exists_ofCoins_iff, h.initialBalance_eq]
  cases Bundle.ofCoins (grant params) <;> simp

theorem ofCoins_grant {balance : Bundle} (hbalance : initialBalance params = .ok balance) :
    Bundle.ofCoins (grant params) = .ok balance := by
  rw [h.initialBalance_eq] at hbalance
  cases hcoins : Bundle.ofCoins (grant params) with
  | ok found =>
    rw [hcoins] at hbalance
    exact congrArg Except.ok (Except.ok.inj hbalance)
  | error fault =>
    rw [hcoins] at hbalance
    cases hbalance

/-- **A bidder holds ten deposits, and four times each price in another denomination.** -/
theorem held_initialBalance {balance : Bundle} (hbalance : initialBalance params = .ok balance) :
    balance.held params.minDeposit.denom = params.minDeposit.amount.toNat * 10 ∧
      ∀ row ∈ foreignRows params, balance.held row.amount.denom = row.amount.amount.toNat * 4 := by
  obtain ⟨-, hperm⟩ := Bundle.ofCoins_eq_ok_iff.mp (h.ofCoins_grant hbalance)
  constructor
  · have hmem : ⟨params.minDeposit.denom, multiple params.minDeposit.amount 10⟩ ∈ balance.coins :=
      hperm.mem_iff.mpr (List.mem_cons_self ..)
    rw [← toNat_multiple h.deposits]
    exact Bundle.held_of_mem hmem
  · intro row hrow
    have hmem : fourfold row ∈ balance.coins :=
      hperm.mem_iff.mpr (List.mem_cons_of_mem _ (List.mem_map_of_mem hrow))
    rw [← toNat_multiple (h.renewals row (List.mem_of_mem_filter hrow))]
    exact Bundle.held_of_mem hmem

end Admissible

/-! ### Minting -/

/-- **A bundle can be minted for accounts that hold nothing**, and then each of them holds it. -/
theorem exists_fund (balance : Bundle) {accounts : List Account} (hdistinct : accounts.Nodup) {bank : Bank}
    (hempty : ∀ account ∈ accounts, bank.balance account = .empty) :
    ∃ next, fund balance accounts bank = .ok next ∧ (∀ account ∈ accounts, next.balance account = balance) ∧
      ∀ account, account ∉ accounts → next.balance account = bank.balance account := by
  induction accounts generalizing bank with
  | nil => exact ⟨bank, rfl, nofun, fun _ _ => rfl⟩
  | cons account rest ih =>
    obtain ⟨hfresh, hrest⟩ := List.nodup_cons.mp hdistinct
    obtain ⟨hnone, hothers⟩ := List.forall_mem_cons.mp hempty
    have hcredit : (bank.balance account).credit balance = .ok balance :=
      Bundle.credit_eq_ok_iff.mpr fun denom => by rw [hnone, Bundle.held_empty, Nat.zero_add]
    have hmint : bank.mint account balance = .ok (bank.setBalance account balance) := by
      rw [Bank.mint, hcredit]
      rfl
    have hbalance := Bank.balance_setBalance bank account balance
    have hstill : ∀ other ∈ rest, (bank.setBalance account balance).balance other = .empty := by
      intro other hother
      rw [hbalance, Function.update_of_ne (ne_of_mem_of_not_mem hother hfresh)]
      exact hothers other hother
    obtain ⟨next, hnext, hheld, hkept⟩ := ih hrest hstill
    refine ⟨next, ?_, List.forall_mem_cons.mpr ⟨?_, hheld⟩, fun other hother => ?_⟩
    · rw [fund, hmint]
      exact hnext
    · rw [hkept account hfresh, hbalance, Function.update_self]
    · obtain ⟨hne, hnot⟩ := not_or.mp (fun hor => hother (List.mem_cons.mpr hor))
      rw [hkept other hnot, hbalance, Function.update_of_ne hne]

theorem exists_fund_bidders (balance : Bundle) :
    ∃ bank, fund balance bidders .empty = .ok bank ∧ ∀ bidder ∈ bidders, bank.balance bidder = balance := by
  have hdistinct : bidders.Nodup := by decide
  have hempty : ∀ bidder ∈ bidders, Bank.empty.balance bidder = .empty := fun _ _ => rfl
  obtain ⟨bank, hbank, hheld, -⟩ := exists_fund balance hdistinct hempty
  exact ⟨bank, hbank, hheld⟩

/-! ### What the coins are for -/

structure Affords (params : Params) (balance : Bundle) : Prop where
  deposits : params.minDeposit.amount.toNat * 10 ≤ balance.held params.minDeposit.denom
  renewals : ∀ row ∈ params.fees.rows, row.amount.amount.toNat ≤ balance.held row.amount.denom

/-- The balances of the bidders are built and minted, and are enough. -/
def Funds (params : Params) : Prop :=
  ∃ balance bank, initialBalance params = .ok balance ∧ fund balance bidders .empty = .ok bank ∧
    ∀ bidder ∈ bidders, Affords params (bank.balance bidder)

/-- What funding needs of the rows: no two of them share a denomination other than that of the deposit, and
what is in that one costs no more than ten deposits. -/
structure Fundable (params : Params) : Prop where
  distinct : ((foreignRows params).map (·.amount.denom)).Nodup
  covered : ∀ row ∈ params.fees.rows, row.amount.denom = params.minDeposit.denom →
    row.amount.amount.toNat ≤ params.minDeposit.amount.toNat * 10

theorem Admissible.affords_iff (h : Admissible params) {balance : Bundle}
    (hbalance : initialBalance params = .ok balance) :
    Affords params balance ↔ ∀ row ∈ params.fees.rows, row.amount.denom = params.minDeposit.denom →
      row.amount.amount.toNat ≤ params.minDeposit.amount.toNat * 10 := by
  obtain ⟨hdeposits, hforeign⟩ := h.held_initialBalance hbalance
  constructor
  · intro haffords row hrow hdenom
    rw [← hdeposits, ← hdenom]
    exact haffords.renewals row hrow
  · refine fun hcovered => ⟨Nat.le_of_eq hdeposits.symm, fun row hrow => ?_⟩
    by_cases hdenom : row.amount.denom = params.minDeposit.denom
    · rw [hdenom, hdeposits]
      exact hcovered row hrow hdenom
    · rw [hforeign row (List.mem_filter.mpr ⟨hrow, decide_eq_true hdenom⟩)]
      omega

/-- **When the bidders can be funded.**  Of admissible parameters, just those fund the bidders of which no two
rows share a denomination other than that of the deposit, and no row in that denomination costs more than ten
deposits. -/
theorem funds_iff (h : Admissible params) : Funds params ↔ Fundable params := by
  constructor
  · rintro ⟨balance, bank, hbalance, hfund, haffords⟩
    obtain ⟨bank', hfund', hheld⟩ := exists_fund_bidders balance
    obtain rfl := Except.ok.inj (hfund.symm.trans hfund')
    have hmem : alice ∈ bidders := List.mem_cons_self ..
    have halice := haffords alice hmem
    rw [hheld alice hmem] at halice
    exact ⟨h.exists_initialBalance_iff.mp ⟨balance, hbalance⟩, (h.affords_iff hbalance).mp halice⟩
  · rintro ⟨hdistinct, hcovered⟩
    obtain ⟨balance, hbalance⟩ := h.exists_initialBalance_iff.mpr hdistinct
    obtain ⟨bank, hfund, hheld⟩ := exists_fund_bidders balance
    refine ⟨balance, bank, hbalance, hfund, fun bidder hbidder => ?_⟩
    rw [hheld bidder hbidder]
    exact (h.affords_iff hbalance).mpr hcovered

/-- The standard parameters with a price in each of three denominations, one of them that of the deposit. -/
def mixedPrices : Params := { Params.standard with fees := ⟨[
  ⟨⟨6, by decide⟩, ⟨"usdr", ⟨300000000, by decide⟩⟩⟩, ⟨⟨7, by decide⟩, ⟨"ukrw", ⟨200000000, by decide⟩⟩⟩,
  ⟨⟨8, by decide⟩, ⟨"uluna", ⟨5120000000, by decide⟩⟩⟩]⟩ }

theorem funds_iff_mixedPrices : Admissible mixedPrices ∧ Funds mixedPrices := by
  have hadmissible : Admissible mixedPrices :=
    ⟨by decide +kernel, by decide +kernel, by decide +kernel, by decide +kernel⟩
  exact ⟨hadmissible, (funds_iff hadmissible).mpr ⟨by decide +kernel, by decide +kernel⟩⟩

def plainInput : Input := ⟨none, "1600000000", none, none⟩

/-- **The standard parameters do not fund the bidders**, as all their rows are in one other denomination.  The
name and the start of the demonstration are in order; it ends before the name is opened. -/
theorem not_funds_standard :
    Admissible .standard ∧
      (∃ config, Config.ofInput plainInput = .ok config ∧ config.params = .standard ∧
        (Registrar.standard.deliver config.start (.openAuction config.name alice)).1.isOk = true) ∧
      ¬ Funds .standard ∧
      (run plainInput).stop = some (.failed
        ⟨"Failed to build initial balances", some "Invalid coins: duplicate denom usdr"⟩) := by
  have hadmissible : Admissible .standard :=
    ⟨by decide +kernel, by decide +kernel, by decide +kernel, by decide +kernel⟩
  refine ⟨hadmissible, ?_, ?_, by decide +kernel⟩
  · exact ⟨⟨.standard, Registrar.moment 1600000000, ⟨"wallet.terra"⟩, none⟩, rfl, rfl, by decide +kernel⟩
  · rintro ⟨balance, -, hbalance, -⟩
    exact absurd (hadmissible.exists_initialBalance_iff.mp ⟨balance, hbalance⟩) (by decide +kernel)

end NameAuction.Demo
