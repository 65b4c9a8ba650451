import NameAuction.Proofs.Escrow.Worth

/-!
# A bank conserves value

No move changes what a bank is worth (`Bank.worth_apply`), and new coins change it by what they are
(`Bank.worth_mint`).  `Bank.perform` makes a move in place, one check or write after another, so that it can be
said that a move that is refused leaves no write behind (`Bank.perform_run`).  A stage that is committed makes
moves until one is refused, so it leaves the worth alone however far it comes (`Vault.worth_commit`).  The total
exists just where the worth fits (`Bank.exists_total_iff`).
-/

namespace NameAuction

namespace Bank

/-! ### Moves -/

/-- **A move that a bank makes is one that its funds allow**, and adds to the burned total what it burns. -/
theorem funds_apply {bank next : Bank} {move : Move} (h : bank.apply move = .ok next) :
    bank.funds.apply move = .ok next.funds ∧
      ∀ denom, next.burned.held denom = bank.burned.held denom + move.burnt denom := by
  cases hfunds : bank.funds.apply move with
  | error fault => cases h.symm.trans (apply_eq_error hfunds)
  | ok funds =>
    by_cases hfits : ∀ denom, bank.burned.held denom + move.burnt denom < 256 ^ 16
    · obtain ⟨next', hnext', rfl, hburned⟩ := apply_eq_ok hfunds hfits
      obtain rfl := Except.ok.inj (h.symm.trans hnext')
      exact ⟨rfl, hburned⟩
    · obtain ⟨denom, hover⟩ := Classical.not_forall.mp hfits
      cases h.symm.trans (apply_of_overflow hfunds (Nat.le_of_not_lt hover))

theorem worth_apply {bank next : Bank} {move : Move} (h : bank.apply move = .ok next) (denom : String) :
    next.worth denom = bank.worth denom := by
  obtain ⟨hfunds, hburned⟩ := funds_apply h
  have hall : bank.funds.applyAll [move] = .ok next.funds := Except.bind_eq_ok_iff.mpr ⟨_, hfunds, rfl⟩
  exact worth_eq hall hburned denom

theorem burned_le_apply {bank next : Bank} {move : Move} (h : bank.apply move = .ok next) (denom : String) :
    bank.burned.held denom ≤ next.burned.held denom := by
  rw [(funds_apply h).2]
  exact Nat.le_add_right _ _

/-! ### New coins -/

theorem worth_setBalance (bank : Bank) (account : Account) (bundle : Bundle) (denom : String) :
    (bank.setBalance account bundle).worth denom + (bank.balance account).held denom =
      bank.worth denom + bundle.held denom := by
  let next := bank.setBalance account bundle
  let accounts := insert account (bank.holders ∪ next.holders)
  have hmem : account ∈ accounts := Finset.mem_insert_self ..
  have hbefore : bank.funds.heldBy accounts denom + bank.burned.held denom = bank.worth denom :=
    heldBy_holders (Finset.Subset.trans Finset.subset_union_left (Finset.subset_insert ..)) denom
  have hafter : next.funds.heldBy accounts denom + bank.burned.held denom = next.worth denom :=
    heldBy_holders (Finset.Subset.trans Finset.subset_union_right (Finset.subset_insert ..)) denom
  have hsum : ∑ other ∈ accounts, ((next.balance other).held denom +
        if account = other then (bank.balance account).held denom else 0) =
      ∑ other ∈ accounts, ((bank.balance other).held denom +
        if account = other then bundle.held denom else 0) := by
    refine Finset.sum_congr rfl fun other _ => ?_
    rw [balance_setBalance]
    exact Funds.held_update (Nat.add_comm _ _) other
  rw [Finset.sum_add_distrib, Finset.sum_add_distrib, Finset.sum_ite_eq, Finset.sum_ite_eq, if_pos hmem,
    if_pos hmem] at hsum
  simp only [Funds.heldBy, funds] at hbefore hafter
  have hescrow : next.escrow = bank.escrow := rfl
  rw [hescrow] at hafter
  show next.worth denom + _ = _
  omega

theorem worth_mint {bank next : Bank} {account : Account} {amount : Bundle}
    (h : bank.mint account amount = .ok next) (denom : String) :
    next.worth denom = bank.worth denom + amount.held denom ∧ next.burned = bank.burned := by
  obtain ⟨balance, hbalance, rfl⟩ := mint_eq_ok h
  have hset := worth_setBalance bank account balance denom
  have hcredit := Bundle.credit_eq_ok_iff.mp hbalance denom
  exact ⟨by omega, rfl⟩

/-! ### Moves in place -/

/-- A move made in place: the checks and the writes one after another, as far as they come. -/
def perform (move : Move) : ExceptT EscrowFault (StateM Bank) Unit :=
  if move.amount.isEmpty then return
  else
    match move with
    | .deposit source amount => do
      let available := (← get).balance source
      let rest ← available.debit amount (.insufficientFunds source available amount)
      let escrow ← (← get).escrow.credit amount
      modify fun bank => { bank with escrow := escrow }
      modify fun bank => bank.setBalance source rest
    | .payOut target amount => do
      let available := (← get).escrow
      let rest ← available.debit amount (.insufficientEscrow available amount)
      let balance ← ((← get).balance target).credit amount
      modify fun bank => { bank with escrow := rest }
      modify fun bank => bank.setBalance target balance
    | .burn amount => do
      let available := (← get).escrow
      let rest ← available.debit amount (.insufficientEscrow available amount)
      let burned ← (← get).burned.credit amount
      modify fun bank => { bank with burned := burned }
      modify fun bank => { bank with escrow := rest }

def issue (account : Account) (amount : Bundle) : ExceptT EscrowFault (StateM Bank) Unit := do
  let balance ← ((← get).balance account).credit amount
  modify fun bank => bank.setBalance account balance

theorem run_check {α : Type} (check : Except EscrowFault α)
    (rest : α → ExceptT EscrowFault (StateM Bank) Unit) (bank : Bank) :
    (do rest (← check) : ExceptT EscrowFault (StateM Bank) Unit).run.run bank =
      match check with
      | .ok value => (rest value).run.run bank
      | .error fault => (.error fault, bank) := by
  cases check <;> rfl

theorem run_get (rest : Bank → ExceptT EscrowFault (StateM Bank) Unit) (bank : Bank) :
    (do rest (← get) : ExceptT EscrowFault (StateM Bank) Unit).run.run bank = (rest bank).run.run bank := rfl

def allOrNothing (bank : Bank) : Except EscrowFault Bank → Except EscrowFault Unit × Bank
  | .ok next => (.ok (), next)
  | .error fault => (.error fault, bank)

/-- **A move in place does all or nothing.**  No check comes after a write. -/
theorem perform_run (bank : Bank) (move : Move) :
    (perform move).run.run bank = bank.allOrNothing (bank.apply move) := by
  rw [perform.eq_def, apply.eq_def]
  by_cases hempty : move.amount.isEmpty = true
  · rw [if_pos hempty, if_pos hempty]
    rfl
  · rw [if_neg hempty, if_neg hempty]
    cases move with
    | deposit source amount =>
      simp only [run_get, run_check]
      cases (bank.balance source).debit amount (.insufficientFunds source (bank.balance source) amount) with
      | error fault => rfl
      | ok rest => cases bank.escrow.credit amount <;> rfl
    | payOut target amount =>
      simp only [run_get, run_check]
      cases bank.escrow.debit amount (.insufficientEscrow bank.escrow amount) with
      | error fault => rfl
      | ok rest => cases (bank.balance target).credit amount <;> rfl
    | burn amount =>
      simp only [run_get, run_check]
      cases bank.escrow.debit amount (.insufficientEscrow bank.escrow amount) with
      | error fault => rfl
      | ok rest => cases bank.burned.credit amount <;> rfl

theorem issue_run (bank : Bank) (account : Account) (amount : Bundle) :
    (issue account amount).run.run bank = bank.allOrNothing (bank.mint account amount) := by
  rw [issue, mint, run_get, run_check]
  cases (bank.balance account).credit amount <;> rfl

/-! ### The total -/

theorem exists_creditAll_iff {start : Bundle} {bundles : List Bundle} :
    (∃ sum, creditAll start bundles = .ok sum) ↔
      ∀ denom, start.held denom + (bundles.map (·.held denom)).sum < 256 ^ 16 := by
  constructor
  · rintro ⟨sum, hsum⟩ denom
    rw [← held_creditAll hsum]
    exact sum.held_lt denom
  · intro hfits
    induction bundles generalizing start with
    | nil => exact ⟨start, rfl⟩
    | cons bundle rest ih =>
      simp only [List.map_cons, List.sum_cons] at hfits
      cases hcredit : start.credit bundle with
      | error fault =>
        obtain ⟨-, denom, hover⟩ := Bundle.credit_eq_error_iff.mp hcredit
        have hlt := hfits denom
        omega
      | ok mid =>
        have hmid := Bundle.credit_eq_ok_iff.mp hcredit
        obtain ⟨sum, hsum⟩ := ih fun denom => by
          rw [hmid, Nat.add_assoc]
          exact hfits denom
        exact ⟨sum, Except.bind_eq_ok_iff.mpr ⟨mid, hcredit, hsum⟩⟩

/-- **The total exists just where what the bank is worth fits.** -/
theorem exists_total_iff {bank : Bank} : (∃ total, bank.total = .ok total) ↔ bank.Fits := by
  constructor
  · rintro ⟨total, htotal⟩
    exact fits_of_total htotal
  · intro hfits
    have hheld : ∀ denom, bank.escrow.held denom + bank.burned.held denom +
        ((bank.balances.toList.map (·.2)).map (·.held denom)).sum < 256 ^ 16 := by
      intro denom
      have hlt := hfits denom
      rw [worth] at hlt
      rw [List.map_map]
      show _ + (bank.balances.toList.map fun entry => entry.2.held denom).sum < _
      omega
    cases hstart : bank.escrow.credit bank.burned with
    | error fault =>
      obtain ⟨-, denom, hover⟩ := Bundle.credit_eq_error_iff.mp hstart
      have hlt := hheld denom
      omega
    | ok start =>
      obtain ⟨total, htotal⟩ := exists_creditAll_iff.mpr fun denom => by
        rw [Bundle.credit_eq_ok_iff.mp hstart]
        exact hheld denom
      exact ⟨total, Except.bind_eq_ok_iff.mpr ⟨start, hstart, htotal⟩⟩

end Bank

/-! ### Stages -/

namespace Vault

theorem worth_apply {vault next : Vault} {move : Move} (h : vault.apply move = .ok next) (denom : String) :
    next.bank.worth denom = vault.bank.worth denom ∧
      vault.bank.burned.held denom ≤ next.bank.burned.held denom := by
  obtain ⟨bank, _ | ⟨stage, below⟩⟩ := vault
  · rw [apply_bank] at h
    cases hmove : bank.apply move with
    | error fault =>
      rw [hmove] at h
      cases h
    | ok moved =>
      rw [hmove] at h
      obtain rfl := Except.ok.inj h
      exact ⟨Bank.worth_apply hmove denom, Bank.burned_le_apply hmove denom⟩
  · have hmove := apply_eq bank stage below move
    rw [h] at hmove
    obtain ⟨⟨top, rfl, -⟩, -⟩ := hmove
    exact ⟨rfl, Nat.le_refl _⟩

/-- **Moves in order keep the worth, however far they come.** -/
theorem worth_replay (vault : Vault) (moves : List Move) (denom : String) :
    (replay vault moves).1.bank.worth denom = vault.bank.worth denom ∧
      vault.bank.burned.held denom ≤ (replay vault moves).1.bank.burned.held denom := by
  induction moves generalizing vault with
  | nil => exact ⟨rfl, Nat.le_refl _⟩
  | cons move rest ih =>
    rw [replay]
    cases hmove : vault.apply move with
    | error fault => exact ⟨rfl, Nat.le_refl _⟩
    | ok next =>
      obtain ⟨hworth, hburned⟩ := worth_apply hmove denom
      obtain ⟨hrest, hmore⟩ := ih next
      exact ⟨hrest.trans hworth, Nat.le_trans hburned hmore⟩

theorem worth_commit (vault : Vault) (denom : String) :
    vault.commit.1.bank.worth denom = vault.bank.worth denom ∧
      vault.bank.burned.held denom ≤ vault.commit.1.bank.burned.held denom := by
  obtain ⟨bank, _ | ⟨stage, below⟩⟩ := vault
  · exact ⟨rfl, Nat.le_refl _⟩
  · exact worth_replay ⟨bank, below⟩ stage.moves denom

end Vault

/-! ### Everything together -/

namespace Bank

structure Conserves (bank : Bank) : Prop where
  move : ∀ move next, bank.apply move = .ok next → ∀ denom,
    next.worth denom = bank.worth denom ∧ bank.burned.held denom ≤ next.burned.held denom
  /-- Nothing is written by a move that is refused. -/
  move_in_place : ∀ move, (perform move).run.run bank = bank.allOrNothing (bank.apply move)
  mint : ∀ account amount next, bank.mint account amount = .ok next → ∀ denom,
    next.worth denom = bank.worth denom + amount.held denom ∧ next.burned = bank.burned
  mint_in_place : ∀ account amount,
    (issue account amount).run.run bank = bank.allOrNothing (bank.mint account amount)
  /-- Whatever the stages have recorded, and whether or not all of it can be made. -/
  commit : ∀ stages denom, (Vault.commit ⟨bank, stages⟩).1.bank.worth denom = bank.worth denom ∧
    bank.burned.held denom ≤ (Vault.commit ⟨bank, stages⟩).1.bank.burned.held denom
  total_exists : (∃ total, bank.total = .ok total) ↔ ∀ denom, bank.worth denom < 256 ^ 16
  total : ∀ total, bank.total = .ok total → ∀ denom, total.held denom = bank.worth denom

/-- **A bank conserves value.**  A move that is made does not change what the bank is worth and takes nothing
from the burned total, and one that is refused changes nothing at all; new coins add what they are; committing a
stage keeps the worth even where it stops halfway; and the total is the worth, wherever that fits. -/
theorem conserves_value (bank : Bank) : bank.Conserves where
  move _ _ h denom := ⟨worth_apply h denom, burned_le_apply h denom⟩
  move_in_place := bank.perform_run
  mint _ _ _ h := worth_mint h
  mint_in_place := bank.issue_run
  commit stages := Vault.worth_commit ⟨bank, stages⟩
  total_exists := exists_total_iff
  total _ h := held_total h

/-- A bank with one account, after all that can ever be burned of its coins has been burned. -/
def burnedOut : Bank :=
  { empty.setBalance Id.zero (.ofCoin ⟨"uluna", ⟨1000, by decide⟩⟩) with burned := .ofCoin ⟨"uluna", .max⟩ }

/-- A stage over it that has recorded a deposit and a burn. -/
def halfway : Vault :=
  ⟨burnedOut, [⟨∅, none,
    [.deposit Id.zero (.ofCoin ⟨"uluna", ⟨600, by decide⟩⟩), .burn (.ofCoin ⟨"uluna", ⟨100, by decide⟩⟩)]⟩]⟩

/-- The deposit is made, the burn is not, and the worth is the same. -/
theorem conserves_value_halfway :
    halfway.commit.2 = some .overflow ∧
      halfway.commit.1.bank.escrow = .ofCoin ⟨"uluna", ⟨600, by decide⟩⟩ ∧
      halfway.commit.1.bank.worth "uluna" = burnedOut.worth "uluna" :=
  ⟨by decide +kernel, by decide +kernel, (burnedOut.conserves_value.commit halfway.stages "uluna").1⟩

end Bank

end NameAuction
