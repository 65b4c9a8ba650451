import Mathlib.Logic.Function.Basic
import NameAuction.Escrow.Vault
import NameAuction.Proofs.Escrow.Amounts

/-!
# Funds

The balances and the escrow as they are seen, through stages or without them.  A move on them is
`Funds.apply`: a staged vault accepts and refuses exactly what it does (`Vault.apply_eq`), and a bank does
so as well up to the burned total, which a stage does not know (`Bank.apply_eq_ok`,
`Bank.apply_eq_error`, `Bank.apply_of_overflow`).  So moves that were recorded on a stage are made at the bank
(`Vault.replay_eq`), unless a burn overflows the total there (`Vault.replay_of_overflow`).
-/

namespace NameAuction

/-! ### What a move does -/

namespace Move

/-- What an account pays by a move. -/
def paidBy (account : Account) (denom : String) : Move → Nat
  | .deposit source amount => if source = account then amount.held denom else 0
  | _ => 0

def paidTo (account : Account) (denom : String) : Move → Nat
  | .payOut target amount => if target = account then amount.held denom else 0
  | _ => 0

/-- What goes into the escrow by a move. -/
def collected (denom : String) : Move → Nat
  | .deposit _ amount => amount.held denom
  | _ => 0

/-- What goes from the escrow to accounts by a move. -/
def released (denom : String) : Move → Nat
  | .payOut _ amount => amount.held denom
  | _ => 0

def burnt (denom : String) : Move → Nat
  | .burn amount => amount.held denom
  | _ => 0

def IsBurn (move : Move) : Prop := ∃ amount, move = .burn amount

def IsPayOut (move : Move) : Prop := ∃ target amount, move = .payOut target amount

def sum (quantity : Move → Nat) (moves : List Move) : Nat := (moves.map quantity).sum

variable (quantity : Move → Nat)

@[simp] theorem sum_nil : sum quantity [] = 0 := rfl

@[simp] theorem sum_cons (move : Move) (moves : List Move) :
    sum quantity (move :: moves) = quantity move + sum quantity moves := by
  simp [sum]

@[simp] theorem sum_append (moves more : List Move) :
    sum quantity (moves ++ more) = sum quantity moves + sum quantity more := by
  simp [sum]

end Move

/-- The balances and the escrow. -/
@[ext] structure Funds where
  balance : Account → Bundle
  escrow : Bundle

namespace Funds

def apply (funds : Funds) : Move → Except EscrowFault Funds
  | .deposit source amount => do
    let rest ← (funds.balance source).debit amount
      (.insufficientFunds source (funds.balance source) amount)
    let escrow ← funds.escrow.credit amount
    return ⟨Function.update funds.balance source rest, escrow⟩
  | .payOut target amount => do
    let rest ← funds.escrow.debit amount (.insufficientEscrow funds.escrow amount)
    let balance ← (funds.balance target).credit amount
    return ⟨Function.update funds.balance target balance, rest⟩
  | .burn amount => do
    let rest ← funds.escrow.debit amount (.insufficientEscrow funds.escrow amount)
    return ⟨funds.balance, rest⟩

def applyAll (funds : Funds) : List Move → Except EscrowFault Funds
  | [] => .ok funds
  | move :: rest => do (← funds.apply move).applyAll rest

/-- A new balance of one account, counted with what the account has paid and got. -/
theorem held_update {balance : Account → Bundle} {party : Account} {bundle : Bundle} {denom : String}
    {paid got : Nat} (h : bundle.held denom + paid = (balance party).held denom + got)
    (account : Account) :
    (Function.update balance party bundle account).held denom + (if party = account then paid else 0) =
      (balance account).held denom + if party = account then got else 0 := by
  rw [Function.update_apply]
  by_cases heq : account = party
  · rw [if_pos heq, if_pos heq.symm, if_pos heq.symm, heq]
    exact h
  · rw [if_neg heq, if_neg (Ne.symm heq), if_neg (Ne.symm heq)]

theorem apply_eq_ok {funds next : Funds} {move : Move} (h : funds.apply move = .ok next) :
    (∀ account denom, (next.balance account).held denom + move.paidBy account denom =
      (funds.balance account).held denom + move.paidTo account denom) ∧
    ∀ denom, next.escrow.held denom + move.released denom + move.burnt denom =
      funds.escrow.held denom + move.collected denom := by
  cases move with
  | deposit source amount =>
    obtain ⟨rest, hrest, h⟩ := Except.bind_eq_ok_iff.mp h
    obtain ⟨escrow, hescrow, h⟩ := Except.bind_eq_ok_iff.mp h
    obtain rfl := Except.ok.inj h
    have hdebit := Bundle.debit_eq_ok_iff.mp hrest
    have hcredit := Bundle.credit_eq_ok_iff.mp hescrow
    refine ⟨?_, ?_⟩
    · intro account denom
      have hsource : rest.held denom + amount.held denom = (funds.balance source).held denom + 0 :=
        (hdebit denom).symm
      have hupdate := held_update hsource account
      rwa [ite_self] at hupdate
    · intro denom
      have hdenom := hcredit denom
      simp only [Move.released, Move.burnt, Move.collected]
      omega
  | payOut target amount =>
    obtain ⟨rest, hrest, h⟩ := Except.bind_eq_ok_iff.mp h
    obtain ⟨balance, hbalance, h⟩ := Except.bind_eq_ok_iff.mp h
    obtain rfl := Except.ok.inj h
    have hdebit := Bundle.debit_eq_ok_iff.mp hrest
    have hcredit := Bundle.credit_eq_ok_iff.mp hbalance
    refine ⟨?_, ?_⟩
    · intro account denom
      have htarget : balance.held denom + 0 = (funds.balance target).held denom + amount.held denom :=
        hcredit denom
      have hupdate := held_update htarget account
      rwa [ite_self] at hupdate
    · intro denom
      have hdenom := hdebit denom
      simp only [Move.released, Move.burnt, Move.collected]
      omega
  | burn amount =>
    obtain ⟨rest, hrest, h⟩ := Except.bind_eq_ok_iff.mp h
    obtain rfl := Except.ok.inj h
    have hdebit := Bundle.debit_eq_ok_iff.mp hrest
    refine ⟨fun account denom => rfl, ?_⟩
    intro denom
    have hdenom := hdebit denom
    simp only [Move.released, Move.burnt, Move.collected]
    omega

/-- **What moves do to the balances and to the escrow.** -/
theorem applyAll_eq_ok {funds next : Funds} {moves : List Move} (h : funds.applyAll moves = .ok next) :
    (∀ account denom,
      (next.balance account).held denom + Move.sum (Move.paidBy account denom) moves =
        (funds.balance account).held denom + Move.sum (Move.paidTo account denom) moves) ∧
    ∀ denom, next.escrow.held denom + Move.sum (Move.released denom) moves +
        Move.sum (Move.burnt denom) moves =
      funds.escrow.held denom + Move.sum (Move.collected denom) moves := by
  induction moves generalizing funds with
  | nil =>
    obtain rfl := Except.ok.inj h
    exact ⟨fun _ _ => rfl, fun _ => rfl⟩
  | cons move rest ih =>
    obtain ⟨mid, hmove, hrest⟩ := Except.bind_eq_ok_iff.mp h
    obtain ⟨hbalance, hescrow⟩ := apply_eq_ok hmove
    obtain ⟨hbalances, hescrows⟩ := ih hrest
    refine ⟨?_, ?_⟩
    · intro account denom
      have hone := hbalance account denom
      have hmany := hbalances account denom
      simp only [Move.sum_cons]
      omega
    · intro denom
      have hone := hescrow denom
      have hmany := hescrows denom
      simp only [Move.sum_cons]
      omega

theorem applyAll_append {funds mid last : Funds} {moves more : List Move}
    (h : funds.applyAll moves = .ok mid) (hmore : mid.applyAll more = .ok last) :
    funds.applyAll (moves ++ more) = .ok last := by
  induction moves generalizing funds with
  | nil =>
    obtain rfl := Except.ok.inj h
    exact hmore
  | cons move rest ih =>
    obtain ⟨next, hmove, hrest⟩ := Except.bind_eq_ok_iff.mp h
    exact Except.bind_eq_ok_iff.mpr ⟨next, hmove, ih hrest⟩

/-- **Where moves lead does not depend on their order.** -/
theorem applyAll_perm {funds last last' : Funds} {moves moves' : List Move} (hperm : moves.Perm moves')
    (h : funds.applyAll moves = .ok last) (h' : funds.applyAll moves' = .ok last') : last = last' := by
  have hsum : ∀ quantity, Move.sum quantity moves = Move.sum quantity moves' :=
    fun quantity => (hperm.map quantity).sum_nat
  obtain ⟨hbalance, hescrow⟩ := applyAll_eq_ok h
  obtain ⟨hbalance', hescrow'⟩ := applyAll_eq_ok h'
  refine Funds.ext (funext fun account => Bundle.eq_of_held_eq fun denom => ?_)
    (Bundle.eq_of_held_eq fun denom => ?_)
  · have hheld := hbalance account denom
    rw [hsum, hsum] at hheld
    have hheld' := hbalance' account denom
    omega
  · have hheld := hescrow denom
    rw [hsum, hsum, hsum] at hheld
    have hheld' := hescrow' denom
    omega

/-- **Burns that the escrow covers are allowed.** -/
theorem applyAll_burns {funds : Funds} {moves : List Move} (hburns : ∀ move ∈ moves, move.IsBurn)
    (hcovered : ∀ denom, Move.sum (Move.burnt denom) moves ≤ funds.escrow.held denom) :
    ∃ next, funds.applyAll moves = .ok next := by
  induction moves generalizing funds with
  | nil => exact ⟨funds, rfl⟩
  | cons move rest ih =>
    obtain ⟨amount, rfl⟩ := hburns move (List.mem_cons_self ..)
    simp only [Move.sum_cons, Move.burnt] at hcovered
    cases hdebit : funds.escrow.debit amount (.insufficientEscrow funds.escrow amount) with
    | error fault =>
      obtain ⟨-, denom, hlt⟩ := Bundle.debit_eq_error_iff.mp hdebit
      have hle := hcovered denom
      omega
    | ok left =>
      have hheld := Bundle.debit_eq_ok_iff.mp hdebit
      have hmove : funds.apply (.burn amount) = .ok ⟨funds.balance, left⟩ := by
        rw [apply, hdebit]
        rfl
      have hrest : ∀ denom, Move.sum (Move.burnt denom) rest ≤
          (⟨funds.balance, left⟩ : Funds).escrow.held denom := by
        intro denom
        have hle := hcovered denom
        have hdenom := hheld denom
        show _ ≤ left.held denom
        omega
      obtain ⟨next, hnext⟩ := ih (fun other hother => hburns other (List.mem_cons_of_mem _ hother)) hrest
      exact ⟨next, Except.bind_eq_ok_iff.mpr ⟨_, hmove, hnext⟩⟩

/-- **Pay-outs that the escrow covers are allowed**, if the whole escrow could go to any account. -/
theorem applyAll_payOuts {funds : Funds} {moves : List Move} (hpays : ∀ move ∈ moves, move.IsPayOut)
    (hcovered : ∀ denom, Move.sum (Move.released denom) moves ≤ funds.escrow.held denom)
    (hroom : ∀ account denom,
      (funds.balance account).held denom + funds.escrow.held denom < 256 ^ 16) :
    ∃ next, funds.applyAll moves = .ok next := by
  induction moves generalizing funds with
  | nil => exact ⟨funds, rfl⟩
  | cons move rest ih =>
    obtain ⟨target, amount, rfl⟩ := hpays move (List.mem_cons_self ..)
    simp only [Move.sum_cons, Move.released] at hcovered
    cases hmove : funds.apply (.payOut target amount) with
    | error fault =>
      obtain hdebit | ⟨left, -, hcredit⟩ := Except.bind_eq_error_iff.mp hmove
      · obtain ⟨-, denom, hlt⟩ := Bundle.debit_eq_error_iff.mp hdebit
        have hle := hcovered denom
        omega
      · obtain hcredit | ⟨balance, -, hcredit⟩ := Except.bind_eq_error_iff.mp hcredit
        · obtain ⟨-, denom, hover⟩ := Bundle.credit_eq_error_iff.mp hcredit
          have hle := hcovered denom
          have hlt := hroom target denom
          omega
        · cases hcredit
    | ok mid =>
      obtain ⟨hbalance, hescrow⟩ := apply_eq_ok hmove
      simp only [Move.paidBy, Move.paidTo, Move.released, Move.burnt, Move.collected] at hbalance hescrow
      have hrest : ∀ denom, Move.sum (Move.released denom) rest ≤ mid.escrow.held denom := by
        intro denom
        have hle := hcovered denom
        have hdenom := hescrow denom
        omega
      have hleft : ∀ account denom,
          (mid.balance account).held denom + mid.escrow.held denom < 256 ^ 16 := by
        intro account denom
        have hlt := hroom account denom
        have hheld := hbalance account denom
        have hdenom := hescrow denom
        split at hheld <;> omega
      obtain ⟨next, hnext⟩ := ih (fun other hother => hpays other (List.mem_cons_of_mem _ hother)) hrest
        hleft
      exact ⟨next, Except.bind_eq_ok_iff.mpr ⟨mid, hmove, hnext⟩⟩

theorem apply_of_isEmpty (funds : Funds) {move : Move} (h : move.amount.isEmpty = true) :
    funds.apply move = .ok funds := by
  have hdebit : ∀ (bundle : Bundle) (fault : EscrowFault), bundle.debit .empty fault = .ok bundle :=
    fun _ _ => Bundle.debit_eq_ok_iff.mpr fun _ => rfl
  have hcredit : ∀ bundle : Bundle, bundle.credit .empty = .ok bundle :=
    fun _ => Bundle.credit_eq_ok_iff.mpr fun _ => rfl
  have hempty := (Bundle.isEmpty_iff _).mp h
  cases move with
  | deposit source amount =>
    obtain rfl : amount = .empty := hempty
    rw [apply, hdebit, hcredit]
    simp [bind, Except.bind, pure, Except.pure]
  | payOut target amount =>
    obtain rfl : amount = .empty := hempty
    rw [apply, hdebit, hcredit]
    simp [bind, Except.bind, pure, Except.pure]
  | burn amount =>
    obtain rfl : amount = .empty := hempty
    rw [apply, hdebit]
    rfl

end Funds

/-! ### Banks -/

namespace Bank

def funds (bank : Bank) : Funds := ⟨bank.balance, bank.escrow⟩

theorem mint_eq_ok {bank next : Bank} {account : Account} {amount : Bundle}
    (h : bank.mint account amount = .ok next) :
    ∃ balance, (bank.balance account).credit amount = .ok balance ∧ next = bank.setBalance account balance := by
  obtain ⟨balance, hbalance, hnext⟩ := Except.bind_eq_ok_iff.mp h
  exact ⟨balance, hbalance, (Except.ok.inj hnext).symm⟩

theorem balance_setBalance (bank : Bank) (account : Account) (balance : Bundle) :
    (bank.setBalance account balance).balance = Function.update bank.balance account balance := by
  funext other
  rw [Function.update_apply, Bank.balance, setBalance]
  by_cases hempty : balance.isEmpty = true
  · simp only [hempty, if_true, Std.ExtTreeMap.getElem?_erase, Std.compare_eq_iff_eq]
    by_cases h : account = other
    · rw [if_pos h, if_pos h.symm, (Bundle.isEmpty_iff _).mp hempty]
      rfl
    · rw [if_neg h, if_neg (Ne.symm h)]
      rfl
  · rw [if_neg hempty, Std.ExtTreeMap.getElem?_insert]
    simp only [Std.compare_eq_iff_eq]
    by_cases h : account = other
    · rw [if_pos h, if_pos h.symm]
      rfl
    · rw [if_neg h, if_neg (Ne.symm h)]
      rfl

theorem burnt_of_isEmpty {move : Move} (h : move.amount.isEmpty = true) (denom : String) :
    move.burnt denom = 0 := by
  have hempty := (Bundle.isEmpty_iff _).mp h
  cases move with
  | burn amount =>
    obtain rfl : amount = .empty := hempty
    rfl
  | _ => rfl

/-- **A bank makes a move that funds allow, if the burned total does not overflow.** -/
theorem apply_eq_ok {bank : Bank} {move : Move} {funds : Funds}
    (h : bank.funds.apply move = .ok funds)
    (hfits : ∀ denom, bank.burned.held denom + move.burnt denom < 256 ^ 16) :
    ∃ next, bank.apply move = .ok next ∧ next.funds = funds ∧
      ∀ denom, next.burned.held denom = bank.burned.held denom + move.burnt denom := by
  by_cases hempty : move.amount.isEmpty = true
  · rw [Funds.apply_of_isEmpty _ hempty] at h
    refine ⟨bank, by rw [apply.eq_def, if_pos hempty], Except.ok.inj h, ?_⟩
    intro denom
    rw [burnt_of_isEmpty hempty, Nat.add_zero]
  · rw [apply.eq_def, if_neg hempty]
    cases move with
    | deposit source amount =>
      obtain ⟨rest, hrest, h⟩ := Except.bind_eq_ok_iff.mp h
      obtain ⟨escrow, hescrow, h⟩ := Except.bind_eq_ok_iff.mp h
      obtain rfl := Except.ok.inj h
      simp only [funds] at hrest hescrow
      refine ⟨{ bank with escrow := escrow }.setBalance source rest, ?_, ?_, fun _ => rfl⟩
      · simp only [hrest, hescrow]
        rfl
      · exact Funds.ext (balance_setBalance _ source rest) rfl
    | payOut target amount =>
      obtain ⟨rest, hrest, h⟩ := Except.bind_eq_ok_iff.mp h
      obtain ⟨balance, hbalance, h⟩ := Except.bind_eq_ok_iff.mp h
      obtain rfl := Except.ok.inj h
      simp only [funds] at hrest hbalance
      refine ⟨{ bank with escrow := rest }.setBalance target balance, ?_, ?_, fun _ => rfl⟩
      · simp only [hrest, hbalance]
        rfl
      · exact Funds.ext (balance_setBalance _ target balance) rfl
    | burn amount =>
      obtain ⟨rest, hrest, h⟩ := Except.bind_eq_ok_iff.mp h
      obtain rfl := Except.ok.inj h
      simp only [funds] at hrest
      cases hburned : bank.burned.credit amount with
      | error fault =>
        obtain ⟨-, denom, hle⟩ := Bundle.credit_eq_error_iff.mp hburned
        exact absurd (hfits denom) (Nat.not_lt_of_le hle)
      | ok burned =>
        refine ⟨{ bank with escrow := rest, burned := burned }, ?_, rfl, ?_⟩
        · simp only [hrest, hburned]
          rfl
        · exact Bundle.credit_eq_ok_iff.mp hburned

theorem apply_of_overflow {bank : Bank} {move : Move} {funds : Funds}
    (h : bank.funds.apply move = .ok funds) {denom : String}
    (hover : 256 ^ 16 ≤ bank.burned.held denom + move.burnt denom) :
    bank.apply move = .error .overflow := by
  have hlt := bank.burned.held_lt denom
  have hempty : ¬ move.amount.isEmpty = true := by
    intro hempty
    rw [burnt_of_isEmpty hempty] at hover
    omega
  cases move with
  | burn amount =>
    obtain ⟨rest, hrest, h⟩ := Except.bind_eq_ok_iff.mp h
    simp only [Bank.funds] at hrest
    have hburned := Bundle.credit_eq_error_iff.mpr ⟨rfl, denom, hover⟩
    rw [apply, if_neg hempty]
    simp only [hrest, hburned]
    rfl
  | _ =>
    simp only [Move.burnt] at hover
    omega

/-- **What funds refuse, a bank refuses with the same fault.** -/
theorem apply_eq_error {bank : Bank} {move : Move} {fault : EscrowFault}
    (h : bank.funds.apply move = .error fault) : bank.apply move = .error fault := by
  by_cases hempty : move.amount.isEmpty = true
  · rw [Funds.apply_of_isEmpty _ hempty] at h
    cases h
  · rw [apply.eq_def, if_neg hempty]
    cases move with
    | deposit source amount =>
      refine Except.bind_eq_error_iff.mpr ?_
      obtain hdebit | ⟨rest, hdebit, h⟩ := Except.bind_eq_error_iff.mp h
      · exact .inl hdebit
      · obtain hcredit | ⟨escrow, -, h⟩ := Except.bind_eq_error_iff.mp h
        · exact .inr ⟨rest, hdebit, Except.bind_eq_error_iff.mpr (.inl hcredit)⟩
        · cases h
    | payOut target amount =>
      refine Except.bind_eq_error_iff.mpr ?_
      obtain hdebit | ⟨rest, hdebit, h⟩ := Except.bind_eq_error_iff.mp h
      · exact .inl hdebit
      · obtain hcredit | ⟨balance, -, h⟩ := Except.bind_eq_error_iff.mp h
        · exact .inr ⟨rest, hdebit, Except.bind_eq_error_iff.mpr (.inl hcredit)⟩
        · cases h
    | burn amount =>
      refine Except.bind_eq_error_iff.mpr ?_
      obtain hdebit | ⟨rest, -, h⟩ := Except.bind_eq_error_iff.mp h
      · exact .inl hdebit
      · cases h

end Bank

/-! ### Staged vaults -/

namespace Vault

/-- What is seen of a vault. -/
def funds (vault : Vault) : Funds := ⟨vault.balance, vault.escrow⟩

/-- The moves that a stage records of a move. -/
def recorded (move : Move) : List Move := if move.amount.isEmpty then [] else [move]

theorem balance_insert (bank : Bank) (stage : Stage) (below : List Stage) (account : Account)
    (balance : Bundle) (escrow : Option Bundle) (moves : List Move) :
    (⟨bank, ⟨stage.balances.insert account balance, escrow, moves⟩ :: below⟩ : Vault).balance =
      Function.update (⟨bank, stage :: below⟩ : Vault).balance account balance := by
  funext other
  rw [Function.update_apply]
  simp only [Vault.balance, balanceThrough, Std.ExtTreeMap.getElem?_insert, Std.compare_eq_iff_eq]
  by_cases h : account = other
  · rw [if_pos h, if_pos h.symm]
  · rw [if_neg h, if_neg (Ne.symm h)]

theorem record_eq (bank : Bank) (stage : Stage) (below : List Stage) (move : Move) :
    match record stage (balance ⟨bank, stage :: below⟩) (escrow ⟨bank, stage :: below⟩) move with
    | .ok top => top.moves = stage.moves ++ [move] ∧
        (funds ⟨bank, stage :: below⟩).apply move = .ok (funds ⟨bank, top :: below⟩)
    | .error fault => (funds ⟨bank, stage :: below⟩).apply move = .error fault := by
  cases move with
  | deposit source amount =>
    simp only [record, Funds.apply, funds]
    cases Bundle.debit (balance ⟨bank, stage :: below⟩ source) amount
      (.insufficientFunds source (balance ⟨bank, stage :: below⟩ source) amount) with
    | error fault => rfl
    | ok rest =>
      cases Bundle.credit (escrow ⟨bank, stage :: below⟩) amount with
      | error fault => rfl
      | ok held =>
        refine ⟨rfl, congrArg Except.ok (Funds.ext ?_ rfl)⟩
        exact (balance_insert bank stage below source rest _ _).symm
  | payOut target amount =>
    simp only [record, Funds.apply, funds]
    cases Bundle.debit (escrow ⟨bank, stage :: below⟩) amount
      (.insufficientEscrow (escrow ⟨bank, stage :: below⟩) amount) with
    | error fault => rfl
    | ok rest =>
      cases Bundle.credit (balance ⟨bank, stage :: below⟩ target) amount with
      | error fault => rfl
      | ok balance =>
        refine ⟨rfl, congrArg Except.ok (Funds.ext ?_ rfl)⟩
        exact (balance_insert bank stage below target balance _ _).symm
  | burn amount =>
    simp only [record, Funds.apply, funds]
    cases Bundle.debit (escrow ⟨bank, stage :: below⟩) amount
      (.insufficientEscrow (escrow ⟨bank, stage :: below⟩) amount) with
    | error fault => rfl
    | ok rest => exact ⟨rfl, rfl⟩

/-- **A staged vault makes the moves that its funds allow and no others.** -/
theorem apply_eq (bank : Bank) (stage : Stage) (below : List Stage) (move : Move) :
    match (⟨bank, stage :: below⟩ : Vault).apply move with
    | .ok next => (∃ top, next = ⟨bank, top :: below⟩ ∧ top.moves = stage.moves ++ recorded move) ∧
        (funds ⟨bank, stage :: below⟩).apply move = .ok next.funds
    | .error fault => (funds ⟨bank, stage :: below⟩).apply move = .error fault := by
  rw [apply.eq_def]
  by_cases hempty : move.amount.isEmpty = true
  · simp only [hempty, if_true, recorded]
    exact ⟨⟨stage, rfl, (List.append_nil _).symm⟩, Funds.apply_of_isEmpty _ hempty⟩
  · have hrecord := record_eq bank stage below move
    simp only [if_neg hempty, recorded]
    cases hcase : record stage (balance ⟨bank, stage :: below⟩) (escrow ⟨bank, stage :: below⟩) move with
    | error fault =>
      rw [hcase] at hrecord
      exact hrecord
    | ok top =>
      rw [hcase] at hrecord
      exact ⟨⟨top, rfl, hrecord.1⟩, hrecord.2⟩

def applyAll (vault : Vault) : List Move → Except EscrowFault Vault
  | [] => .ok vault
  | move :: rest => do (← vault.apply move).applyAll rest

theorem applyAll_append {vault : Vault} {moves more : List Move} {next : Vault} :
    vault.applyAll (moves ++ more) = .ok next ↔
      ∃ mid, vault.applyAll moves = .ok mid ∧ mid.applyAll more = .ok next := by
  induction moves generalizing vault with
  | nil => simp [applyAll]
  | cons move rest ih =>
    rw [List.cons_append, applyAll, applyAll, Except.bind_eq_ok_iff]
    constructor
    · rintro ⟨mid, hmove, h⟩
      obtain ⟨last, hrest, hmore⟩ := ih.mp h
      exact ⟨last, Except.bind_eq_ok_iff.mpr ⟨mid, hmove, hrest⟩, hmore⟩
    · rintro ⟨last, h, hmore⟩
      obtain ⟨mid, hmove, hrest⟩ := Except.bind_eq_ok_iff.mp h
      exact ⟨mid, hmove, ih.mpr ⟨last, hrest, hmore⟩⟩

theorem applyAll_append_error {vault mid : Vault} {moves more : List Move} {fault : EscrowFault}
    (h : vault.applyAll moves = .ok mid) (hmore : mid.applyAll more = .error fault) :
    vault.applyAll (moves ++ more) = .error fault := by
  induction moves generalizing vault with
  | nil =>
    obtain rfl := Except.ok.inj h
    exact hmore
  | cons move rest ih =>
    obtain ⟨next, hmove, hrest⟩ := Except.bind_eq_ok_iff.mp h
    show (vault.apply move >>= fun vault => vault.applyAll (rest ++ more)) = _
    rw [hmove]
    exact ih hrest

theorem applyAll_staged {bank : Bank} {stage : Stage} {moves : List Move} {next : Vault}
    (h : (⟨bank, [stage]⟩ : Vault).applyAll moves = .ok next) :
    (∃ top, next = ⟨bank, [top]⟩ ∧ top.moves = stage.moves ++ moves.flatMap recorded) ∧
      (funds ⟨bank, [stage]⟩).applyAll moves = .ok next.funds := by
  induction moves generalizing stage with
  | nil =>
    obtain rfl := Except.ok.inj h
    exact ⟨⟨stage, rfl, by simp⟩, rfl⟩
  | cons move rest ih =>
    obtain ⟨mid, hmove, hrest⟩ := Except.bind_eq_ok_iff.mp h
    have hmid := apply_eq bank stage [] move
    rw [hmove] at hmid
    obtain ⟨⟨top, rfl, htop⟩, hfunds⟩ := hmid
    obtain ⟨⟨last, rfl, hlast⟩, hall⟩ := ih hrest
    refine ⟨⟨last, rfl, ?_⟩, Except.bind_eq_ok_iff.mpr ⟨_, hfunds, hall⟩⟩
    rw [hlast, htop, List.flatMap_cons, List.append_assoc]

/-- **A staged vault makes the moves in order that its funds allow.** -/
theorem applyAll_of_funds {bank : Bank} {stage : Stage} {moves : List Move} {funds : Funds}
    (h : (Vault.funds ⟨bank, [stage]⟩).applyAll moves = .ok funds) :
    ∃ next, (⟨bank, [stage]⟩ : Vault).applyAll moves = .ok next := by
  induction moves generalizing stage with
  | nil => exact ⟨_, rfl⟩
  | cons move rest ih =>
    obtain ⟨mid, hmid, hrest⟩ := Except.bind_eq_ok_iff.mp h
    have hstep := apply_eq bank stage [] move
    cases hmove : (⟨bank, [stage]⟩ : Vault).apply move with
    | error fault =>
      rw [hmove] at hstep
      rw [hstep] at hmid
      cases hmid
    | ok vault =>
      rw [hmove] at hstep
      obtain ⟨⟨top, rfl, -⟩, hfunds⟩ := hstep
      obtain rfl : mid = Vault.funds ⟨bank, [top]⟩ := Except.ok.inj (hmid.symm.trans hfunds)
      obtain ⟨next, hnext⟩ := ih hrest
      exact ⟨next, Except.bind_eq_ok_iff.mpr ⟨_, hmove, hnext⟩⟩

theorem funds_stage (vault : Vault) : vault.stage.funds = vault.funds := by
  refine Funds.ext (funext ?_) rfl
  intro account
  show balanceThrough vault.bank (.empty :: vault.stages) account = vault.balance account
  rw [balanceThrough, Stage.empty, Std.ExtTreeMap.getElem?_empty]
  rfl

/-! ### Making the recorded moves -/

theorem apply_bank (bank : Bank) (move : Move) :
    (⟨bank, []⟩ : Vault).apply move = (bank.apply move).map fun next => ⟨next, []⟩ := by
  show (do let next ← bank.apply move; return ⟨next, []⟩ : Except EscrowFault Vault) = _
  cases bank.apply move <;> rfl

theorem replay_recorded (bank : Bank) (moves : List Move) :
    replay ⟨bank, []⟩ (moves.flatMap recorded) = replay ⟨bank, []⟩ moves := by
  induction moves generalizing bank with
  | nil => rfl
  | cons move rest ih =>
    rw [List.flatMap_cons, recorded]
    by_cases hempty : move.amount.isEmpty = true
    · have hmove : bank.apply move = .ok bank := by rw [Bank.apply.eq_def, if_pos hempty]
      rw [if_pos hempty, List.nil_append, replay, apply_bank, hmove]
      exact ih bank
    · rw [if_neg hempty, List.singleton_append, replay, replay, apply_bank]
      cases bank.apply move with
      | ok next => exact ih next
      | error fault => rfl

/-- **Moves that funds allow are made at the bank, if the burned total does not overflow.** -/
theorem replay_eq {bank : Bank} {moves : List Move} {funds : Funds}
    (h : bank.funds.applyAll moves = .ok funds)
    (hfits : ∀ denom, bank.burned.held denom + Move.sum (Move.burnt denom) moves < 256 ^ 16) :
    ∃ next : Bank, replay ⟨bank, []⟩ moves = (⟨next, []⟩, none) ∧ next.funds = funds ∧
      ∀ denom, next.burned.held denom =
        bank.burned.held denom + Move.sum (Move.burnt denom) moves := by
  induction moves generalizing bank with
  | nil => exact ⟨bank, rfl, Except.ok.inj h, fun _ => rfl⟩
  | cons move rest ih =>
    obtain ⟨mid, hmove, hrest⟩ := Except.bind_eq_ok_iff.mp h
    simp only [Move.sum_cons] at hfits ⊢
    obtain ⟨next, hnext, rfl, hburned⟩ :=
      Bank.apply_eq_ok hmove fun denom => by have hdenom := hfits denom; omega
    obtain ⟨last, hlast, hfunds, htotal⟩ := ih hrest fun denom => by
      have hdenom := hfits denom
      rw [hburned]
      omega
    refine ⟨last, ?_, hfunds, ?_⟩
    · rw [replay, apply_bank, hnext]
      exact hlast
    · intro denom
      rw [htotal, hburned, Nat.add_assoc]

/-- Otherwise they stop at a burn. -/
theorem replay_of_overflow {bank : Bank} {moves : List Move} {funds : Funds}
    (h : bank.funds.applyAll moves = .ok funds) {denom : String}
    (hover : 256 ^ 16 ≤ bank.burned.held denom + Move.sum (Move.burnt denom) moves) :
    ∃ next : Bank, replay ⟨bank, []⟩ moves = (⟨next, []⟩, some .overflow) := by
  induction moves generalizing bank with
  | nil =>
    have hlt := bank.burned.held_lt denom
    simp only [Move.sum_nil] at hover
    omega
  | cons move rest ih =>
    obtain ⟨mid, hmove, hrest⟩ := Except.bind_eq_ok_iff.mp h
    rw [replay, apply_bank]
    by_cases hfits : ∀ denom, bank.burned.held denom + move.burnt denom < 256 ^ 16
    · obtain ⟨next, hnext, rfl, hburned⟩ := Bank.apply_eq_ok hmove hfits
      rw [hnext]
      refine ih hrest ?_
      rw [hburned]
      rw [Move.sum_cons] at hover
      omega
    · obtain ⟨other, hother⟩ := Classical.not_forall.mp hfits
      rw [Bank.apply_of_overflow hmove (Nat.le_of_not_lt hother)]
      exact ⟨bank, rfl⟩

/-- Where they stop, a burn is left to be made, and what is left is still allowed. -/
theorem replay_stops {bank next : Bank} {moves : List Move} {funds : Funds} {fault : EscrowFault}
    (h : bank.funds.applyAll moves = .ok funds)
    (hreplay : replay ⟨bank, []⟩ moves = (⟨next, []⟩, some fault)) :
    ∃ done amount rest, moves = done ++ .burn amount :: rest ∧
      next.funds.applyAll (.burn amount :: rest) = .ok funds := by
  induction moves generalizing bank with
  | nil => cases hreplay
  | cons move rest ih =>
    obtain ⟨mid, hmove, hrest⟩ := Except.bind_eq_ok_iff.mp h
    rw [replay, apply_bank] at hreplay
    by_cases hfits : ∀ denom, bank.burned.held denom + move.burnt denom < 256 ^ 16
    · obtain ⟨moved, hmoved, rfl, -⟩ := Bank.apply_eq_ok hmove hfits
      rw [hmoved] at hreplay
      obtain ⟨done, amount, left, rfl, hleft⟩ := ih hrest hreplay
      exact ⟨move :: done, amount, left, rfl, hleft⟩
    · obtain ⟨denom, hdenom⟩ := Classical.not_forall.mp hfits
      have hover := Nat.le_of_not_lt hdenom
      rw [Bank.apply_of_overflow hmove hover] at hreplay
      obtain rfl : bank = next := congrArg (fun result => result.1.bank) hreplay
      have hlt := bank.burned.held_lt denom
      cases move with
      | burn amount => exact ⟨[], amount, rest, rfl, h⟩
      | deposit source amount =>
        simp only [Move.burnt] at hover
        omega
      | payOut target amount =>
        simp only [Move.burnt] at hover
        omega

end Vault

end NameAuction
