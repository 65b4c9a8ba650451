import Mathlib.Algebra.BigOperators.Group.Finset.Piecewise
import Mathlib.Data.Finset.Basic
import NameAuction.Proofs.Escrow.Funds

/-!
# What a bank is worth

The worth of a bank is the sum of all balances, of the escrow and of what has been burned.  It is what
`Bank.total` gives where that fits (`Bank.held_total`).  Moves keep balances, escrow and what they burn
together (`Funds.applyAll_conserves`), so where the worth fits, no burn of moves that funds allow overflows
(`Bank.Fits.burnt_lt`), and a bank makes just the moves that its funds allow (`Bank.Fits.apply_eq`).
-/

namespace NameAuction

/-! ### Moves conserve -/

namespace Move

def party : Move → Option Account
  | .deposit source _ => some source
  | .payOut target _ => some target
  | .burn _ => none

def parties (moves : List Move) : Finset Account := (moves.filterMap party).toFinset

theorem mem_parties {moves : List Move} {move : Move} (hmove : move ∈ moves) {account : Account}
    (h : move.party = some account) : account ∈ parties moves :=
  List.mem_toFinset.mpr (List.mem_filterMap.mpr ⟨move, hmove, h⟩)

theorem paidBy_eq_zero {account : Account} {move : Move} (h : move.party ≠ some account)
    (denom : String) : move.paidBy account denom = 0 := by
  cases move with
  | deposit source amount => exact if_neg fun heq => h (congrArg some heq)
  | payOut target amount => rfl
  | burn amount => rfl

theorem paidTo_eq_zero {account : Account} {move : Move} (h : move.party ≠ some account)
    (denom : String) : move.paidTo account denom = 0 := by
  cases move with
  | payOut target amount => exact if_neg fun heq => h (congrArg some heq)
  | deposit source amount => rfl
  | burn amount => rfl

variable {accounts : Finset Account}

theorem sum_paidBy {move : Move} (h : ∀ account, move.party = some account → account ∈ accounts)
    (denom : String) : ∑ account ∈ accounts, move.paidBy account denom = move.collected denom := by
  cases move with
  | deposit source amount =>
    have hmem : source ∈ accounts := h source rfl
    simp only [paidBy, collected, Finset.sum_ite_eq, hmem, if_true]
  | payOut target amount => simp [paidBy, collected]
  | burn amount => simp [paidBy, collected]

theorem sum_paidTo {move : Move} (h : ∀ account, move.party = some account → account ∈ accounts)
    (denom : String) : ∑ account ∈ accounts, move.paidTo account denom = move.released denom := by
  cases move with
  | payOut target amount =>
    have hmem : target ∈ accounts := h target rfl
    simp only [paidTo, released, Finset.sum_ite_eq, hmem, if_true]
  | deposit source amount => simp [paidTo, released]
  | burn amount => simp [paidTo, released]

end Move

namespace Funds

/-- What some accounts and the escrow hold together. -/
def heldBy (funds : Funds) (accounts : Finset Account) (denom : String) : Nat :=
  ∑ account ∈ accounts, (funds.balance account).held denom + funds.escrow.held denom

theorem apply_conserves {funds next : Funds} {move : Move} (h : funds.apply move = .ok next)
    {accounts : Finset Account} (hparty : ∀ account, move.party = some account → account ∈ accounts)
    (denom : String) :
    next.heldBy accounts denom + move.burnt denom = funds.heldBy accounts denom := by
  obtain ⟨hbalance, hescrow⟩ := apply_eq_ok h
  have hsum : ∑ account ∈ accounts,
        ((next.balance account).held denom + move.paidBy account denom) =
      ∑ account ∈ accounts, ((funds.balance account).held denom + move.paidTo account denom) :=
    Finset.sum_congr rfl fun account _ => hbalance account denom
  rw [Finset.sum_add_distrib, Finset.sum_add_distrib, Move.sum_paidBy hparty,
    Move.sum_paidTo hparty] at hsum
  have hheld := hescrow denom
  simp only [heldBy]
  omega

/-- **Moves take from accounts and escrow what they burn and nothing else.** -/
theorem applyAll_conserves {funds next : Funds} {moves : List Move}
    (h : funds.applyAll moves = .ok next) {accounts : Finset Account}
    (hparty : ∀ move ∈ moves, ∀ account, move.party = some account → account ∈ accounts)
    (denom : String) :
    next.heldBy accounts denom + Move.sum (Move.burnt denom) moves = funds.heldBy accounts denom := by
  induction moves generalizing funds with
  | nil =>
    obtain rfl := Except.ok.inj h
    rfl
  | cons move rest ih =>
    obtain ⟨mid, hmove, hrest⟩ := Except.bind_eq_ok_iff.mp h
    have hone := apply_conserves hmove (hparty move (List.mem_cons_self ..)) denom
    have hmany := ih hrest fun m hm => hparty m (List.mem_cons_of_mem _ hm)
    rw [Move.sum_cons]
    omega

/-- **Moves leave the balances alone of accounts that they do not concern.** -/
theorem balance_eq_of_party {funds next : Funds} {moves : List Move}
    (h : funds.applyAll moves = .ok next) {account : Account}
    (hparty : ∀ move ∈ moves, move.party ≠ some account) :
    next.balance account = funds.balance account := by
  refine Bundle.eq_of_held_eq fun denom => ?_
  have hpaidBy : Move.sum (Move.paidBy account denom) moves = 0 :=
    List.sum_eq_zero (List.forall_mem_map.mpr fun move hmove => Move.paidBy_eq_zero (hparty move hmove) denom)
  have hpaidTo : Move.sum (Move.paidTo account denom) moves = 0 :=
    List.sum_eq_zero (List.forall_mem_map.mpr fun move hmove => Move.paidTo_eq_zero (hparty move hmove) denom)
  have hheld := (applyAll_eq_ok h).1 account denom
  omega

end Funds

/-! ### The total of a bank -/

namespace Bank

/-- All balances, the escrow and what has been burned, in one denomination. -/
def worth (bank : Bank) (denom : String) : Nat :=
  (bank.balances.toList.map fun entry => entry.2.held denom).sum + bank.escrow.held denom +
    bank.burned.held denom

theorem held_creditAll {total sum : Bundle} {bundles : List Bundle}
    (h : creditAll total bundles = .ok sum) (denom : String) :
    sum.held denom = total.held denom + (bundles.map (·.held denom)).sum := by
  induction bundles generalizing total with
  | nil =>
    obtain rfl := Except.ok.inj h
    simp
  | cons bundle rest ih =>
    obtain ⟨mid, hmid, hrest⟩ := Except.bind_eq_ok_iff.mp h
    rw [ih hrest, Bundle.credit_eq_ok_iff.mp hmid denom, List.map_cons, List.sum_cons, Nat.add_assoc]

theorem held_total {bank : Bank} {total : Bundle} (h : bank.total = .ok total) (denom : String) :
    total.held denom = bank.worth denom := by
  obtain ⟨start, hstart, hall⟩ := Except.bind_eq_ok_iff.mp h
  have hheld := Bundle.credit_eq_ok_iff.mp hstart denom
  rw [held_creditAll hall, hheld, List.map_map, worth]
  show _ + (bank.balances.toList.map fun entry => entry.2.held denom).sum = _
  omega

def holders (bank : Bank) : Finset Account := (bank.balances.toList.map (·.1)).toFinset

theorem balance_of_not_mem_holders {bank : Bank} {account : Account} (h : account ∉ bank.holders) :
    bank.balance account = .empty := by
  rw [balance]
  cases hget : bank.balances[account]? with
  | none => rfl
  | some bundle =>
    refine absurd ?_ h
    rw [holders, List.mem_toFinset]
    exact List.mem_map.mpr ⟨(account, bundle), Std.ExtTreeMap.mem_toList_iff_getElem?_eq_some.mpr hget, rfl⟩

theorem sum_balances {bank : Bank} {accounts : Finset Account} (h : bank.holders ⊆ accounts)
    (denom : String) :
    ∑ account ∈ accounts, (bank.balance account).held denom =
      (bank.balances.toList.map fun entry => entry.2.held denom).sum := by
  have hsub : ∑ account ∈ bank.holders, (bank.balance account).held denom =
      ∑ account ∈ accounts, (bank.balance account).held denom :=
    Finset.sum_subset h fun account _ hnot => by
      rw [balance_of_not_mem_holders hnot]
      rfl
  have hnodup : (bank.balances.toList.map (·.1)).Nodup := by
    refine List.pairwise_map.mpr (List.Pairwise.imp ?_ bank.balances.ordered_keys_toList)
    intro a b hlt heq
    rw [heq, Std.ReflOrd.compare_self] at hlt
    cases hlt
  rw [← hsub, holders, List.sum_toFinset _ hnodup, List.map_map]
  refine congrArg List.sum (List.map_congr_left ?_)
  rintro ⟨account, bundle⟩ hmem
  have hget := Std.ExtTreeMap.mem_toList_iff_getElem?_eq_some.mp hmem
  show (bank.balance account).held denom = bundle.held denom
  rw [balance, hget]
  rfl

theorem heldBy_holders {bank : Bank} {accounts : Finset Account} (h : bank.holders ⊆ accounts)
    (denom : String) :
    bank.funds.heldBy accounts denom + bank.burned.held denom = bank.worth denom := by
  rw [Funds.heldBy, worth, ← sum_balances h]
  rfl

/-- What the bank is worth fits. -/
def Fits (bank : Bank) : Prop := ∀ denom, bank.worth denom < 256 ^ 16

theorem fits_of_total {bank : Bank} {total : Bundle} (h : bank.total = .ok total) : bank.Fits := by
  intro denom
  rw [← held_total h denom]
  exact total.held_lt denom

/-- **Where the worth of a bank fits, the burns of moves that its funds allow fit as well.** -/
theorem Fits.burnt_lt {bank : Bank} (hfits : bank.Fits) {moves : List Move} {funds : Funds}
    (h : bank.funds.applyAll moves = .ok funds) (denom : String) :
    bank.burned.held denom + Move.sum (Move.burnt denom) moves < 256 ^ 16 := by
  let accounts := bank.holders ∪ Move.parties moves
  have hparty : ∀ move ∈ moves, ∀ account, move.party = some account → account ∈ accounts :=
    fun move hmove account haccount => Finset.mem_union_right _ (Move.mem_parties hmove haccount)
  have hconserved := Funds.applyAll_conserves h hparty denom
  have hworth : bank.funds.heldBy accounts denom + bank.burned.held denom = bank.worth denom :=
    heldBy_holders Finset.subset_union_left denom
  have hlt := hfits denom
  omega

theorem Fits.balance_add_escrow_lt {bank : Bank} (hfits : bank.Fits) (account : Account) (denom : String) :
    (bank.balance account).held denom + bank.escrow.held denom < 256 ^ 16 := by
  have hmem : account ∈ insert account bank.holders := Finset.mem_insert_self ..
  have hworth : bank.funds.heldBy (insert account bank.holders) denom + bank.burned.held denom =
      bank.worth denom := heldBy_holders (Finset.subset_insert ..) denom
  have hsum := Finset.add_sum_erase _ (fun other => (bank.balance other).held denom) hmem
  have hlt := hfits denom
  change ∑ other ∈ _, (bank.balance other).held denom + bank.escrow.held denom + _ = _ at hworth
  omega

theorem burnt_fits {bank : Bank} {total : Bundle} (htotal : bank.total = .ok total)
    {moves : List Move} {funds : Funds} (h : bank.funds.applyAll moves = .ok funds)
    (denom : String) :
    bank.burned.held denom + Move.sum (Move.burnt denom) moves < 256 ^ 16 :=
  (fits_of_total htotal).burnt_lt h denom

/-- **Moves add to the burned total what they take from the funds.** -/
theorem worth_eq {bank next : Bank} {moves : List Move} (h : bank.funds.applyAll moves = .ok next.funds)
    (hburned : ∀ denom,
      next.burned.held denom = bank.burned.held denom + Move.sum (Move.burnt denom) moves)
    (denom : String) : next.worth denom = bank.worth denom := by
  let accounts := bank.holders ∪ next.holders ∪ Move.parties moves
  have hparty : ∀ move ∈ moves, ∀ account, move.party = some account → account ∈ accounts :=
    fun move hmove account haccount => Finset.mem_union_right _ (Move.mem_parties hmove haccount)
  have hbefore : bank.holders ⊆ accounts :=
    Finset.Subset.trans Finset.subset_union_left Finset.subset_union_left
  have hafter : next.holders ⊆ accounts :=
    Finset.Subset.trans Finset.subset_union_right Finset.subset_union_left
  have hconserved := Funds.applyAll_conserves h hparty denom
  have hdenom := hburned denom
  rw [← heldBy_holders hbefore, ← heldBy_holders hafter]
  omega

/-- **A bank whose worth fits makes the moves that its funds allow and no others.** -/
theorem Fits.apply_eq {bank : Bank} (hfits : bank.Fits) (move : Move) :
    match bank.apply move with
    | .ok next => bank.funds.apply move = .ok next.funds ∧ next.Fits
    | .error fault => bank.funds.apply move = .error fault := by
  cases hfunds : bank.funds.apply move with
  | error fault => rw [apply_eq_error hfunds]
  | ok funds =>
    have hall : bank.funds.applyAll [move] = .ok funds :=
      Except.bind_eq_ok_iff.mpr ⟨funds, hfunds, rfl⟩
    obtain ⟨next, hnext, rfl, hburned⟩ := apply_eq_ok hfunds (hfits.burnt_lt hall)
    rw [hnext]
    refine ⟨rfl, ?_⟩
    intro denom
    rw [worth_eq hall hburned]
    exact hfits denom

end Bank

end NameAuction
