import Mathlib.Data.List.Infix
import NameAuction.Proofs.Escrow.Worth
import NameAuction.Proofs.Levels

/-!
# Stages

The stages of a vault are levels.  A bank of which a copy is put aside for every open stage, and on which every
move is made at once, agrees with the vault (`Vault.Agrees`): the funds that are seen are those of the bank,
and the moves that a stage has recorded lead from the copy that was put aside to the bank as it is now.  A
move keeps that and is answered alike (`Vault.Agrees.apply`), and since recorded moves lead from agreement to
agreement (`Vault.Agrees.replay`), a commit keeps it and does not fail.  All that is needed is that the worth
of the bank fits: else a stage accepts a burn that overflows the burned total.
-/

namespace NameAuction

namespace Bank

def attempt (bank : Bank) (move : Move) : Bank :=
  match bank.apply move with
  | .ok next => next
  | .error _ => bank

/-- A bank of which a copy is put aside for every stage that is opened. -/
def levels : Levels (Copies Bank) Move := Copies.levels attempt

end Bank

namespace Vault

/-! ### The stages as levels -/

def attempt (vault : Vault) (move : Move) : Vault :=
  match vault.apply move with
  | .ok next => next
  | .error _ => vault

/-- One vault differs from another in the innermost stage alone, or in the bank where no stage is open. -/
structure SameBeneath (next vault : Vault) : Prop where
  height : next.stages.length = vault.stages.length
  discard : 0 < vault.stages.length → next.discard = vault.discard

namespace SameBeneath

theorem refl (vault : Vault) : SameBeneath vault vault := ⟨rfl, fun _ => rfl⟩

theorem trans {last next vault : Vault} (h : SameBeneath last next) (hnext : SameBeneath next vault) :
    SameBeneath last vault where
  height := h.height.trans hnext.height
  discard hopen := (h.discard (hnext.height.symm ▸ hopen)).trans (hnext.discard hopen)

end SameBeneath

theorem apply_sameBeneath {vault next : Vault} {move : Move} (h : vault.apply move = .ok next) :
    SameBeneath next vault := by
  obtain ⟨bank, _ | ⟨stage, below⟩⟩ := vault
  · rw [apply_bank] at h
    cases hmove : bank.apply move with
    | error fault =>
      rw [hmove] at h
      cases h
    | ok moved =>
      rw [hmove] at h
      obtain rfl := Except.ok.inj h
      exact ⟨rfl, fun hopen => absurd hopen (Nat.lt_irrefl 0)⟩
  · have hmove := apply_eq bank stage below move
    rw [h] at hmove
    obtain ⟨⟨top, rfl, -⟩, -⟩ := hmove
    exact ⟨rfl, fun _ => rfl⟩

theorem attempt_sameBeneath (vault : Vault) (move : Move) : SameBeneath (vault.attempt move) vault := by
  rw [attempt]
  cases hmove : vault.apply move with
  | error fault => exact .refl vault
  | ok next => exact apply_sameBeneath hmove

theorem replay_cons (vault : Vault) (move : Move) (rest : List Move) :
    replay vault (move :: rest) =
      match vault.apply move with
      | .ok vault => replay vault rest
      | .error fault => (vault, some fault) := rfl

theorem replay_append {vault mid : Vault} {moves : List Move} (h : replay vault moves = (mid, none))
    (more : List Move) : replay vault (moves ++ more) = replay mid more := by
  induction moves generalizing vault with
  | nil =>
    obtain rfl := congrArg Prod.fst h
    rfl
  | cons move rest ih =>
    rw [replay_cons] at h
    rw [List.cons_append, replay_cons]
    cases hmove : vault.apply move with
    | ok next =>
      rw [hmove] at h
      exact ih h
    | error fault =>
      rw [hmove] at h
      cases congrArg Prod.snd h

theorem replay_sameBeneath (vault : Vault) (moves : List Move) :
    SameBeneath (replay vault moves).1 vault := by
  induction moves generalizing vault with
  | nil => exact .refl vault
  | cons move rest ih =>
    rw [replay_cons]
    cases hmove : vault.apply move with
    | error fault => exact .refl vault
    | ok next => exact (ih next).trans (apply_sameBeneath hmove)

theorem commit_sameBeneath {vault : Vault} (h : 0 < vault.stages.length) :
    SameBeneath vault.commit.1 vault.discard := by
  obtain ⟨bank, _ | ⟨stage, below⟩⟩ := vault
  · cases h
  · exact replay_sameBeneath ⟨bank, below⟩ stage.moves

theorem commit_of_unstaged {vault : Vault} (h : vault.stages.length = 0) : vault.commit = (vault, none) := by
  obtain ⟨bank, stages⟩ := vault
  obtain rfl : stages = [] := List.length_eq_zero_iff.mp h
  rfl

def levels : Levels Vault Move where
  height vault := vault.stages.length
  make := attempt
  begin := stage
  commit vault := vault.commit.1
  discard := discard
  height_make vault move := (attempt_sameBeneath vault move).height
  height_begin _ := rfl
  height_commit vault := by
    cases Nat.eq_zero_or_pos vault.stages.length with
    | inl hunstaged =>
      rw [commit_of_unstaged hunstaged, hunstaged]
    | inr hopen => exact (commit_sameBeneath hopen).height.trans List.length_tail
  height_discard _ := List.length_tail
  commit_of_height _ h := congrArg Prod.fst (commit_of_unstaged h)
  discard_of_height vault h := by
    obtain ⟨bank, stages⟩ := vault
    obtain rfl : stages = [] := List.length_eq_zero_iff.mp h
    rfl
  discard_make vault move h := (attempt_sameBeneath vault move).discard h
  discard_begin _ := rfl
  discard_commit vault h := by
    have hbeneath : 0 < vault.discard.stages.length := by
      show 0 < vault.stages.tail.length
      rw [List.length_tail]
      omega
    exact (commit_sameBeneath (Nat.zero_lt_of_lt h)).discard hbeneath

/-! ### Agreement with a bank of which copies are put aside -/

/-- Where no stage is open, there is one bank.  Where one is, the vault shows the funds of the bank, and the
moves of the innermost stage lead there from the copy that was put aside last. -/
inductive Agrees : Vault → Copies Bank → Prop
  | unstaged {bank : Bank} (hfits : bank.Fits) : Agrees ⟨bank, []⟩ ⟨bank, []⟩
  | staged {bank top last : Bank} {stage : Stage} {below : List Stage} {rest : List Bank}
      (hfits : top.Fits) (hfunds : funds ⟨bank, stage :: below⟩ = top.funds)
      (hmoves : replay ⟨last, []⟩ stage.moves = (⟨top, []⟩, none)) :
      Agrees ⟨bank, stage :: below⟩ ⟨top, last :: rest⟩

namespace Agrees

variable {vault : Vault} {copies : Copies Bank}

theorem fits (h : Agrees vault copies) : copies.top.Fits := by
  cases h with
  | unstaged hfits => exact hfits
  | staged hfits _ _ => exact hfits

theorem funds_eq (h : Agrees vault copies) : vault.funds = copies.top.funds := by
  cases h with
  | unstaged _ => rfl
  | staged _ hfunds _ => exact hfunds

theorem replay_recorded_last {last top next : Bank} {moves : List Move} {move : Move}
    (h : Vault.replay ⟨last, []⟩ moves = (⟨top, []⟩, none)) (hmove : top.apply move = .ok next) :
    Vault.replay ⟨last, []⟩ (moves ++ recorded move) = (⟨next, []⟩, none) := by
  have hone := replay_recorded top [move]
  rw [List.flatMap_singleton, replay_cons, apply_bank, hmove] at hone
  rw [replay_append h, hone]
  rfl

/-- **A vault and the bank answer a move alike, and agree after it.** -/
theorem apply (h : Agrees vault copies) (move : Move) :
    match vault.apply move with
    | .ok next => ∃ top, copies.top.apply move = .ok top ∧ Agrees next ⟨top, copies.below⟩
    | .error fault => copies.top.apply move = .error fault := by
  have hbank := h.fits.apply_eq move
  cases h with
  | @unstaged bank hfits =>
    rw [apply_bank]
    cases hmove : bank.apply move with
    | error fault => exact rfl
    | ok next =>
      simp only [hmove] at hbank
      exact ⟨next, rfl, .unstaged hbank.2⟩
  | @staged bank top last stage below rest hfits hfunds hmoves =>
    have hvault := apply_eq bank stage below move
    rw [hfunds] at hvault
    cases hseen : (⟨bank, stage :: below⟩ : Vault).apply move with
    | error fault =>
      simp only [hseen] at hvault
      exact Bank.apply_eq_error hvault
    | ok next =>
      simp only [hseen] at hvault
      obtain ⟨⟨inner, rfl, hinner⟩, hnext⟩ := hvault
      cases hmove : top.apply move with
      | error fault =>
        simp only [hmove] at hbank
        cases hnext.symm.trans hbank
      | ok moved =>
        simp only [hmove] at hbank
        obtain ⟨hmoved, hworth⟩ := hbank
        refine ⟨moved, rfl, .staged hworth (Except.ok.inj (hnext.symm.trans hmoved)) ?_⟩
        rw [hinner]
        exact replay_recorded_last hmoves hmove

theorem replay {next : Bank} {moves : List Move} (h : Agrees vault copies)
    (hmoves : Vault.replay ⟨copies.top, []⟩ moves = (⟨next, []⟩, none)) :
    ∃ after, Vault.replay vault moves = (after, none) ∧ Agrees after ⟨next, copies.below⟩ := by
  induction moves generalizing vault copies with
  | nil =>
    have hnext : copies.top = next := congrArg (fun result => result.1.bank) hmoves
    rw [← hnext]
    exact ⟨vault, rfl, h⟩
  | cons move rest ih =>
    have hmove := h.apply move
    rw [replay_cons, apply_bank] at hmoves
    cases hseen : vault.apply move with
    | error fault =>
      simp only [hseen] at hmove
      rw [hmove] at hmoves
      cases congrArg Prod.snd hmoves
    | ok after =>
      simp only [hseen] at hmove
      obtain ⟨top, htop, hagrees⟩ := hmove
      rw [htop] at hmoves
      rw [replay_cons, hseen]
      have hrest := ih hagrees hmoves
      exact hrest

theorem commit {bank top last : Bank} {stage : Stage} {below : List Stage} {rest : List Bank}
    (h : Agrees ⟨bank, stage :: below⟩ ⟨top, last :: rest⟩) (hbeneath : Agrees ⟨bank, below⟩ ⟨last, rest⟩) :
    ∃ after, Vault.commit ⟨bank, stage :: below⟩ = (after, none) ∧ Agrees after ⟨top, rest⟩ := by
  cases h with
  | staged _ _ hmoves => exact hbeneath.replay hmoves

theorem opened (h : Agrees vault copies) : Agrees vault.stage ⟨copies.top, copies.top :: copies.below⟩ :=
  .staged h.fits ((funds_stage vault).trans h.funds_eq) rfl

end Agrees

/-- **Stages do to what is seen of a vault what putting copies aside does to a bank.** -/
theorem simulates_copies : Simulates levels Bank.levels Agrees where
  make {vault copies} move _ h := by
    have hmove := h.apply move
    show Agrees (vault.attempt move) ⟨copies.top.attempt move, copies.below⟩
    rw [attempt, Bank.attempt]
    cases hseen : vault.apply move with
    | error fault =>
      simp only [hseen] at hmove
      simp only [hmove]
      exact h
    | ok next =>
      simp only [hseen] at hmove
      obtain ⟨top, htop, hnext⟩ := hmove
      simp only [htop]
      exact hnext
  begin h := h.opened
  commit {vault copies} hheight hopen h hbeneath := by
    obtain ⟨bank, _ | ⟨stage, below⟩⟩ := vault
    · cases hopen
    · obtain ⟨top, _ | ⟨last, rest⟩⟩ := copies
      · cases hheight
      · obtain ⟨after, hafter, hagrees⟩ := h.commit hbeneath
        show Agrees (commit ⟨bank, stage :: below⟩).1 ⟨top, rest⟩
        rw [hafter]
        exact hagrees

/-! ### What is answered -/

/-- A vault answers as a bank does, whatever it is asked. -/
structure AnswersAs (vault : Vault) (bank : Bank) : Prop where
  moves : ∀ move, (vault.apply move).map (fun _ => ()) = (bank.apply move).map fun _ => ()
  balance : ∀ account, vault.balance account = bank.balance account
  escrow : vault.escrow = bank.escrow

namespace Agrees

variable {vault : Vault} {copies : Copies Bank}

theorem answersAs (h : Agrees vault copies) : vault.AnswersAs copies.top where
  moves move := by
    have hmove := h.apply move
    cases hseen : vault.apply move with
    | error fault =>
      simp only [hseen] at hmove
      rw [hmove]
      rfl
    | ok next =>
      simp only [hseen] at hmove
      obtain ⟨top, htop, -⟩ := hmove
      rw [htop]
      rfl
  balance account := congrFun (congrArg Funds.balance h.funds_eq) account
  escrow := congrArg Funds.escrow h.funds_eq

theorem eq_of_unstaged (h : Agrees vault copies) (hstages : vault.stages.length = 0) :
    vault = ⟨copies.top, []⟩ := by
  cases h with
  | unstaged _ => rfl
  | staged _ _ _ => cases hstages

end Agrees

theorem bank_beneath (count : Nat) (vault : Vault) : (levels.beneath count vault).bank = vault.bank := by
  have hdiscards : ∀ times, (levels.discard^[times] vault).bank = vault.bank := by
    intro times
    induction times with
    | zero => rfl
    | succ times ih =>
      rw [Function.iterate_succ_apply']
      exact ih
  exact hdiscards _

theorem commit_of_mirrors {vault : Vault} {copies : Copies Bank}
    (h : Mirrors levels Bank.levels Agrees vault copies) :
    ∃ after, vault.commit = (after, none) ∧ Agrees after (Bank.levels.commit copies) := by
  have hheight := h.height_eq
  have htop := h.top
  obtain ⟨bank, _ | ⟨stage, below⟩⟩ := vault
  · refine ⟨⟨bank, []⟩, rfl, ?_⟩
    rw [Bank.levels.commit_of_height copies hheight.symm]
    exact htop
  · obtain ⟨top, _ | ⟨last, rest⟩⟩ := copies
    · cases hheight
    · exact htop.commit (h.discard_top (Nat.zero_lt_succ below.length))

/-- What a vault has in common with a bank on which the same has been asked. -/
structure EqualsCopies (vault : Vault) (copies : Copies Bank) : Prop where
  height : vault.stages.length = copies.below.length
  answers : ∀ count, (levels.beneath count vault).AnswersAs (Bank.levels.beneath count copies).top
  /-- The bank itself is as if it had been asked all that has come down to it, the burned total included. -/
  bank : vault.bank = (Bank.levels.beneath 0 copies).top
  commit : vault.commit.2 = none
  committed : vault.stages.length ≤ 1 → vault.commit.1 = ⟨copies.top, []⟩

theorem equalsCopies_of_mirrors {vault : Vault} {copies : Copies Bank}
    (h : Mirrors levels Bank.levels Agrees vault copies) : vault.EqualsCopies copies := by
  obtain ⟨after, hafter, hagrees⟩ := commit_of_mirrors h
  refine ⟨h.height_eq, fun count => (h.beneath count).answersAs, ?_, ?_, ?_⟩
  · have hheight : levels.height (levels.beneath 0 vault) = min 0 (levels.height vault) :=
      Levels.height_beneath
    have hlowest : (levels.beneath 0 vault).stages.length = 0 := hheight.trans (Nat.zero_min _)
    rw [← bank_beneath 0 vault, (h.beneath 0).eq_of_unstaged hlowest]
  · rw [hafter]
  · intro hone
    have hheight : (levels.commit vault).stages.length = vault.stages.length - 1 :=
      levels.height_commit vault
    have hunstaged : after.stages.length = 0 := by
      rw [show levels.commit vault = after from congrArg Prod.fst hafter] at hheight
      omega
    rw [hafter]
    exact hagrees.eq_of_unstaged hunstaged

/-- **A staged escrow is the real one.**  Let the total of a bank fit, and let moves be made on it, those it
refuses among them, and stages be opened over it, committed and discarded.  Then every move is answered, with
the same fault where it is refused, as by a bank on which all of them are made at once, and of which copies
are put aside for the stages, and the same balances and the same escrow are seen on every stage.  No commit
fails, and that of the outermost stage leaves just that bank.  As long as a stage that has been opened stays
open, the vault without it and all that is above it is the vault as it was. -/
theorem stages_refine_bank :
    (∀ (bank : Bank) (total : Bundle), bank.total = .ok total → ∀ requests : List (Request Move),
      (levels.afterAll ⟨bank, []⟩ requests).EqualsCopies (Bank.levels.afterAll ⟨bank, []⟩ requests)) ∧
    ∀ (vault : Vault) (requests : List (Request Move)),
      (∀ made, made <+: requests →
        vault.stages.length < (levels.afterAll vault.stage made).stages.length) →
      levels.beneath vault.stages.length (levels.afterAll vault.stage requests) = vault := by
  constructor
  · intro bank total htotal requests
    have hstart : Mirrors levels Bank.levels Agrees ⟨bank, []⟩ ⟨bank, []⟩ :=
      .of_height rfl rfl (.unstaged (Bank.fits_of_total htotal))
    exact equalsCopies_of_mirrors (simulates_copies.mirrors hstart requests)
  · intro vault requests hopen
    exact Levels.beneath_begin_afterAll hopen

def uluna (amount : Nat) : Bundle := .ofCoin ⟨"uluna", (Word.ofNat? amount).getD 0⟩

def purse : Bank := Bank.empty.setBalance Id.zero (uluna 1000)

/-- Moves on two stages, the second of which is committed; one of them burns more than there is. -/
def nested : List (Request Move) :=
  [.begin, .make (.deposit Id.zero (uluna 600)), .begin, .make (.burn (uluna 700)),
    .make (.burn (uluna 100)), .make (.payOut Id.zero (uluna 200)), .commit]

theorem stages_refine_bank_nested :
    ((levels.afterAll ⟨purse, []⟩ nested).commit.2 = none ∧
      (levels.afterAll ⟨purse, []⟩ nested).commit.1.escrow = uluna 300 ∧
      (levels.afterAll ⟨purse, []⟩ nested).commit.1.bank.burned = uluna 100) ∧
    levels.beneath 0 (levels.afterAll (stage ⟨purse, []⟩) nested.tail) = ⟨purse, []⟩ := by
  constructor
  · have htotal : purse.total = .ok (uluna 1000) := by decide +kernel
    have hequals := stages_refine_bank.1 purse (uluna 1000) htotal nested
    have hone : (levels.afterAll ⟨purse, []⟩ nested).stages.length = 1 := by decide +kernel
    rw [hequals.committed (Nat.le_of_eq hone)]
    exact ⟨hequals.commit, by decide +kernel, by decide +kernel⟩
  · have hopen : ∀ made ∈ nested.tail.inits,
        0 < (levels.afterAll (stage ⟨purse, []⟩) made).stages.length := by
      decide +kernel
    exact stages_refine_bank.2 ⟨purse, []⟩ nested.tail
      fun made hmade => hopen made ((List.mem_inits _ _).mpr hmade)

end Vault

end NameAuction
