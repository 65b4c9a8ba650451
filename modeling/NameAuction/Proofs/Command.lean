import NameAuction.Command
import NameAuction.Proofs.Binary.ReadBack

/-!
# What a checked command carries

The checks that need no state bound the texts of a command: its name (`Command.name_fits`) and the
denomination of a deposit (`Command.deposit_fits`).  So what a checked command writes reads back.
-/

namespace NameAuction

theorem Name.fits_of_check {name : Name} (h : name.check = .ok ()) : Text.Fits name.text := by
  unfold check at h
  split at h
  · cases h
  · split at h
    · cases h
    · rename_i hlength
      have hmax : name.text.utf8ByteSize ≤ 255 := Nat.le_of_not_lt hlength
      have hbound : 255 < 256 ^ 8 := by decide
      exact Nat.lt_of_le_of_lt hmax hbound

theorem Name.check_of_checkLevels {name : Name} {allowed : List Nat} {flaw : NameFlaw}
    (h : name.checkLevels allowed flaw = .ok ()) : name.check = .ok () ∧ name.levels ∈ allowed := by
  unfold checkLevels at h
  split at h
  · cases h
  · rename_i hcheck
    exact ⟨hcheck, ensure_eq_ok_iff.mp h⟩

theorem Text.utf8ByteSize_le (text : String) : text.utf8ByteSize ≤ 4 * text.toList.length := by
  have hencode : ∀ chars : List Char, chars.utf8Encode.size ≤ 4 * chars.length := by
    intro chars
    induction chars with
    | nil => simp
    | cons c rest ih =>
      have hone : [c].utf8Encode.size = c.utf8Size := by simp [List.utf8Encode]
      have hfour := c.utf8Size_le_four
      rw [List.utf8Encode_cons, ByteArray.size_append, hone, List.length_cons]
      omega
  have hlist := hencode text.toList
  rw [String.utf8Encode_toList] at hlist
  exact hlist

theorem Coin.fits_of_check {coin : Coin} (h : coin.check = .ok ()) : coin.Fits := by
  have hdenom : isDenom coin.denom = true := ensure_eq_ok_iff.mp h
  have hlength : coin.denom.toList.length ≤ 16 := by
    unfold isDenom at hdenom
    split at hdenom
    · cases hdenom
    · rename_i hchars
      simp only [Bool.and_eq_true, decide_eq_true_eq] at hdenom
      rw [hchars, List.length_cons]
      omega
  have hsize := Text.utf8ByteSize_le coin.denom
  have hbound : 64 < 256 ^ 8 := by decide
  exact Nat.lt_of_le_of_lt (by omega) hbound

/-! ### Faults -/

theorem Fault.lift_eq_ok_iff {ε α : Type} {wrap : ε → Fault} {check : Except ε α} {value : α} :
    Fault.lift wrap check = .ok value ↔ check = .ok value := by
  cases check <;> simp [lift]

theorem Fault.lift_eq_ok {ε α : Type} {wrap : ε → Fault} {check : Except ε α} {value : α}
    (h : Fault.lift wrap check = .ok value) : check = .ok value :=
  lift_eq_ok_iff.mp h

/-- The faults of a check have a property. -/
def Fault.Within {α : Type} (may : Fault → Prop) (check : Except Fault α) : Prop :=
  ∀ fault, check = .error fault → may fault

namespace Fault.Within

variable {α β : Type} {may : Fault → Prop}

theorem mono {other : Fault → Prop} {check : Except Fault α} (h : Within may check)
    (hmay : ∀ fault, may fault → other fault) : Within other check :=
  fun fault hfault => hmay fault (h fault hfault)

theorem ok (value : α) : Within may (.ok value) := nofun

theorem error {fault : Fault} (h : may fault) : Within may (.error fault : Except Fault α) := by
  intro other hother
  cases hother
  exact h

theorem bind {check : Except Fault α} {rest : α → Except Fault β} (h : Within may check)
    (hrest : ∀ value, check = .ok value → Within may (rest value)) : Within may (check >>= rest) := by
  cases hcheck : check with
  | error fault => exact error (h fault hcheck)
  | ok value => exact hrest value hcheck

theorem map {check : Except Fault α} (h : Within may check) (f : α → β) :
    Within may (check.map f) := by
  cases hcheck : check with
  | error fault => exact error (h fault hcheck)
  | ok value => exact ok (f value)

/-- The faults of a part, of which only those that it has count. -/
theorem lift_of {ε : Type} {wrap : ε → Fault} {check : Except ε α}
    (h : ∀ fault, check = .error fault → may (wrap fault)) : Within may (Fault.lift wrap check) := by
  cases check with
  | error fault => exact error (h fault rfl)
  | ok value => exact ok value

theorem lift {ε : Type} {wrap : ε → Fault} (h : ∀ fault, may (wrap fault)) (check : Except ε α) :
    Within may (Fault.lift wrap check) := lift_of fun fault _ => h fault

theorem ensure {condition : Prop} [Decidable condition] {fault : Fault} (h : may fault) :
    Within may (NameAuction.ensure condition fault) := by
  unfold NameAuction.ensure
  split
  · exact ok ()
  · exact error h

theorem demand {value : Option α} {fault : Fault} (h : may fault) :
    Within may (NameAuction.demand value fault) := by
  cases value with
  | some found => exact ok found
  | none => exact error h

theorem mapM {f : α → Except Fault β} (h : ∀ x, Within may (f x)) (list : List α) :
    Within may (list.mapM f) := by
  induction list with
  | nil => exact ok []
  | cons x rest ih =>
    rw [List.mapM_cons]
    exact (h x).bind fun _ _ => ih.bind fun _ _ => ok _

theorem checkLevels (h : ∀ text flaw, may (.name text flaw)) (name : Name) (allowed : List Nat)
    (flaw : NameFlaw) : Within may (name.checkLevels allowed flaw) := by
  unfold Name.checkLevels
  split
  · exact error (h _ _)
  · exact ensure (h _ _)

end Fault.Within

def Fault.IsCorruption : Fault → Prop
  | .codec => True
  | .corrupt _ => True
  | _ => False

def Fault.Sound (fault : Fault) : Prop := ¬ fault.IsCorruption

def Fault.SoundIn {α : Type} (check : Except Fault α) : Prop :=
  ∀ fault, check = .error fault → fault.Sound

/-- Faults that a command can have by itself. -/
def Fault.OfCheck : Fault → Prop
  | .name .. => True
  | .saltLength _ => True
  | .id _ => True
  | .zeroAccount => True
  | .coins _ => True
  | _ => False

namespace Command

/-- **What the check of a command can find.** -/
theorem check_within (command : Command) : Fault.Within Fault.OfCheck command.check := by
  have hlevels : ∀ name allowed flaw, Fault.Within Fault.OfCheck (Name.checkLevels name allowed flaw) :=
    Fault.Within.checkLevels fun _ _ => trivial
  have haccount : ∀ account, Fault.Within Fault.OfCheck (Account.check account) := fun _ =>
    .ensure trivial
  cases command with
  | openAuction name organizer => exact .bind (hlevels _ _ _) fun _ _ => haccount organizer
  | bid name commitment deposit bidder =>
    refine .bind (hlevels _ _ _) fun _ _ => .bind (.lift (fun _ => trivial) _) fun _ _ => ?_
    exact .bind (haccount bidder) fun _ _ => .lift (fun _ => trivial) _
  | reveal name salt amount bidder =>
    refine .bind (hlevels _ _ _) fun _ _ => .bind (.ensure trivial) fun _ _ => ?_
    exact .bind (haccount bidder) fun _ _ => .lift (fun _ => trivial) _
  | renew name fee owner =>
    exact .bind (hlevels _ _ _) fun _ _ => .bind (.ensure trivial) fun _ _ => haccount owner
  | changeOwner name newOwner owner =>
    exact .bind (hlevels _ _ _) fun _ _ => .bind (haccount owner) fun _ _ => haccount newOwner
  | setSubName name account owner =>
    exact .bind (hlevels _ _ _) fun _ _ => .bind (haccount account) fun _ _ => haccount owner
  | clearSubName name owner => exact .bind (hlevels _ _ _) fun _ _ => haccount owner

theorem check_sound (command : Command) : Fault.SoundIn command.check :=
  command.check_within.mono fun fault hfault hcorrupt => by cases fault <;> trivial

theorem name_check {command : Command} (h : command.check = .ok ()) :
    command.name.check = .ok () := by
  -- every check looks at the name first
  cases command <;>
    (obtain ⟨u, hname, -⟩ := Except.bind_eq_ok_iff.mp h
     exact (Name.check_of_checkLevels hname).1)

theorem name_fits {command : Command} (h : command.check = .ok ()) :
    Text.Fits command.name.text := Name.fits_of_check (name_check h)

theorem deposit_check {name : Name} {commitment : String} {deposit : Coin} {bidder : Account}
    (h : (Command.bid name commitment deposit bidder).check = .ok ()) :
    deposit.check = .ok () ∧ deposit.IsPositive := by
  obtain ⟨u, -, h⟩ := Except.bind_eq_ok_iff.mp h
  obtain ⟨sealed, -, h⟩ := Except.bind_eq_ok_iff.mp h
  obtain ⟨u', -, h⟩ := Except.bind_eq_ok_iff.mp h
  have hcoin : deposit.checkPositive = .ok () := by
    cases hcase : deposit.checkPositive with
    | ok u => rfl
    | error fault =>
      rw [hcase] at h
      cases h
  obtain ⟨u'', hcheck, hpositive⟩ := Except.bind_eq_ok_iff.mp hcoin
  exact ⟨hcheck, ensure_eq_ok_iff.mp hpositive⟩

theorem deposit_fits {name : Name} {commitment : String} {deposit : Coin} {bidder : Account}
    (h : (Command.bid name commitment deposit bidder).check = .ok ()) : deposit.Fits :=
  Coin.fits_of_check (deposit_check h).1

theorem amount_check {name : Name} {salt : String} {amount : Coin} {bidder : Account}
    (h : (Command.reveal name salt amount bidder).check = .ok ()) : amount.check = .ok () := by
  obtain ⟨u, -, h⟩ := Except.bind_eq_ok_iff.mp h
  obtain ⟨u', -, h⟩ := Except.bind_eq_ok_iff.mp h
  obtain ⟨u'', -, h⟩ := Except.bind_eq_ok_iff.mp h
  cases hcheck : amount.check with
  | ok u => rfl
  | error fault =>
    rw [hcheck] at h
    cases h

end Command

end NameAuction
