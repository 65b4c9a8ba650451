import NameAuction.Proofs.Registrar.Consistency

/-!
# Ownership

Only its owner can change a registration, by handing it over or by extending it, and only the owner can let
a child of the name lead to an account or stop it from leading there (`Amended`, `Redirected`).  A sweep
removes a registration when it has come to its end, with all resolutions of the name, and leaves it as it is
before then (`Reachable.ownership`).
-/

namespace NameAuction

/-- The command is meant to change the registration of a name. -/
inductive Command.Amends (id : NameId) : Command → Prop
  | changeOwner {name : Name} {newOwner owner : Account} (hid : name.id = .ok id) :
      Amends id (.changeOwner name newOwner owner)
  | renew {name : Name} {fee : Bundle} {owner : Account} (hid : name.id = .ok id) :
      Amends id (.renew name fee owner)

/-- The command is meant to change where a child of a name leads. -/
inductive Command.Redirects (id child : NameId) : Command → Prop
  | setSubName {name : Name} {account owner : Account} (hids : name.ids = .ok (id, child)) :
      Redirects id child (.setSubName name account owner)
  | clearSubName {name : Name} {owner : Account} (hids : name.ids = .ok (id, child)) :
      Redirects id child (.clearSubName name owner)

namespace Registrar

open Book

variable {registrar : Registrar} {setting : Setting} {book : Book} {outcome : Outcome} {id child : NameId}
  {registration : Registration}

/-- What a command that succeeds makes of the registration of a name. -/
inductive Amended (id : NameId) (registration : Registration) : Command → Registration → Prop
  | handedOver {name : Name} {newOwner : Account} (hid : name.id = .ok id) :
      Amended id registration (.changeOwner name newOwner registration.owner)
        { registration with owner := newOwner }
  | extended {name : Name} {fee : Bundle} {endTime : Time} (hid : name.id = .ok id)
      (hle : registration.endTime ≤ endTime) :
      Amended id registration (.renew name fee registration.owner) { registration with endTime := endTime }
  | untouched {command : Command} (hnot : ¬ command.Amends id) : Amended id registration command registration

/-- What a command that succeeds makes of the account to which a child of an owner's name leads. -/
inductive Redirected (id child : NameId) (owner : Account) : Command → Option Account → Option Account → Prop
  | set {name : Name} {account : Account} (hids : name.ids = .ok (id, child)) :
      Redirected id child owner (.setSubName name account owner) none (some account)
  | cleared {name : Name} {account : Account} (hids : name.ids = .ok (id, child)) :
      Redirected id child owner (.clearSubName name owner) (some account) none
  | untouched {command : Command} {target : Option Account} (hnot : ¬ command.Redirects id child) :
      Redirected id child owner command target target

theorem le_after {time period sum : Time} (h : time.after period = .ok sum) : time ≤ sum := by
  have hsum := Time.after_eq_ok h
  show time.toNat ≤ sum.toNat
  omega

/-! ### Commands -/

/-- **What a command does to a registration.** -/
theorem Handled.amended {command : Command} (h : Handled setting book command outcome)
    (hregistration : book (.registration id) = some registration) :
    ∃ later, outcome.book (.registration id) = some later ∧ Amended id registration command later := by
  cases h with
  | opened => exact ⟨registration, by simpa using hregistration, .untouched nofun⟩
  | bidPlaced => exact ⟨registration, by simpa using hregistration, .untouched nofun⟩
  | revealedTop => exact ⟨registration, by simpa using hregistration, .untouched nofun⟩
  | revealedBelow => exact ⟨registration, by simpa using hregistration, .untouched nofun⟩
  | @renewed name fee owner parts own held extension endTime _ hid hheld howner _ hend =>
    by_cases heq : id = own
    · subst heq
      obtain rfl := Option.some.inj (hheld.symm.trans hregistration)
      subst howner
      exact ⟨_, by simp, .extended hid (le_after hend)⟩
    · refine ⟨registration, by simpa [heq] using hregistration, .untouched fun hamends => ?_⟩
      cases hamends with
      | renew hname => exact heq (Except.ok.inj (hname.symm.trans hid))
  | @ownerChanged name newOwner owner own held hid hheld howner =>
    by_cases heq : id = own
    · subst heq
      obtain rfl := Option.some.inj (hheld.symm.trans hregistration)
      subst howner
      exact ⟨_, set_self .., .handedOver hid⟩
    · refine ⟨registration, by simpa [heq] using hregistration, .untouched fun hamends => ?_⟩
      cases hamends with
      | changeOwner hname => exact heq (Except.ok.inj (hname.symm.trans hid))
  | subNameSet => exact ⟨registration, by simpa using hregistration, .untouched nofun⟩
  | subNameCleared => exact ⟨registration, by simpa using hregistration, .untouched nofun⟩

theorem Redirected.of_eq {owner : Account} {command : Command} {before after first last : Option Account}
    (h : Redirected id child owner command first last) (hbefore : before = first) (hafter : after = last) :
    Redirected id child owner command before after := hbefore ▸ hafter ▸ h

/-- **What a command does to where a child leads.** -/
theorem Handled.redirected {command : Command} (h : Handled setting book command outcome)
    (hregistration : book (.registration id) = some registration) (child : NameId) :
    Redirected id child registration.owner command (book (.resolution id child))
      (outcome.book (.resolution id child)) := by
  have hother : ¬ command.Redirects id child →
      outcome.book (.resolution id child) = book (.resolution id child) →
      Redirected id child registration.owner command (book (.resolution id child))
        (outcome.book (.resolution id child)) := fun hnot hsame => (Redirected.untouched hnot).of_eq rfl hsame
  cases h with
  | opened => exact hother nofun (by simp)
  | bidPlaced => exact hother nofun (by simp)
  | revealedTop => exact hother nofun (by simp)
  | revealedBelow => exact hother nofun (by simp)
  | renewed => exact hother nofun (by simp)
  | ownerChanged => exact hother nofun (by simp)
  | @subNameSet name account owner own ownChild held hids hheld howner _ hfree =>
    by_cases heq : Slot.resolution id child = .resolution own ownChild
    · cases heq
      obtain rfl := Option.some.inj (hheld.symm.trans hregistration)
      subst howner
      exact (Redirected.set hids).of_eq hfree (by simp)
    · refine hother (fun hredirects => heq ?_) (by simp [set_of_ne _ _ heq])
      cases hredirects with
      | setSubName hname => cases Except.ok.inj (hname.symm.trans hids); rfl
  | @subNameCleared name account owner own ownChild held hids hheld howner hresolution =>
    by_cases heq : Slot.resolution id child = .resolution own ownChild
    · cases heq
      obtain rfl := Option.some.inj (hheld.symm.trans hregistration)
      subst howner
      exact (Redirected.cleared hids).of_eq hresolution (by simp)
    · refine hother (fun hredirects => heq ?_) (by simp [set_of_ne _ _ heq])
      cases hredirects with
      | clearSubName hname => cases Except.ok.inj (hname.symm.trans hids); rfl

/-! ### Sweeps -/

/-- **A sweep leaves a registration alone that has not come to its end.** -/
theorem Swept.registration_eq (hchecked : Checked setting) (hsane : book.Sane)
    (h : Swept setting book outcome) (hregistration : book (.registration id) = some registration)
    (hlater : ¬ registration.endTime ≤ setting.now) : outcome.book.records id = book.records id := by
  refine h.records_eq hchecked hsane ?_
  rintro ⟨kind, time, hwaiting, hdue⟩
  rw [waiting_of_registration (hsane.apart.auction_eq_none hregistration) hregistration] at hwaiting
  cases hwaiting
  exact hlater hdue

/-- **Only its owner can change a registration before it ends.**  Handing over changes the owner only,
renewing changes the end only and moves it no earlier, and a child is redirected only by the owner.  A sweep
removes the registration with its resolutions if it has come to its end and leaves them otherwise.  Other
calls do not touch the store. -/
theorem Reachable.ownership (h : Reachable registrar)
    (hregistration : registrar.store.registration? id = .ok (some registration)) :
    (∀ now command events next, registrar.deliver now command = (.ok events, next) →
      (∃ later, next.store.registration? id = .ok (some later) ∧
        Amended id registration command later) ∧
      ∀ child, ∃ before after, registrar.store.resolution? id child = .ok before ∧
        next.store.resolution? id child = .ok after ∧
        Redirected id child registration.owner command before after) ∧
    (∀ now events next, registrar.endBlock now = (.ok events, next) →
      registration.endTime ≤ now ∧ next.store.registration? id = .ok none ∧
          (∀ child, next.store.resolution? id child = .ok none) ∨
        ¬ registration.endTime ≤ now ∧ next.store.registration? id = .ok (some registration) ∧
          ∀ child, next.store.resolution? id child = registrar.store.resolution? id child) ∧
    ∀ call, (∀ now command, call ≠ .deliver now command) → (∀ now, call ≠ .endBlock now) →
      (registrar.after call).store = registrar.store := by
  obtain ⟨book, hsound⟩ := h.sound
  have hheld : book (.registration id) = some registration := hsound.keeps.registration_eq hregistration
  refine ⟨fun now command events next hok => ?_, fun now events next hok => ?_,
    fun call hdeliver hendBlock => ?_⟩
  · obtain ⟨outcome, -, hhandled, -, -, hnext⟩ := hsound.deliver_ok hok
    constructor
    · obtain ⟨later, hlater, hamended⟩ := hhandled.amended hheld
      exact ⟨later, by rw [hnext.keeps.registration?, hlater], hamended⟩
    · intro child
      exact ⟨_, _, hsound.keeps.resolution? id child, hnext.keeps.resolution? id child,
        hhandled.redirected hheld child⟩
  · obtain ⟨outcome, hswept, -, -, hnext⟩ := hsound.endBlock_ok hok
    by_cases hend : registration.endTime ≤ now
    · have hrecords := hswept.of_ended hsound.checked hsound.sane ⟨registration, hheld, hend⟩
      refine .inl ⟨hend, ?_, fun child => ?_⟩
      · rw [hnext.keeps.registration?]
        exact congrArg Except.ok (congrArg NameRecords.registration hrecords)
      · rw [hnext.keeps.resolution?]
        exact congrArg Except.ok (congrFun (congrArg NameRecords.resolution hrecords) child)
    · have hrecords := hswept.registration_eq hsound.checked hsound.sane hheld hend
      refine .inr ⟨hend, ?_, fun child => ?_⟩
      · rw [hnext.keeps.registration?]
        exact congrArg Except.ok ((congrArg NameRecords.registration hrecords).trans hheld)
      · rw [hnext.keeps.resolution?, hsound.keeps.resolution?]
        exact congrArg Except.ok (congrFun (congrArg NameRecords.resolution hrecords) child)
  · rcases after_cases hsound.checked call with ⟨now, command, heq⟩ | ⟨now, heq⟩ | hidle
    · exact absurd heq (hdeliver now command)
    · exact absurd heq (hendBlock now)
    · exact congrArg Disk.store hidle.disk

def ownedByAlice : Registration := ⟨⟨"label.terra"⟩, Demo.alice, moment 32036000⟩

theorem ownership_shopRun :
    (∃ events next later, (standard.afterAll shopRun).deliver (moment 700000)
        (.changeOwner ⟨"label.terra"⟩ Demo.bob Demo.alice) = (.ok events, next) ∧
      next.store.registration? (.ofText "label.terra") = .ok (some later) ∧
      Amended (.ofText "label.terra") ownedByAlice (.changeOwner ⟨"label.terra"⟩ Demo.bob Demo.alice) later) ∧
    ∃ events next, (standard.afterAll shopRun).endBlock (moment 32036000) = (.ok events, next) ∧
      next.store.registration? (.ofText "label.terra") = .ok none := by
  obtain ⟨hregistration, hchanged, hended⟩ :
      (standard.afterAll shopRun).store.registration? (.ofText "label.terra") = .ok (some ownedByAlice) ∧
        ((standard.afterAll shopRun).deliver (moment 700000)
          (.changeOwner ⟨"label.terra"⟩ Demo.bob Demo.alice)).1.isOk = true ∧
        ((standard.afterAll shopRun).endBlock (moment 32036000)).1.isOk = true := by
    decide +kernel
  obtain ⟨hdeliver, hendBlock, -⟩ := (reachable_standard.calledAll shopRun).ownership hregistration
  obtain ⟨events, hevents⟩ := exists_events_of_isOk hchanged
  obtain ⟨told, htold⟩ := exists_events_of_isOk hended
  obtain ⟨⟨later, hlater, hamended⟩, -⟩ := hdeliver _ _ _ _ hevents
  rcases hendBlock _ _ _ htold with ⟨-, hgone, -⟩ | ⟨hlater, -⟩
  · exact ⟨⟨events, _, later, hevents, hlater, hamended⟩, told, _, htold, hgone⟩
  · exact absurd (by decide) hlater

end Registrar

end NameAuction
