import NameAuction.Proofs.Registrar.ByName

/-!
# Resolutions and reverse entries

A resolution leads from a name and a child to an account, and the reverse entry of the account leads back to
the name, but not to the child.  A book is mutual if the two belong together: every resolution is below a
registration and has its reverse entry, and every reverse entry comes from one resolution (`Book.Mutual`).
Commands and sweeps keep a book mutual (`lasting_mutual`); when a registration expires, the reverse entries
that go with it are those that lead to its name (`Mutual.mem_resolutionSlots_iff`).  So a sweep removes the
resolutions and the reverse entries of the registrations that have come to their end, and no others
(`Swept.resolution_iff`, `Swept.reverse_iff`).
-/

namespace NameAuction

namespace Book

open Registrar

/-- Resolutions and reverse entries belong together. -/
structure Mutual (book : Book) : Prop where
  registered : ∀ {id child : NameId} {account : Account}, book (.resolution id child) = some account →
    book (.registration id) ≠ none
  reversed : ∀ {id child : NameId} {account : Account}, book (.resolution id child) = some account →
    book (.reverse account) = some id
  resolved : ∀ {account : Account} {id : NameId}, book (.reverse account) = some id →
    ∃ child, book (.resolution id child) = some account
  single : ∀ {id child other : NameId} {account : Account}, book (.resolution id child) = some account →
    book (.resolution id other) = some account → child = other

namespace Mutual

variable {book next : Book} {setting : Setting} {outcome : Outcome} {id child : NameId} {account : Account}

theorem blank : Book.blank.Mutual := ⟨nofun, nofun, nofun, nofun⟩

theorem eq_of_account (h : book.Mutual) {other otherChild : NameId}
    (hfirst : book (.resolution id child) = some account)
    (hsecond : book (.resolution other otherChild) = some account) : id = other ∧ child = otherChild := by
  have hid : id = other := Option.some.inj ((h.reversed hfirst).symm.trans (h.reversed hsecond))
  subst hid
  exact ⟨rfl, h.single hfirst hsecond⟩

theorem eq_of_account_eq (h : book.Mutual) {first second : Resolution}
    (hfirst : book (.resolution first.id first.child) = some first.account)
    (hsecond : book (.resolution second.id second.child) = some second.account)
    (haccount : first.account = second.account) : first = second := by
  obtain ⟨id, child, account⟩ := first
  obtain ⟨other, otherChild, held⟩ := second
  obtain rfl : account = held := haccount
  obtain ⟨rfl, rfl⟩ := h.eq_of_account hfirst hsecond
  rfl

theorem reverse_iff (h : book.Mutual) (account : Account) (id : NameId) :
    book (.reverse account) = some id ↔ ∃ child, book (.resolution id child) = some account :=
  ⟨h.resolved, fun ⟨_, hchild⟩ => h.reversed hchild⟩

theorem of_same (h : book.Mutual)
    (hresolution : ∀ id child, next (.resolution id child) = book (.resolution id child))
    (hreverse : ∀ account, next (.reverse account) = book (.reverse account))
    (hregistration : ∀ id, book (.registration id) ≠ none → next (.registration id) ≠ none) :
    next.Mutual where
  registered hheld := hregistration _ (h.registered ((hresolution _ _).symm.trans hheld))
  reversed hheld := (hreverse _).trans (h.reversed ((hresolution _ _).symm.trans hheld))
  resolved hheld := by
    obtain ⟨child, hchild⟩ := h.resolved ((hreverse _).symm.trans hheld)
    exact ⟨child, (hresolution _ _).trans hchild⟩
  single hfirst hsecond :=
    h.single ((hresolution _ _).symm.trans hfirst) ((hresolution _ _).symm.trans hsecond)

/-- A resolution is added with its reverse entry. -/
theorem add (h : book.Mutual) (hregistration : book (.registration id) ≠ none)
    (hreverse : book (.reverse account) = none) (hfree : book (.resolution id child) = none) :
    ((book.set (.resolution id child) (some account)).set (.reverse account) (some id)).Mutual := by
  -- no resolution before leads to the account
  have hnot : ∀ {other otherChild : NameId} {held : Account},
      book (.resolution other otherChild) = some held → held ≠ account := by
    rintro other otherChild held hheld rfl
    rw [h.reversed hheld] at hreverse
    cases hreverse
  have hcases : ∀ {other otherChild : NameId} {held : Account},
      ((book.set (.resolution id child) (some account)).set (.reverse account) (some id))
        (.resolution other otherChild) = some held →
      (other = id ∧ otherChild = child ∧ held = account) ∨
        book (.resolution other otherChild) = some held := by
    intro other otherChild held hheld
    by_cases heq : Slot.resolution other otherChild = .resolution id child
    · cases heq
      exact .inl ⟨rfl, rfl, by simpa using hheld.symm⟩
    · exact .inr (by simpa [heq] using hheld)
  refine ⟨?_, ?_, ?_, ?_⟩
  · intro other otherChild held hheld
    rcases hcases hheld with ⟨rfl, -, -⟩ | hbefore
    · simpa using hregistration
    · simpa using h.registered hbefore
  · intro other otherChild held hheld
    rcases hcases hheld with ⟨rfl, -, rfl⟩ | hbefore
    · simp
    · simpa [hnot hbefore] using h.reversed hbefore
  · intro held other hheld
    by_cases heq : held = account
    · subst heq
      obtain rfl : id = other := by simpa using hheld
      exact ⟨child, by simp⟩
    · obtain ⟨otherChild, hbefore⟩ := h.resolved (by simpa [heq] using hheld)
      have hne : Slot.resolution other otherChild ≠ .resolution id child := by
        intro hslot
        cases hslot
        rw [hfree] at hbefore
        cases hbefore
      exact ⟨otherChild, by simpa [hne] using hbefore⟩
  · intro other first second held hfirst hsecond
    rcases hcases hfirst with ⟨rfl, rfl, rfl⟩ | hbefore
    · rcases hcases hsecond with ⟨-, rfl, -⟩ | hlater
      · rfl
      · exact absurd rfl (hnot hlater)
    · rcases hcases hsecond with ⟨-, -, rfl⟩ | hlater
      · exact absurd rfl (hnot hbefore)
      · exact h.single hbefore hlater

/-- A book stays mutual where some resolutions go together with their reverse entries. -/
theorem restrict (h : book.Mutual) (stays : NameId → Account → Prop)
    (hresolution : ∀ id child account, next (.resolution id child) = some account ↔
      book (.resolution id child) = some account ∧ stays id account)
    (hreverse : ∀ account id, next (.reverse account) = some id ↔
      book (.reverse account) = some id ∧ stays id account)
    (hregistration : ∀ id account, stays id account → book (.registration id) ≠ none →
      next (.registration id) ≠ none) : next.Mutual := by
  refine ⟨?_, ?_, ?_, ?_⟩
  · intro id child account hheld
    obtain ⟨hbefore, hstays⟩ := (hresolution id child account).mp hheld
    exact hregistration id account hstays (h.registered hbefore)
  · intro id child account hheld
    obtain ⟨hbefore, hstays⟩ := (hresolution id child account).mp hheld
    exact (hreverse account id).mpr ⟨h.reversed hbefore, hstays⟩
  · intro account id hheld
    obtain ⟨hbefore, hstays⟩ := (hreverse account id).mp hheld
    obtain ⟨child, hchild⟩ := h.resolved hbefore
    exact ⟨child, (hresolution id child account).mpr ⟨hchild, hstays⟩⟩
  · intro id child other account hfirst hsecond
    exact h.single ((hresolution id child account).mp hfirst).1 ((hresolution id other account).mp hsecond).1

theorem remove (h : book.Mutual) (hresolution : book (.resolution id child) = some account) :
    ((book.set (.resolution id child) none).set (.reverse account) none).Mutual := by
  refine h.restrict (fun _ held => held ≠ account) ?_ ?_ ?_
  · intro other otherChild held
    by_cases heq : Slot.resolution other otherChild = .resolution id child
    · cases heq
      have hsame : ∀ held, some account = some held → ¬ held ≠ account := by
        rintro held hheld hne
        exact hne (Option.some.inj hheld).symm
      simpa [hresolution] using hsame held
    · have hother : book (.resolution other otherChild) = some held → held ≠ account := by
        rintro hheld rfl
        obtain ⟨rfl, rfl⟩ := h.eq_of_account hheld hresolution
        exact heq rfl
      simpa [heq] using hother
  · intro held other
    by_cases heq : held = account
    · subst heq
      simp
    · simp [heq]
  · intro other _ _ hregistration
    simpa using hregistration

/-! ### The end of a registration -/

/-- The accounts whose reverse entries are cleared with the resolutions of a name are those that lead to
it. -/
theorem mem_resolutionSlots_iff (h : book.Mutual) {resolutions : List (NameId × Account)}
    (hlist : book.ResolutionsOf id resolutions) (account : Account) :
    Slot.reverse account ∈ resolutionSlots id resolutions ↔ book (.reverse account) = some id := by
  constructor
  · intro hmem
    obtain ⟨⟨child, held⟩, hx, hslot⟩ := List.mem_flatMap.mp hmem
    obtain rfl : account = held := by simpa using hslot
    exact h.reversed ((hlist.mem_iff (child, account)).mp hx)
  · intro hreverse
    obtain ⟨child, hchild⟩ := h.resolved hreverse
    refine List.mem_flatMap.mpr ⟨(child, account), (hlist.mem_iff (child, account)).mpr hchild, ?_⟩
    exact List.mem_cons_of_mem _ (List.mem_cons_self ..)

/-- The resolutions of a name go together with the reverse entries that lead to it. -/
theorem expire (h : book.Mutual) {resolutions : List (NameId × Account)}
    (hlist : book.ResolutionsOf id resolutions) :
    ((book.set (.registration id) none).clear (resolutionSlots id resolutions)).Mutual := by
  refine h.restrict (fun other _ => other ≠ id) ?_ ?_ ?_
  · intro other child account
    by_cases heq : other = id
    · subst heq
      have hlist' : (book.set (.registration other) none).ResolutionsOf other resolutions := by
        simpa [ResolutionsOf] using hlist
      have hgone := clear_resolutionSlots hlist' child
      simp [hgone]
    · simp [clear, resolutionSlots, heq]
  · intro account other
    rw [clear]
    by_cases hmem : Slot.reverse account ∈ resolutionSlots id resolutions
    · have hreverse := (h.mem_resolutionSlots_iff hlist account).mp hmem
      have hsame : some id = some other → ¬ other ≠ id := fun heq hne => hne (Option.some.inj heq).symm
      simpa [hmem, hreverse] using hsame
    · have hreverse : book (.reverse account) = some other → other ≠ id := by
        rintro hheld rfl
        exact hmem ((h.mem_resolutionSlots_iff hlist account).mpr hheld)
      simpa [hmem] using hreverse
  · intro other _ hne hregistration
    simpa [clear, resolutionSlots, hne] using hregistration

/-! ### Commands and due entries -/

/-- **A command keeps a book mutual.** -/
theorem handled {command : Command} (h : book.Mutual)
    (hhandled : Handled setting book command outcome) : outcome.book.Mutual := by
  cases hhandled with
  | opened => exact h.of_same (by simp) (by simp) (by simp)
  | bidPlaced => exact h.of_same (by simp) (by simp) (by simp)
  | revealedTop => exact h.of_same (by simp) (by simp) (by simp)
  | revealedBelow => exact h.of_same (by simp) (by simp) (by simp)
  | @renewed name fee owner parts id =>
    refine h.of_same (by simp) (by simp) fun other hother => ?_
    by_cases heq : other = id
    · subst heq
      simp
    · simpa [heq] using hother
  | @ownerChanged name newOwner owner id =>
    refine h.of_same (by simp) (by simp) fun other hother => ?_
    by_cases heq : other = id
    · subst heq
      simp
    · simpa [heq] using hother
  | subNameSet _ hregistration _ hreverse hfree =>
    exact h.add (by rw [hregistration]; exact Option.some_ne_none _) hreverse hfree
  | subNameCleared _ _ _ hresolution => exact h.remove hresolution

/-- **Handling a due entry keeps a book mutual.** -/
theorem settled {kind : QueueKind} {due : Due} (h : book.Mutual)
    (hsettled : Settled setting (book.set (.queued kind due) none) kind due outcome) :
    outcome.book.Mutual := by
  have htaken : (book.set (.queued kind due) none).Mutual := h.of_same (by simp) (by simp) (by simp)
  cases hsettled with
  | revealStarted => exact htaken.of_same (by simp) (by simp) (by simp)
  | closedEmpty => exact htaken.of_same (by simp) (by simp) (by simp)
  | awarded =>
    refine htaken.of_same (by simp [clear, bidSlots]) (by simp [clear, bidSlots]) fun other hother => ?_
    by_cases heq : other = due.id
    · subst heq
      simp [clear, bidSlots]
    · simpa [clear, bidSlots, heq] using hother
  | closedUnsold =>
    exact htaken.of_same (by simp [clear, bidSlots]) (by simp [clear, bidSlots]) (by simp [clear, bidSlots])
  | expired _ _ hresolutions => exact htaken.expire hresolutions

end Mutual

theorem lasting_mutual : Lasting Book.Mutual where
  handled _ hmutual _ hhandled := hmutual.handled hhandled
  settled _ hmutual _ hsettled := hmutual.settled hsettled

end Book

def NameRecords.Ended (records : NameRecords) (now : Time) : Prop :=
  ∃ registration, records.registration = some registration ∧ registration.endTime ≤ now

namespace Registrar

open Book

variable {setting : Setting} {book : Book} {outcome : Outcome} {id : NameId}

/-! ### Sweeps -/

/-- What a step does where a registration has come to its end. -/
theorem Stepped.of_ended {records after : NameRecords} (h : Stepped setting records after)
    (hended : records.Ended setting.now) :
    after = { records with registration := none, resolution := fun _ => none } := by
  obtain ⟨registration, hregistration, -⟩ := hended
  have hnot : records.registration ≠ none := by
    rw [hregistration]
    exact Option.some_ne_none _
  cases h with
  | revealStarted _ hfree => exact absurd hfree hnot
  | closedEmpty _ hfree => exact absurd hfree hnot
  | awarded _ hfree => exact absurd hfree hnot
  | closedUnsold _ hfree => exact absurd hfree hnot
  | expired => rfl

/-- No other step touches resolutions. -/
theorem Stepped.resolution_eq {records after : NameRecords} (h : Stepped setting records after)
    (hnot : ¬ records.Ended setting.now) : after.resolution = records.resolution := by
  cases h with
  | revealStarted => rfl
  | closedEmpty => rfl
  | awarded => rfl
  | closedUnsold => rfl
  | expired hregistration _ hend => exact absurd ⟨_, hregistration, hend⟩ hnot

/-- **A sweep removes a registration that has come to its end, with all its resolutions.** -/
theorem Swept.of_ended (hchecked : Checked setting) (hsane : book.Sane) (h : Swept setting book outcome)
    (hended : (book.records id).Ended setting.now) :
    outcome.book.records id =
      { book.records id with registration := none, resolution := fun _ => none } := by
  refine (h.stepped hchecked hsane ?_).of_ended hended
  obtain ⟨registration, hregistration, hend⟩ := hended
  have hauction := hsane.apart.auction_eq_none hregistration
  exact ⟨_, _, waiting_of_registration hauction hregistration, hend⟩

theorem Swept.resolution_eq (hchecked : Checked setting) (hsane : book.Sane)
    (h : Swept setting book outcome) (hnot : ¬ (book.records id).Ended setting.now) :
    (outcome.book.records id).resolution = (book.records id).resolution := by
  by_cases hdue : book.IsDue setting.now id
  · exact (h.stepped hchecked hsane hdue).resolution_eq hnot
  · rw [h.records_eq hchecked hsane hdue]

theorem Swept.resolution_iff (hchecked : Checked setting) (hsane : book.Sane)
    (h : Swept setting book outcome) (id child : NameId) (account : Account) :
    outcome.book (.resolution id child) = some account ↔
      book (.resolution id child) = some account ∧ ¬ (book.records id).Ended setting.now := by
  by_cases hended : (book.records id).Ended setting.now
  · have hgone : outcome.book (.resolution id child) = none :=
      congrFun (congrArg NameRecords.resolution (h.of_ended hchecked hsane hended)) child
    simp [hgone, hended]
  · have hsame : outcome.book (.resolution id child) = book (.resolution id child) :=
      congrFun (h.resolution_eq hchecked hsane hended) child
    simp [hsame, hended]

/-- **A sweep removes the reverse entries that lead to the names whose registrations have come to their end,
and no others.** -/
theorem Swept.reverse_iff (hchecked : Checked setting) (hsane : book.Sane) (hmutual : book.Mutual)
    (h : Swept setting book outcome) (account : Account) (id : NameId) :
    outcome.book (.reverse account) = some id ↔
      book (.reverse account) = some id ∧ ¬ (book.records id).Ended setting.now := by
  have hnext := lasting_mutual.swept hsane hmutual h
  rw [hnext.reverse_iff, hmutual.reverse_iff]
  simp only [h.resolution_iff hchecked hsane, exists_and_right]

end Registrar

end NameAuction
