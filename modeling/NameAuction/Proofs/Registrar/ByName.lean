import NameAuction.Proofs.Registrar.Alone

/-!
# Name by name

A command changes the records of its own name only (`Handled.records_eq`).  Handling a due entry changes the
records of the name that is due only, in one of five ways (`Stepped`, `Settled.stepped`), and a name that has
been handled is not due any more (`Stepped.not_isDue`).  Since a pass takes every due entry off its queue and
no handled entry queues another one that is due, no name is due after a sweep (`Swept.not_isDue`).  So a sweep
takes one step with every name that is due and leaves the others as they are (`Swept.stepped`,
`Swept.records_eq`).
-/

namespace NameAuction

/-- The records of one name. -/
@[ext] structure NameRecords where
  auction : Option Auction
  registration : Option Registration
  bid : Account → Option Bid
  resolution : NameId → Option Account

namespace Book

def records (book : Book) (id : NameId) : NameRecords where
  auction := book (.auction id)
  registration := book (.registration id)
  bid bidder := book (.bid id bidder)
  resolution child := book (.resolution id child)

variable {book next : Book} {id : NameId}

/-! ### Writes to the records of a name -/

@[simp] theorem records_set_auction (book : Book) (id : NameId) (value : Option Auction) :
    (book.set (.auction id) value).records id = { book.records id with auction := value } := by
  simp [records]

@[simp] theorem records_set_registration (book : Book) (id : NameId) (value : Option Registration) :
    (book.set (.registration id) value).records id = { book.records id with registration := value } := by
  simp [records]

@[simp] theorem records_set_bid (book : Book) (id : NameId) (bidder : Account) (value : Option Bid) :
    (book.set (.bid id bidder) value).records id =
      { book.records id with bid := Function.update (book.records id).bid bidder value } := by
  refine NameRecords.ext (by simp [records]) (by simp [records]) (funext fun other => ?_)
    (by simp [records])
  by_cases heq : other = bidder
  · subst heq
    simp [records]
  · simp [records, heq]

@[simp] theorem records_set_resolution (book : Book) (id child : NameId) (value : Option Account) :
    (book.set (.resolution id child) value).records id =
      { book.records id with resolution := Function.update (book.records id).resolution child value } := by
  refine NameRecords.ext (by simp [records]) (by simp [records]) (by simp [records])
    (funext fun other => ?_)
  by_cases heq : other = child
  · subst heq
    simp [records]
  · simp [records, heq]

@[simp] theorem records_set_queued (book : Book) (kind : QueueKind) (due : Due) (value : Option Unit)
    (id : NameId) : (book.set (.queued kind due) value).records id = book.records id := by
  simp [records]

@[simp] theorem records_set_reverse (book : Book) (account : Account) (value : Option NameId)
    (id : NameId) : (book.set (.reverse account) value).records id = book.records id := by
  simp [records]

/-! ### Names that are due -/

theorem waiting_of_records_eq (h : next.records id = book.records id) :
    next.waiting id = book.waiting id :=
  waiting_congr (congrArg NameRecords.auction h) (congrArg NameRecords.registration h)

def IsDue (book : Book) (now : Time) (id : NameId) : Prop :=
  ∃ kind time, book.waiting id = some (kind, time) ∧ time ≤ now

end Book

namespace Registrar

open Book

variable {setting : Setting} {book : Book} {outcome : Outcome}

/-- The step that a sweep takes with a name that is due. -/
inductive Stepped (setting : Setting) (records : NameRecords) : NameRecords → Prop
  | revealStarted {auction : Auction} {endTime : Time} {bidder : Account} {bid : Bid}
      (hauction : records.auction = some auction) (hfree : records.registration = none)
      (hphase : auction.phase = .bid) (hdue : auction.endTime ≤ setting.now)
      (hbid : records.bid bidder = some bid)
      (hend : setting.now.after setting.params.revealPeriod = .ok endTime) :
      Stepped setting records
        { records with auction := some { auction with phase := .reveal, endTime := endTime } }
  | closedEmpty {auction : Auction}
      (hauction : records.auction = some auction) (hfree : records.registration = none)
      (hphase : auction.phase = .bid) (hdue : auction.endTime ≤ setting.now)
      (hbids : ∀ bidder, records.bid bidder = none) :
      Stepped setting records { records with auction := none }
  | awarded {auction : Auction} {top : TopBid} {endTime : Time}
      (hauction : records.auction = some auction) (hfree : records.registration = none)
      (hphase : auction.phase = .reveal) (hdue : auction.endTime ≤ setting.now)
      (htop : auction.topBid = some top)
      (hend : setting.now.after setting.params.renewalInterval = .ok endTime) :
      Stepped setting records
        { records with
          auction := none
          registration := some ⟨auction.name, top.bidder, endTime⟩
          bid := fun _ => none }
  | closedUnsold {auction : Auction}
      (hauction : records.auction = some auction) (hfree : records.registration = none)
      (hphase : auction.phase = .reveal) (hdue : auction.endTime ≤ setting.now)
      (htop : auction.topBid = none) :
      Stepped setting records { records with auction := none, bid := fun _ => none }
  | expired {registration : Registration}
      (hregistration : records.registration = some registration) (hnone : records.auction = none)
      (hdue : registration.endTime ≤ setting.now) :
      Stepped setting records { records with registration := none, resolution := fun _ => none }

/-! ### Commands -/

theorem id_of_ids {name : Name} {id child : NameId} (h : name.ids = .ok (id, child)) : name.id = .ok id := by
  rw [Name.ids] at h
  rw [Name.id]
  cases hparts : name.parts with
  | error defect =>
    rw [hparts] at h
    cases h
  | ok parts =>
    rw [hparts] at h
    exact congrArg (Except.map Prod.fst) h

/-- A command that succeeds is about a name that has an identifier. -/
theorem Handled.exists_id {command : Command} (h : Handled setting book command outcome) :
    ∃ id, command.name.id = .ok id := by
  cases h with
  | opened _ hid => exact ⟨_, hid⟩
  | bidPlaced hid => exact ⟨_, hid⟩
  | revealedTop hid => exact ⟨_, hid⟩
  | revealedBelow hid => exact ⟨_, hid⟩
  | renewed _ hid => exact ⟨_, hid⟩
  | ownerChanged hid => exact ⟨_, hid⟩
  | subNameSet hids => exact ⟨_, id_of_ids hids⟩
  | subNameCleared hids => exact ⟨_, id_of_ids hids⟩

/-- **A command leaves the records of other names alone.** -/
theorem Handled.records_eq {command : Command} (h : Handled setting book command outcome) {id other : NameId}
    (hname : command.name.id = .ok id) (hne : other ≠ id) :
    outcome.book.records other = book.records other := by
  have hown : ∀ {own : NameId}, command.name.id = .ok own → other ≠ own := by
    intro own howned
    rwa [← Except.ok.inj (hname.symm.trans howned)]
  cases h with
  | opened _ hid => simp [records, hown hid]
  | bidPlaced hid => simp [records, hown hid]
  | revealedTop hid => simp [records, hown hid]
  | revealedBelow hid => simp [records, hown hid]
  | renewed _ hid => simp [records, hown hid]
  | ownerChanged hid => simp [records, hown hid]
  | subNameSet hids => simp [records, hown (id_of_ids hids)]
  | subNameCleared hids => simp [records, hown (id_of_ids hids)]

/-- What a command preserves of the records of its own name holds of all names after it. -/
theorem Handled.forall_records {P : NameId → NameRecords → Prop} {command : Command}
    (h : Handled setting book command outcome) (hbook : ∀ id, P id (book.records id))
    (hown : ∀ id, command.name.id = .ok id → P id (outcome.book.records id)) (id : NameId) :
    P id (outcome.book.records id) := by
  obtain ⟨own, hname⟩ := h.exists_id
  by_cases heq : id = own
  · subst heq
    exact hown id hname
  · rw [h.records_eq hname heq]
    exact hbook id

/-! ### Handling one entry -/

theorem clear_resolutionSlots {id : NameId} {resolutions : List (NameId × Account)}
    (hlist : book.ResolutionsOf id resolutions) (child : NameId) :
    book.clear (resolutionSlots id resolutions) (.resolution id child) = none := by
  rw [clear]
  split
  · rfl
  · rename_i hslot
    by_contra hsome
    obtain ⟨account, haccount⟩ := Option.ne_none_iff_exists'.mp hsome
    have hmem : (child, account) ∈ resolutions := (hlist.mem_iff (child, account)).mpr haccount
    exact hslot (List.mem_flatMap.mpr ⟨_, hmem, List.mem_cons_self ..⟩)

theorem Stepped.of_eq {records after next : NameRecords} (h : Stepped setting records after)
    (heq : next = after) : Stepped setting records next := heq ▸ h

/-- **Handling an entry takes a step with its name.** -/
theorem Settled.stepped {kind : QueueKind} {due : Due} (hsane : book.Sane)
    (h : Settled setting (book.set (.queued kind due) none) kind due outcome)
    (hdue : due.time ≤ setting.now) :
    Stepped setting (book.records due.id) (outcome.book.records due.id) := by
  have hsigned : (book.set (.queued kind due) none).Signed :=
    hsane.signed.of_bids fun _ _ _ hbid => by simpa using hbid
  have hfree : ∀ {auction : Auction}, book.set (.queued kind due) none (.auction due.id) = some auction →
      book (.auction due.id) = some auction ∧ book (.registration due.id) = none := by
    intro auction hauction
    have hheld : book (.auction due.id) = some auction := by simpa using hauction
    exact ⟨hheld, hsane.apart due.id (by rw [hheld]; exact Option.some_ne_none _)⟩
  cases h with
  | revealStarted hauction hphase htime hbids hend =>
    obtain ⟨hauction, hfree⟩ := hfree hauction
    obtain ⟨bidder, bid, hbid⟩ := hbids
    have hheld : book (.bid due.id bidder) = some bid := by simpa using hbid
    have hstep : Stepped setting (book.records due.id) _ :=
      .revealStarted hauction hfree hphase (htime ▸ hdue) hheld hend
    exact hstep.of_eq (by simp [records])
  | closedEmpty hauction hphase htime hbids =>
    obtain ⟨hauction, hfree⟩ := hfree hauction
    have hnone : ∀ bidder, book (.bid due.id bidder) = none := fun bidder => by simpa using hbids bidder
    exact (Stepped.closedEmpty hauction hfree hphase (htime ▸ hdue) hnone).of_eq (by simp [records])
  | awarded hauction hphase htime htop hend hbids =>
    obtain ⟨hauction, hfree⟩ := hfree hauction
    have hgone := clear_bidSlots hsigned hbids
    have hstep : Stepped setting (book.records due.id) _ :=
      .awarded hauction hfree hphase (htime ▸ hdue) htop hend
    exact hstep.of_eq (by simpa [records, clear, bidSlots] using funext hgone)
  | closedUnsold hauction hphase htime htop hbids =>
    obtain ⟨hauction, hfree⟩ := hfree hauction
    have hgone := clear_bidSlots hsigned hbids
    have hstep : Stepped setting (book.records due.id) _ :=
      .closedUnsold hauction hfree hphase (htime ▸ hdue) htop
    exact hstep.of_eq (by simpa [records, clear, bidSlots] using funext hgone)
  | @expired _ registration resolutions hregistration htime hresolutions =>
    have hheld : book (.registration due.id) = some registration := by simpa using hregistration
    have hgone := clear_resolutionSlots hresolutions
    have hstep : Stepped setting (book.records due.id) _ :=
      .expired hheld (hsane.apart.auction_eq_none hheld) (htime ▸ hdue)
    exact hstep.of_eq (by simpa [records, clear, resolutionSlots] using funext hgone)

theorem Settled.records_eq {kind : QueueKind} {due : Due} {id : NameId} (hne : id ≠ due.id)
    (h : Settled setting (book.set (.queued kind due) none) kind due outcome) :
    outcome.book.records id = book.records id := by
  cases h with
  | revealStarted => simp [records, hne]
  | closedEmpty => simp [records, hne]
  | awarded => simp [records, clear, bidSlots, hne, hne.symm]
  | closedUnsold => simp [records, clear, bidSlots, hne, hne.symm]
  | expired => simp [records, clear, resolutionSlots, hne]

/-- What a step preserves holds of all names after an entry has been handled. -/
theorem Settled.forall_records {P : NameId → NameRecords → Prop} {kind : QueueKind} {due : Due}
    (hsane : book.Sane) (h : Settled setting (book.set (.queued kind due) none) kind due outcome)
    (hdue : due.time ≤ setting.now) (hbook : ∀ id, P id (book.records id))
    (hstep : ∀ id {records after}, P id records → Stepped setting records after → P id after) (id : NameId) :
    P id (outcome.book.records id) := by
  by_cases heq : id = due.id
  · subst heq
    exact hstep due.id (hbook due.id) (h.stepped hsane hdue)
  · rw [h.records_eq heq]
    exact hbook id

theorem Stepped.isDue {id : NameId} {after : NameRecords} (h : Stepped setting (book.records id) after) :
    book.IsDue setting.now id := by
  cases h with
  | revealStarted hauction _ _ hdue => exact ⟨_, _, waiting_of_auction hauction, hdue⟩
  | closedEmpty hauction _ _ hdue => exact ⟨_, _, waiting_of_auction hauction, hdue⟩
  | awarded hauction _ _ hdue => exact ⟨_, _, waiting_of_auction hauction, hdue⟩
  | closedUnsold hauction _ _ hdue => exact ⟨_, _, waiting_of_auction hauction, hdue⟩
  | expired hregistration hnone hdue => exact ⟨_, _, waiting_of_registration hnone hregistration, hdue⟩

abbrev Checked (setting : Setting) : Prop := setting.params.check = .ok ()

/-- **A name with which a step has been taken is not due any more.** -/
theorem Stepped.not_isDue {next : Book} {id : NameId} (hchecked : Checked setting)
    (h : Stepped setting (book.records id) (next.records id)) : ¬ next.IsDue setting.now id := by
  obtain ⟨-, hreveal, hrenewal⟩ := Params.periods_pos hchecked
  rintro ⟨kind, time, hwaiting, htime⟩
  generalize hafter : next.records id = after at h
  have hauction : next (.auction id) = after.auction := congrArg NameRecords.auction hafter
  have hregistration : next (.registration id) = after.registration :=
    congrArg NameRecords.registration hafter
  cases h with
  | revealStarted _ _ _ _ _ hend =>
    rw [waiting_of_auction hauction] at hwaiting
    obtain rfl := (Prod.mk.inj (Option.some.inj hwaiting)).2
    exact not_due_of_after hend hreveal htime
  | closedEmpty _ hfree =>
    rw [waiting_of_none hauction (hregistration.trans hfree)] at hwaiting
    cases hwaiting
  | awarded _ _ _ _ _ hend =>
    rw [waiting_of_registration hauction hregistration] at hwaiting
    obtain rfl := (Prod.mk.inj (Option.some.inj hwaiting)).2
    exact not_due_of_after hend hrenewal htime
  | closedUnsold _ hfree =>
    rw [waiting_of_none hauction (hregistration.trans hfree)] at hwaiting
    cases hwaiting
  | expired _ hnone =>
    rw [waiting_of_none (hauction.trans hnone) hregistration] at hwaiting
    cases hwaiting

/-! ### Nothing is due after a sweep -/

/-- Where a name is queued for later, what is due has been queued before. -/
theorem queued_of_set {kind other : QueueKind} {later entry : Due} {now : Time}
    (hlater : ¬ later.time ≤ now) (hentry : entry.time ≤ now)
    (hqueued : book.set (.queued kind later) (some ()) (.queued other entry) = some ()) :
    book (.queued other entry) = some () := by
  rw [set_queued] at hqueued
  split at hqueued
  · rename_i hnew
    rw [hnew.2] at hentry
    exact absurd hentry hlater
  · exact hqueued

/-- Handling an entry queues nothing that is due. -/
theorem Settled.queued_of_due {kind : QueueKind} {due : Due} (hchecked : Checked setting)
    (h : Settled setting book kind due outcome) {other : QueueKind} {entry : Due}
    (hqueued : outcome.book (.queued other entry) = some ()) (hentry : entry.time ≤ setting.now) :
    book (.queued other entry) = some () := by
  obtain ⟨-, hreveal, hrenewal⟩ := Params.periods_pos hchecked
  cases h with
  | revealStarted _ _ _ _ hend =>
    simpa using queued_of_set (not_due_of_after hend hreveal) hentry hqueued
  | closedEmpty => simpa using hqueued
  | awarded _ _ _ _ hend =>
    have hqueued := queued_of_set (not_due_of_after hend hrenewal) hentry
      (by simpa [clear, bidSlots] using hqueued)
    simpa using hqueued
  | closedUnsold => simpa [clear, bidSlots] using hqueued
  | expired => simpa [clear, resolutionSlots] using hqueued

def QueuesLater (setting : Setting) (book : Book) (outcome : Outcome) : Prop :=
  ∀ kind due, outcome.book (.queued kind due) = some () → due.time ≤ setting.now →
    book (.queued kind due) = some ()

theorem carried_queuesLater (hchecked : Checked setting) :
    Carried setting (fun _ => True) (QueuesLater setting) where
  start _ _ _ hqueued _ := hqueued
  andThen hfirst hsecond kind due hqueued hdue := hfirst kind due (hsecond kind due hqueued hdue) hdue
  settled _ _ _ hsettled := by
    refine ⟨?_, trivial⟩
    intro other entry hqueued hentry
    have hheld := hsettled.queued_of_due hchecked hqueued hentry
    rw [set_queued] at hheld
    split at hheld
    · cases hheld
    · exact hheld

/-- A pass takes the due entries off its queue and leaves the others. -/
theorem Passed.queued_eq {kind : QueueKind} {dues : List Due} (h : Passed setting kind book dues outcome)
    (other : Due) :
    outcome.book (.queued kind other) = if other ∈ dues then none else book (.queued kind other) := by
  induction h with
  | done book => rfl
  | @step book due rest first second _ _ hsettled _ ih =>
    have hfirst := hsettled.queued_eq other
    rw [set_queued] at hfirst
    rw [Outcome.andThen, ih, hfirst]
    by_cases hdue : other = due
    · simp [hdue]
    · simp [hdue]

theorem Passed.not_due {kind : QueueKind} {dues : List Due} (h : Passed setting kind book dues outcome)
    (hdues : book.DueNow kind setting.now dues) {due : Due}
    (hqueued : outcome.book (.queued kind due) = some ()) : ¬ due.time ≤ setting.now := by
  intro htime
  rw [h.queued_eq] at hqueued
  split at hqueued
  · cases hqueued
  · rename_i hnot
    exact hnot ((hdues.mem_iff due).mpr ⟨hqueued, htime, nofun⟩)

/-- **After a sweep nothing that is queued is due.** -/
theorem Swept.not_due (hchecked : Checked setting) (h : Swept setting book outcome) {kind : QueueKind}
    {due : Due} (hqueued : outcome.book (.queued kind due) = some ()) : ¬ due.time ≤ setting.now := by
  intro htime
  have hcarried := carried_queuesLater hchecked
  cases h with
  | passes hbids hfirst hreveals hsecond hends hthird =>
    have hafter₂ := (hthird.related hcarried trivial).1 kind due hqueued htime
    have hafter₁ := (hsecond.related hcarried trivial).1 kind due hafter₂ htime
    cases kind with
    | bid => exact hfirst.not_due hbids hafter₁ htime
    | reveal => exact hsecond.not_due hreveals hafter₂ htime
    | registration => exact hthird.not_due hends hqueued htime

/-! ### One step for every name that is due -/

/-- Every name has been left as it was, or one step has been taken with it. -/
def StepsOnce (setting : Setting) (book : Book) (outcome : Outcome) : Prop :=
  ∀ id, outcome.book.records id = book.records id ∨
    Stepped setting (book.records id) (outcome.book.records id)

theorem StepsOnce.andThen (hchecked : Checked setting) {first second : Outcome}
    (hfirst : StepsOnce setting book first) (hsecond : StepsOnce setting first.book second) :
    StepsOnce setting book (first.andThen second) := by
  intro id
  rw [Outcome.andThen]
  rcases hfirst id with hsame | hstep
  · rw [← hsame]
    exact hsecond id
  · rcases hsecond id with hsame | hagain
    · rw [hsame]
      exact .inr hstep
    · exact absurd hagain.isDue (hstep.not_isDue hchecked)

theorem carried_stepsOnce (hchecked : Checked setting) :
    Carried setting Book.Sane (StepsOnce setting) where
  start _ _ := .inl rfl
  andThen := .andThen hchecked
  settled {book kind due outcome} hsane hqueued hdue hsettled := by
    refine ⟨?_, hsane.settled hqueued hsettled⟩
    intro id
    by_cases heq : id = due.id
    · subst heq
      exact .inr (hsettled.stepped hsane hdue)
    · exact .inl (hsettled.records_eq heq)

/-- No name is due after a sweep. -/
theorem Swept.not_isDue (hchecked : Checked setting) (hsane : book.Sane) (h : Swept setting book outcome)
    (id : NameId) : ¬ outcome.book.IsDue setting.now id := by
  rintro ⟨kind, time, hwaiting, htime⟩
  have hqueued := ((h.sane hsane).paired kind time id).mpr hwaiting
  exact h.not_due hchecked hqueued htime

/-- **A sweep takes a step with every name that is due.** -/
theorem Swept.stepped (hchecked : Checked setting) (hsane : book.Sane) (h : Swept setting book outcome)
    {id : NameId} (hdue : book.IsDue setting.now id) :
    Stepped setting (book.records id) (outcome.book.records id) := by
  rcases (h.related (carried_stepsOnce hchecked) hsane).1 id with hsame | hstep
  · obtain ⟨kind, time, hwaiting, htime⟩ := hdue
    rw [← waiting_of_records_eq hsame] at hwaiting
    exact absurd ⟨kind, time, hwaiting, htime⟩ (h.not_isDue hchecked hsane id)
  · exact hstep

theorem Swept.records_eq (hchecked : Checked setting) (hsane : book.Sane) (h : Swept setting book outcome)
    {id : NameId} (hnot : ¬ book.IsDue setting.now id) :
    outcome.book.records id = book.records id := by
  rcases (h.related (carried_stepsOnce hchecked) hsane).1 id with hsame | hstep
  · exact hsame
  · exact absurd hstep.isDue hnot

end Registrar

end NameAuction
