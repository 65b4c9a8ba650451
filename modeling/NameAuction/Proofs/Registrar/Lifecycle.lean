import NameAuction.Proofs.Registrar.Backing
import NameAuction.Proofs.Registrar.ByName

/-!
# The life of a name

A name is free, in the bid phase or the reveal phase of its auction, or owned (`Standing`).  Opening an
auction takes a free name into a bid phase, renewing moves the end of an owned name away, and no other command
changes where a name stands (`Handled.opens`, `Handled.renews`, `Handled.stays`).  A sweep takes every name
whose time is over to the next place, and no name two places on (`Standing.swept`, `Swept.standing_eq`).
`Reachable.lifecycle` says this of every reachable registrar.
-/

namespace NameAuction

/-- Where a name stands, and in seconds until when. -/
inductive Standing
  | free
  | bidding (endTime : Nat)
  | revealing (endTime : Nat)
  | owned (endTime : Nat)
deriving DecidableEq

namespace Standing

def ofRecords : Option Auction → Option Registration → Standing
  | some auction, _ =>
    match auction.phase with
    | .bid => .bidding auction.endTime.toNat
    | .reveal => .revealing auction.endTime.toNat
  | none, some registration => .owned registration.endTime.toNat
  | none, none => .free

/-- Where a sweep takes a name: `hasBid` says that a bid on it is stored, and `hasTop` that its auction has a
top bid. -/
def swept (now : Time) (params : Params) (hasBid hasTop : Bool) : Standing → Standing
  | .free => .free
  | .bidding endTime =>
    if now.toNat < endTime then .bidding endTime
    else if hasBid then .revealing (now.toNat + params.revealPeriod.toNat)
    else .free
  | .revealing endTime =>
    if now.toNat < endTime then .revealing endTime
    else if hasTop then .owned (now.toNat + params.renewalInterval.toNat)
    else .free
  | .owned endTime => if now.toNat < endTime then .owned endTime else .free

end Standing

namespace Book

def standing (book : Book) (id : NameId) : Standing :=
  .ofRecords (book (.auction id)) (book (.registration id))

def hasTop (book : Book) (id : NameId) : Bool :=
  Option.any (fun auction => (Auction.topBid auction).isSome) (book (.auction id))

variable {book next : Book} {id : NameId}

theorem standing_congr (hauction : next (.auction id) = book (.auction id))
    (hregistration : next (.registration id) = book (.registration id)) :
    next.standing id = book.standing id := by
  rw [standing, standing, hauction, hregistration]

theorem standing_of_bidding {auction : Auction} (h : book (.auction id) = some auction)
    (hphase : auction.phase = .bid) : book.standing id = .bidding auction.endTime.toNat := by
  rw [standing, h, Standing.ofRecords, hphase]

theorem standing_of_revealing {auction : Auction} (h : book (.auction id) = some auction)
    (hphase : auction.phase = .reveal) : book.standing id = .revealing auction.endTime.toNat := by
  rw [standing, h, Standing.ofRecords, hphase]

theorem standing_of_owned {registration : Registration} (hauction : book (.auction id) = none)
    (h : book (.registration id) = some registration) :
    book.standing id = .owned registration.endTime.toNat := by
  rw [standing, hauction, h, Standing.ofRecords]

theorem hasTop_of_auction {auction : Auction} (h : book (.auction id) = some auction) :
    book.hasTop id = auction.topBid.isSome := by
  rw [hasTop, h]
  rfl

theorem standing_of_free (hauction : book (.auction id) = none)
    (hregistration : book (.registration id) = none) : book.standing id = .free := by
  rw [standing, hauction, hregistration, Standing.ofRecords]

end Book

namespace Registrar

open Book

variable {setting : Setting} {book : Book} {outcome : Outcome} {id : NameId}

/-! ### Commands -/

/-- **Opening an auction** takes a free name into a bid phase. -/
theorem Handled.opens {name : Name} {organizer : Account}
    (h : Handled setting book (.openAuction name organizer) outcome) :
    ∃ id, name.id = .ok id ∧ book.standing id = .free ∧
      outcome.book.standing id = .bidding (setting.now.toNat + setting.params.bidPeriod.toNat) ∧
      ∀ other, other ≠ id → outcome.book.standing other = book.standing other := by
  cases h with
  | @opened _ _ parts id endTime _ hid _ _ hfree hnew hend =>
    refine ⟨id, hid, standing_of_free hnew hfree, ?_, ?_⟩
    · rw [← Time.after_eq_ok hend]
      exact standing_of_bidding (show _ = some (Auction.opened name endTime) by simp) rfl
    · intro other hne
      exact standing_congr (by simp [hne]) (by simp)

/-- **Renewing** moves the end of an owned name away. -/
theorem Handled.renews {name : Name} {fee : Bundle} {owner : Account} (hapart : book.Apart)
    (h : Handled setting book (.renew name fee owner) outcome) :
    ∃ id endTime later, name.id = .ok id ∧ book.standing id = .owned endTime ∧
      outcome.book.standing id = .owned later ∧ endTime ≤ later ∧
      ∀ other, other ≠ id → outcome.book.standing other = book.standing other := by
  cases h with
  | @renewed _ _ _ parts id registration extension endTime _ hid hregistration _ _ hend =>
    have hauction : book (.auction id) = none := hapart.auction_eq_none hregistration
    refine ⟨id, registration.endTime.toNat, endTime.toNat, hid, standing_of_owned hauction hregistration,
      ?_, ?_, ?_⟩
    · exact standing_of_owned (by simpa using hauction)
        (show _ = some { registration with endTime := endTime } by simp)
    · have hsum := Time.after_eq_ok hend
      omega
    · intro other hne
      exact standing_congr (by simp) (by simp [hne])

/-- **No other command** changes where a name stands. -/
theorem Handled.stays {command : Command} (hopen : ∀ name organizer, command ≠ .openAuction name organizer)
    (hrenew : ∀ name fee owner, command ≠ .renew name fee owner)
    (h : Handled setting book command outcome) (id : NameId) :
    outcome.book.standing id = book.standing id := by
  cases h with
  | opened => exact absurd rfl (hopen _ _)
  | renewed => exact absurd rfl (hrenew _ _ _)
  | bidPlaced => exact standing_congr (by simp) (by simp)
  | @revealedTop name salt amount bidder own auction bid surplus _ hauction hphase =>
    by_cases heq : id = own
    · subst heq
      rw [standing_of_revealing hauction hphase, standing]
      simp [Standing.ofRecords, hphase]
    · exact standing_congr (by simp [heq]) (by simp)
  | @revealedBelow name salt amount bidder own auction bid _ hauction =>
    by_cases heq : id = own
    · subst heq
      exact standing_congr (by simp [hauction]) (by simp)
    · exact standing_congr (by simp [heq]) (by simp)
  | @ownerChanged name newOwner owner own registration _ hregistration =>
    by_cases heq : id = own
    · subst heq
      rw [standing, standing, hregistration]
      cases hauction : book (.auction id) with
      | none => simp [hauction, Standing.ofRecords]
      | some auction => simp [hauction, Standing.ofRecords]
    · exact standing_congr (by simp) (by simp [heq])
  | subNameSet => exact standing_congr (by simp) (by simp)
  | subNameCleared => exact standing_congr (by simp) (by simp)

theorem Handled.keeps_revealing {command : Command} {endTime : Nat} (hapart : book.Apart)
    (h : Handled setting book command outcome) (hrevealing : book.standing id = .revealing endTime) :
    outcome.book.standing id = .revealing endTime := by
  have hothers : ∀ {own : NameId}, book.standing own ≠ .revealing endTime → id ≠ own := by
    rintro own hown rfl
    exact hown hrevealing
  by_cases hopen : ∃ name organizer, command = .openAuction name organizer
  · obtain ⟨name, organizer, rfl⟩ := hopen
    obtain ⟨own, -, hfree, -, hkept⟩ := h.opens
    rw [hkept id (hothers (by rw [hfree]; exact nofun)), hrevealing]
  · by_cases hrenew : ∃ name fee owner, command = .renew name fee owner
    · obtain ⟨name, fee, owner, rfl⟩ := hrenew
      obtain ⟨own, endTime', later, -, howned, -, -, hkept⟩ := h.renews hapart
      rw [hkept id (hothers (by rw [howned]; exact nofun)), hrevealing]
    · refine (h.stays ?_ ?_ id).trans hrevealing
      · exact fun name organizer heq => hopen ⟨name, organizer, heq⟩
      · exact fun name fee owner heq => hrenew ⟨name, fee, owner, heq⟩

/-! ### Sweeps -/

/-- A step takes a name to where the sweep takes it. -/
theorem Stepped.standing_eq {next : Book} {hasBid : Bool}
    (hbids : hasBid = true ↔ ∃ (bidder : Account) (bid : Bid), book (.bid id bidder) = some bid)
    (h : Stepped setting (book.records id) (next.records id)) :
    next.standing id =
      (book.standing id).swept setting.now setting.params hasBid (book.hasTop id) := by
  generalize hafter : next.records id = after at h
  have hauction' : next (.auction id) = after.auction := congrArg NameRecords.auction hafter
  have hregistration' : next (.registration id) = after.registration :=
    congrArg NameRecords.registration hafter
  cases h with
  | @revealStarted auction endTime bidder bid hauction _ hphase hdue hbid hend =>
    have hauction : book (.auction id) = some auction := hauction
    have hnot : ¬ setting.now.toNat < auction.endTime.toNat := Nat.not_lt.mpr hdue
    rw [standing_of_revealing hauction' rfl, standing_of_bidding hauction hphase, Standing.swept,
      if_neg hnot, if_pos (hbids.mpr ⟨bidder, bid, hbid⟩), ← Time.after_eq_ok hend]
  | @closedEmpty auction hauction hfree hphase hdue hbids' =>
    have hauction : book (.auction id) = some auction := hauction
    have hnot : ¬ setting.now.toNat < auction.endTime.toNat := Nat.not_lt.mpr hdue
    have hempty : ¬ hasBid = true := by
      intro htrue
      obtain ⟨bidder, bid, hbid⟩ := hbids.mp htrue
      have hnone : book (.bid id bidder) = none := hbids' bidder
      rw [hbid] at hnone
      cases hnone
    rw [standing_of_free hauction' (hregistration'.trans hfree), standing_of_bidding hauction hphase,
      Standing.swept, if_neg hnot, if_neg hempty]
  | @awarded auction top endTime hauction _ hphase hdue htop hend =>
    have hauction : book (.auction id) = some auction := hauction
    have hnot : ¬ setting.now.toNat < auction.endTime.toNat := Nat.not_lt.mpr hdue
    have hhas : book.hasTop id = true := by rw [hasTop_of_auction hauction, htop]; rfl
    rw [standing_of_owned hauction' hregistration', standing_of_revealing hauction hphase,
      Standing.swept, if_neg hnot, if_pos hhas, ← Time.after_eq_ok hend]
  | @closedUnsold auction hauction hfree hphase hdue htop =>
    have hauction : book (.auction id) = some auction := hauction
    have hnot : ¬ setting.now.toNat < auction.endTime.toNat := Nat.not_lt.mpr hdue
    have hhas : ¬ book.hasTop id = true := by rw [hasTop_of_auction hauction, htop]; exact nofun
    rw [standing_of_free hauction' (hregistration'.trans hfree), standing_of_revealing hauction hphase,
      Standing.swept, if_neg hnot, if_neg hhas]
  | @expired registration hregistration hnone hdue =>
    have hregistration : book (.registration id) = some registration := hregistration
    have hnot : ¬ setting.now.toNat < registration.endTime.toNat := Nat.not_lt.mpr hdue
    rw [standing_of_free (hauction'.trans hnone) hregistration', standing_of_owned hnone hregistration,
      Standing.swept, if_neg hnot]

theorem swept_standing_of_not_isDue {params : Params} {now : Time} (hnot : ¬ book.IsDue now id)
    (hasBid hasTop : Bool) :
    (book.standing id).swept now params hasBid hasTop = book.standing id := by
  have hlater : ∀ {kind time}, book.waiting id = some (kind, time) → now.toNat < Word.toNat time :=
    fun hwaiting => Nat.lt_of_not_le fun hle => hnot ⟨_, _, hwaiting, hle⟩
  cases hauction : book (.auction id) with
  | some auction =>
    have hlt := hlater (waiting_of_auction hauction)
    cases hphase : Auction.phase auction with
    | bid => rw [standing_of_bidding hauction hphase, Standing.swept, if_pos hlt]
    | reveal => rw [standing_of_revealing hauction hphase, Standing.swept, if_pos hlt]
  | none =>
    cases hregistration : book (.registration id) with
    | some registration =>
      have hlt := hlater (waiting_of_registration hauction hregistration)
      rw [standing_of_owned hauction hregistration, Standing.swept, if_pos hlt]
    | none => rw [standing_of_free hauction hregistration, Standing.swept]

/-- **Where a sweep takes the names.** -/
theorem Swept.standing_eq (hchecked : Checked setting) (hsane : book.Sane)
    (h : Swept setting book outcome) {hasBid : Bool}
    (hbids : hasBid = true ↔ ∃ (bidder : Account) (bid : Bid), book (.bid id bidder) = some bid) :
    outcome.book.standing id =
      (book.standing id).swept setting.now setting.params hasBid (book.hasTop id) := by
  by_cases hdue : book.IsDue setting.now id
  · exact (h.stepped hchecked hsane hdue).standing_eq hbids
  · have hsame := h.records_eq hchecked hsane hdue
    rw [swept_standing_of_not_isDue hdue]
    exact standing_congr (congrArg NameRecords.auction hsame) (congrArg NameRecords.registration hsame)

/-! ### Reachable registrars -/

def standing (registrar : Registrar) (id : NameId) : Except Fault Standing := do
  return .ofRecords (← registrar.store.auction? id) (← registrar.store.registration? id)

def sweptStanding (registrar : Registrar) (now : Time) (id : NameId) : Except Fault Standing := do
  let standing ← registrar.standing id
  let auction ← registrar.store.auction? id
  let hasTop := auction.any fun auction => auction.topBid.isSome
  return standing.swept now registrar.params (registrar.store.hasBids id) hasTop

variable {registrar next : Registrar}

theorem Sound.standing_eq (h : registrar.Sound book) (id : NameId) :
    registrar.standing id = .ok (book.standing id) := by
  rw [standing, h.keeps.auction?, h.keeps.registration?]
  rfl

theorem Sound.sweptStanding_eq (h : registrar.Sound book) (now : Time) (id : NameId) :
    registrar.sweptStanding now id = .ok ((book.standing id).swept now registrar.params
      (registrar.store.hasBids id) (book.hasTop id)) := by
  rw [sweptStanding, h.standing_eq, h.keeps.auction?]
  rfl

theorem Sound.swept_standing (h : registrar.Sound book) {now : Time}
    (hswept : Swept (registrar.setting now) book outcome) (id : NameId) :
    .ok (outcome.book.standing id) = registrar.sweptStanding now id := by
  have hstanding := hswept.standing_eq h.checked h.sane (h.keeps.hasBids_iff id)
  rw [h.sweptStanding_eq, hstanding]
  rfl

/-- A sweep before the end of a reveal phase does not end it. -/
theorem Sound.swept_revealing {endTime : Nat} (h : registrar.Sound book) {now : Time}
    (hswept : Swept (registrar.setting now) book outcome)
    (hrevealing : book.standing id = .revealing endTime) (hbefore : now.toNat < endTime) :
    outcome.book.standing id = .revealing endTime := by
  have hstanding := hswept.standing_eq h.checked h.sane (h.keeps.hasBids_iff id)
  rw [hstanding, hrevealing]
  exact if_pos hbefore

/-- **A reveal phase lasts until a sweep comes after its end**, whatever calls are made before. -/
theorem Sound.stays_revealing {endTime : Nat} (h : registrar.Sound book)
    (hrevealing : book.standing id = .revealing endTime) {calls : List Call}
    (hbefore : ∀ now, .endBlock now ∈ calls → now.toNat < endTime) :
    (registrar.afterAll calls).standing id = .ok (.revealing endTime) := by
  induction calls generalizing registrar book with
  | nil => exact (h.standing_eq id).trans (congrArg Except.ok hrevealing)
  | cons call rest ih =>
    obtain ⟨mid, hmid, hkept⟩ := h.after_of (fun book => book.standing id = .revealing endTime)
      hrevealing call
      (fun _ _ _ _ _ hhandled => hhandled.keeps_revealing h.sane.apart hrevealing)
      fun now _ hcall hswept => h.swept_revealing hswept hrevealing
        (hbefore now (hcall ▸ List.mem_cons_self ..))
    exact ih hmid hkept fun now hmem => hbefore now (List.mem_cons_of_mem _ hmem)

/-- **The life of names in a reachable registrar.**  Every name stands somewhere.  An auction is opened for a
free name only, and takes it to a bid phase; renewing takes an owned name to an end that is not earlier; no
other command that succeeds changes where a name stands.  A sweep takes every name to the next place or leaves
it (`Standing.swept`), and a name that it takes to a reveal phase stays there, whatever is called, until a
sweep comes after the whole reveal period. -/
theorem Reachable.lifecycle (h : Reachable registrar) :
    (∀ id, ∃ standing, registrar.standing id = .ok standing) ∧
    (∀ now name organizer events next,
      registrar.deliver now (.openAuction name organizer) = (.ok events, next) →
      ∃ id, name.id = .ok id ∧ registrar.standing id = .ok .free ∧
        next.standing id = .ok (.bidding (now.toNat + registrar.params.bidPeriod.toNat)) ∧
        ∀ other, other ≠ id → next.standing other = registrar.standing other) ∧
    (∀ now name fee owner events next,
      registrar.deliver now (.renew name fee owner) = (.ok events, next) →
      ∃ id endTime later, name.id = .ok id ∧ registrar.standing id = .ok (.owned endTime) ∧
        next.standing id = .ok (.owned later) ∧ endTime ≤ later ∧
        ∀ other, other ≠ id → next.standing other = registrar.standing other) ∧
    (∀ now command events next, (∀ name organizer, command ≠ .openAuction name organizer) →
      (∀ name fee owner, command ≠ .renew name fee owner) →
      registrar.deliver now command = (.ok events, next) →
      ∀ id, next.standing id = registrar.standing id) ∧
    ∀ now events next, registrar.endBlock now = (.ok events, next) →
      (∀ id, next.standing id = registrar.sweptStanding now id) ∧
      ∀ id endTime, registrar.standing id = .ok (.bidding endTime) → endTime ≤ now.toNat →
        registrar.store.hasBids id = true →
        ∀ calls, (∀ later, .endBlock later ∈ calls →
          later.toNat < now.toNat + registrar.params.revealPeriod.toNat) →
        (next.afterAll calls).standing id =
          .ok (.revealing (now.toNat + registrar.params.revealPeriod.toNat)) := by
  obtain ⟨book, hsound⟩ := h.sound
  refine ⟨fun id => ⟨_, hsound.standing_eq id⟩, ?_, ?_, ?_, ?_⟩
  · intro now name organizer events next hok
    obtain ⟨outcome, -, hhandled, -, -, hnext⟩ := hsound.deliver_ok hok
    obtain ⟨id, hid, hfree, hbidding, hothers⟩ := hhandled.opens
    simp only [hsound.standing_eq, hnext.standing_eq]
    exact ⟨id, hid, congrArg _ hfree, congrArg _ hbidding, fun other hne => congrArg _ (hothers other hne)⟩
  · intro now name fee owner events next hok
    obtain ⟨outcome, -, hhandled, -, -, hnext⟩ := hsound.deliver_ok hok
    obtain ⟨id, endTime, later, hid, howned, hlater, hle, hothers⟩ := hhandled.renews hsound.sane.apart
    simp only [hsound.standing_eq, hnext.standing_eq]
    exact ⟨id, endTime, later, hid, congrArg _ howned, congrArg _ hlater, hle,
      fun other hne => congrArg _ (hothers other hne)⟩
  · intro now command events next hopen hrenew hok id
    obtain ⟨outcome, -, hhandled, -, -, hnext⟩ := hsound.deliver_ok hok
    rw [hsound.standing_eq, hnext.standing_eq, hhandled.stays hopen hrenew]
  · intro now events next hok
    obtain ⟨outcome, hswept, -, -, hnext⟩ := hsound.endBlock_ok hok
    refine ⟨?_, ?_⟩
    · intro id
      rw [hnext.standing_eq, hsound.swept_standing hswept]
    · intro id endTime hbidding hdue hbids calls hbefore
      rw [hsound.standing_eq] at hbidding
      have hrevealing := hsound.swept_standing hswept id
      rw [hsound.sweptStanding_eq, Except.ok.inj hbidding, Standing.swept,
        if_neg (Nat.not_lt.mpr hdue), if_pos hbids] at hrevealing
      exact hnext.stays_revealing (Except.ok.inj hrevealing) hbefore

theorem lifecycle_firstRun :
    ∃ id events next, Name.id ⟨"label.terra"⟩ = .ok id ∧
      (standard.afterAll firstRun).endBlock (moment 200000) = (.ok events, next) ∧
      next.standing id = .ok (.revealing 459200) := by
  have hreachable : Reachable (standard.afterAll firstRun) := reachable_standard.calledAll _
  have hok : ((standard.afterAll firstRun).endBlock (moment 200000)).1.isOk = true := by decide +kernel
  obtain ⟨events, hswept⟩ := exists_events_of_isOk hok
  refine ⟨_, events, _, rfl, hswept, ?_⟩
  rw [(hreachable.lifecycle.2.2.2.2 _ _ _ hswept).1]
  decide +kernel

end Registrar

end NameAuction
