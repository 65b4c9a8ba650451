import NameAuction.Proofs.Registrar.ByName

/-!
# Proper records

The records of a name are proper if its auction and its registration are held under the identifier of their
own name, which is a proper name of two levels, and if an auction in its reveal phase has a top bid or a bid
that is still to be revealed (`NameRecords.Proper`).  A registration takes its name from the auction that it
was won in, and an auction from the command that opened it, so what is true of the names of opened auctions
stays true of all names on record (`Handled.named_own`, `Stepped.named`).  Commands and sweeps keep the records
of all names proper (`lasting_proper`).
-/

namespace NameAuction

structure Name.SecondLevel (name : Name) (id : NameId) : Prop where
  check_eq : name.check = .ok ()
  levels_eq : name.levels = 2
  id_eq : name.id = .ok id

theorem Command.secondLevel_of_check {name : Name} {organizer : Account} {id : NameId}
    (h : (Command.openAuction name organizer).check = .ok ()) (hid : name.id = .ok id) :
    name.SecondLevel id := by
  obtain ⟨u, hname, -⟩ := Except.bind_eq_ok_iff.mp h
  obtain ⟨hcheck, hlevels⟩ := Name.check_of_checkLevels hname
  exact ⟨hcheck, List.mem_singleton.mp hlevels, hid⟩

/-- The records of a name are held under its identifier, and a reveal phase is about something. -/
structure NameRecords.Proper (id : NameId) (records : NameRecords) : Prop where
  auction : ∀ auction, records.auction = some auction → auction.name.SecondLevel id
  registration : ∀ registration, records.registration = some registration →
    registration.name.SecondLevel id
  contested : ∀ auction, records.auction = some auction → auction.phase = .reveal →
    auction.topBid = none → ∃ bidder bid, records.bid bidder = some bid

def Book.Proper (book : Book) : Prop := ∀ id, (book.records id).Proper id

namespace NameRecords

structure Named (p : Name → Prop) (records : NameRecords) : Prop where
  auction : ∀ auction, records.auction = some auction → p auction.name
  registration : ∀ registration, records.registration = some registration → p registration.name

/-- An auction in its reveal phase has a top bid or a bid that is still to be revealed. -/
def Contested (records : NameRecords) : Prop :=
  ∀ auction, records.auction = some auction → auction.phase = .reveal → auction.topBid = none →
    ∃ bidder bid, records.bid bidder = some bid

theorem Proper.named {id : NameId} {records : NameRecords} (h : records.Proper id) :
    records.Named fun name => name.SecondLevel id := ⟨h.auction, h.registration⟩

variable {p : Name → Prop} {records after : NameRecords}

theorem Named.of_auction (h : records.Named p) (hregistration : after.registration = records.registration)
    {auction : Auction} (hauction : after.auction = some auction) (hname : p auction.name) : after.Named p where
  auction later hlater := by
    obtain rfl := Option.some.inj (hauction.symm.trans hlater)
    exact hname
  registration := hregistration ▸ h.registration

theorem Named.of_registration (h : records.Named p) (hauction : after.auction = records.auction)
    {registration : Registration} (hregistration : after.registration = some registration)
    (hname : p registration.name) : after.Named p where
  auction := hauction ▸ h.auction
  registration later hlater := by
    obtain rfl := Option.some.inj (hregistration.symm.trans hlater)
    exact hname

end NameRecords

namespace Registrar

open Book

variable {setting : Setting} {book : Book} {outcome : Outcome} {id : NameId}

theorem topBid_ne_none_of_not_leads {auction : Auction} {amount : Coin}
    (h : leads auction amount = false) : auction.topBid ≠ none := by
  intro hnone
  rw [leads, hnone] at h
  cases h

/-! ### Commands -/

/-- **A command keeps what is true of the names on record**, if it is true of the name of an auction that it
opens. -/
theorem Handled.named_own {p : Name → Prop} {command : Command}
    (hhandled : Handled setting book command outcome) (hname : command.name.id = .ok id)
    (hopens : ∀ name organizer, command = .openAuction name organizer → p name)
    (h : (book.records id).Named p) : (outcome.book.records id).Named p := by
  have hown : ∀ {own : NameId}, command.name.id = .ok own → own = id := fun hid =>
    Except.ok.inj (hid.symm.trans hname)
  cases hhandled with
  | opened _ hid =>
    obtain rfl := hown hid
    simp only [records_set_queued, records_set_auction]
    exact h.of_auction rfl rfl (hopens _ _ rfl)
  | bidPlaced hid =>
    obtain rfl := hown hid
    simp only [records_set_bid]
    exact ⟨h.auction, h.registration⟩
  | @revealedTop _ _ _ _ _ auction _ _ hid hauction =>
    obtain rfl := hown hid
    simp only [records_set_auction, records_set_bid]
    exact h.of_auction rfl rfl (h.auction auction hauction)
  | @revealedBelow _ _ _ _ _ auction _ hid hauction =>
    obtain rfl := hown hid
    simp only [records_set_auction, records_set_bid]
    exact h.of_auction rfl rfl (h.auction auction hauction)
  | @renewed _ _ _ _ _ before _ _ _ hid hbefore =>
    obtain rfl := hown hid
    simp only [records_set_queued, records_set_registration]
    exact h.of_registration rfl rfl (h.registration before hbefore)
  | @ownerChanged _ _ _ _ before hid hbefore =>
    obtain rfl := hown hid
    simp only [records_set_registration]
    exact h.of_registration rfl rfl (h.registration before hbefore)
  | subNameSet hids =>
    obtain rfl := hown (id_of_ids hids)
    simp only [records_set_reverse, records_set_resolution]
    exact ⟨h.auction, h.registration⟩
  | subNameCleared hids =>
    obtain rfl := hown (id_of_ids hids)
    simp only [records_set_reverse, records_set_resolution]
    exact ⟨h.auction, h.registration⟩

theorem Handled.contested_own {command : Command} (hhandled : Handled setting book command outcome)
    (hname : command.name.id = .ok id) (h : (book.records id).Contested) :
    (outcome.book.records id).Contested := by
  have hown : ∀ {own : NameId}, command.name.id = .ok own → own = id := fun hid =>
    Except.ok.inj (hid.symm.trans hname)
  cases hhandled with
  | opened _ hid =>
    obtain rfl := hown hid
    simp only [records_set_queued, records_set_auction]
    intro auction hauction hphase
    obtain rfl := Option.some.inj hauction
    cases hphase
  | @bidPlaced _ _ _ bidder _ _ _ hid =>
    obtain rfl := hown hid
    simp only [records_set_bid]
    intro _ _ _ _
    exact ⟨bidder, _, Function.update_self ..⟩
  | revealedTop hid =>
    obtain rfl := hown hid
    simp only [records_set_auction, records_set_bid]
    intro later hlater _ htop
    obtain rfl := Option.some.inj hlater
    cases htop
  | revealedBelow hid _ _ _ _ _ hleads =>
    obtain rfl := hown hid
    simp only [records_set_auction, records_set_bid]
    intro later hlater _ htop
    obtain rfl := Option.some.inj hlater
    exact absurd htop (topBid_ne_none_of_not_leads hleads)
  | renewed _ hid =>
    obtain rfl := hown hid
    simp only [records_set_queued, records_set_registration]
    exact h
  | ownerChanged hid =>
    obtain rfl := hown hid
    simp only [records_set_registration]
    exact h
  | subNameSet hids =>
    obtain rfl := hown (id_of_ids hids)
    simp only [records_set_reverse, records_set_resolution]
    exact h
  | subNameCleared hids =>
    obtain rfl := hown (id_of_ids hids)
    simp only [records_set_reverse, records_set_resolution]
    exact h

theorem Handled.proper_own {command : Command} (hcheck : command.check = .ok ())
    (hhandled : Handled setting book command outcome) (hname : command.name.id = .ok id)
    (h : (book.records id).Proper id) : (outcome.book.records id).Proper id := by
  have hnamed := hhandled.named_own hname (fun name organizer hcommand => by
    subst hcommand
    exact Command.secondLevel_of_check hcheck hname) h.named
  exact ⟨hnamed.auction, hnamed.registration, hhandled.contested_own hname h.contested⟩

/-- **A command keeps the records proper.** -/
theorem Handled.proper {command : Command} (hcheck : command.check = .ok ())
    (hhandled : Handled setting book command outcome) (h : book.Proper) : outcome.book.Proper :=
  hhandled.forall_records h fun id hname => hhandled.proper_own hcheck hname (h id)

/-! ### Sweeps -/

theorem Stepped.named {p : Name → Prop} {records after : NameRecords} (h : records.Named p)
    (hstep : Stepped setting records after) : after.Named p := by
  cases hstep with
  | @revealStarted auction _ _ _ hauction => exact h.of_auction rfl rfl (h.auction auction hauction)
  | closedEmpty => exact ⟨nofun, h.registration⟩
  | @awarded auction _ _ hauction =>
    refine ⟨nofun, ?_⟩
    intro registration hregistration
    obtain rfl := Option.some.inj hregistration
    exact h.auction auction hauction
  | closedUnsold => exact ⟨nofun, h.registration⟩
  | expired => exact ⟨h.auction, nofun⟩

/-- **A step keeps the records proper.** -/
theorem Stepped.proper {records after : NameRecords} (h : records.Proper id)
    (hstep : Stepped setting records after) : after.Proper id := by
  have hnamed := hstep.named h.named
  refine ⟨hnamed.auction, hnamed.registration, ?_⟩
  cases hstep with
  | @revealStarted _ _ bidder bid _ _ _ _ hbid => exact fun _ _ _ _ => ⟨bidder, bid, hbid⟩
  | closedEmpty => exact nofun
  | awarded => exact nofun
  | closedUnsold => exact nofun
  | expired => exact h.contested

theorem lasting_proper : Lasting Book.Proper where
  handled _ hproper hcheck hhandled := hhandled.proper hcheck hproper
  settled hsane hproper hdue hsettled :=
    hsettled.forall_records hsane hdue hproper fun _ {_ _} hrecords hstep => hstep.proper hrecords

theorem proper_blank : Book.blank.Proper := fun _ => ⟨nofun, nofun, nofun⟩

end Registrar

end NameAuction
