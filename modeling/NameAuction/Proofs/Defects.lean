import NameAuction.Proofs.Genesis.Export
import NameAuction.Proofs.Renewal
import NameAuction.Query

/-!
# Checks and readings meet no defect

A defect stands for a promise that is kept elsewhere: a name is cut into levels only after its levels have been
counted (`Name.exists_parts`), a price divides only after the parameters have been checked
(`Params.price_ne_zero`), and the rates that divide a conversion are positive (`Rate.denominator_ne_zero`).  So
no query, no check of a genesis and no price of a renewal ends with a defect, whatever is in the store; what a reading of the store can find are broken bytes (`Fault.OfReading`).
-/

namespace NameAuction

/-- Faults that are no defects. -/
def Fault.Regular : Fault → Prop
  | .defect _ => False
  | .price (.defect _) => False
  | _ => True

/-- Faults that reading a store can have: bytes or a key that no write has left. -/
def Fault.OfReading : Fault → Prop
  | .id _ => True
  | .codec => True
  | .corrupt _ => True
  | _ => False

theorem Fault.OfReading.regular {fault : Fault} (h : fault.OfReading) : fault.Regular := by
  cases fault <;> trivial

theorem Fault.OfCheck.regular {fault : Fault} (h : fault.OfCheck) : fault.Regular := by
  cases fault <;> trivial

/-- A part that is known to pass has no fault, whatever its faults would be. -/
theorem Fault.Within.sure {α ε : Type} {may : Fault → Prop} {wrap : ε → Fault} {check : Except ε α}
    {value : α} (h : check = .ok value) : Within may (Fault.lift wrap check) := by
  rw [h]
  exact ok value

open Fault

/-! ### Names -/

/-- **A name of two or three levels can be cut.** -/
theorem Name.exists_parts {name : Name} (h : name.levels = 2 ∨ name.levels = 3) :
    ∃ parts, name.parts = .ok parts := by
  rw [levels, List.length_eq_two, List.length_eq_three] at h
  obtain ⟨parent, root, hlabels⟩ | ⟨child, parent, root, hlabels⟩ := h
  · exact ⟨⟨root, parent, ""⟩, by rw [parts, hlabels]⟩
  · exact ⟨⟨root, parent, child⟩, by rw [parts, hlabels]⟩

theorem Name.exists_parts_of_checkLevels {name : Name} {allowed : List Nat} {flaw : NameFlaw}
    (hallowed : ∀ levels ∈ allowed, levels = 2 ∨ levels = 3)
    (h : name.checkLevels allowed flaw = .ok ()) : ∃ parts, name.parts = .ok parts :=
  exists_parts (hallowed _ (check_of_checkLevels h).2)

theorem Name.id_of_parts {name : Name} {parts : Parts} (h : name.parts = .ok parts) :
    name.id = .ok (.ofText parts.secondLevel) := by
  rw [id, h]
  rfl

theorem Name.ids_of_parts {name : Name} {parts : Parts} (h : name.parts = .ok parts) :
    name.ids = .ok (.ofText parts.secondLevel, .ofText parts.child) := by
  rw [ids, h]
  rfl

theorem Command.exists_parts {command : Command} (h : command.check = .ok ()) :
    ∃ parts, command.name.parts = .ok parts := by
  cases command <;>
    (obtain ⟨u, hname, -⟩ := Except.bind_eq_ok_iff.mp h
     exact Name.exists_parts_of_checkLevels (by simp) hname)

/-! ### Reading a store -/

namespace Store

variable (store : Store)

theorem decode_within {α : Type} [Layout α] (bytes : Bytes) :
    Within OfReading (decode bytes : Except Fault α) := .demand trivial

theorem record?_within {α : Type} [Layout α] (key : Bytes) :
    Within OfReading (store.record? key : Except Fault (Option α)) := by
  unfold record?
  split
  · exact (decode_within _).map some
  · exact .ok none

theorem ofBytes_within {kind : IdKind} (bytes : Bytes) :
    Within OfReading (Fault.lift .id (Id.ofBytes bytes : Except IdFault (Id kind))) :=
  .lift (fun _ => trivial) _

theorem id?_within {kind : IdKind} (key : Bytes) :
    Within OfReading (store.id? key : Except Fault (Option (Id kind))) := by
  unfold id?
  split
  · exact (ofBytes_within _).bind fun _ _ => .ok _
  · exact .ok none

theorem split_within {kind : IdKind} (shape : Key.Shape) (region : UInt8) (key : Bytes) :
    Within OfReading (Key.split shape region key : Except Fault (NameId × Id kind)) :=
  .bind (.ensure trivial) fun _ _ => .bind (ofBytes_within _) fun _ _ =>
    .bind (ofBytes_within _) fun _ _ => .ok _

theorem recordsIn_within {α : Type} [Layout α] (region : UInt8) :
    Within OfReading (store.recordsIn region : Except Fault (List (NameId × α))) :=
  .mapM (fun _ => .bind (ofBytes_within _) fun _ _ => .bind (decode_within _) fun _ _ => .ok _) _

theorem bidsOn_within (id : NameId) : Within OfReading (store.bidsOn id) :=
  .mapM (fun _ => decode_within _) _

theorem bids_within : Within OfReading store.bids :=
  .mapM (fun _ => .bind (split_within _ _ _) fun _ _ => .bind (decode_within _) fun _ _ => .ok _) _

theorem resolutionsOf_within (id : NameId) : Within OfReading (store.resolutionsOf id) :=
  .mapM (fun _ => .bind (split_within _ _ _) fun _ _ => .bind (ofBytes_within _) fun _ _ => .ok _) _

theorem resolutions_within : Within OfReading store.resolutions :=
  .mapM (fun _ => .bind (split_within _ _ _) fun _ _ => .bind (ofBytes_within _) fun _ _ => .ok _) _

theorem ofKey_within (key : Bytes) : Within OfReading (Queue.ofKey key) :=
  .bind (.ensure trivial) fun _ _ => .bind (.demand trivial) fun _ _ =>
    .bind (ofBytes_within _) fun _ _ => .ok _

theorem firstDueIn_within (span : Span) : Within OfReading (store.firstDueIn span) := by
  unfold firstDueIn
  split
  · exact .ok none
  · exact (ofKey_within _).map some

theorem range_of_firstDueIn {store : Store} {span : Span} {due : Due}
    (h : store.firstDueIn span = .ok (some due)) :
    ∃ entry rest, store.range span = entry :: rest ∧ Queue.ofKey entry.1 = .ok due := by
  rw [firstDueIn, first?_eq] at h
  cases hrange : store.range span with
  | nil =>
    rw [hrange] at h
    cases h
  | cons entry rest =>
    rw [hrange] at h
    change (Queue.ofKey entry.1).map some = .ok (some due) at h
    cases hkey : Queue.ofKey entry.1 with
    | error fault =>
      rw [hkey] at h
      cases h
    | ok found =>
      rw [hkey] at h
      cases h
      exact ⟨entry, rest, rfl, hkey⟩

end Store

/-! ### Queries -/

namespace Query

variable (store : Store)

theorem idOf_within (name : Name) : Within Regular (idOf name) := by
  refine .bind (.checkLevels (fun _ _ => trivial) _ _ _) fun _ hlevels => ?_
  obtain ⟨parts, hparts⟩ := Name.exists_parts_of_checkLevels (by simp) hlevels
  exact .sure (Name.id_of_parts hparts)

theorem auctionsIn_within (filter : AuctionFilter) : Within Regular (auctionsIn store filter) := by
  have hall : Within Regular store.auctions :=
    (store.recordsIn_within Key.auctions).mono fun _ => OfReading.regular
  cases filter with
  | all => exact hall.bind fun _ _ => .ok _
  | phase phase => exact hall.bind fun _ _ => .ok _
  | name name =>
    refine (idOf_within name).bind fun id _ => ?_
    exact ((store.record?_within (Key.auction id)).mono fun _ => OfReading.regular).bind fun _ _ => .ok _

theorem bidsIn_within (name : Name) (bidder : Option Account) :
    Within Regular (bidsIn store name bidder) := by
  refine (idOf_within name).bind fun id _ => ?_
  cases bidder with
  | none => exact (store.bidsOn_within id).mono fun _ => OfReading.regular
  | some bidder =>
    have hread : Within Regular (store.bid? id bidder) :=
      (store.record?_within (Key.bid id bidder)).mono fun _ => OfReading.regular
    exact hread.bind fun _ _ => .ok _

theorem registered_within (id : NameId) :
    Within Regular (do demand (← store.registration? id) .noRegistration) := by
  have hread : Within Regular (store.registration? id) :=
    (store.record?_within (Key.registration id)).mono fun _ => OfReading.regular
  exact hread.bind fun _ _ => .demand trivial

theorem registrationIn_within (name : Name) : Within Regular (registrationIn store name) :=
  (idOf_within name).bind fun id _ => registered_within store id

theorem resolutionIn_within (name : Name) : Within Regular (resolutionIn store name) := by
  refine .bind (.checkLevels (fun _ _ => trivial) _ _ _) fun _ hlevels => ?_
  obtain ⟨parts, hparts⟩ := Name.exists_parts_of_checkLevels (by simp) hlevels
  refine .bind (.sure (Name.ids_of_parts hparts)) fun ids _ => ?_
  have hread : Within Regular (store.resolution? ids.1 ids.2) :=
    (store.id?_within (Key.resolution ids.1 ids.2)).mono fun _ => OfReading.regular
  exact hread.bind fun _ _ => .demand trivial

theorem reverseIn_within (account : Account) : Within Regular (reverseIn store account) := by
  have hread : Within Regular (store.reverse? account) :=
    (store.id?_within (Key.reverse account)).mono fun _ => OfReading.regular
  refine hread.bind fun found _ => ?_
  exact .bind (.demand trivial) fun id _ => registered_within store id

/-- **No query ends with a defect.** -/
theorem run_within (params : Params) (query : Query) : Within Regular (query.run store params) := by
  cases query with
  | auctions filter => exact (auctionsIn_within store filter).bind fun _ _ => .ok _
  | bids name bidder => exact (bidsIn_within store name bidder).bind fun _ _ => .ok _
  | registration name => exact (registrationIn_within store name).bind fun _ _ => .ok _
  | resolution name => exact (resolutionIn_within store name).bind fun _ _ => .ok _
  | reverse account => exact (reverseIn_within store account).bind fun _ _ => .ok _
  | params => exact .ok _

end Query

/-! ### Genesis documents -/

namespace Genesis

theorem secondLevelId_within (name : Name) (root : String) :
    Within Regular (secondLevelId name root) := by
  refine .bind (.lift (fun _ => trivial) _) fun _ _ => .bind (.ensure trivial) fun _ hlevels => ?_
  -- the levels have been counted before the name is cut
  obtain ⟨parts, hparts⟩ := Name.exists_parts (.inl (ensure_eq_ok_iff.mp hlevels))
  exact .bind (.sure hparts) fun _ _ => .bind (.ensure trivial) fun _ _ =>
    .sure (Name.id_of_parts hparts)

theorem checkAuctions_within (root : String) (withBids seen : List NameId)
    (auctions : List Auction) : Within Regular (checkAuctions root withBids seen auctions) := by
  induction auctions generalizing seen with
  | nil => exact .ok seen
  | cons auction rest ih =>
    refine (secondLevelId_within _ _).bind fun id _ => .bind (.ensure trivial) fun _ _ => ?_
    exact .bind (.lift (fun _ => trivial) _) fun _ _ => ih _

theorem checkRegistrations_within (root : String) (auctions seen : List NameId)
    (registrations : List Registration) :
    Within Regular (checkRegistrations root auctions seen registrations) := by
  induction registrations generalizing seen with
  | nil => exact .ok seen
  | cons registration rest ih =>
    refine (secondLevelId_within _ _).bind fun id _ => .bind (.ensure trivial) fun _ _ => ?_
    exact .bind (.ensure trivial) fun _ _ => ih _

theorem check_within (genesis : Genesis) : Within Regular genesis.check := by
  refine .bind (.lift (fun _ => trivial) _) fun _ _ => ?_
  refine (checkAuctions_within _ _ _ _).bind fun _ _ => ?_
  refine (checkRegistrations_within _ _ _ _).bind fun _ _ => ?_
  exact .bind (.lift (fun _ => trivial) _) fun _ _ => .lift (fun _ => trivial) _

/-- **No genesis is refused for a defect.**  Its names can be cut because its check has counted their
levels. -/
theorem seed_within (genesis : Genesis) (store : Store) : Within Regular (genesis.seed store) := by
  cases hcheck : genesis.check with
  | error fault =>
    rw [seed, hcheck]
    exact .error (check_within genesis fault hcheck)
  | ok u =>
    obtain ⟨next, hnext⟩ := seed_eq_ok hcheck store
    rw [hnext]
    exact .ok next

theorem ofStore_within (store : Store) (params : Params) :
    Within OfReading (ofStore store params) :=
  (store.recordsIn_within Key.auctions).bind fun _ _ => store.bids_within.bind fun _ _ =>
    (store.recordsIn_within Key.registrations).bind fun _ _ =>
      store.resolutions_within.bind fun _ _ => .ok _

end Genesis

/-! ### The price of a renewal -/

theorem Renewal.extension_regular {params : Params} (h : params.check = .ok ()) (fee : Bundle)
    (labelLength : Nat) (rates : Rates) : Within Regular (extension fee labelLength params rates) := by
  refine (extension_within fee labelLength params rates).mono fun fault hfault => ?_
  obtain hpricing | ⟨row, hrow, hzero, -⟩ := hfault
  · cases fault with
    | price fault => cases fault <;> trivial
    | _ => trivial
  · exact absurd hzero (Params.price_ne_zero h hrow)

end NameAuction
