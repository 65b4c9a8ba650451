import Mathlib.Data.List.Perm.Basic
import NameAuction.Demo.Accounts
import NameAuction.Proofs.Genesis.Export
import NameAuction.Proofs.Store.Collections

/-!
# What is imported is exported in the order of keys

The check of a genesis finds repeated records by the keys under which they are written
(`Genesis.unseen_of_checkAuctions` and its likes), so nothing is written twice and all of it is found again:
an accepted genesis that is written to an empty store and read back has the same records in the order of their
keys (`Book.Holds.sorts`).  Where writing goes along in one store, what has been written before a fault would
stay there (`Genesis.seedInPlace`).  That never happens: a genesis that passes its check is written to the
end, and one that does not writes nothing (`Genesis.seed_sorts`).
-/

namespace NameAuction

namespace Genesis

/-! ### Checks find repeated keys -/

/-- The keys of the list are all different, and none of them has been seen. -/
structure Unseen {α κ : Type} (key : α → κ) (seen : List κ) (list : List α) : Prop where
  nodup : (list.map key).Nodup
  not_seen : ∀ x ∈ list, key x ∉ seen

namespace Unseen

variable {α κ : Type} {key : α → κ} {seen : List κ}

theorem nil : Unseen key seen [] := ⟨List.nodup_nil, nofun⟩

theorem cons {x : α} {rest : List α} (hnew : key x ∉ seen) (h : Unseen key (key x :: seen) rest) :
    Unseen key seen (x :: rest) where
  nodup := by
    refine List.nodup_cons.mpr ⟨fun hmem => ?_, h.nodup⟩
    obtain ⟨y, hy, hkey⟩ := List.mem_map.mp hmem
    exact h.not_seen y hy (hkey ▸ List.mem_cons_self ..)
  not_seen y hy := by
    rcases List.mem_cons.mp hy with rfl | hrest
    · exact hnew
    · exact fun hseen => h.not_seen y hrest (List.mem_cons_of_mem _ hseen)

theorem nodup_list {list : List α} (h : Unseen key seen list) : list.Nodup := h.nodup.of_map

end Unseen

theorem unseen_of_checkAuctions {root : String} {withBids seen ids : List NameId} {auctions : List Auction}
    (h : checkAuctions root withBids seen auctions = .ok ids) :
    Unseen (fun auction => auction.name.id) (seen.map .ok) auctions := by
  induction auctions generalizing seen with
  | nil => exact .nil
  | cons auction rest ih =>
    obtain ⟨id, hid, h⟩ := Except.bind_eq_ok_iff.mp h
    obtain ⟨u, hnew, h⟩ := Except.bind_eq_ok_iff.mp h
    obtain ⟨u', -, h⟩ := Except.bind_eq_ok_iff.mp h
    -- what the check has seen are identifiers, and the key of an auction is read off its name
    have hname := (secondLevelId_eq_ok_iff.mp hid).1.id_eq
    have hrest := ih h
    rw [List.map_cons, ← hname] at hrest
    refine .cons ?_ hrest
    simpa [hname] using ensure_eq_ok_iff.mp hnew

theorem unseen_of_checkRegistrations {root : String} {auctions seen ids : List NameId}
    {registrations : List Registration}
    (h : checkRegistrations root auctions seen registrations = .ok ids) :
    Unseen (fun registration => registration.name.id) (seen.map .ok) registrations := by
  induction registrations generalizing seen with
  | nil => exact .nil
  | cons registration rest ih =>
    obtain ⟨id, hid, h⟩ := Except.bind_eq_ok_iff.mp h
    obtain ⟨u, -, h⟩ := Except.bind_eq_ok_iff.mp h
    obtain ⟨u', hnew, h⟩ := Except.bind_eq_ok_iff.mp h
    have hname := (secondLevelId_eq_ok_iff.mp hid).1.id_eq
    have hrest := ih h
    rw [List.map_cons, ← hname] at hrest
    refine .cons ?_ hrest
    simpa [hname] using ensure_eq_ok_iff.mp hnew

theorem unseen_of_checkBids {auctions : List NameId} {seen : List (NameId × Account)}
    {bids : List PlacedBid} (h : checkBids auctions seen bids = .ok ()) :
    Unseen (fun placed => (placed.id, placed.bid.bidder)) seen bids := by
  induction bids generalizing seen with
  | nil => exact .nil
  | cons placed rest ih =>
    obtain ⟨u, -, h⟩ := Except.bind_eq_ok_iff.mp h
    obtain ⟨u', hnew, h⟩ := Except.bind_eq_ok_iff.mp h
    exact .cons (ensure_eq_ok_iff.mp hnew) (ih h)

theorem unseen_of_checkResolutions {registrations : List NameId} {seen : List (NameId × NameId)}
    {accounts : List Account} {resolutions : List Resolution}
    (h : checkResolutions registrations seen accounts resolutions = .ok ()) :
    Unseen (fun resolution => (resolution.id, resolution.child)) seen resolutions := by
  induction resolutions generalizing seen accounts with
  | nil => exact .nil
  | cons resolution rest ih =>
    obtain ⟨u, -, h⟩ := Except.bind_eq_ok_iff.mp h
    obtain ⟨u', hnew, h⟩ := Except.bind_eq_ok_iff.mp h
    obtain ⟨u'', -, h⟩ := Except.bind_eq_ok_iff.mp h
    exact .cons (ensure_eq_ok_iff.mp hnew) (ih h)

structure Distinct (genesis : Genesis) : Prop where
  auctions : genesis.auctions.Nodup
  bids : genesis.bids.Nodup
  registrations : genesis.registrations.Nodup
  resolutions : genesis.resolutions.Nodup
  auction_named : ∀ auction ∈ genesis.auctions, ∃ id, auction.name.id = .ok id
  registration_named : ∀ registration ∈ genesis.registrations, ∃ id, registration.name.id = .ok id

theorem distinct_of_check {genesis : Genesis} (h : genesis.check = .ok ()) : genesis.Distinct := by
  obtain ⟨u, -, h⟩ := Except.bind_eq_ok_iff.mp h
  obtain ⟨auctions, hauctions, h⟩ := Except.bind_eq_ok_iff.mp h
  obtain ⟨registrations, hregistrations, h⟩ := Except.bind_eq_ok_iff.mp h
  obtain ⟨u', hbids, hresolutions⟩ := Except.bind_eq_ok_iff.mp h
  refine ⟨(unseen_of_checkAuctions hauctions).nodup_list,
    (unseen_of_checkBids (Fault.lift_eq_ok hbids)).nodup_list,
    (unseen_of_checkRegistrations hregistrations).nodup_list,
    (unseen_of_checkResolutions (Fault.lift_eq_ok hresolutions)).nodup_list, ?_, ?_⟩
  · intro auction hmem
    obtain ⟨id, hid, -⟩ := of_checkAuctions hauctions hmem
    exact ⟨id, (secondLevelId_eq_ok_iff.mp hid).1.id_eq⟩
  · intro registration hmem
    obtain ⟨id, hid⟩ := of_checkRegistrations hregistrations hmem
    exact ⟨id, (secondLevelId_eq_ok_iff.mp hid).1.id_eq⟩

end Genesis

/-! ### The order of keys -/

def Name.Before (name other : Name) : Prop :=
  ∃ id id', name.id = .ok id ∧ other.id = .ok id' ∧ compare id id' = .lt

/-- The first genesis has the records of the second one and no others, each once, in the order of keys:
auctions and registrations by the identifier of their name, bids by name and bidder, and resolutions by name
and child. -/
structure Genesis.Sorts (sorted genesis : Genesis) : Prop where
  params : sorted.params = genesis.params
  auctions : sorted.auctions.Perm genesis.auctions
  bids : sorted.bids.Perm genesis.bids
  registrations : sorted.registrations.Perm genesis.registrations
  resolutions : sorted.resolutions.Perm genesis.resolutions
  auctions_before : sorted.auctions.Pairwise fun a b => a.name.Before b.name
  bids_before : sorted.bids.Pairwise fun a b =>
    lexOrd.compare (a.id, a.bid.bidder) (b.id, b.bid.bidder) = .lt
  registrations_before : sorted.registrations.Pairwise fun a b => a.name.Before b.name
  resolutions_before : sorted.resolutions.Pairwise fun a b =>
    lexOrd.compare (a.id, a.child) (b.id, b.child) = .lt

section Named

variable {α : Type} {nameOf : α → Name} {entries : List (NameId × α)} {records : List α}

theorem perm_of_named (hentries : entries.Nodup) (hrecords : records.Nodup)
    (hmem : ∀ x, x ∈ entries ↔ x.2 ∈ records ∧ (nameOf x.2).id = .ok x.1)
    (hnamed : ∀ record ∈ records, ∃ id, (nameOf record).id = .ok id) : (entries.map (·.2)).Perm records := by
  have hnodup : (entries.map (·.2)).Nodup := by
    -- a record has one name, so two entries with the same record have the same identifier
    refine List.Nodup.map_on (fun x hx y hy heq => ?_) hentries
    have hx := ((hmem x).mp hx).2
    rw [heq, ((hmem y).mp hy).2] at hx
    exact Prod.ext (Except.ok.inj hx).symm heq
  refine (List.perm_ext_iff_of_nodup hnodup hrecords).mpr fun record => ?_
  rw [List.mem_map]
  constructor
  · rintro ⟨x, hx, rfl⟩
    exact ((hmem x).mp hx).1
  · intro hrecord
    obtain ⟨id, hid⟩ := hnamed record hrecord
    exact ⟨(id, record), (hmem _).mpr ⟨hrecord, hid⟩, rfl⟩

theorem before_of_named (hsorted : entries.Pairwise fun a b => compare a.1 b.1 = .lt)
    (hmem : ∀ x, x ∈ entries ↔ x.2 ∈ records ∧ (nameOf x.2).id = .ok x.1) :
    (entries.map (·.2)).Pairwise fun a b => (nameOf a).Before (nameOf b) := by
  refine List.pairwise_map.mpr (hsorted.imp_of_mem fun {a b} ha hb hlt => ?_)
  exact ⟨a.1, b.1, ((hmem a).mp ha).2, ((hmem b).mp hb).2, hlt⟩

end Named

/-- **What is listed of a book that holds a genesis is the genesis in the order of keys.** -/
theorem Book.Holds.sorts {book : Book} {genesis : Genesis} (h : book.Holds genesis)
    (hdistinct : genesis.Distinct) (listing : book.Listing) :
    (listing.genesis genesis.params).Sorts genesis where
  params := rfl
  auctions := perm_of_named listing.lists_auctions.nodup hdistinct.auctions
    (fun x => (listing.lists_auctions.mem_iff x).trans (h.auctions x).symm) hdistinct.auction_named
  bids := by
    have hnodup : (listing.genesis genesis.params).bids.Nodup :=
      List.Nodup.map (fun x y heq => Prod.ext (PlacedBid.mk.inj heq).1 (PlacedBid.mk.inj heq).2)
        listing.lists_bids.nodup
    refine (List.perm_ext_iff_of_nodup hnodup hdistinct.bids).mpr fun placed => ?_
    refine Iff.trans ?_ (h.bids (placed.id, placed.bid)).symm
    rw [← listing.lists_bids.mem_iff (placed.id, placed.bid)]
    constructor
    · intro hmem
      obtain ⟨x, hx, rfl⟩ := List.mem_map.mp hmem
      exact hx
    · intro hmem
      exact List.mem_map.mpr ⟨_, hmem, rfl⟩
  registrations := perm_of_named listing.lists_registrations.nodup hdistinct.registrations
    (fun x => (listing.lists_registrations.mem_iff x).trans (h.registrations x).symm)
    hdistinct.registration_named
  resolutions :=
    (List.perm_ext_iff_of_nodup listing.lists_resolutions.nodup hdistinct.resolutions).mpr fun x =>
      (listing.lists_resolutions.mem_iff x).trans (h.resolutions x).symm
  auctions_before := before_of_named
    (listing.lists_auctions.sorted.imp fun hlt => (Key.compare_id Key.auctions _ _).symm.trans hlt)
    fun x => (listing.lists_auctions.mem_iff x).trans (h.auctions x).symm
  bids_before := List.pairwise_map.mpr <| listing.lists_bids.sorted.imp fun {a b} hlt =>
    (Key.compare_pair Key.bids (a.1, a.2.bidder) (b.1, b.2.bidder)).symm.trans hlt
  registrations_before := before_of_named
    (listing.lists_registrations.sorted.imp fun hlt => (Key.compare_id Key.registrations _ _).symm.trans hlt)
    fun x => (listing.lists_registrations.mem_iff x).trans (h.registrations x).symm
  resolutions_before := listing.lists_resolutions.sorted.imp fun {a b} hlt =>
    (Key.compare_pair Key.resolutions (a.id, a.child) (b.id, b.child)).symm.trans hlt

/-! ### Writing in place -/

/-- Writing to one store; what has been written before a fault stays there. -/
abbrev Writing := ExceptT Fault (StateM Store)

def Writing.on {α : Type} (writing : Writing α) (store : Store) : Except Fault α × Store :=
  writing.run.run store

namespace Writing

variable {α β : Type} {writing : Writing α} {store next : Store}

theorem on_bind_ok {f : α → Writing β} {value : α} (h : writing.on store = (.ok value, next)) :
    (writing >>= f).on store = (f value).on next := by
  show (ExceptT.bindCont f (writing.on store).1).run (writing.on store).2 = _
  rw [h]
  rfl

theorem on_bind_error {f : α → Writing β} {fault : Fault} (h : writing.on store = (.error fault, next)) :
    (writing >>= f).on store = (.error fault, next) := by
  show (ExceptT.bindCont f (writing.on store).1).run (writing.on store).2 = _
  rw [h]
  rfl

/-- Writes in place do what the writes from store to store do, where these go through. -/
theorem on_forM (write : Store → α → Except Fault Store) {step : α → Writing Unit}
    (hstep : ∀ x store next, write store x = .ok next → (step x).on store = (.ok (), next)) {list : List α}
    (h : list.foldlM write store = .ok next) : (list.forM step).on store = (.ok (), next) := by
  induction list generalizing store with
  | nil =>
    obtain rfl := Except.ok.inj h
    rfl
  | cons x rest ih =>
    obtain ⟨mid, hfirst, hrest⟩ := Except.bind_eq_ok_iff.mp h
    exact (on_bind_ok (hstep x store mid hfirst)).trans (ih hrest)

theorem on_forM_modify {write : Store → α → Store} {step : α → Writing Unit}
    (hstep : ∀ x store, (step x).on store = (.ok (), write store x)) (list : List α) (store : Store) :
    (list.forM step).on store = (.ok (), list.foldl write store) := by
  refine on_forM (fun store x => .ok (write store x)) ?_ List.foldlM_pure
  intro x store next h
  rw [hstep, Except.ok.inj h]

end Writing

namespace Genesis

def writeAuction (auction : Auction) : Writing Unit := do
  let id ← auction.name.id
  modify (·.setAuction id auction)
  modify (·.enqueue (phaseQueue auction.phase) ⟨auction.endTime, id⟩)

def writeBid (placed : PlacedBid) : Writing Unit := modify (·.setBid placed.id placed.bid)

def writeRegistration (registration : Registration) : Writing Unit := do
  let id ← registration.name.id
  modify (·.setRegistration id registration)
  modify (·.enqueue QueueKind.registration.queue ⟨registration.endTime, id⟩)

def writeResolution (resolution : Resolution) : Writing Unit := do
  modify (·.setResolution resolution.id resolution.child resolution.account)
  modify (·.setReverse resolution.account resolution.id)

/-- Checks a genesis and writes it, record after record. -/
def seedInPlace (genesis : Genesis) : Writing Unit := do
  genesis.check
  genesis.auctions.forM writeAuction
  genesis.bids.forM writeBid
  genesis.registrations.forM writeRegistration
  genesis.resolutions.forM writeResolution

theorem writeAuction_on {auction : Auction} {store next : Store} (h : seedAuction store auction = .ok next) :
    (writeAuction auction).on store = (.ok (), next) := by
  obtain ⟨id, hid, h⟩ := Except.bind_eq_ok_iff.mp h
  obtain rfl := Except.ok.inj h
  have hname : auction.name.id = .ok id := Fault.lift_eq_ok hid
  rw [writeAuction, hname]
  rfl

theorem writeBid_on (placed : PlacedBid) (store : Store) :
    (writeBid placed).on store = (.ok (), seedBid store placed) := rfl

theorem writeRegistration_on {registration : Registration} {store next : Store}
    (h : seedRegistration store registration = .ok next) :
    (writeRegistration registration).on store = (.ok (), next) := by
  obtain ⟨id, hid, h⟩ := Except.bind_eq_ok_iff.mp h
  obtain rfl := Except.ok.inj h
  have hname : registration.name.id = .ok id := Fault.lift_eq_ok hid
  rw [writeRegistration, hname]
  rfl

theorem writeResolution_on (resolution : Resolution) (store : Store) :
    (writeResolution resolution).on store = (.ok (), seedResolution store resolution) := rfl

/-- **A genesis that can be written is written in place.** -/
theorem seedInPlace_of_seed {genesis : Genesis} {store next : Store} (h : genesis.seed store = .ok next) :
    genesis.seedInPlace.on store = (.ok (), next) := by
  obtain ⟨u, hcheck, h⟩ := Except.bind_eq_ok_iff.mp h
  obtain ⟨withAuctions, hauctions, h⟩ := Except.bind_eq_ok_iff.mp h
  obtain ⟨withRegistrations, hregistrations, h⟩ := Except.bind_eq_ok_iff.mp h
  obtain rfl := Except.ok.inj h
  have hchecked : (liftM genesis.check : Writing Unit).on store = (.ok (), store) := by
    rw [hcheck]
    rfl
  have hone : (genesis.auctions.forM writeAuction).on store = (.ok (), withAuctions) :=
    Writing.on_forM seedAuction (fun _ _ _ => writeAuction_on) hauctions
  have htwo := Writing.on_forM_modify writeBid_on genesis.bids withAuctions
  have hthree : (genesis.registrations.forM writeRegistration).on (genesis.bids.foldl seedBid withAuctions) =
      (.ok (), withRegistrations) :=
    Writing.on_forM seedRegistration (fun _ _ _ => writeRegistration_on) hregistrations
  have hfour := Writing.on_forM_modify writeResolution_on genesis.resolutions withRegistrations
  rw [seedInPlace, Writing.on_bind_ok hchecked, Writing.on_bind_ok hone, Writing.on_bind_ok htwo,
    Writing.on_bind_ok hthree, hfour]

/-- **A genesis that is refused writes nothing.** -/
theorem seedInPlace_of_check {genesis : Genesis} {fault : Fault} (h : genesis.check = .error fault)
    (store : Store) : genesis.seedInPlace.on store = (.error fault, store) := by
  have hchecked : (liftM genesis.check : Writing Unit).on store = (.error fault, store) := by
    rw [h]
    rfl
  exact Writing.on_bind_error hchecked

theorem seed_of_check {genesis : Genesis} {fault : Fault} (h : genesis.check = .error fault)
    (store : Store) : genesis.seed store = .error fault := by
  rw [seed, h]
  rfl

/-- **Writing in place is writing from store to store**, and a failure leaves nothing behind. -/
theorem seedInPlace_on (genesis : Genesis) (store : Store) :
    genesis.seedInPlace.on store =
      match genesis.seed store with
      | .ok next => (.ok (), next)
      | .error fault => (.error fault, store) := by
  cases hcheck : genesis.check with
  | ok u =>
    obtain ⟨next, hseed⟩ := seed_eq_ok hcheck store
    rw [hseed, seedInPlace_of_seed hseed]
  | error fault => rw [seed_of_check hcheck, seedInPlace_of_check hcheck]

/-- **Importing and exporting sorts a genesis.**  One that passes its check is written to any empty store, and
what is read back has the same records in the order of their keys: nothing is lost, merged or altered.  One
that does not pass leaves any store as it was. -/
theorem seed_sorts (genesis : Genesis) :
    (genesis.check = .ok () → genesis.Fits → ∀ start : Store, (∀ key, start.get? key = none) →
      ∃ store sorted, genesis.seed start = .ok store ∧ genesis.seedInPlace.on start = (.ok (), store) ∧
        ofStore store genesis.params = .ok sorted ∧ sorted.Sorts genesis) ∧
    ∀ fault, genesis.check = .error fault → ∀ start : Store,
      genesis.seed start = .error fault ∧ genesis.seedInPlace.on start = (.error fault, start) := by
  constructor
  · intro hcheck hfits start hempty
    obtain ⟨store, hseed⟩ := seed_eq_ok hcheck start
    obtain ⟨book, hkeeps, -, hfounds⟩ := seed_founds hfits (.of_get?_eq_none hempty) hseed
    obtain ⟨listing, hexport⟩ := ofStore_eq_ok hkeeps genesis.params
    refine ⟨store, listing.genesis genesis.params, hseed, ?_, hexport,
      hfounds.holds.sorts (distinct_of_check hcheck) listing⟩
    rw [seedInPlace_on, hseed]
  · intro fault hcheck start
    have hseed := seed_of_check hcheck start
    refine ⟨hseed, ?_⟩
    rw [seedInPlace_on, hseed]

/-- Two auctions, two bids on the second one, and a registration with two resolutions. -/
def shopping : Genesis where
  params := .standard
  auctions := [.opened ⟨"wallet.terra"⟩ .max, ⟨⟨"label.terra"⟩, .reveal, 0, none⟩]
  bids := [⟨.ofText "label.terra", ⟨.zero, ⟨"uluna", .max⟩, Demo.bob⟩⟩,
    ⟨.ofText "label.terra", ⟨.zero, ⟨"uluna", .max⟩, Demo.alice⟩⟩]
  registrations := [⟨⟨"shop.terra"⟩, Demo.carol, .max⟩]
  resolutions := [⟨.ofText "shop.terra", .ofText "pay", Demo.shop⟩,
    ⟨.ofText "shop.terra", .ofText "", Demo.carol⟩]

def doubleSale : Genesis :=
  { shopping with auctions := shopping.auctions ++ [.opened ⟨"shop.terra"⟩ .max] }

theorem seed_sorts_shopping :
    (∃ store sorted, shopping.seed Store.empty.layer = .ok store ∧
      shopping.seedInPlace.on Store.empty.layer = (.ok (), store) ∧
      ofStore store .standard = .ok sorted ∧ sorted.Sorts shopping) ∧
    doubleSale.seedInPlace.on Store.empty.layer =
      (.error (.genesis (.auctionAndRegistration ⟨"shop.terra"⟩)), Store.empty.layer) := by
  have hcheck : shopping.check = .ok () := by decide +kernel
  have hrefused : doubleSale.check = .error (.genesis (.auctionAndRegistration ⟨"shop.terra"⟩)) := by
    decide +kernel
  have hdenom : "uluna".utf8ByteSize < 256 ^ 8 := by decide
  have hfits : shopping.Fits := by
    refine ⟨?_, ?_⟩
    · simp [shopping, Auction.opened]
    · simp only [shopping, List.forall_mem_cons]
      exact ⟨hdenom, hdenom, List.forall_mem_nil _⟩
  have hempty : ∀ key, Store.empty.layer.get? key = none := fun key =>
    (Store.get?_layer _ key).trans Std.ExtTreeMap.getElem?_empty
  exact ⟨(seed_sorts shopping).1 hcheck hfits _ hempty, ((seed_sorts doubleSale).2 _ hrefused _).2⟩

end Genesis

end NameAuction
