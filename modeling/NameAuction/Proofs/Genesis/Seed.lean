import NameAuction.Genesis.Load
import NameAuction.Proofs.Registrar.Resolutions
import NameAuction.Proofs.Registrar.Root

/-!
# What a genesis seeds

A genesis that passes its check and is written to an empty store leaves a store that keeps a sane, mutual and
proper book which holds the records of the genesis and no others (`Genesis.Founds`, `Genesis.seed_keeps`).
The checks and the writing go through the same lists, so each list is one induction: every record that is
checked meets a book in which its slot is still free (`Book.holds_set`).
-/

namespace NameAuction

namespace Genesis

/-- The denominations of a genesis are as short as texts in memory are. -/
structure Fits (genesis : Genesis) : Prop where
  topBids : ∀ auction ∈ genesis.auctions, ∀ top, auction.topBid = some top → top.amount.Fits
  deposits : ∀ placed ∈ genesis.bids, placed.bid.Fits

/-! ### Checks -/

theorem checkName_eq_ok {name : Name} (h : checkName name = .ok ()) : name.check = .ok () := by
  rw [checkName] at h
  cases hcheck : name.check with
  | ok u => rfl
  | error flaw =>
    rw [hcheck] at h
    cases h

theorem checkName_of_check {name : Name} (h : name.check = .ok ()) : checkName name = .ok () := by
  rw [checkName, h]

/-- **A name is accepted under its identifier if it is a proper second-level name under the root.** -/
theorem secondLevelId_eq_ok_iff {name : Name} {root : String} {id : NameId} :
    secondLevelId name root = .ok id ↔ name.SecondLevel id ∧ name.Under root := by
  constructor
  · intro h
    obtain ⟨u, hname, h⟩ := Except.bind_eq_ok_iff.mp h
    obtain ⟨u', hlevels, h⟩ := Except.bind_eq_ok_iff.mp h
    obtain ⟨parts, hparts, h⟩ := Except.bind_eq_ok_iff.mp h
    obtain ⟨u'', hroot, h⟩ := Except.bind_eq_ok_iff.mp h
    exact ⟨⟨checkName_eq_ok (Fault.lift_eq_ok hname), ensure_eq_ok_iff.mp hlevels, Fault.lift_eq_ok h⟩,
      parts, Fault.lift_eq_ok hparts, ensure_eq_ok_iff.mp hroot⟩
  · rintro ⟨hname, parts, hparts, hroot⟩
    refine Except.bind_eq_ok_iff.mpr ⟨(), by rw [checkName_of_check hname.check_eq]; rfl, ?_⟩
    refine Except.bind_eq_ok_iff.mpr ⟨(), ensure_eq_ok_iff.mpr hname.levels_eq, ?_⟩
    refine Except.bind_eq_ok_iff.mpr ⟨parts, by rw [hparts]; rfl, ?_⟩
    refine Except.bind_eq_ok_iff.mpr ⟨(), ensure_eq_ok_iff.mpr hroot, ?_⟩
    rw [hname.id_eq]
    rfl

theorem checkPhase_eq_ok {withBids : List NameId} {id : NameId} {auction : Auction}
    (h : checkPhase withBids id auction = .ok ()) :
    (auction.phase = .bid → auction.topBid = none) ∧
      (auction.phase = .reveal → auction.topBid = none → id ∈ withBids) := by
  rw [checkPhase] at h
  constructor
  · intro hphase
    cases htop : auction.topBid with
    | none => rfl
    | some top =>
      rw [hphase, htop] at h
      cases h
  · intro hphase htop
    rw [hphase, htop] at h
    exact ensure_eq_ok_iff.mp h

/-- What the check of auctions finds out about each of them. -/
theorem of_checkAuctions {root : String} {withBids seen ids : List NameId} {auctions : List Auction}
    (h : checkAuctions root withBids seen auctions = .ok ids) {auction : Auction}
    (hmem : auction ∈ auctions) :
    ∃ id, secondLevelId auction.name root = .ok id ∧ checkPhase withBids id auction = .ok () := by
  induction auctions generalizing seen with
  | nil => cases hmem
  | cons first rest ih =>
    obtain ⟨id, hid, h⟩ := Except.bind_eq_ok_iff.mp h
    obtain ⟨u, -, h⟩ := Except.bind_eq_ok_iff.mp h
    obtain ⟨u', hphase, h⟩ := Except.bind_eq_ok_iff.mp h
    rcases List.mem_cons.mp hmem with rfl | hrest
    · exact ⟨id, hid, Fault.lift_eq_ok hphase⟩
    · exact ih h hrest

theorem of_checkRegistrations {root : String} {auctions seen ids : List NameId}
    {registrations : List Registration}
    (h : checkRegistrations root auctions seen registrations = .ok ids) {registration : Registration}
    (hmem : registration ∈ registrations) : ∃ id, secondLevelId registration.name root = .ok id := by
  induction registrations generalizing seen with
  | nil => cases hmem
  | cons first rest ih =>
    obtain ⟨id, hid, h⟩ := Except.bind_eq_ok_iff.mp h
    obtain ⟨u, -, h⟩ := Except.bind_eq_ok_iff.mp h
    obtain ⟨u', -, h⟩ := Except.bind_eq_ok_iff.mp h
    rcases List.mem_cons.mp hmem with rfl | hrest
    · exact ⟨id, hid⟩
    · exact ih h hrest

theorem phaseQueue_eq (phase : Phase) : phaseQueue phase = phase.kind.queue := by
  cases phase <;> rfl

end Genesis

/-! ### The records of a genesis -/

/-- The book holds the records of the genesis and no others. -/
structure Book.Holds (book : Book) (genesis : Genesis) : Prop where
  auctions : ∀ x : NameId × Auction, (x.2 ∈ genesis.auctions ∧ x.2.name.id = .ok x.1) ↔
    book (.auction x.1) = some x.2
  bids : ∀ x : NameId × Bid, ⟨x.1, x.2⟩ ∈ genesis.bids ↔ book (.bid x.1 x.2.bidder) = some x.2
  registrations : ∀ x : NameId × Registration,
    (x.2 ∈ genesis.registrations ∧ x.2.name.id = .ok x.1) ↔ book (.registration x.1) = some x.2
  resolutions : ∀ x : Resolution, x ∈ genesis.resolutions ↔
    book (.resolution x.id x.child) = some x.account

/-- **Filling a free slot.**  If the items that satisfy `p` are those of the book, then those and the new one
are the items of the book in which the slot has been filled. -/
theorem Book.holds_set {β : Type} {item : β → Item} (hinj : Function.Injective item) {p : β → Prop}
    {book : Book} (h : ∀ x, p x ↔ book (item x).1 = some (item x).2) (added : β)
    (hnew : book (item added).1 = none) (x : β) :
    (x = added ∨ p x) ↔ book.set (item added).1 (some (item added).2) (item x).1 = some (item x).2 := by
  have hadded : book.set (item added).1 (some (item added).2) (item added).1 = some (item added).2 :=
    set_self ..
  have hfree : ∀ slot, slot = (item added).1 → book slot = none := by
    rintro _ rfl
    exact hnew
  by_cases hslot : (item x).1 = (item added).1
  · constructor
    · rintro (rfl | hp)
      · exact hadded
      · have hheld := (h x).mp hp
        rw [hfree _ hslot] at hheld
        cases hheld
    · intro hheld
      exact .inl (hinj (Book.item_eq hheld hadded hslot))
  · rw [set_of_ne _ _ hslot, ← h x]
    refine ⟨fun hx => hx.resolve_left ?_, .inr⟩
    rintro rfl
    exact hslot rfl

theorem Book.Holds.of_mem_iff {book : Book} {written genesis : Genesis} (h : book.Holds written)
    (hauctions : ∀ x, x ∈ genesis.auctions ↔ x ∈ written.auctions)
    (hbids : ∀ x, x ∈ genesis.bids ↔ x ∈ written.bids)
    (hregistrations : ∀ x, x ∈ genesis.registrations ↔ x ∈ written.registrations)
    (hresolutions : ∀ x, x ∈ genesis.resolutions ↔ x ∈ written.resolutions) : book.Holds genesis where
  auctions x := by rw [hauctions, h.auctions]
  bids x := by rw [hbids, h.bids]
  registrations x := by rw [hregistrations, h.registrations]
  resolutions x := by rw [hresolutions, h.resolutions]

namespace Genesis

/-! ### Auctions and registrations -/

/-- What the store and its book are like while a genesis is written, of which the records `written` have been
written: the names with auctions are `auctions`, those with registrations `registrations`. -/
structure Seeded (start store : Store) (book : Book) (written : Genesis)
    (auctions registrations : List NameId) : Prop where
  keeps : store.Keeps book
  extends_store : start.Extends store
  sane : book.Sane
  reverses : book.Mutual
  holds : book.Holds written
  auction_iff : ∀ id, book (.auction id) ≠ none ↔ id ∈ auctions
  registration_iff : ∀ id, book (.registration id) ≠ none ↔ id ∈ registrations

variable {start store next : Store} {book : Book} {written : Genesis}

section

variable {auctions registrations : List NameId}

theorem Seeded.auction_eq_none (h : Seeded start store book written auctions registrations) {id : NameId}
    (hid : id ∉ auctions) : book (.auction id) = none := by
  by_contra hsome
  exact hid ((h.auction_iff id).mp hsome)

theorem Seeded.registration_eq_none (h : Seeded start store book written auctions registrations)
    {id : NameId} (hid : id ∉ registrations) : book (.registration id) = none := by
  by_contra hsome
  exact hid ((h.registration_iff id).mp hsome)

theorem mem_cons_and_id_iff {α : Type} {nameOf : α → Name} {record : α} {records : List α} {id : NameId}
    (hid : (nameOf record).id = .ok id) (x : NameId × α) :
    (x.2 ∈ record :: records ∧ (nameOf x.2).id = .ok x.1) ↔
      (x = (id, record) ∨ x.2 ∈ records ∧ (nameOf x.2).id = .ok x.1) := by
  obtain ⟨other, held⟩ := x
  constructor
  · rintro ⟨hmem, hother⟩
    rcases List.mem_cons.mp hmem with rfl | hrest
    · obtain rfl : id = other := Except.ok.inj (hid.symm.trans hother)
      exact .inl rfl
    · exact .inr ⟨hrest, hother⟩
  · rintro (heq | ⟨hrest, hother⟩)
    · cases heq
      exact ⟨List.mem_cons_self .., hid⟩
    · exact ⟨List.mem_cons_of_mem _ hrest, hother⟩

theorem seedAuction_keeps (h : Seeded start store book written auctions [])
    {auction : Auction} (hfits : auction.Fits) {id : NameId} (hid : auction.name.id = .ok id)
    (hnew : id ∉ auctions) (htop : auction.phase = .bid → auction.topBid = none)
    (hseed : seedAuction store auction = .ok next) :
    ∃ book, Seeded start next book { written with auctions := auction :: written.auctions }
      (id :: auctions) [] := by
  obtain ⟨id', hid', hseed⟩ := Except.bind_eq_ok_iff.mp hseed
  obtain rfl : id = id' := Except.ok.inj (hid.symm.trans (Fault.lift_eq_ok hid'))
  obtain rfl := Except.ok.inj hseed
  rw [phaseQueue_eq]
  have hnone : book (.auction id) = none := h.auction_eq_none hnew
  have hfree : book (.registration id) = none := h.registration_eq_none List.not_mem_nil
  refine ⟨_, ?_, ?_, h.sane.addAuction auction hfree hnone htop, ?_, ?_, ?_, ?_⟩
  · exact (h.keeps.put (.auction id) hfits).put (.queued auction.phase.kind ⟨auction.endTime, id⟩) trivial
  · have hfirst := h.extends_store.trans (Store.Extends.set store (Slot.auction id).key
      (some (Layout.write auction)))
    exact hfirst.trans (Store.Extends.set _ _ _)
  · exact h.reverses.of_same (by simp) (by simp) (by simp)
  · refine ⟨?_, fun x => by simpa using h.holds.bids x, fun x => by simpa using h.holds.registrations x,
      fun x => by simpa using h.holds.resolutions x⟩
    intro x
    rw [mem_cons_and_id_iff hid]
    simpa using Book.holds_set auctionItem_injective h.holds.auctions (id, auction) hnone x
  · intro other
    by_cases heq : other = id
    · subst heq
      simp
    · simp [heq, h.auction_iff]
  · intro other
    simpa using h.registration_iff other

theorem seedAuctions_keeps {root : String} {withBids seen ids : List NameId} {auctions : List Auction}
    (h : Seeded start store book written seen [])
    (hfits : ∀ auction ∈ auctions, ∀ top, auction.topBid = some top → top.amount.Fits)
    (hcheck : checkAuctions root withBids seen auctions = .ok ids)
    (hseed : auctions.foldlM seedAuction store = .ok next) :
    ∃ book, Seeded start next book { written with auctions := auctions.reverse ++ written.auctions }
      ids [] := by
  induction auctions generalizing store book seen written with
  | nil =>
    obtain rfl := Except.ok.inj hcheck
    obtain rfl := Except.ok.inj hseed
    exact ⟨book, h⟩
  | cons auction rest ih =>
    obtain ⟨id, hid, hcheck⟩ := Except.bind_eq_ok_iff.mp hcheck
    obtain ⟨u, hnew, hcheck⟩ := Except.bind_eq_ok_iff.mp hcheck
    obtain ⟨u', hphase, hcheck⟩ := Except.bind_eq_ok_iff.mp hcheck
    obtain ⟨mid, hfirst, hrest⟩ := Except.bind_eq_ok_iff.mp hseed
    obtain ⟨hname, -⟩ := secondLevelId_eq_ok_iff.mp hid
    have hauction : auction.Fits :=
      ⟨Name.fits_of_check hname.check_eq, hfits auction (List.mem_cons_self ..)⟩
    obtain ⟨htop, -⟩ := checkPhase_eq_ok (Fault.lift_eq_ok hphase)
    obtain ⟨book', hseeded⟩ :=
      seedAuction_keeps h hauction hname.id_eq (ensure_eq_ok_iff.mp hnew) htop hfirst
    rw [List.reverse_cons, List.append_assoc]
    exact ih hseeded (fun other hother => hfits other (List.mem_cons_of_mem _ hother)) hcheck hrest

theorem seedRegistration_keeps (h : Seeded start store book written auctions registrations)
    {registration : Registration} (hfits : registration.Fits) {id : NameId}
    (hid : registration.name.id = .ok id) (hfree : id ∉ auctions) (hnew : id ∉ registrations)
    (hseed : seedRegistration store registration = .ok next) :
    ∃ book, Seeded start next book
      { written with registrations := registration :: written.registrations } auctions
      (id :: registrations) := by
  obtain ⟨id', hid', hseed⟩ := Except.bind_eq_ok_iff.mp hseed
  obtain rfl : id = id' := Except.ok.inj (hid.symm.trans (Fault.lift_eq_ok hid'))
  obtain rfl := Except.ok.inj hseed
  have hnone : book (.registration id) = none := h.registration_eq_none hnew
  have hsane := h.sane.addRegistration registration hnone (h.auction_eq_none hfree)
  refine ⟨_, ?_, ?_, hsane, ?_, ?_, ?_, ?_⟩
  · exact (h.keeps.put (.registration id) hfits).put (.queued .registration ⟨registration.endTime, id⟩)
      trivial
  · have hfirst := h.extends_store.trans (Store.Extends.set store (Slot.registration id).key
      (some (Layout.write registration)))
    exact hfirst.trans (Store.Extends.set _ _ _)
  · refine h.reverses.of_same (by simp) (by simp) fun other hother => ?_
    by_cases heq : other = id
    · subst heq
      simp
    · simpa [heq] using hother
  · refine ⟨fun x => by simpa using h.holds.auctions x, fun x => by simpa using h.holds.bids x, ?_,
      fun x => by simpa using h.holds.resolutions x⟩
    intro x
    rw [mem_cons_and_id_iff hid]
    simpa using
      Book.holds_set registrationItem_injective h.holds.registrations (id, registration) hnone x
  · intro other
    simpa using h.auction_iff other
  · intro other
    by_cases heq : other = id
    · subst heq
      simp
    · simp [heq, h.registration_iff]

theorem seedRegistrations_keeps {root : String} {seen ids : List NameId}
    {registrations : List Registration} (h : Seeded start store book written auctions seen)
    (hcheck : checkRegistrations root auctions seen registrations = .ok ids)
    (hseed : registrations.foldlM seedRegistration store = .ok next) :
    ∃ book, Seeded start next book
      { written with registrations := registrations.reverse ++ written.registrations } auctions ids := by
  induction registrations generalizing store book seen written with
  | nil =>
    obtain rfl := Except.ok.inj hcheck
    obtain rfl := Except.ok.inj hseed
    exact ⟨book, h⟩
  | cons registration rest ih =>
    obtain ⟨id, hid, hcheck⟩ := Except.bind_eq_ok_iff.mp hcheck
    obtain ⟨u, hfree, hcheck⟩ := Except.bind_eq_ok_iff.mp hcheck
    obtain ⟨u', hnew, hcheck⟩ := Except.bind_eq_ok_iff.mp hcheck
    obtain ⟨mid, hfirst, hrest⟩ := Except.bind_eq_ok_iff.mp hseed
    obtain ⟨hname, -⟩ := secondLevelId_eq_ok_iff.mp hid
    obtain ⟨book', hseeded⟩ := seedRegistration_keeps h (Name.fits_of_check hname.check_eq) hname.id_eq
      (ensure_eq_ok_iff.mp hfree) (ensure_eq_ok_iff.mp hnew) hfirst
    rw [List.reverse_cons, List.append_assoc]
    exact ih hseeded hcheck hrest

/-! ### Bids and resolutions -/

/-- The names and bidders of bids, by which the check finds repeated ones. -/
def bidPlaces (bids : List PlacedBid) : List (NameId × Account) :=
  bids.map fun placed => (placed.id, placed.bid.bidder)

theorem seedBid_keeps (h : Seeded start store book written auctions registrations) {placed : PlacedBid}
    (hfits : placed.bid.Fits) (hmem : placed.id ∈ auctions)
    (hnew : (placed.id, placed.bid.bidder) ∉ bidPlaces written.bids) :
    ∃ book, Seeded start (seedBid store placed) book { written with bids := placed :: written.bids }
      auctions registrations := by
  obtain ⟨id, bid⟩ := placed
  have hbid : (Slot.bid id bid.bidder).Fits bid := ⟨rfl, hfits⟩
  have hnone : book (.bid id bid.bidder) = none := by
    by_contra hsome
    obtain ⟨held, hheld⟩ := Option.ne_none_iff_exists'.mp hsome
    have hbidder := h.sane.signed id bid.bidder held hheld
    have hplaced : ⟨id, held⟩ ∈ written.bids :=
      (h.holds.bids (id, held)).mpr (by rw [hbidder]; exact hheld)
    exact hnew (List.mem_map.mpr ⟨_, hplaced, by rw [hbidder]⟩)
  refine ⟨book.set (.bid id bid.bidder) (some bid), h.keeps.put _ hbid,
    h.extends_store.trans (Store.Extends.set store _ _),
    h.sane.addBid bid ((h.auction_iff id).mpr hmem), h.reverses.of_same (by simp) (by simp) (by simp), ?_,
    fun other => by simpa using h.auction_iff other, fun other => by simpa using h.registration_iff other⟩
  refine ⟨fun x => by simpa using h.holds.auctions x, ?_, fun x => by simpa using h.holds.registrations x,
    fun x => by simpa using h.holds.resolutions x⟩
  intro x
  have hset := Book.holds_set Store.Keeps.bidItem_injective (p := fun x => ⟨x.1, x.2⟩ ∈ written.bids)
    h.holds.bids (id, bid) hnone x
  rw [List.mem_cons]
  refine Iff.trans (or_congr_left ?_) hset
  rw [PlacedBid.mk.injEq, Prod.ext_iff]

theorem seedBids_keeps {bids : List PlacedBid}
    (h : Seeded start store book written auctions registrations)
    (hfits : ∀ placed ∈ bids, placed.bid.Fits)
    (hcheck : checkBids auctions (bidPlaces written.bids) bids = .ok ()) :
    ∃ book, Seeded start (bids.foldl seedBid store) book
      { written with bids := bids.reverse ++ written.bids } auctions registrations := by
  induction bids generalizing store book written with
  | nil => exact ⟨book, h⟩
  | cons placed rest ih =>
    obtain ⟨u, hmem, hcheck⟩ := Except.bind_eq_ok_iff.mp hcheck
    obtain ⟨u', hnew, hcheck⟩ := Except.bind_eq_ok_iff.mp hcheck
    obtain ⟨book', hseeded⟩ := seedBid_keeps h (hfits placed (List.mem_cons_self ..))
      (ensure_eq_ok_iff.mp hmem) (ensure_eq_ok_iff.mp hnew)
    rw [List.reverse_cons, List.append_assoc]
    exact ih hseeded (fun other hother => hfits other (List.mem_cons_of_mem _ hother)) hcheck

/-- The names and children of resolutions, by which the check finds repeated ones. -/
def resolutionPlaces (resolutions : List Resolution) : List (NameId × NameId) :=
  resolutions.map fun resolution => (resolution.id, resolution.child)

theorem seedResolution_keeps (h : Seeded start store book written auctions registrations)
    {resolution : Resolution} (hmem : resolution.id ∈ registrations)
    (hnew : (resolution.id, resolution.child) ∉ resolutionPlaces written.resolutions)
    (haccount : resolution.account ∉ written.resolutions.map (·.account)) :
    ∃ book, Seeded start (seedResolution store resolution) book
      { written with resolutions := resolution :: written.resolutions } auctions registrations := by
  obtain ⟨id, child, account⟩ := resolution
  have hnone : book (.resolution id child) = none := by
    by_contra hsome
    obtain ⟨held, hheld⟩ := Option.ne_none_iff_exists'.mp hsome
    have hwritten := (h.holds.resolutions ⟨id, child, held⟩).mpr hheld
    exact hnew (List.mem_map.mpr ⟨_, hwritten, rfl⟩)
  have hreverse : book (.reverse account) = none := by
    by_contra hsome
    obtain ⟨other, hother⟩ := Option.ne_none_iff_exists'.mp hsome
    obtain ⟨otherChild, hheld⟩ := h.reverses.resolved hother
    have hwritten := (h.holds.resolutions ⟨other, otherChild, account⟩).mpr hheld
    exact haccount (List.mem_map.mpr ⟨_, hwritten, rfl⟩)
  refine ⟨(book.set (.resolution id child) (some account)).set (.reverse account) (some id),
    (h.keeps.put (.resolution id child) trivial).put (.reverse account) trivial,
    (h.extends_store.trans (Store.Extends.set store _ _)).trans (Store.Extends.set _ _ _),
    h.sane.addResolution id child account,
    h.reverses.add ((h.registration_iff id).mpr hmem) hreverse hnone, ?_,
    fun other => by simpa using h.auction_iff other, fun other => by simpa using h.registration_iff other⟩
  refine ⟨fun x => by simpa using h.holds.auctions x, fun x => by simpa using h.holds.bids x,
    fun x => by simpa using h.holds.registrations x, ?_⟩
  intro x
  rw [List.mem_cons]
  simpa using
    Book.holds_set resolutionItem_injective h.holds.resolutions ⟨id, child, account⟩ hnone x

theorem seedResolutions_keeps {resolutions : List Resolution}
    (h : Seeded start store book written auctions registrations)
    (hcheck : checkResolutions registrations (resolutionPlaces written.resolutions)
      (written.resolutions.map (·.account)) resolutions = .ok ()) :
    ∃ book, Seeded start (resolutions.foldl seedResolution store) book
      { written with resolutions := resolutions.reverse ++ written.resolutions } auctions
      registrations := by
  induction resolutions generalizing store book written with
  | nil => exact ⟨book, h⟩
  | cons resolution rest ih =>
    obtain ⟨u, hmem, hcheck⟩ := Except.bind_eq_ok_iff.mp hcheck
    obtain ⟨u', hnew, hcheck⟩ := Except.bind_eq_ok_iff.mp hcheck
    obtain ⟨u'', haccount, hcheck⟩ := Except.bind_eq_ok_iff.mp hcheck
    obtain ⟨book', hseeded⟩ := seedResolution_keeps h (ensure_eq_ok_iff.mp hmem)
      (ensure_eq_ok_iff.mp hnew) (ensure_eq_ok_iff.mp haccount)
    rw [List.reverse_cons, List.append_assoc]
    exact ih hseeded hcheck

end

/-! ### The genesis as a whole -/

theorem Seeded.blank {start : Store} (h : start.Keeps .blank) (params : Params) :
    Seeded start start .blank ⟨params, [], [], [], []⟩ [] [] where
  keeps := h
  extends_store := .refl _
  sane := .blank
  reverses := .blank
  holds := ⟨by simp [Book.blank], by simp [Book.blank], by simp [Book.blank], by simp [Book.blank]⟩
  auction_iff _ := by simp [Book.blank]
  registration_iff _ := by simp [Book.blank]

theorem foldl_set_ofEntries (entries : Entries) (changes : List (Bytes × Option Bytes)) :
    changes.foldl (fun below change => below.set change.1 change.2) (Store.ofEntries entries) =
      Store.ofEntries (Store.writeAll entries changes) := by
  induction changes generalizing entries with
  | nil => rfl
  | cons change rest ih => exact ih (Store.write entries change.1 change.2)

/-- A layer over an empty store is written to entries of their own. -/
theorem get?_base_commit {store : Store} (h : Store.empty.layer.Extends store) (key : Bytes) :
    (Store.ofEntries store.commit.base).get? key = store.get? key := by
  obtain ⟨hlayers, hdiscard⟩ := h (by simp [Store.layer])
  have hempty : store.discard = Store.ofEntries ∅ := hdiscard
  have hcommit : store.commit = Store.ofEntries (Store.writeAll ∅ store.pending) := by
    rw [Store.commit, hempty]
    exact foldl_set_ofEntries ∅ store.pending
  have hbase : Store.ofEntries store.commit.base = store.commit := by
    rw [hcommit]
    rfl
  rw [hbase]
  exact Store.get?_commit hlayers key

structure Founds (genesis : Genesis) (book : Book) : Prop where
  sane : book.Sane
  reverses : book.Mutual
  proper : book.Proper
  holds : book.Holds genesis

theorem accepted_of_holds {genesis : Genesis} (hcheck : genesis.check = .ok ())
    (hholds : book.Holds genesis) (id : NameId) :
    (∀ auction : Auction, book (.auction id) = some auction →
      secondLevelId auction.name genesis.params.root = .ok id ∧
        checkPhase (genesis.bids.map (·.id)) id auction = .ok ()) ∧
    ∀ registration : Registration, book (.registration id) = some registration →
      secondLevelId registration.name genesis.params.root = .ok id := by
  obtain ⟨u, -, hcheck⟩ := Except.bind_eq_ok_iff.mp hcheck
  obtain ⟨auctions, hauctions, hcheck⟩ := Except.bind_eq_ok_iff.mp hcheck
  obtain ⟨registrations, hregistrations, -⟩ := Except.bind_eq_ok_iff.mp hcheck
  have hown : ∀ {name : Name} {own : NameId}, secondLevelId name genesis.params.root = .ok own →
      name.id = .ok id → own = id := fun hsecond hid =>
    Except.ok.inj ((secondLevelId_eq_ok_iff.mp hsecond).1.id_eq.symm.trans hid)
  constructor
  · intro auction hheld
    obtain ⟨hmem, hid⟩ := (hholds.auctions (id, auction)).mpr hheld
    obtain ⟨own, hname, hphase⟩ := of_checkAuctions hauctions hmem
    obtain rfl := hown hname hid
    exact ⟨hname, hphase⟩
  · intro registration hheld
    obtain ⟨hmem, hid⟩ := (hholds.registrations (id, registration)).mpr hheld
    obtain ⟨own, hname⟩ := of_checkRegistrations hregistrations hmem
    obtain rfl := hown hname hid
    exact hname

/-- A book that holds the records of a good genesis is proper. -/
theorem proper_of_holds {genesis : Genesis} (hcheck : genesis.check = .ok ())
    (hholds : book.Holds genesis) : book.Proper := by
  intro id
  obtain ⟨hauction, hregistration⟩ := accepted_of_holds hcheck hholds id
  refine ⟨?_, ?_, ?_⟩
  · intro auction hheld
    exact (secondLevelId_eq_ok_iff.mp (hauction auction hheld).1).1
  · intro registration hheld
    exact (secondLevelId_eq_ok_iff.mp (hregistration registration hheld)).1
  · intro auction hheld hphase htop
    obtain ⟨-, hcontested⟩ := checkPhase_eq_ok (hauction auction hheld).2
    obtain ⟨placed, hplaced, rfl⟩ := List.mem_map.mp (hcontested hphase htop)
    exact ⟨_, _, (hholds.bids (placed.id, placed.bid)).mp hplaced⟩

theorem under_of_holds {genesis : Genesis} (hcheck : genesis.check = .ok ())
    (hholds : book.Holds genesis) : book.Under genesis.params.root := by
  intro id
  obtain ⟨hauction, hregistration⟩ := accepted_of_holds hcheck hholds id
  refine ⟨?_, ?_⟩
  · intro auction hheld
    exact (secondLevelId_eq_ok_iff.mp (hauction auction hheld).1).2
  · intro registration hheld
    exact (secondLevelId_eq_ok_iff.mp (hregistration registration hheld)).2

/-- **A genesis that is accepted seeds a store that keeps a book with its records.** -/
theorem seed_founds {genesis : Genesis} (hfits : genesis.Fits) {start store : Store}
    (hstart : start.Keeps .blank) (h : genesis.seed start = .ok store) :
    ∃ book, store.Keeps book ∧ start.Extends store ∧ genesis.Founds book := by
  obtain ⟨u, hcheck, h⟩ := Except.bind_eq_ok_iff.mp h
  obtain ⟨withAuctions, hauctions, h⟩ := Except.bind_eq_ok_iff.mp h
  obtain ⟨withRegistrations, hregistrations, h⟩ := Except.bind_eq_ok_iff.mp h
  obtain rfl := Except.ok.inj h
  have hgood := hcheck
  obtain ⟨u', -, hcheck⟩ := Except.bind_eq_ok_iff.mp hcheck
  obtain ⟨auctions, hcheckAuctions, hcheck⟩ := Except.bind_eq_ok_iff.mp hcheck
  obtain ⟨registrations, hcheckRegistrations, hcheck⟩ := Except.bind_eq_ok_iff.mp hcheck
  obtain ⟨u'', hcheckBids, hcheckResolutions⟩ := Except.bind_eq_ok_iff.mp hcheck
  obtain ⟨_, hone⟩ :=
    seedAuctions_keeps (Seeded.blank hstart genesis.params) hfits.topBids hcheckAuctions hauctions
  obtain ⟨_, htwo⟩ := seedBids_keeps hone hfits.deposits (Fault.lift_eq_ok hcheckBids)
  obtain ⟨_, hthree⟩ := seedRegistrations_keeps htwo hcheckRegistrations hregistrations
  obtain ⟨book, hfour⟩ := seedResolutions_keeps hthree (Fault.lift_eq_ok hcheckResolutions)
  have hholds : book.Holds genesis :=
    hfour.holds.of_mem_iff (by simp) (by simp) (by simp) (by simp)
  exact ⟨book, hfour.keeps, hfour.extends_store, hfour.sane, hfour.reverses, proper_of_holds hgood hholds,
    hholds⟩

/-- What a genesis seeds over an empty store can be committed. -/
theorem seed_keeps {genesis : Genesis} (hfits : genesis.Fits) {store : Store}
    (h : genesis.seed Store.empty.layer = .ok store) :
    ∃ book, (Store.ofEntries store.commit.base).Keeps book ∧ genesis.Founds book := by
  obtain ⟨book, hkeeps, hextends, hfounds⟩ := seed_founds hfits Store.Keeps.blank.layer h
  exact ⟨book, hkeeps.of_get?_eq (get?_base_commit hextends), hfounds⟩

end Genesis

end NameAuction
