import NameAuction.Proofs.Genesis.Seed

/-!
# What is exported can be imported

A store that keeps a book exports the listings of its records as a genesis (`Genesis.ofStore_eq_ok`).  If the
book is exportable, which the books of registrars are as long as their root stays the same, the genesis passes
its check (`Book.Listing.check_eq_ok`) and can be written to an empty store (`Genesis.seed_eq_ok`).  Queues and
reverse entries are not exported, but an exportable book has no choice about them: there is only one that holds
the records of a genesis (`Book.Holds.unique`).  So the store that is seeded has the same entries as the one
that was exported (`Genesis.ofStore_seed`).
-/

namespace NameAuction

/-! ### One book -/

/-- Everything that the check of a genesis relies on. -/
structure Book.Exportable (book : Book) (root : String) : Prop where
  sane : book.Sane
  reverses : book.Mutual
  proper : book.Proper
  under : book.Under root

/-- **There is one sane and mutual book with the records of a genesis.** -/
theorem Book.Holds.unique {genesis : Genesis} {book other : Book} (h : book.Holds genesis)
    (hsane : book.Sane) (hmutual : book.Mutual) (h' : other.Holds genesis) (hsane' : other.Sane)
    (hmutual' : other.Mutual) : book = other := by
  have hauction : ∀ id auction,
      book (.auction id) = some auction ↔ other (.auction id) = some auction :=
    fun id auction => (h.auctions (id, auction)).symm.trans (h'.auctions (id, auction))
  have hregistration : ∀ id registration,
      book (.registration id) = some registration ↔ other (.registration id) = some registration :=
    fun id registration =>
      (h.registrations (id, registration)).symm.trans (h'.registrations (id, registration))
  have hresolution : ∀ id child account,
      book (.resolution id child) = some account ↔ other (.resolution id child) = some account :=
    fun id child account =>
      (h.resolutions ⟨id, child, account⟩).symm.trans (h'.resolutions ⟨id, child, account⟩)
  have hbid : ∀ id bidder (bid : Bid),
      book (.bid id bidder) = some bid ↔ other (.bid id bidder) = some bid := by
    intro id bidder bid
    have hown := (h.bids (id, bid)).symm.trans (h'.bids (id, bid))
    constructor
    · intro hheld
      obtain rfl := hsane.signed id bidder bid hheld
      exact hown.mp hheld
    · intro hheld
      obtain rfl := hsane'.signed id bidder bid hheld
      exact hown.mpr hheld
  funext slot
  refine Option.ext ?_
  intro value
  cases slot with
  | auction id => exact hauction id value
  | registration id => exact hregistration id value
  | resolution id child => exact hresolution id child value
  | bid id bidder => exact hbid id bidder value
  | reverse account =>
    rw [hmutual.reverse_iff, hmutual'.reverse_iff]
    exact exists_congr fun child => hresolution value child account
  | queued kind due =>
    have hagrees : book.Agrees kind due ↔ other.Agrees kind due := by
      cases kind with
      | bid => exact exists_congr fun auction => and_congr_left' (hauction due.id auction)
      | reveal => exact exists_congr fun auction => and_congr_left' (hauction due.id auction)
      | registration =>
        exact exists_congr fun registration => and_congr_left' (hregistration due.id registration)
    exact (hsane.paired.queued_iff_agrees hsane.apart kind due).trans
      (hagrees.trans (hsane'.paired.queued_iff_agrees hsane'.apart kind due).symm)

theorem Store.Keeps.entries_eq {book : Book} {first second : Entries}
    (h : (Store.ofEntries first).Keeps book) (h' : (Store.ofEntries second).Keeps book) :
    first = second := by
  refine Std.ExtTreeMap.ext_getElem? fun key => ?_
  rw [← Store.get?_ofEntries, ← Store.get?_ofEntries]
  by_cases hslot : ∃ slot : Slot, slot.key = key
  · obtain ⟨slot, rfl⟩ := hslot
    rw [h.get?_key, h'.get?_key]
  · have hnone : ∀ {entries : Entries}, (Store.ofEntries entries).Keeps book →
        (Store.ofEntries entries).get? key = none := by
      intro entries hkeeps
      cases hget : (Store.ofEntries entries).get? key with
      | none => rfl
      | some bytes => exact absurd (hkeeps.exists_slot key bytes hget) hslot
    rw [hnone h, hnone h']

namespace Genesis

/-! ### Lists that pass their checks -/

theorem nodup_seen {κ : Type} {key : κ} {rest seen : List κ} (h : (key :: rest ++ seen).Nodup) :
    key ∉ seen ∧ (rest ++ key :: seen).Nodup := by
  have hmoved : (rest ++ key :: seen).Nodup := List.perm_middle.nodup_iff.mpr h
  exact ⟨(List.nodup_cons.mp (List.nodup_append'.mp hmoved).2.1).1, hmoved⟩

theorem checkAuctions_eq_ok {root : String} {withBids seen : List NameId}
    {entries : List (NameId × Auction)}
    (haccepted : ∀ x ∈ entries, secondLevelId x.2.name root = .ok x.1 ∧
      checkPhase withBids x.1 x.2 = .ok ())
    (hnodup : (entries.map (·.1) ++ seen).Nodup) :
    checkAuctions root withBids seen (entries.map (·.2)) =
      .ok ((entries.map (·.1)).reverse ++ seen) := by
  induction entries generalizing seen with
  | nil => rfl
  | cons entry rest ih =>
    obtain ⟨hid, hphase⟩ := haccepted entry (List.mem_cons_self ..)
    obtain ⟨hnew, hseen⟩ := nodup_seen hnodup
    have hrest := ih (fun x hx => haccepted x (List.mem_cons_of_mem _ hx)) hseen
    refine Except.bind_eq_ok_iff.mpr ⟨entry.1, hid, ?_⟩
    refine Except.bind_eq_ok_iff.mpr ⟨(), ensure_eq_ok_iff.mpr hnew, ?_⟩
    refine Except.bind_eq_ok_iff.mpr ⟨(), by rw [hphase]; rfl, ?_⟩
    rw [List.map_cons, List.reverse_cons, List.append_assoc]
    exact hrest

theorem checkRegistrations_eq_ok {root : String} {auctions seen : List NameId}
    {entries : List (NameId × Registration)}
    (haccepted : ∀ x ∈ entries, secondLevelId x.2.name root = .ok x.1 ∧ x.1 ∉ auctions)
    (hnodup : (entries.map (·.1) ++ seen).Nodup) :
    checkRegistrations root auctions seen (entries.map (·.2)) =
      .ok ((entries.map (·.1)).reverse ++ seen) := by
  induction entries generalizing seen with
  | nil => rfl
  | cons entry rest ih =>
    obtain ⟨hid, hfree⟩ := haccepted entry (List.mem_cons_self ..)
    obtain ⟨hnew, hseen⟩ := nodup_seen hnodup
    have hrest := ih (fun x hx => haccepted x (List.mem_cons_of_mem _ hx)) hseen
    refine Except.bind_eq_ok_iff.mpr ⟨entry.1, hid, ?_⟩
    refine Except.bind_eq_ok_iff.mpr ⟨(), ensure_eq_ok_iff.mpr hfree, ?_⟩
    refine Except.bind_eq_ok_iff.mpr ⟨(), ensure_eq_ok_iff.mpr hnew, ?_⟩
    rw [List.map_cons, List.reverse_cons, List.append_assoc]
    exact hrest

theorem checkBids_eq_ok {auctions : List NameId} {seen : List (NameId × Account)}
    {bids : List PlacedBid} (hmem : ∀ placed ∈ bids, placed.id ∈ auctions)
    (hnodup : (bidPlaces bids ++ seen).Nodup) : checkBids auctions seen bids = .ok () := by
  induction bids generalizing seen with
  | nil => rfl
  | cons placed rest ih =>
    obtain ⟨hnew, hseen⟩ := nodup_seen hnodup
    have hrest := ih (fun other hother => hmem other (List.mem_cons_of_mem _ hother)) hseen
    have hauction := hmem placed (List.mem_cons_self ..)
    refine Except.bind_eq_ok_iff.mpr ⟨(), ensure_eq_ok_iff.mpr hauction, ?_⟩
    exact Except.bind_eq_ok_iff.mpr ⟨(), ensure_eq_ok_iff.mpr hnew, hrest⟩

theorem checkResolutions_eq_ok {registrations : List NameId} {seen : List (NameId × NameId)}
    {accounts : List Account} {resolutions : List Resolution}
    (hmem : ∀ resolution ∈ resolutions, resolution.id ∈ registrations)
    (hnodup : (resolutionPlaces resolutions ++ seen).Nodup)
    (haccounts : (resolutions.map (·.account) ++ accounts).Nodup) :
    checkResolutions registrations seen accounts resolutions = .ok () := by
  induction resolutions generalizing seen accounts with
  | nil => rfl
  | cons resolution rest ih =>
    obtain ⟨hnew, hseen⟩ := nodup_seen hnodup
    obtain ⟨hfree, htaken⟩ := nodup_seen haccounts
    have hrest := ih (fun other hother => hmem other (List.mem_cons_of_mem _ hother)) hseen htaken
    have hregistration := hmem resolution (List.mem_cons_self ..)
    refine Except.bind_eq_ok_iff.mpr ⟨(), ensure_eq_ok_iff.mpr hregistration, ?_⟩
    refine Except.bind_eq_ok_iff.mpr ⟨(), ensure_eq_ok_iff.mpr hnew, ?_⟩
    exact Except.bind_eq_ok_iff.mpr ⟨(), ensure_eq_ok_iff.mpr hfree, hrest⟩

theorem checkPhase_of {withBids : List NameId} {id : NameId} {auction : Auction}
    (hearly : auction.phase = .bid → auction.topBid = none)
    (hcontested : auction.phase = .reveal → auction.topBid = none → id ∈ withBids) :
    checkPhase withBids id auction = .ok () := by
  rw [checkPhase]
  cases hphase : auction.phase with
  | bid => rw [hearly hphase]
  | reveal =>
    cases htop : auction.topBid with
    | none => exact ensure_eq_ok_iff.mpr (hcontested hphase htop)
    | some top => rfl

end Genesis

/-! ### The listings of a book -/

/-- The records of a book, each once and in the order of keys. -/
structure Book.Listing (book : Book) where
  auctions : List (NameId × Auction)
  bids : List (NameId × Bid)
  registrations : List (NameId × Registration)
  resolutions : List Resolution
  lists_auctions : Lists auctions (fun x => ⟨.auction x.1, x.2⟩) fun x => book (.auction x.1) = some x.2
  lists_bids : Lists bids Store.Keeps.bidItem fun x => book (.bid x.1 x.2.bidder) = some x.2
  lists_registrations : Lists registrations (fun x => ⟨.registration x.1, x.2⟩) fun x =>
    book (.registration x.1) = some x.2
  lists_resolutions : Lists resolutions (fun x => ⟨.resolution x.id x.child, x.account⟩) fun x =>
    book (.resolution x.id x.child) = some x.account

namespace Book.Listing

variable {book : Book}

def genesis (listing : book.Listing) (params : Params) : Genesis :=
  ⟨params, listing.auctions.map (·.2), listing.bids.map fun x => ⟨x.1, x.2⟩,
    listing.registrations.map (·.2), listing.resolutions⟩

theorem nodup_auctions (listing : book.Listing) : (listing.auctions.map (·.1)).Nodup := by
  refine List.Nodup.of_map Slot.auction ?_
  rw [List.map_map]
  exact listing.lists_auctions.nodup_slots

theorem nodup_registrations (listing : book.Listing) : (listing.registrations.map (·.1)).Nodup := by
  refine List.Nodup.of_map Slot.registration ?_
  rw [List.map_map]
  exact listing.lists_registrations.nodup_slots

theorem nodup_bids (listing : book.Listing) (params : Params) :
    (Genesis.bidPlaces (listing.genesis params).bids).Nodup := by
  refine List.Nodup.of_map (fun place => Slot.bid place.1 place.2) ?_
  rw [Genesis.bidPlaces, genesis, List.map_map, List.map_map]
  exact listing.lists_bids.nodup_slots

theorem nodup_resolutions (listing : book.Listing) :
    (Genesis.resolutionPlaces listing.resolutions).Nodup := by
  refine List.Nodup.of_map (fun place => Slot.resolution place.1 place.2) ?_
  rw [Genesis.resolutionPlaces, List.map_map]
  exact listing.lists_resolutions.nodup_slots

theorem nodup_accounts (listing : book.Listing) (hmutual : book.Mutual) :
    (listing.resolutions.map (·.account)).Nodup := by
  refine List.Nodup.map_on ?_ listing.lists_resolutions.nodup
  intro first hfirst second hsecond haccount
  exact hmutual.eq_of_account_eq ((listing.lists_resolutions.mem_iff _).mp hfirst)
    ((listing.lists_resolutions.mem_iff _).mp hsecond) haccount

theorem mem_auctions (listing : book.Listing) {id : NameId} (h : book (.auction id) ≠ none) :
    id ∈ listing.auctions.map (·.1) := by
  obtain ⟨auction, hauction⟩ := Option.ne_none_iff_exists'.mp h
  exact List.mem_map.mpr ⟨(id, auction), (listing.lists_auctions.mem_iff _).mpr hauction, rfl⟩

theorem mem_registrations (listing : book.Listing) {id : NameId} (h : book (.registration id) ≠ none) :
    id ∈ listing.registrations.map (·.1) := by
  obtain ⟨registration, hregistration⟩ := Option.ne_none_iff_exists'.mp h
  exact List.mem_map.mpr
    ⟨(id, registration), (listing.lists_registrations.mem_iff _).mpr hregistration, rfl⟩

/-! ### The exported genesis -/

theorem fits (listing : book.Listing) {store : Store} (hkeeps : store.Keeps book) (params : Params) :
    (listing.genesis params).Fits where
  topBids auction hmem top htop := by
    obtain ⟨x, hx, rfl⟩ := List.mem_map.mp hmem
    have hfits : Auction.Fits x.2 :=
      hkeeps.fits (.auction x.1) x.2 ((listing.lists_auctions.mem_iff x).mp hx)
    exact hfits.topBid top htop
  deposits placed hmem := by
    obtain ⟨x, hx, rfl⟩ := List.mem_map.mp hmem
    exact (hkeeps.fits (.bid x.1 x.2.bidder) x.2 ((listing.lists_bids.mem_iff x).mp hx)).2

/-- **A book holds what is exported of it.** -/
theorem holds (listing : book.Listing) (hproper : book.Proper) (params : Params) :
    book.Holds (listing.genesis params) where
  auctions x := by
    obtain ⟨id, auction⟩ := x
    constructor
    · rintro ⟨hmem, hid⟩
      obtain ⟨⟨own, held⟩, hentry, rfl⟩ := List.mem_map.mp hmem
      have hheld := (listing.lists_auctions.mem_iff (own, held)).mp hentry
      obtain rfl : own = id :=
        Except.ok.inj (((hproper own).auction held hheld).id_eq.symm.trans hid)
      exact hheld
    · intro hheld
      exact ⟨List.mem_map.mpr ⟨(id, auction), (listing.lists_auctions.mem_iff _).mpr hheld, rfl⟩,
        ((hproper id).auction auction hheld).id_eq⟩
  bids x := by
    rw [← listing.lists_bids.mem_iff x]
    constructor
    · intro hmem
      obtain ⟨entry, hentry, hx⟩ := List.mem_map.mp hmem
      obtain ⟨hid, hbid⟩ := PlacedBid.mk.inj hx
      obtain rfl : entry = x := Prod.ext hid hbid
      exact hentry
    · intro hmem
      exact List.mem_map.mpr ⟨x, hmem, rfl⟩
  registrations x := by
    obtain ⟨id, registration⟩ := x
    constructor
    · rintro ⟨hmem, hid⟩
      obtain ⟨⟨own, held⟩, hentry, rfl⟩ := List.mem_map.mp hmem
      have hheld := (listing.lists_registrations.mem_iff (own, held)).mp hentry
      obtain rfl : own = id :=
        Except.ok.inj (((hproper own).registration held hheld).id_eq.symm.trans hid)
      exact hheld
    · intro hheld
      exact ⟨List.mem_map.mpr ⟨(id, registration), (listing.lists_registrations.mem_iff _).mpr hheld, rfl⟩,
        ((hproper id).registration registration hheld).id_eq⟩
  resolutions := listing.lists_resolutions.mem_iff

variable {params : Params}

theorem auction_accepted (listing : book.Listing) (h : book.Exportable params.root) {x : NameId × Auction}
    (hx : x ∈ listing.auctions) :
    Genesis.secondLevelId x.2.name params.root = .ok x.1 ∧
      Genesis.checkPhase ((listing.genesis params).bids.map (·.id)) x.1 x.2 = .ok () := by
  have hheld := (listing.lists_auctions.mem_iff x).mp hx
  refine ⟨Genesis.secondLevelId_eq_ok_iff.mpr
    ⟨(h.proper x.1).auction x.2 hheld, (h.under x.1).auction x.2 hheld⟩, ?_⟩
  refine Genesis.checkPhase_of (h.sane.unopened x.1 x.2 hheld) fun hphase htop => ?_
  obtain ⟨bidder, bid, hbid⟩ := (h.proper x.1).contested x.2 hheld hphase htop
  have hplaced := ((listing.holds h.proper params).bids (x.1, bid)).mpr
    (by rw [h.sane.signed x.1 bidder bid hbid]; exact hbid)
  exact List.mem_map.mpr ⟨_, hplaced, rfl⟩

theorem registration_accepted (listing : book.Listing) (h : book.Exportable params.root)
    {x : NameId × Registration} (hx : x ∈ listing.registrations) :
    Genesis.secondLevelId x.2.name params.root = .ok x.1 ∧ x.1 ∉ listing.auctions.map (·.1) := by
  have hheld := (listing.lists_registrations.mem_iff x).mp hx
  refine ⟨Genesis.secondLevelId_eq_ok_iff.mpr
    ⟨(h.proper x.1).registration x.2 hheld, (h.under x.1).registration x.2 hheld⟩, ?_⟩
  intro hmem
  obtain ⟨entry, hentry, hid⟩ := List.mem_map.mp hmem
  have hauction := (listing.lists_auctions.mem_iff entry).mp hentry
  rw [hid, h.sane.apart.auction_eq_none hheld] at hauction
  cases hauction

theorem bid_housed (listing : book.Listing) (h : book.Exportable params.root) {placed : PlacedBid}
    (hplaced : placed ∈ (listing.genesis params).bids) : placed.id ∈ listing.auctions.map (·.1) := by
  have hheld := ((listing.holds h.proper params).bids (placed.id, placed.bid)).mp hplaced
  refine listing.mem_auctions fun hnone => ?_
  rw [h.sane.housed placed.id placed.bid.bidder hnone] at hheld
  cases hheld

theorem resolution_registered (listing : book.Listing) (hmutual : book.Mutual) {resolution : Resolution}
    (hmem : resolution ∈ listing.resolutions) : resolution.id ∈ listing.registrations.map (·.1) :=
  listing.mem_registrations (hmutual.registered ((listing.lists_resolutions.mem_iff resolution).mp hmem))

/-- **What is exported of an exportable book passes its check.** -/
theorem check_eq_ok (listing : book.Listing) (h : book.Exportable params.root)
    (hparams : params.check = .ok ()) : (listing.genesis params).check = .ok () := by
  have hauctions : Genesis.checkAuctions params.root ((listing.genesis params).bids.map (·.id)) []
      (listing.auctions.map (·.2)) = .ok ((listing.auctions.map (·.1)).reverse ++ []) :=
    Genesis.checkAuctions_eq_ok (fun _ hx => listing.auction_accepted h hx)
      (by rw [List.append_nil]; exact listing.nodup_auctions)
  have hregistrations : Genesis.checkRegistrations params.root (listing.auctions.map (·.1)).reverse []
      (listing.registrations.map (·.2)) = .ok ((listing.registrations.map (·.1)).reverse ++ []) :=
    Genesis.checkRegistrations_eq_ok
      (fun _ hx => (listing.registration_accepted h hx).imp_right List.mem_reverse.not.mpr)
      (by rw [List.append_nil]; exact listing.nodup_registrations)
  have hbids : Genesis.checkBids (listing.auctions.map (·.1)).reverse []
      (listing.genesis params).bids = .ok () :=
    Genesis.checkBids_eq_ok (fun _ hplaced => List.mem_reverse.mpr (listing.bid_housed h hplaced))
      (by rw [List.append_nil]; exact listing.nodup_bids params)
  have hresolutions : Genesis.checkResolutions (listing.registrations.map (·.1)).reverse [] []
      listing.resolutions = .ok () :=
    Genesis.checkResolutions_eq_ok
      (fun _ hmem => List.mem_reverse.mpr (listing.resolution_registered h.reverses hmem))
      (by rw [List.append_nil]; exact listing.nodup_resolutions)
      (by rw [List.append_nil]; exact listing.nodup_accounts h.reverses)
  rw [List.append_nil] at hauctions hregistrations
  refine Except.bind_eq_ok_iff.mpr ⟨(), by rw [genesis, hparams]; rfl, ?_⟩
  refine Except.bind_eq_ok_iff.mpr ⟨_, hauctions, ?_⟩
  refine Except.bind_eq_ok_iff.mpr ⟨_, hregistrations, ?_⟩
  refine Except.bind_eq_ok_iff.mpr ⟨(), by rw [hbids]; rfl, ?_⟩
  show (liftM (Genesis.checkResolutions _ [] [] listing.resolutions) : Except Fault Unit) = _
  rw [hresolutions]
  rfl

end Book.Listing

namespace Genesis

/-- **A store that keeps a book exports its records.** -/
theorem ofStore_eq_ok {store : Store} {book : Book} (h : store.Keeps book) (params : Params) :
    ∃ listing : book.Listing, ofStore store params = .ok (listing.genesis params) := by
  obtain ⟨auctions, hauctions, hlistAuctions⟩ := h.auctions
  obtain ⟨bids, hbids, hlistBids⟩ := h.bids
  obtain ⟨registrations, hregistrations, hlistRegistrations⟩ := h.registrations
  obtain ⟨resolutions, hresolutions, hlistResolutions⟩ := h.resolutions
  refine ⟨⟨auctions, bids, registrations, resolutions, hlistAuctions, hlistBids, hlistRegistrations,
    hlistResolutions⟩, ?_⟩
  rw [ofStore, hauctions, hbids, hregistrations, hresolutions]
  rfl

theorem foldlM_eq_ok {α : Type} {write : Store → α → Except Fault Store} {list : List α}
    (h : ∀ x ∈ list, ∀ store, ∃ next, write store x = .ok next) (store : Store) :
    ∃ next, list.foldlM write store = .ok next := by
  induction list generalizing store with
  | nil => exact ⟨store, rfl⟩
  | cons x rest ih =>
    obtain ⟨mid, hmid⟩ := h x (List.mem_cons_self ..) store
    obtain ⟨next, hnext⟩ := ih (fun y hy => h y (List.mem_cons_of_mem _ hy)) mid
    exact ⟨next, Except.bind_eq_ok_iff.mpr ⟨mid, hmid, hnext⟩⟩

/-- **A genesis that passes its check can be written.** -/
theorem seed_eq_ok {genesis : Genesis} (h : genesis.check = .ok ()) (store : Store) :
    ∃ next, genesis.seed store = .ok next := by
  have hcheck := h
  obtain ⟨u, -, h⟩ := Except.bind_eq_ok_iff.mp h
  obtain ⟨auctions, hauctions, h⟩ := Except.bind_eq_ok_iff.mp h
  obtain ⟨registrations, hregistrations, -⟩ := Except.bind_eq_ok_iff.mp h
  have hwriteAuction : ∀ auction ∈ genesis.auctions, ∀ store, ∃ next,
      seedAuction store auction = .ok next := by
    intro auction hmem store
    obtain ⟨id, hid, -⟩ := of_checkAuctions hauctions hmem
    have hname := (secondLevelId_eq_ok_iff.mp hid).1.id_eq
    exact ⟨_, Except.bind_eq_ok_iff.mpr ⟨id, by rw [hname]; rfl, rfl⟩⟩
  have hwriteRegistration : ∀ registration ∈ genesis.registrations, ∀ store, ∃ next,
      seedRegistration store registration = .ok next := by
    intro registration hmem store
    obtain ⟨id, hid⟩ := of_checkRegistrations hregistrations hmem
    have hname := (secondLevelId_eq_ok_iff.mp hid).1.id_eq
    exact ⟨_, Except.bind_eq_ok_iff.mpr ⟨id, by rw [hname]; rfl, rfl⟩⟩
  obtain ⟨withAuctions, hfirst⟩ := foldlM_eq_ok hwriteAuction store
  obtain ⟨withRegistrations, hsecond⟩ :=
    foldlM_eq_ok hwriteRegistration (genesis.bids.foldl seedBid withAuctions)
  refine ⟨genesis.resolutions.foldl seedResolution withRegistrations, ?_⟩
  refine Except.bind_eq_ok_iff.mpr ⟨(), hcheck, ?_⟩
  refine Except.bind_eq_ok_iff.mpr ⟨withAuctions, hfirst, ?_⟩
  exact Except.bind_eq_ok_iff.mpr ⟨withRegistrations, hsecond, rfl⟩

/-- **What has been exported is imported as it was.** -/
theorem ofStore_seed {entries : Entries} {book : Book} {params : Params}
    (hkeeps : (Store.ofEntries entries).Keeps book) (h : book.Exportable params.root)
    (hparams : params.check = .ok ()) :
    ∃ genesis store, ofStore (.ofEntries entries) params = .ok genesis ∧ genesis.params = params ∧
      genesis.check = .ok () ∧ genesis.seed Store.empty.layer = .ok store ∧
      store.commit.base = entries := by
  obtain ⟨listing, hexport⟩ := ofStore_eq_ok hkeeps params
  have hcheck := listing.check_eq_ok h hparams
  obtain ⟨store, hseed⟩ := seed_eq_ok hcheck Store.empty.layer
  obtain ⟨founded, hfounded, hbook⟩ := seed_keeps (listing.fits hkeeps params) hseed
  obtain rfl : book = founded := (listing.holds h.proper params).unique h.sane h.reverses hbook.holds
    hbook.sane hbook.reverses
  exact ⟨listing.genesis params, store, hexport, rfl, hcheck, hseed, hfounded.entries_eq hkeeps⟩

end Genesis

end NameAuction
