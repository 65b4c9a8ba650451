import NameAuction.Proofs.Registrar.Backing

/-!
# Records of reachable registrars fit together

Whatever has been called, the auctions, bids and registrations of a registrar fit together
(`Reachable.records_consistent`), and its resolutions and reverse entries are inverse to each other
(`Reachable.resolutions_inverse`).  Both are read off the book: its records are proper and it is mutual, since
a blank book and every book that is seeded from a genesis are, and commands and sweeps preserve it.
-/

namespace NameAuction.Registrar

open Book

variable {registrar next : Registrar} {book : Book}

/-! ### Auctions, bids and registrations -/

/-- The listed auctions, bids and registrations fit together. -/
structure Consistent (auctions : List (NameId × Auction)) (bids : List (NameId × Bid))
    (registrations : List (NameId × Registration)) : Prop where
  apart : ∀ id auction registration, (id, auction) ∈ auctions → (id, registration) ∉ registrations
  housed : ∀ id bid, (id, bid) ∈ bids → ∃ auction, (id, auction) ∈ auctions
  unopened : ∀ id auction, (id, auction) ∈ auctions → Auction.phase auction = .bid →
    Auction.topBid auction = none
  contested : ∀ id auction, (id, auction) ∈ auctions → Auction.phase auction = .reveal →
    Auction.topBid auction ≠ none ∨ ∃ bid, (id, bid) ∈ bids
  auction_named : ∀ id auction, (id, auction) ∈ auctions → (Auction.name auction).SecondLevel id
  registration_named : ∀ id registration, (id, registration) ∈ registrations →
    (Registration.name registration).SecondLevel id

/-- **The records of a reachable registrar fit together.**  No name has both an auction and a registration;
every bid is on an auction; an auction has no top bid before bids are revealed, and then it has one or there
is a bid on it; and every auction and every registration is held under the identifier of its own name, which
is a proper name of two levels. -/
theorem Reachable.records_consistent (h : Reachable registrar) :
    ∃ auctions bids registrations, registrar.store.auctions = .ok auctions ∧
      registrar.store.bids = .ok bids ∧ registrar.store.registrations = .ok registrations ∧
      Consistent auctions bids registrations := by
  obtain ⟨book, hsound, hproper⟩ := h.lasting lasting_proper proper_blank fun hfounds => hfounds.proper
  have hsane := hsound.sane
  obtain ⟨auctions, hauctions, hlistAuctions⟩ := hsound.keeps.auctions
  obtain ⟨bids, hbids, hlistBids⟩ := hsound.keeps.bids
  obtain ⟨registrations, hregistrations, hlistRegistrations⟩ := hsound.keeps.registrations
  have hauction : ∀ {id auction}, (id, auction) ∈ auctions → book (.auction id) = some auction :=
    fun hmem => (hlistAuctions.mem_iff _).mp hmem
  have hregistration : ∀ {id registration}, (id, registration) ∈ registrations →
      book (.registration id) = some registration :=
    fun hmem => (hlistRegistrations.mem_iff _).mp hmem
  refine ⟨auctions, bids, registrations, hauctions, hbids, hregistrations, ?_, ?_, ?_, ?_, ?_, ?_⟩
  · intro id auction registration hmem hother
    have hnone := hsane.apart.auction_eq_none (hregistration hother)
    rw [hauction hmem] at hnone
    cases hnone
  · intro id bid hmem
    have hbid : book (.bid id bid.bidder) = some bid := (hlistBids.mem_iff _).mp hmem
    have hsome : book (.auction id) ≠ none := by
      intro hnone
      rw [hsane.housed id bid.bidder hnone] at hbid
      cases hbid
    obtain ⟨auction, hheld⟩ := Option.ne_none_iff_exists'.mp hsome
    exact ⟨auction, (hlistAuctions.mem_iff _).mpr hheld⟩
  · intro id auction hmem hphase
    exact hsane.unopened id auction (hauction hmem) hphase
  · intro id auction hmem hphase
    by_cases htop : Auction.topBid auction = none
    · obtain ⟨bidder, bid, hbid⟩ := (hproper id).contested auction (hauction hmem) hphase htop
      refine .inr ⟨bid, (hlistBids.mem_iff _).mpr ?_⟩
      have hbidder := hsane.signed id bidder bid hbid
      show book (.bid id bid.bidder) = some bid
      rw [hbidder]
      exact hbid
    · exact .inl htop
  · intro id auction hmem
    exact (hproper id).auction auction (hauction hmem)
  · intro id registration hmem
    exact (hproper id).registration registration (hregistration hmem)

theorem records_consistent_firstRun :
    ∃ auctions bids registrations, (standard.afterAll firstRun).store.auctions = .ok auctions ∧
      (standard.afterAll firstRun).store.bids = .ok bids ∧
      (standard.afterAll firstRun).store.registrations = .ok registrations ∧
      Consistent auctions bids registrations :=
  (reachable_standard.calledAll firstRun).records_consistent

/-! ### Resolutions and reverse entries -/

/-- A sweep at `now` ends the registration of the name. -/
def Expires (registrar : Registrar) (now : Time) (id : NameId) : Prop :=
  ∃ registration, registrar.store.registration? id = .ok (some registration) ∧
    Registration.endTime registration ≤ now

theorem Sound.expires_iff (h : registrar.Sound book) (now : Time) (id : NameId) :
    registrar.Expires now id ↔ (book.records id).Ended now := by
  refine exists_congr fun registration => and_congr_left' ?_
  rw [h.keeps.registration?, Except.ok.injEq]
  rfl

theorem Sound.reverse?_iff (h : registrar.Sound book) (account : Account) (id : NameId) :
    registrar.store.reverse? account = .ok (some id) ↔ book (.reverse account) = some id := by
  rw [h.keeps.reverse?, Except.ok.injEq]

theorem Sound.reverseIn_ne (h : registrar.Sound book) (hmutual : book.Mutual) (account : Account) :
    Query.reverseIn registrar.store account ≠ .error .noRegistration := by
  rw [Query.reverseIn, h.keeps.reverse?]
  cases hheld : book (.reverse account) with
  | none => exact nofun
  | some id =>
    obtain ⟨child, hchild⟩ := hmutual.resolved hheld
    obtain ⟨registration, hregistration⟩ := Option.ne_none_iff_exists'.mp (hmutual.registered hchild)
    show (do demand (← registrar.store.registration? id) Fault.noRegistration) ≠ _
    rw [h.keeps.registration?, hregistration]
    exact nofun

theorem Sound.query_reverse_ne (h : registrar.Sound book) (hmutual : book.Mutual) (account : Account) :
    registrar.query (.reverse account) ≠ .error .noRegistration := by
  have hread := h.reverseIn_ne hmutual account
  rw [query, Query.run]
  cases hfound : Query.reverseIn registrar.store account with
  | ok registration => exact nofun
  | error fault =>
    rintro heq
    rw [hfound] at hread
    exact hread (congrArg Except.error (Except.error.inj heq))

/-- **Resolutions and reverse entries are inverse to each other in every reachable registrar.**  Every
resolution is below a registration and its account leads back to its name; every reverse entry comes from
exactly one of all resolutions, and that is below its name.  So no account is the target of two of them, and
asking for the name of an account never finds one without a registration.  When a registration ends, its
resolutions go, the reverse entries that lead to its name go, and no others. -/
theorem Reachable.resolutions_inverse (h : Reachable registrar) :
    ∃ resolutions, registrar.store.resolutions = .ok resolutions ∧
      (∀ resolution ∈ resolutions,
        (∃ registration, registrar.store.registration? resolution.id = .ok (some registration)) ∧
        registrar.store.reverse? resolution.account = .ok (some resolution.id)) ∧
      (∀ account id, registrar.store.reverse? account = .ok (some id) →
        ∃ child, ∀ resolution, resolution ∈ resolutions ∧ resolution.account = account ↔
          resolution = ⟨id, child, account⟩) ∧
      (resolutions.map (·.account)).Nodup ∧
      (∀ account, registrar.query (.reverse account) ≠ .error .noRegistration) ∧
      ∀ now events next, registrar.endBlock now = (.ok events, next) →
        (∀ id, registrar.Expires now id → next.store.registration? id = .ok none) ∧
        (∃ later, next.store.resolutions = .ok later ∧ ∀ resolution, resolution ∈ later ↔
          resolution ∈ resolutions ∧ ¬ registrar.Expires now resolution.id) ∧
        ∀ account id, next.store.reverse? account = .ok (some id) ↔
          registrar.store.reverse? account = .ok (some id) ∧ ¬ registrar.Expires now id := by
  obtain ⟨book, hsound, hmutual⟩ := h.lasting lasting_mutual .blank fun hfounds => hfounds.reverses
  obtain ⟨resolutions, hresolutions, hlist⟩ := hsound.keeps.resolutions
  refine ⟨resolutions, hresolutions, ?_, ?_, ?_, hsound.query_reverse_ne hmutual, ?_⟩
  · intro resolution hmem
    have hheld := (hlist.mem_iff resolution).mp hmem
    obtain ⟨registration, hregistration⟩ := Option.ne_none_iff_exists'.mp (hmutual.registered hheld)
    refine ⟨⟨registration, ?_⟩, (hsound.reverse?_iff _ _).mpr (hmutual.reversed hheld)⟩
    rw [hsound.keeps.registration?, hregistration]
  · intro account id hreverse
    obtain ⟨child, hchild⟩ := hmutual.resolved ((hsound.reverse?_iff account id).mp hreverse)
    refine ⟨child, fun resolution => ⟨?_, ?_⟩⟩
    · rintro ⟨hmem, haccount⟩
      exact hmutual.eq_of_account_eq ((hlist.mem_iff _).mp hmem) hchild haccount
    · rintro rfl
      exact ⟨(hlist.mem_iff _).mpr hchild, rfl⟩
  · refine List.Nodup.map_on ?_ hlist.nodup
    intro first hfirst second hsecond haccount
    exact hmutual.eq_of_account_eq ((hlist.mem_iff _).mp hfirst) ((hlist.mem_iff _).mp hsecond) haccount
  · intro now events next hok
    obtain ⟨outcome, hswept, -, -, hnext⟩ := hsound.endBlock_ok hok
    refine ⟨?_, ?_, ?_⟩
    · intro id hexpires
      have hgone := hswept.of_ended hsound.checked hsound.sane ((hsound.expires_iff now id).mp hexpires)
      rw [hnext.keeps.registration?]
      exact congrArg Except.ok (congrArg NameRecords.registration hgone)
    · obtain ⟨later, hlater, hlistLater⟩ := hnext.keeps.resolutions
      refine ⟨later, hlater, ?_⟩
      intro resolution
      rw [hlistLater.mem_iff, hlist.mem_iff, hsound.expires_iff]
      exact hswept.resolution_iff hsound.checked hsound.sane _ _ _
    · intro account id
      rw [hnext.reverse?_iff, hsound.reverse?_iff, hsound.expires_iff]
      exact hswept.reverse_iff hsound.checked hsound.sane hmutual account id

/-- A name is auctioned and awarded, and its owner lets a label below it lead to a shop. -/
def shopRun : List Call :=
  [.mint Demo.alice (.ofCoin (luna 600000000)),
    .deliver (moment 1000) (.openAuction ⟨"label.terra"⟩ Demo.shop),
    .deliver (moment 2000) (.sealedBid ⟨"label.terra"⟩
      (Commitment.seal "salt" ⟨"label.terra"⟩ (luna 550000000) Demo.alice) (luna 600000000) Demo.alice),
    .endBlock (moment 200000),
    .deliver (moment 300000) (.reveal ⟨"label.terra"⟩ "salt" (luna 550000000) Demo.alice),
    .endBlock (moment 500000),
    .deliver (moment 600000) (.setSubName ⟨"shop.label.terra"⟩ Demo.shop Demo.alice)]

theorem resolutions_inverse_shopRun :
    (standard.afterAll shopRun).store.resolutions.toOption.map (·.map (·.account)) = some [Demo.shop] ∧
      ∃ resolutions, (standard.afterAll shopRun).store.resolutions = .ok resolutions ∧
        ∀ resolution ∈ resolutions, (standard.afterAll shopRun).store.reverse? resolution.account =
          .ok (some resolution.id) := by
  have hreachable : Reachable (standard.afterAll shopRun) := reachable_standard.calledAll _
  obtain ⟨resolutions, hresolutions, hback, -⟩ := hreachable.resolutions_inverse
  exact ⟨by decide +kernel, resolutions, hresolutions, fun resolution hmem => (hback resolution hmem).2⟩

end NameAuction.Registrar
