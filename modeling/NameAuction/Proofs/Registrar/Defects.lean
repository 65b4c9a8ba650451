import NameAuction.Proofs.Defects
import NameAuction.Proofs.Registrar.Reachable
import NameAuction.Proofs.Store.Queue

/-!
# No call meets a defect

A registrar that has been started with checked parameters meets no defect, whatever its disk, its bank and its
rates hold and whatever it is asked (`never_defective`).  Nothing is assumed about the store: a sweep over
broken entries ends with a fault that blames them, and it comes to its end because every entry that it takes
leaves the span before it with one entry less (`sweepFrom_clean`).
-/

namespace NameAuction

open Fault

/-! ### Stores that agree in a region -/

def Store.SameIn (region : UInt8) (store next : Store) : Prop :=
  ∀ key, key.head? = some region → next.get? key = store.get? key

namespace Store.SameIn

variable {region : UInt8} {store mid next : Store}

theorem refl : SameIn region store store := fun _ _ => rfl

theorem trans (h : SameIn region store mid) (h' : SameIn region mid next) :
    SameIn region store next := fun key hkey => (h' key hkey).trans (h key hkey)

theorem set (h : SameIn region store mid) {byte : UInt8} {rest : Bytes} (hbyte : byte ≠ region)
    (value : Option Bytes) : SameIn region store (mid.set (byte :: rest) value) := by
  intro key hkey
  have hne : byte :: rest ≠ key := by
    rintro rfl
    exact hbyte (Option.some.inj hkey)
  rw [get?_set, if_neg hne, h key hkey]

end Store.SameIn

theorem Store.length_pos_of_startingWith {store : Store} {region : UInt8} {entry : Entry}
    (h : entry ∈ store.startingWith [region]) : 0 < entry.1.length := by
  have hspan := (mem_range.mp h).2
  exact ((Span.contains_startingWith _ _).mp hspan).length_le

theorem Time.after_cases (time period : Time) : time.after period = .error .timestamp ∨
    ∃ sum, time.after period = .ok sum ∧ sum.toNat = time.toNat + period.toNat := by
  cases hsum : time.after period with
  | ok sum => exact .inr ⟨sum, rfl, Time.after_eq_ok hsum⟩
  | error place =>
    have hsweep := Time.after_eq_error hsum
    cases place <;> first | exact .inl rfl | exact hsweep.elim

/-! ### Steps -/

namespace Step

abbrev Clean {α : Type} (step : Step α) (turn : Turn) : Prop :=
  step.Ends turn (fun _ _ => True) Regular

/-- The step meets no defect and leaves a region of the store as it is. -/
def Spares (region : UInt8) (step : Step Unit) : Prop :=
  ∀ turn, step.Ends turn (fun _ next => turn.store.SameIn region next.store) Regular

namespace Ends

variable {α : Type} {turn : Turn} {done : α → Turn → Prop} {failed : Fault → Prop}

theorem sure {ε : Type} {wrap : ε → Fault} {check : Except ε α} {value : α} (h : check = .ok value)
    (hok : done value turn) : Ends (StateT.lift (Fault.lift wrap check)) turn done failed := by
  rw [h]
  exact hok

theorem read {question : Store → Except Fault α} (hread : Within OfReading (question turn.store))
    (hok : ∀ value, question turn.store = .ok value → done value turn) :
    Ends (Turn.look question) turn done Regular := by
  rw [Ends, Turn.look]
  cases hquestion : question turn.store with
  | ok value => exact hok value hquestion
  | error fault => exact (hread fault hquestion).regular

theorem seek {question : Store → Except Fault (Option α)} {fault : Fault}
    (hread : Within OfReading (question turn.store)) (hfault : fault.Regular)
    (hok : ∀ value, question turn.store = .ok (some value) → done value turn) :
    Ends (Turn.find question fault) turn done Regular := by
  rw [Ends, Turn.find, Turn.look]
  cases hquestion : question turn.store with
  | error other => exact (hread other hquestion).regular
  | ok found =>
    cases found with
    | none => exact hfault
    | some value => exact hok value hquestion

end Ends

end Step

namespace Registrar

open Step Turn

variable {setting : Setting} {turn : Turn} {name : Name} {parts : Name.Parts}

/-! ### Commands

The names of checked commands can be cut, and a deposit that covers an amount exceeds it by something. -/

theorem openAuction_clean (hparts : name.parts = .ok parts) (organizer : Account) :
    (openAuction setting name organizer).Clean turn := by
  refine .bind (.sure hparts ?_)
  refine .bind (.ensure (fun _ => ?_) fun _ => trivial)
  refine .bind (.ensure (fun _ => ?_) fun _ => trivial)
  refine .bind (.sure (Name.id_of_parts hparts) ?_)
  refine .bind (.expect (fun _ => ?_) fun _ => trivial)
  refine .bind (.expect (fun _ => ?_) fun _ => trivial)
  refine .bind (.raise (fun _ _ => ?_) fun _ _ => trivial)
  exact .bind (.change (.bind (.change (.tell trivial))))

theorem placeBid_clean (hparts : name.parts = .ok parts) (commitment : String) (deposit : Coin)
    (bidder : Account) : (placeBid setting name commitment deposit bidder).Clean turn := by
  refine .bind (.sure (Name.id_of_parts hparts) ?_)
  refine .bind (.seek (Store.record?_within _ _) trivial fun auction _ => ?_)
  refine .bind (.ensure (fun _ => ?_) fun _ => trivial)
  refine .bind (.read (Store.record?_within _ _) fun earlier _ => ?_)
  refine .bind (.ensure (fun _ => ?_) fun _ => trivial)
  refine .bind (.ensure (fun _ => ?_) fun _ => trivial)
  refine .bind (.raise (fun _ _ => ?_) fun _ _ => trivial)
  refine .bind (.move (fun _ _ => ?_) fun _ _ => trivial)
  exact .bind (.change (.tell trivial))

theorem payBackTop_clean (auction : Auction) : (payBackTop auction).Clean turn := by
  unfold payBackTop
  split
  · exact .pure trivial
  · exact .move (fun _ _ => trivial) fun _ _ => trivial

theorem payOutRevealed_clean (auction : Auction) {bid : Bid} {amount : Coin}
    (hcovers : bid.deposit.Covers amount) (bidder : Account) :
    (payOutRevealed auction bid amount bidder).Clean turn := by
  unfold payOutRevealed
  split
  · refine .bind ((payBackTop_clean auction).mono (fun _ mid _ => ?_) fun _ h => h)
    refine .bind (.demand (fun surplus _ => ?_) fun hnone => ?_)
    · exact .move (fun _ _ => trivial) fun _ _ => trivial
    · rw [Word.sub?, if_pos hcovers.2] at hnone
      cases hnone
  · exact .move (fun _ _ => trivial) fun _ _ => trivial

theorem revealBid_clean (hparts : name.parts = .ok parts) (salt : String) (amount : Coin)
    (bidder : Account) : (revealBid name salt amount bidder).Clean turn := by
  refine .bind (.sure (Name.id_of_parts hparts) ?_)
  refine .bind (.seek (Store.record?_within _ _) trivial fun auction _ => ?_)
  refine .bind (.ensure (fun _ => ?_) fun _ => trivial)
  refine .bind (.seek (Store.record?_within _ _) trivial fun bid _ => ?_)
  refine .bind (.ensure (fun _ => ?_) fun _ => trivial)
  refine .bind (.ensure (fun hcovers => ?_) fun _ => trivial)
  refine .bind ((payOutRevealed_clean auction hcovers bidder).mono (fun _ _ _ => ?_) fun _ h => h)
  exact .bind (.change (.bind (.change (.tell trivial))))

theorem ownedBy_clean (id : NameId) (owner : Account) : (ownedBy id owner).Clean turn := by
  refine .bind (.seek (Store.record?_within _ _) trivial fun registration _ => ?_)
  exact .bind (.ensure (fun _ => .pure trivial) fun _ => trivial)

theorem renew_clean (hparams : setting.params.check = .ok ()) (hparts : name.parts = .ok parts)
    (fee : Bundle) (owner : Account) : (renew setting name fee owner).Clean turn := by
  refine .bind (.sure (Name.id_of_parts hparts) ?_)
  refine .bind ((ownedBy_clean _ owner).mono (fun registration _ _ => ?_) fun _ h => h)
  refine .bind (.sure hparts ?_)
  refine .bind (.lift (fun extension _ => ?_) (Renewal.extension_regular hparams _ _ _))
  refine .bind (.raise (fun _ _ => ?_) fun _ _ => trivial)
  refine .bind (.move (fun _ _ => ?_) fun _ _ => trivial)
  refine .bind (.move (fun _ _ => ?_) fun _ _ => trivial)
  exact .bind (.change (.bind (.change (.bind (.change (.tell trivial))))))

theorem changeOwner_clean (hparts : name.parts = .ok parts) (newOwner owner : Account) :
    (changeOwner name newOwner owner).Clean turn := by
  refine .bind (.sure (Name.id_of_parts hparts) ?_)
  refine .bind ((ownedBy_clean _ owner).mono (fun registration _ _ => ?_) fun _ h => h)
  exact .bind (.change (.tell trivial))

theorem setSubName_clean (hparts : name.parts = .ok parts) (account owner : Account) :
    (setSubName name account owner).Clean turn := by
  refine .bind (.sure (Name.ids_of_parts hparts) ?_)
  refine .bind ((ownedBy_clean _ owner).mono (fun _ _ _ => ?_) fun _ h => h)
  refine .bind (.read (Store.id?_within _ _) fun reverse _ => ?_)
  refine .bind (.ensure (fun _ => ?_) fun _ => trivial)
  refine .bind (.read (Store.id?_within _ _) fun resolution _ => ?_)
  refine .bind (.ensure (fun _ => ?_) fun _ => trivial)
  exact .bind (.change (.bind (.change (.tell trivial))))

theorem clearSubName_clean (hparts : name.parts = .ok parts) (owner : Account) :
    (clearSubName name owner).Clean turn := by
  refine .bind (.sure (Name.ids_of_parts hparts) ?_)
  refine .bind ((ownedBy_clean _ owner).mono (fun _ _ _ => ?_) fun _ h => h)
  refine .bind (.seek (Store.id?_within _ _) trivial fun account _ => ?_)
  exact .bind (.change (.bind (.change (.tell trivial))))

theorem handle_clean (hparams : setting.params.check = .ok ()) {command : Command}
    (hcheck : command.check = .ok ()) : (handle setting command).Clean turn := by
  obtain ⟨parts, hparts⟩ := Command.exists_parts hcheck
  cases command with
  | openAuction name organizer => exact openAuction_clean hparts organizer
  | bid name commitment deposit bidder => exact placeBid_clean hparts commitment deposit bidder
  | reveal name salt amount bidder => exact revealBid_clean hparts salt amount bidder
  | renew name fee owner => exact renew_clean hparams hparts fee owner
  | changeOwner name newOwner owner => exact changeOwner_clean hparts newOwner owner
  | setSubName name account owner => exact setSubName_clean hparts account owner
  | clearSubName name owner => exact clearSubName_clean hparts owner

/-! ### Due entries

Handling an entry writes to other regions than that of its queue. -/

theorem dueAuction_clean (kind : QueueKind) (phase : Phase) (due : Due) :
    (dueAuction kind phase due).Ends turn (fun _ next => next = turn) Regular := by
  refine .bind (.seek (Store.record?_within _ _) trivial fun auction _ => ?_)
  exact .bind (.ensure (fun _ => .pure rfl) fun _ => trivial)

theorem endBidPhase_spares (due : Due) :
    (endBidPhase setting due).Spares QueueKind.bid.queue.region := by
  intro turn
  refine .bind ((dueAuction_clean .bid .bid due).mono (fun auction mid hmid => ?_) fun _ h => h)
  subst hmid
  refine .bind (.look rfl ?_)
  split
  · refine .bind (.raise (fun endTime _ => ?_) fun _ _ => trivial)
    refine .bind (.change (.bind (.change (.tell ?_))))
    exact (Store.SameIn.refl.set (by decide) _).set (by decide) _
  · refine .bind (.change (.tell ?_))
    exact Store.SameIn.refl.set (by decide) _

theorem slash_spares (id : NameId) (name : Name) (bids : List Bid) :
    (slash id name bids).Spares QueueKind.reveal.queue.region := by
  induction bids with
  | nil => exact fun turn => .pure .refl
  | cons bid rest ih =>
    intro turn
    refine .bind (.move (fun _ _ => ?_) fun _ _ => trivial)
    refine .bind (.change (.bind (.tell ?_)))
    refine (ih _).mono (fun _ next hnext => ?_) fun _ h => h
    exact (Store.SameIn.refl.set (by decide) _).trans hnext

theorem award_spares (id : NameId) (auction : Auction) :
    (award setting id auction).Spares QueueKind.reveal.queue.region := by
  intro turn
  unfold award
  split
  · refine .bind (.move (fun _ _ => ?_) fun _ _ => trivial)
    refine .bind (.raise (fun endTime _ => ?_) fun _ _ => trivial)
    refine .bind (.change (.bind (.change (.tell ?_))))
    exact (Store.SameIn.refl.set (by decide) _).set (by decide) _
  · exact .tell .refl

theorem endRevealPhase_spares (due : Due) :
    (endRevealPhase setting due).Spares QueueKind.reveal.queue.region := by
  intro turn
  refine .bind ((dueAuction_clean .reveal .reveal due).mono (fun auction mid hmid => ?_) fun _ h => h)
  subst hmid
  refine .bind (.change ?_)
  refine .bind ((award_spares due.id auction _).mono (fun _ mid hmid => ?_) fun _ h => h)
  refine .bind (.read (Store.bidsOn_within _ _) fun bids _ => ?_)
  refine (slash_spares due.id auction.name bids mid).mono (fun _ next hnext => ?_) fun _ h => h
  exact ((Store.SameIn.refl.set (by decide) _).trans hmid).trans hnext

theorem forgetResolutions_sameIn (id : NameId) (resolutions : List (NameId × Account)) (store : Store) :
    store.SameIn QueueKind.registration.queue.region (forgetResolutions id resolutions store) := by
  induction resolutions generalizing store with
  | nil => exact .refl
  | cons x rest ih =>
    exact ((Store.SameIn.refl.set (by decide) _).set (by decide) _).trans (ih _)

theorem expire_spares (due : Due) : (expire due).Spares QueueKind.registration.queue.region := by
  intro turn
  refine .bind (.seek (Store.record?_within _ _) trivial fun registration _ => ?_)
  refine .bind (.ensure (fun _ => ?_) fun _ => trivial)
  refine .bind (.change (.bind (.read (Store.resolutionsOf_within _ _) fun resolutions _ => ?_)))
  refine .bind (.change (.tell ?_))
  exact (Store.SameIn.refl.set (by decide) _).trans (forgetResolutions_sameIn due.id resolutions _)

/-! ### Sweeps -/

/-- Behind an entry that has been taken off its queue the queue is as it was.  What has been written since is in
other regions. -/
theorem range_behind {store next : Store} {queue : Queue} {due : Due} (now : Time)
    (hnext : (store.dequeue queue due).SameIn queue.region next) :
    next.range (queue.spanFrom now (some due)) = store.range (queue.spanFrom now (some due)) := by
  refine Store.range_congr fun key hcontains => ?_
  -- the span begins behind the entry that has been taken off
  have hne : queue.key due ≠ key := by
    rintro rfl
    exact Bytes.compare_self_ne_lt _ (Queue.dueSpanAfter_contains.mp hcontains).2
  rw [hnext key (Queue.head?_of_spanFrom hcontains), Store.dequeue, Store.delete, Store.get?_set,
    if_neg hne]

theorem length_range_after {store next : Store} {queue : Queue} {now : Time} {cursor : Option Due}
    {due : Due} (hfirst : store.dueFrom queue now cursor = .ok (some due))
    (hnext : (store.dequeue queue due).SameIn queue.region next) :
    (next.range (queue.spanFrom now (some due))).length <
      (store.range (queue.spanFrom now cursor)).length := by
  rw [Store.dueFrom_eq] at hfirst
  obtain ⟨entry, rest, hrange, hread⟩ := Store.range_of_firstDueIn hfirst
  have hentry : (entry.1, entry.2) ∈ store.range (queue.spanFrom now cursor) := by
    rw [hrange]
    exact List.mem_cons_self ..
  have hkey : queue.key due = entry.1 :=
    Queue.key_of_ofKey hread (Queue.head?_of_spanFrom (Store.mem_range.mp hentry).2)
  have hrest := Store.range_successor hrange
  rw [← hkey, Queue.spanFrom_successor] at hrest
  rw [range_behind now hnext, hrest, hrange]
  exact Nat.lt_succ_self _

/-- **A pass comes to its end.**  The bound stays above the number of entries that are left. -/
theorem sweepFrom_clean {queue : Queue} {settle : Due → Step Unit}
    (hsettle : ∀ due, (settle due).Spares queue.region) {bound : Nat} {cursor : Option Due}
    (hbound : (turn.store.range (queue.spanFrom setting.now cursor)).length < bound) :
    (sweepFrom setting queue settle bound cursor).Clean turn := by
  induction bound generalizing turn cursor with
  | zero => exact absurd hbound (Nat.not_lt_zero _)
  | succ bound ih =>
    refine .bind (.bind (.read ?_ fun found hfound => .bind (.change (.pure ?_))))
    · rw [Store.dueFrom_eq]
      exact Store.firstDueIn_within _ _
    · cases found with
      | none => exact .pure trivial
      | some due =>
        refine .bind ((hsettle due _).mono (fun _ mid hmid => ih ?_) fun _ h => h)
        have hless := length_range_after hfound hmid
        omega

theorem sweepQueue_clean {queue : Queue} {settle : Due → Step Unit}
    (hsettle : ∀ due, (settle due).Spares queue.region) :
    (sweepQueue setting queue settle).Clean turn :=
  .bind (.look rfl (sweepFrom_clean hsettle (Nat.lt_succ_self _)))

theorem sweep_clean : (sweep setting).Clean turn := by
  refine .bind ((sweepQueue_clean endBidPhase_spares).mono (fun _ mid _ => ?_) fun _ h => h)
  refine .bind ((sweepQueue_clean endRevealPhase_spares).mono (fun _ last _ => ?_) fun _ h => h)
  exact sweepQueue_clean expire_spares

/-! ### Calls -/

theorem settle_within (registrar : Registrar) (now : Time) (turn : Turn) :
    Within Regular (registrar.settle now turn).1 := by
  unfold settle
  split
  · exact .error trivial
  · split
    · exact .error trivial
    · exact .ok _

theorem run_within {registrar : Registrar} {step : Step Unit} (h : step.Clean registrar.firstTurn)
    (now : Time) : Within Regular (registrar.run now step).1 := by
  rw [run]
  cases hstep : step.run registrar.firstTurn with
  | error fault => exact .error (h.of_error hstep)
  | ok result => exact settle_within registrar now result.2

theorem deliver_within {registrar : Registrar} (h : registrar.params.check = .ok ()) (now : Time)
    (command : Command) : Within Regular (registrar.deliver now command).1 := by
  rw [deliver]
  cases hcheck : command.check with
  | error fault => exact .error (command.check_within fault hcheck).regular
  | ok u => exact run_within (handle_clean h hcheck) now

theorem endBlock_within (registrar : Registrar) (now : Time) :
    Within Regular (registrar.endBlock now).1 := run_within sweep_clean now

theorem start_within (disk : Disk) (bank : Bank) (rates : Rates) (params : Params) :
    Within Regular (start disk bank rates params) := .bind (.lift (fun _ => trivial) _) fun _ _ => .ok _

theorem ofGenesis_within (bank : Bank) (rates : Rates) (genesis : Genesis) :
    Within Regular (ofGenesis bank rates genesis) :=
  (genesis.seed_within _).bind fun _ _ => start_within _ _ _ _

theorem setParams_within (registrar : Registrar) (params : Params) :
    Within Regular (registrar.setParams params) := .bind (.lift (fun _ => trivial) _) fun _ _ => .ok _

/-! ### Every registrar that a host can have -/

/-- The registrars that a host can have.  It starts one over any disk or seeds one from any genesis, calls it any
number of times, and may put any bank in the place of its bank in between. -/
inductive Hosted : Registrar → Prop
  | started {disk : Disk} {bank : Bank} {rates : Rates} {params : Params} {registrar : Registrar}
      (h : start disk bank rates params = .ok registrar) : Hosted registrar
  | seeded {bank : Bank} {rates : Rates} {genesis : Genesis} {registrar : Registrar}
      (h : ofGenesis bank rates genesis = .ok registrar) : Hosted registrar
  | called {registrar : Registrar} (h : Hosted registrar) (call : Call) : Hosted (registrar.after call)
  | banked {registrar : Registrar} (h : Hosted registrar) (bank : Bank) :
      Hosted { registrar with bank := bank }

theorem params_settle (registrar : Registrar) (now : Time) (turn : Turn) :
    (registrar.settle now turn).2.params = registrar.params := by
  unfold settle
  split
  · rfl
  · split <;> rfl

theorem params_run (registrar : Registrar) (now : Time) (step : Step Unit) :
    (registrar.run now step).2.params = registrar.params := by
  rw [run]
  cases step.run registrar.firstTurn with
  | error fault => rfl
  | ok result => exact params_settle registrar now result.2

theorem params_deliver (registrar : Registrar) (now : Time) (command : Command) :
    (registrar.deliver now command).2.params = registrar.params := by
  rw [deliver]
  cases command.check with
  | error fault => rfl
  | ok u => exact params_run registrar now _

theorem Hosted.checked {registrar : Registrar} (h : Hosted registrar) :
    registrar.params.check = .ok () := by
  induction h with
  | started h =>
    obtain ⟨hcheck, rfl⟩ := start_eq_ok.mp h
    exact hcheck
  | seeded h =>
    obtain ⟨store, -, hstart⟩ := Except.bind_eq_ok_iff.mp h
    obtain ⟨hcheck, rfl⟩ := start_eq_ok.mp hstart
    exact hcheck
  | called _ call ih =>
    rcases after_cases ih call with ⟨now, command, rfl⟩ | ⟨now, rfl⟩ | hidle
    · exact (congrArg Params.check (params_deliver _ now command)).trans ih
    · exact (congrArg Params.check (params_run _ now _)).trans ih
    · exact hidle.checked
  | banked _ bank ih => exact ih

/-- Nothing that the registrar is asked meets a defect, and what it works with stays in range. -/
structure Defectless (registrar : Registrar) : Prop where
  deliver : ∀ now command, Within Regular (registrar.deliver now command).1
  endBlock : ∀ now, Within Regular (registrar.endBlock now).1
  query : ∀ query, Within Regular (registrar.query query)
  auctions : ∀ filter, Within Regular (Query.auctionsIn registrar.store filter)
  auction : ∀ name, Within Regular (registrar.auction? name)
  bids : ∀ name bidder, Within Regular (Query.bidsIn registrar.store name bidder)
  registration : ∀ name, Within Regular (Query.registrationIn registrar.store name)
  resolution : ∀ name, Within Regular (Query.resolutionIn registrar.store name)
  reverse : ∀ account, Within Regular (Query.reverseIn registrar.store account)
  setParams : ∀ params, Within Regular (registrar.setParams params)
  genesis : Within Regular registrar.genesis
  /-- No renewal is divided by a price of zero. -/
  price : ∀ labelLength row, registrar.params.fees.row? labelLength = some row → row.amount.amount ≠ 0
  /-- No conversion is divided by zero. -/
  denominator : ∀ denom goal source target product, registrar.rates.rate denom = .ok source →
    registrar.rates.rate goal = .ok target → target.den.mul? source.num = some product → product ≠ 0
  /-- The keys of a region have the byte that is cut off them. -/
  regionKeys : ∀ region, ∀ entry ∈ registrar.store.startingWith [region], 0 < entry.1.length
  /-- Identifiers and times are cut out of keys of the full length only. -/
  pairKeys : ∀ kind shape region key (ids : NameId × Id kind),
    Key.split shape region key = .ok ids → key.length = 1 + 20 + 20
  queueKeys : ∀ key due, Queue.ofKey key = .ok due → key.length = 1 + 8 + 20
  /-- A later moment is exact or there is none. -/
  times : ∀ time period : Time, time.after period = .error .timestamp ∨
    ∃ sum, time.after period = .ok sum ∧ sum.toNat = time.toNat + period.toNat

/-- **The registrar never meets a defect.**  Starting one over any disk does not, nor does seeding one from any
genesis, whatever its store holds already, and nothing that a host can then ask of it does, at any time and with
any command. -/
theorem never_defective :
    (∀ disk bank rates params, Within Regular (start disk bank rates params)) ∧
    (∀ (genesis : Genesis) (store : Store), Within Regular (genesis.seed store)) ∧
    (∀ bank rates genesis, Within Regular (ofGenesis bank rates genesis)) ∧
    ∀ registrar, Hosted registrar → registrar.Defectless := by
  refine ⟨start_within, Genesis.seed_within, ofGenesis_within, fun registrar h => ?_⟩
  have hauctions := Query.auctionsIn_within registrar.store
  exact {
    deliver := deliver_within h.checked
    endBlock := endBlock_within registrar
    query := Query.run_within registrar.store registrar.params
    auctions := hauctions
    auction := fun name => (hauctions (.name name)).bind fun _ _ => .ok _
    bids := Query.bidsIn_within registrar.store
    registration := Query.registrationIn_within registrar.store
    resolution := Query.resolutionIn_within registrar.store
    reverse := Query.reverseIn_within registrar.store
    setParams := setParams_within registrar
    genesis := (Genesis.ofStore_within _ _).mono fun _ => OfReading.regular
    price := fun _ _ => Params.price_ne_zero h.checked
    denominator := fun _ _ _ _ _ _ _ => Rate.denominator_ne_zero
    regionKeys := fun _ _ => Store.length_pos_of_startingWith
    pairKeys := fun _ _ _ _ _ => Key.length_of_split
    queueKeys := fun _ _ => Queue.length_of_ofKey
    times := Time.after_cases }

/-- A registrar over a disk with a key of the bid queue that no write leaves. -/
def astray : Registrar :=
  ⟨.ofEntries ((∅ : Entries).insert [Key.bidQueue] []), .empty, standardRates, .standard, .empty⟩

theorem never_defective_astray :
    Hosted astray ∧
    (astray.endBlock (moment 0)).1 = .error (.corrupt (.key .queue [Key.bidQueue])) ∧
    astray.Defectless := by
  have hstart : start astray.disk astray.bank astray.rates astray.params = .ok astray :=
    start_eq_ok.mpr ⟨(start_eq_ok.mp start_standard).1, rfl⟩
  refine ⟨.started hstart, by decide +kernel, ?_⟩
  exact never_defective.2.2.2 astray (.started hstart)

end Registrar

end NameAuction
