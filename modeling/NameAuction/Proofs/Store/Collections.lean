import NameAuction.Proofs.Store.Queue

/-!
# A store is five maps and three sets

All records and queues share one space of keys, and yet the store reads as if each collection were kept by
itself: the auctions, bids, registrations, resolutions and reverse entries in a map of their own, and every
queue in a set (`Collections`).  A write to the store changes one collection at one place
(`StoreWrite.keeps`), so after any writes every reading returns what the collections have
(`Store.afterWrites_shows`): the last value written, or the live entries in the order of their keys.
-/

namespace NameAuction

/-! ### Orders of keys

Pairs of identifiers sort by the first and then by the second, queue entries by time and then by name. -/

namespace Due

instance : Ord Due := ⟨compareLex (compareOn (·.time.toNat)) (compareOn (·.id))⟩

theorem compare_eq (a b : Due) :
    compare a b = (compare a.time.toNat b.time.toNat).then (compare a.id b.id) := rfl

instance : Std.TransOrd Due :=
  inferInstanceAs (Std.TransCmp
    (compareLex (compareOn fun due : Due => due.time.toNat) (compareOn fun due : Due => due.id)))

instance : Std.LawfulEqOrd Due where
  eq_of_compare {a b} h := by
    rw [compare_eq, Ordering.then_eq_eq] at h
    obtain ⟨htime, hid⟩ := h
    obtain ⟨time, id⟩ := a
    obtain ⟨time', id'⟩ := b
    rw [Due.mk.injEq]
    exact ⟨Word.ext (Nat.compare_eq_eq.mp htime), Std.LawfulEqOrd.eq_of_compare hid⟩

theorem compare_eq_lt_iff {a b : Due} : compare a b = .lt ↔ a.Before b := by
  rw [← (Queue.mk 0).compare_key_lt_iff, Queue.compare_key, compare_eq]

end Due

theorem Key.compare_id {kind : IdKind} (region : UInt8) (a b : Id kind) :
    compare (region :: a.bytes) (region :: b.bytes) = compare a b := by
  rw [List.compare_cons_cons, Std.ReflOrd.compare_self]
  rfl

theorem Key.compare_pair {kind : IdKind} (region : UInt8) (a b : NameId × Id kind) :
    compare (region :: (a.1.bytes ++ a.2.bytes)) (region :: (b.1.bytes ++ b.2.bytes)) =
      lexOrd.compare a b := by
  have hlength : a.1.bytes.length = b.1.bytes.length := by rw [a.1.length_bytes, b.1.length_bytes]
  rw [List.compare_cons_cons, Std.ReflOrd.compare_self, Bytes.compare_append_of_length hlength]
  rfl

/-! ### Collections -/

/-- What the store is a view of: five maps, and a set for each of the three queues. -/
structure Collections where
  auctions : Std.ExtTreeMap NameId Auction compare
  bids : Std.ExtTreeMap (NameId × Account) Bid lexOrd.compare
  registrations : Std.ExtTreeMap NameId Registration compare
  resolutions : Std.ExtTreeMap (NameId × NameId) Account lexOrd.compare
  reverses : Std.ExtTreeMap Account NameId compare
  queues : QueueKind → Std.ExtTreeSet Due compare

namespace Collections

def empty : Collections := ⟨∅, ∅, ∅, ∅, ∅, fun _ => ∅⟩

def withQueue (collections : Collections) (kind : QueueKind) (queue : Std.ExtTreeSet Due compare) :
    Collections :=
  { collections with queues := Function.update collections.queues kind queue }

theorem queues_withQueue_self (collections : Collections) (kind : QueueKind)
    (queue : Std.ExtTreeSet Due compare) : (collections.withQueue kind queue).queues kind = queue :=
  Function.update_self ..

theorem queues_withQueue_of_ne (collections : Collections) {kind other : QueueKind}
    {queue : Std.ExtTreeSet Due compare} (hne : other ≠ kind) :
    (collections.withQueue kind queue).queues other = collections.queues other :=
  Function.update_of_ne hne ..

def book (collections : Collections) : Book
  | .auction id => collections.auctions[id]?
  | .bid id bidder => collections.bids[(id, bidder)]?
  | .registration id => collections.registrations[id]?
  | .resolution id child => collections.resolutions[(id, child)]?
  | .reverse account => collections.reverses[account]?
  | .queued kind due => if due ∈ collections.queues kind then some () else none

theorem book_empty : empty.book = .blank := by
  funext slot
  cases slot with
  | queued kind due =>
    show (if due ∈ (∅ : Std.ExtTreeSet Due compare) then some () else none) = none
    exact if_neg Std.ExtTreeSet.not_mem_empty
  | _ => exact Std.ExtTreeMap.getElem?_empty

theorem book_queued {collections : Collections} {kind : QueueKind} {due : Due} :
    collections.book (.queued kind due) = some () ↔ due ∈ collections.queues kind := by
  simp [book]

end Collections

inductive StoreWrite
  | setAuction (id : NameId) (auction : Auction)
  | deleteAuction (id : NameId)
  | setBid (id : NameId) (bid : Bid)
  | deleteBid (id : NameId) (bidder : Account)
  | setRegistration (id : NameId) (registration : Registration)
  | deleteRegistration (id : NameId)
  | setResolution (id child : NameId) (account : Account)
  | deleteResolution (id child : NameId)
  | setReverse (account : Account) (id : NameId)
  | deleteReverse (account : Account)
  | enqueue (kind : QueueKind) (due : Due)
  | dequeue (kind : QueueKind) (due : Due)

namespace StoreWrite

def onStore (store : Store) : StoreWrite → Store
  | setAuction id auction => store.setAuction id auction
  | deleteAuction id => store.deleteAuction id
  | setBid id bid => store.setBid id bid
  | deleteBid id bidder => store.deleteBid id bidder
  | setRegistration id registration => store.setRegistration id registration
  | deleteRegistration id => store.deleteRegistration id
  | setResolution id child account => store.setResolution id child account
  | deleteResolution id child => store.deleteResolution id child
  | setReverse account id => store.setReverse account id
  | deleteReverse account => store.deleteReverse account
  | enqueue kind due => store.enqueue kind.queue due
  | dequeue kind due => store.dequeue kind.queue due

/-- The same write where each collection is kept by itself. -/
def onCollections (c : Collections) : StoreWrite → Collections
  | setAuction id auction => { c with auctions := c.auctions.insert id auction }
  | deleteAuction id => { c with auctions := c.auctions.erase id }
  | setBid id bid => { c with bids := c.bids.insert (id, bid.bidder) bid }
  | deleteBid id bidder => { c with bids := c.bids.erase (id, bidder) }
  | setRegistration id registration => { c with registrations := c.registrations.insert id registration }
  | deleteRegistration id => { c with registrations := c.registrations.erase id }
  | setResolution id child account => { c with resolutions := c.resolutions.insert (id, child) account }
  | deleteResolution id child => { c with resolutions := c.resolutions.erase (id, child) }
  | setReverse account id => { c with reverses := c.reverses.insert account id }
  | deleteReverse account => { c with reverses := c.reverses.erase account }
  | enqueue kind due => c.withQueue kind ((c.queues kind).insert due)
  | dequeue kind due => c.withQueue kind ((c.queues kind).erase due)

/-- The texts of the record have lengths that fit in eight bytes, as those of all texts in memory do. -/
def Fits : StoreWrite → Prop
  | setAuction _ auction => auction.Fits
  | setBid _ bid => bid.Fits
  | setRegistration _ registration => registration.Fits
  | _ => True

/-- The slot that is written, and what it has afterwards. -/
def change : StoreWrite → (slot : Slot) × Option slot.Value
  | setAuction id auction => ⟨.auction id, some auction⟩
  | deleteAuction id => ⟨.auction id, none⟩
  | setBid id bid => ⟨.bid id bid.bidder, some bid⟩
  | deleteBid id bidder => ⟨.bid id bidder, none⟩
  | setRegistration id registration => ⟨.registration id, some registration⟩
  | deleteRegistration id => ⟨.registration id, none⟩
  | setResolution id child account => ⟨.resolution id child, some account⟩
  | deleteResolution id child => ⟨.resolution id child, none⟩
  | setReverse account id => ⟨.reverse account, some id⟩
  | deleteReverse account => ⟨.reverse account, none⟩
  | enqueue kind due => ⟨.queued kind due, some ()⟩
  | dequeue kind due => ⟨.queued kind due, none⟩

theorem onStore_eq (write : StoreWrite) (store : Store) :
    write.onStore store = store.set write.change.1.key (write.change.2.map write.change.1.bytes) := by
  cases write <;> rfl

theorem Fits.change {write : StoreWrite} (h : write.Fits) :
    ∀ value, write.change.2 = some value → write.change.1.Fits value := by
  cases write with
  | setAuction id auction => rintro _ ⟨⟩; exact h
  | setBid id bid => rintro _ ⟨⟩; exact ⟨rfl, h⟩
  | setRegistration id registration => rintro _ ⟨⟩; exact h
  | setResolution id child account => rintro _ ⟨⟩; trivial
  | setReverse account id => rintro _ ⟨⟩; trivial
  | enqueue kind due => rintro _ ⟨⟩; trivial
  | _ => nofun

end StoreWrite

def Store.afterWrites (store : Store) (writes : List StoreWrite) : Store :=
  writes.foldl (fun store write => write.onStore store) store

def Collections.afterWrites (c : Collections) (writes : List StoreWrite) : Collections :=
  writes.foldl (fun c write => write.onCollections c) c

theorem Book.eq_set {book other : Book} {slot : Slot} {value : Option slot.Value}
    (hself : other slot = value) (hne : ∀ slot', slot' ≠ slot → other slot' = book slot') :
    other = book.set slot value := by
  funext slot'
  by_cases heq : slot' = slot
  · subst heq
    rw [hself, set_self]
  · rw [hne slot' heq, set_of_ne book value heq]

namespace Collections

/-! ### One place of one collection -/

section Map

variable {κ α : Type} {cmp : κ → κ → Ordering}

/-- The second map has the value under the key, and otherwise what the first one has. -/
structure Sets [Std.TransCmp cmp] (before after : Std.ExtTreeMap κ α cmp) (key : κ) (value : Option α) :
    Prop where
  self : after[key]? = value
  of_ne : ∀ other, key ≠ other → after[other]? = before[other]?

variable [Std.TransCmp cmp] [Std.LawfulEqCmp cmp]

theorem Sets.insert (map : Std.ExtTreeMap κ α cmp) (key : κ) (value : α) :
    Sets map (map.insert key value) key (some value) where
  self := Std.ExtTreeMap.getElem?_insert_self
  of_ne other hne := by
    rw [Std.ExtTreeMap.getElem?_insert, if_neg (mt Std.LawfulEqCmp.eq_of_compare hne)]

theorem Sets.erase (map : Std.ExtTreeMap κ α cmp) (key : κ) : Sets map (map.erase key) key none where
  self := Std.ExtTreeMap.getElem?_erase_self
  of_ne other hne := by
    rw [Std.ExtTreeMap.getElem?_erase, if_neg (mt Std.LawfulEqCmp.eq_of_compare hne)]

end Map

variable (c : Collections)

theorem book_withAuctions {map : Std.ExtTreeMap NameId Auction compare} {id : NameId}
    {value : Option Auction} (h : Sets c.auctions map id value) :
    { c with auctions := map }.book = c.book.set (.auction id) value := by
  refine Book.eq_set h.self fun slot hne => ?_
  cases slot with
  | auction other => exact h.of_ne other fun heq => hne (by rw [heq])
  | _ => rfl

theorem book_withBids {map : Std.ExtTreeMap (NameId × Account) Bid lexOrd.compare} {id : NameId}
    {bidder : Account} {value : Option Bid} (h : Sets c.bids map (id, bidder) value) :
    { c with bids := map }.book = c.book.set (.bid id bidder) value := by
  refine Book.eq_set h.self fun slot hne => ?_
  cases slot with
  | bid other bidder' => exact h.of_ne (other, bidder') fun heq => hne (by cases heq; rfl)
  | _ => rfl

theorem book_withRegistrations {map : Std.ExtTreeMap NameId Registration compare} {id : NameId}
    {value : Option Registration} (h : Sets c.registrations map id value) :
    { c with registrations := map }.book = c.book.set (.registration id) value := by
  refine Book.eq_set h.self fun slot hne => ?_
  cases slot with
  | registration other => exact h.of_ne other fun heq => hne (by rw [heq])
  | _ => rfl

theorem book_withResolutions {map : Std.ExtTreeMap (NameId × NameId) Account lexOrd.compare}
    {id child : NameId} {value : Option Account} (h : Sets c.resolutions map (id, child) value) :
    { c with resolutions := map }.book = c.book.set (.resolution id child) value := by
  refine Book.eq_set h.self fun slot hne => ?_
  cases slot with
  | resolution other child' => exact h.of_ne (other, child') fun heq => hne (by cases heq; rfl)
  | _ => rfl

theorem book_withReverses {map : Std.ExtTreeMap Account NameId compare} {account : Account}
    {value : Option NameId} (h : Sets c.reverses map account value) :
    { c with reverses := map }.book = c.book.set (.reverse account) value := by
  refine Book.eq_set h.self fun slot hne => ?_
  cases slot with
  | reverse other => exact h.of_ne other fun heq => hne (by rw [heq])
  | _ => rfl

theorem book_withQueue {kind : QueueKind} {queue : Std.ExtTreeSet Due compare} {due : Due}
    (h : ∀ other, due ≠ other → (other ∈ queue ↔ other ∈ c.queues kind)) :
    (c.withQueue kind queue).book =
      c.book.set (.queued kind due) (if due ∈ queue then some () else none) := by
  refine Book.eq_set ?_ fun slot hne => ?_
  · exact if_congr (by rw [queues_withQueue_self]) rfl rfl
  · cases slot with
    | queued kind' other =>
      by_cases heq : kind' = kind
      · subst heq
        have hother := h other fun heq => hne (by rw [heq])
        exact if_congr (by rw [queues_withQueue_self, hother]) rfl rfl
      · exact if_congr (by rw [c.queues_withQueue_of_ne heq]) rfl rfl
    | _ => rfl

end Collections

/-- **A write changes one collection at one place.** -/
theorem StoreWrite.book_onCollections (write : StoreWrite) (c : Collections) :
    (write.onCollections c).book = c.book.set write.change.1 write.change.2 := by
  cases write with
  | setAuction id auction => exact c.book_withAuctions (.insert ..)
  | deleteAuction id => exact c.book_withAuctions (.erase ..)
  | setBid id bid => exact c.book_withBids (.insert ..)
  | deleteBid id bidder => exact c.book_withBids (.erase ..)
  | setRegistration id registration => exact c.book_withRegistrations (.insert ..)
  | deleteRegistration id => exact c.book_withRegistrations (.erase ..)
  | setResolution id child account => exact c.book_withResolutions (.insert ..)
  | deleteResolution id child => exact c.book_withResolutions (.erase ..)
  | setReverse account id => exact c.book_withReverses (.insert ..)
  | deleteReverse account => exact c.book_withReverses (.erase ..)
  | enqueue kind due =>
    have hothers : ∀ other, due ≠ other → (other ∈ (c.queues kind).insert due ↔ other ∈ c.queues kind) := by
      intro other hne
      simp [hne]
    refine (c.book_withQueue hothers).trans ?_
    rw [if_pos Std.ExtTreeSet.mem_insert_self]
    rfl
  | dequeue kind due =>
    have hothers : ∀ other, due ≠ other → (other ∈ (c.queues kind).erase due ↔ other ∈ c.queues kind) := by
      intro other hne
      simp [hne]
    refine (c.book_withQueue hothers).trans ?_
    rw [if_neg (by simp)]
    rfl

/-- **What one write preserves**: a store that keeps the book of collections keeps it after the same write to
both. -/
theorem StoreWrite.keeps {store : Store} {c : Collections} {write : StoreWrite} (h : store.Keeps c.book)
    (hfits : write.Fits) : (write.onStore store).Keeps (write.onCollections c).book := by
  rw [write.onStore_eq, write.book_onCollections]
  exact h.set write.change.1 write.change.2 hfits.change

/-! ### Listings of collections -/

namespace Lists

variable {β γ : Type} {list : List β} {item : β → Item} {p : β → Prop}

theorem of_toList {κ α : Type} {cmp : κ → κ → Ordering} [Std.TransCmp cmp] [Std.LawfulEqCmp cmp]
    (map : Std.ExtTreeMap κ α cmp) (item : κ × α → Item)
    (hcompare : ∀ a b, compare (item a).1.key (item b).1.key = cmp a.1 b.1) :
    Lists map.toList item fun x => map[x.1]? = some x.2 where
  sorted := map.ordered_keys_toList.imp fun {a b} hlt => (hcompare a b).trans hlt
  mem_iff _ := Std.ExtTreeMap.mem_toList_iff_getElem?_eq_some

theorem map (h : Lists list item p) {f : β → γ} {item' : γ → Item} {q : γ → Prop}
    (hitem : ∀ x, p x → item' (f x) = item x) (hq : ∀ y, q y ↔ ∃ x, p x ∧ f x = y) :
    Lists (list.map f) item' q where
  sorted := by
    refine List.pairwise_map.mpr (h.sorted.imp_of_mem fun {a b} ha hb hlt => ?_)
    rw [hitem a ((h.mem_iff a).mp ha), hitem b ((h.mem_iff b).mp hb)]
    exact hlt
  mem_iff y := by
    rw [hq, List.mem_map]
    exact exists_congr fun x => and_congr_left fun _ => h.mem_iff x

theorem filter (h : Lists list item p) {q : β → Prop} [DecidablePred q] :
    Lists (list.filter q) item fun x => p x ∧ q x where
  sorted := h.sorted.filter _
  mem_iff x := by
    rw [List.mem_filter, h.mem_iff, decide_eq_true_iff]

end Lists

/-- Every reading of the store returns what the collections have. -/
structure Store.Shows (store : Store) (c : Collections) : Prop where
  auction? : ∀ id, store.auction? id = .ok c.auctions[id]?
  hasAuction : ∀ id, store.hasAuction id = c.auctions.contains id
  auctions : store.auctions = .ok c.auctions.toList
  bid? : ∀ id bidder, store.bid? id bidder = .ok c.bids[(id, bidder)]?
  bidsOn : ∀ id, store.bidsOn id = .ok ((c.bids.toList.filter fun entry => entry.1.1 = id).map (·.2))
  hasBids : ∀ id, store.hasBids id = c.bids.keys.any fun key => key.1 = id
  bids : store.bids = .ok (c.bids.toList.map fun entry => (entry.1.1, entry.2))
  registration? : ∀ id, store.registration? id = .ok c.registrations[id]?
  hasRegistration : ∀ id, store.hasRegistration id = c.registrations.contains id
  registrations : store.registrations = .ok c.registrations.toList
  resolution? : ∀ id child, store.resolution? id child = .ok c.resolutions[(id, child)]?
  resolutionsOf : ∀ id, store.resolutionsOf id =
    .ok ((c.resolutions.toList.filter fun entry => entry.1.1 = id).map fun entry => (entry.1.2, entry.2))
  resolutions : store.resolutions =
    .ok (c.resolutions.toList.map fun entry => ⟨entry.1.1, entry.1.2, entry.2⟩)
  reverse? : ∀ account, store.reverse? account = .ok c.reverses[account]?
  isQueued : ∀ (kind : QueueKind) due, store.isQueued kind.queue due = (c.queues kind).contains due
  queueEntries : ∀ kind : QueueKind, store.queueEntries kind.queue = .ok (c.queues kind).toList
  dueBefore : ∀ (kind : QueueKind) now,
    store.dueBefore kind.queue now = .ok ((c.queues kind).toList.filter fun due => due.time ≤ now)
  firstDue : ∀ (kind : QueueKind) now,
    store.firstDue kind.queue now = .ok ((c.queues kind).toList.find? fun due => due.time ≤ now)
  nextDueAfter : ∀ (kind : QueueKind) now last, store.nextDueAfter kind.queue now last =
    .ok ((c.queues kind).toList.find? fun due => due.time ≤ now ∧ compare last due = .lt)

namespace Store.Keeps

variable {store : Store} {c : Collections}

theorem auctions_eq (h : store.Keeps c.book) : store.auctions = .ok c.auctions.toList := by
  obtain ⟨list, hread, hlist⟩ := h.auctions
  have hmap := Lists.of_toList c.auctions (fun x => ⟨.auction x.1, x.2⟩)
    fun a b => Key.compare_id Key.auctions a.1 b.1
  rw [hread, hlist.unique hmap]

theorem registrations_eq (h : store.Keeps c.book) :
    store.registrations = .ok c.registrations.toList := by
  obtain ⟨list, hread, hlist⟩ := h.registrations
  have hmap := Lists.of_toList c.registrations (fun x => ⟨.registration x.1, x.2⟩)
    fun a b => Key.compare_id Key.registrations a.1 b.1
  rw [hread, hlist.unique hmap]

/-! ### Bids -/

theorem lists_bids (c : Collections) :
    Lists c.bids.toList (fun x => ⟨.bid x.1.1 x.1.2, x.2⟩) fun x => c.bids[x.1]? = some x.2 :=
  .of_toList c.bids _ fun a b => Key.compare_pair Key.bids a.1 b.1

theorem bidItem_eq (h : store.Keeps c.book) {x : (NameId × Account) × Bid}
    (hx : c.bids[x.1]? = some x.2) : bidItem (x.1.1, x.2) = ⟨.bid x.1.1 x.1.2, x.2⟩ :=
  h.exists_bidItem hx

theorem book_bid (h : store.Keeps c.book) {x : (NameId × Account) × Bid}
    (hx : c.bids[x.1]? = some x.2) : c.book (.bid x.1.1 x.2.bidder) = some x.2 := by
  have hbidder : x.2.bidder = x.1.2 := h.bidder_eq hx
  rw [hbidder]
  exact hx

theorem bids_eq (h : store.Keeps c.book) :
    store.bids = .ok (c.bids.toList.map fun entry => (entry.1.1, entry.2)) := by
  obtain ⟨list, hread, hlist⟩ := h.bids
  rw [hread, hlist.unique ((lists_bids c).map (fun _ => h.bidItem_eq) ?_)]
  rintro ⟨id, bid⟩
  constructor
  · intro hbid
    exact ⟨((id, bid.bidder), bid), hbid, rfl⟩
  · rintro ⟨x, hx, ⟨⟩⟩
    exact h.book_bid hx

theorem bidsOn_eq (h : store.Keeps c.book) (id : NameId) :
    store.bidsOn id = .ok ((c.bids.toList.filter fun entry => entry.1.1 = id).map (·.2)) := by
  -- the reading drops the keys, so each bid has to say itself under which bidder it is held
  obtain ⟨list, hread, hlist⟩ := h.bidsOn id
  rw [hread, hlist.unique (((lists_bids c).filter (q := fun entry => entry.1.1 = id)).map ?_ ?_)]
  · rintro x ⟨hx, rfl⟩
    exact h.bidItem_eq hx
  · intro bid
    constructor
    · intro hbid
      exact ⟨((id, bid.bidder), bid), ⟨hbid, rfl⟩, rfl⟩
    · rintro ⟨x, ⟨hx, rfl⟩, rfl⟩
      exact h.book_bid hx

theorem hasBids_eq (h : store.Keeps c.book) (id : NameId) :
    store.hasBids id = c.bids.keys.any fun key => key.1 = id := by
  rw [Bool.eq_iff_iff, h.hasBids_iff, List.any_eq_true]
  constructor
  · rintro ⟨bidder, bid, hbid⟩
    refine ⟨(id, bidder), Std.ExtTreeMap.mem_keys.mpr ?_, by simp⟩
    exact Std.ExtTreeMap.mem_iff_isSome_getElem?.mpr (Option.isSome_of_eq_some hbid)
  · rintro ⟨⟨id', bidder⟩, hkey, hid⟩
    obtain rfl : id' = id := by simpa using hid
    have hsome := Std.ExtTreeMap.mem_iff_isSome_getElem?.mp (Std.ExtTreeMap.mem_keys.mp hkey)
    exact ⟨bidder, Option.isSome_iff_exists.mp hsome⟩

/-! ### Resolutions -/

theorem lists_resolutions (c : Collections) :
    Lists c.resolutions.toList (fun x => ⟨.resolution x.1.1 x.1.2, x.2⟩) fun x =>
      c.resolutions[x.1]? = some x.2 :=
  .of_toList c.resolutions _ fun a b => Key.compare_pair Key.resolutions a.1 b.1

theorem resolutions_eq (h : store.Keeps c.book) :
    store.resolutions = .ok (c.resolutions.toList.map fun entry => ⟨entry.1.1, entry.1.2, entry.2⟩) := by
  obtain ⟨list, hread, hlist⟩ := h.resolutions
  rw [hread, hlist.unique ((lists_resolutions c).map (f := fun entry => ⟨entry.1.1, entry.1.2, entry.2⟩)
    (fun _ _ => rfl) ?_)]
  rintro ⟨id, child, account⟩
  constructor
  · intro hresolution
    exact ⟨((id, child), account), hresolution, rfl⟩
  · rintro ⟨⟨⟨_, _⟩, _⟩, hresolution, ⟨⟩⟩
    exact hresolution

theorem resolutionsOf_eq (h : store.Keeps c.book) (id : NameId) :
    store.resolutionsOf id =
      .ok ((c.resolutions.toList.filter fun entry => entry.1.1 = id).map fun entry =>
        (entry.1.2, entry.2)) := by
  obtain ⟨list, hread, hlist⟩ := h.resolutionsOf id
  rw [hread, hlist.unique (((lists_resolutions c).filter (q := fun entry => entry.1.1 = id)).map ?_ ?_)]
  · rintro x ⟨-, rfl⟩
    rfl
  · rintro ⟨child, account⟩
    constructor
    · intro hresolution
      exact ⟨((id, child), account), ⟨hresolution, rfl⟩, rfl⟩
    · rintro ⟨⟨⟨_, _⟩, _⟩, ⟨hresolution, rfl⟩, ⟨⟩⟩
      exact hresolution

/-! ### Queues -/

theorem lists_queue (c : Collections) (kind : QueueKind) :
    Lists (c.queues kind).toList (dueItem kind) fun due => c.book (.queued kind due) = some () where
  sorted := (c.queues kind).ordered_toList.imp fun {a b} hlt => (kind.queue.compare_key a b).trans hlt
  mem_iff due := by rw [Std.ExtTreeSet.mem_toList, Collections.book_queued]

theorem queueEntries_eq (h : store.Keeps c.book) (kind : QueueKind) :
    store.queueEntries kind.queue = .ok (c.queues kind).toList := by
  obtain ⟨list, hread, hlist⟩ := h.queueEntries kind
  rw [hread, hlist.unique (lists_queue c kind)]

theorem isQueued_eq (h : store.Keeps c.book) (kind : QueueKind) (due : Due) :
    store.isQueued kind.queue due = (c.queues kind).contains due := by
  refine (h.has_key (.queued kind due)).trans ?_
  rw [Bool.eq_iff_iff, Std.ExtTreeSet.contains_iff_mem, ← Collections.book_queued,
    Option.isSome_iff_exists]
  exact ⟨fun ⟨_, hqueued⟩ => hqueued, fun hqueued => ⟨(), hqueued⟩⟩

theorem lists_due (c : Collections) (kind : QueueKind) (now : Time) :
    Lists ((c.queues kind).toList.filter fun due => due.time ≤ now) (dueItem kind)
      (c.book.Awaits kind now none) where
  sorted := (lists_queue c kind).filter.sorted
  mem_iff due := by
    rw [(lists_queue c kind).filter.mem_iff, Book.Awaits]
    simp

theorem lists_dueAfter (c : Collections) (kind : QueueKind) (now : Time) (last : Due) :
    Lists ((c.queues kind).toList.filter fun due => due.time ≤ now ∧ compare last due = .lt) (dueItem kind)
      (c.book.Awaits kind now (some last)) where
  sorted := (lists_queue c kind).filter.sorted
  mem_iff due := by
    rw [(lists_queue c kind).filter.mem_iff, Book.Awaits, Due.compare_eq_lt_iff]
    simp

theorem dueBefore_eq (h : store.Keeps c.book) (kind : QueueKind) (now : Time) :
    store.dueBefore kind.queue now = .ok ((c.queues kind).toList.filter fun due => due.time ≤ now) := by
  obtain ⟨list, hread, hlist⟩ := h.dueBefore kind now
  rw [hread, hlist.unique (lists_due c kind now)]

theorem firstDue_eq (h : store.Keeps c.book) (kind : QueueKind) (now : Time) :
    store.firstDue kind.queue now = .ok ((c.queues kind).toList.find? fun due => due.time ≤ now) := by
  obtain ⟨list, hread, hlist⟩ := h.dueFrom kind now none
  rw [hlist.unique (lists_due c kind now), List.head?_filter] at hread
  exact hread

theorem nextDueAfter_eq (h : store.Keeps c.book) (kind : QueueKind) (now : Time) (last : Due) :
    store.nextDueAfter kind.queue now last =
      .ok ((c.queues kind).toList.find? fun due => due.time ≤ now ∧ compare last due = .lt) := by
  obtain ⟨list, hread, hlist⟩ := h.dueFrom kind now (some last)
  rw [hlist.unique (lists_dueAfter c kind now last), List.head?_filter] at hread
  exact hread

/-- **A store that keeps the book of collections reads as they do.** -/
theorem shows (h : store.Keeps c.book) : store.Shows c where
  auction? := h.auction?
  hasAuction id := (h.hasAuction id).trans Std.ExtTreeMap.contains_eq_isSome_getElem?.symm
  auctions := h.auctions_eq
  bid? := h.bid?
  bidsOn := h.bidsOn_eq
  hasBids := h.hasBids_eq
  bids := h.bids_eq
  registration? := h.registration?
  hasRegistration id := (h.hasRegistration id).trans Std.ExtTreeMap.contains_eq_isSome_getElem?.symm
  registrations := h.registrations_eq
  resolution? := h.resolution?
  resolutionsOf := h.resolutionsOf_eq
  resolutions := h.resolutions_eq
  reverse? := h.reverse?
  isQueued := h.isQueued_eq
  queueEntries := h.queueEntries_eq
  dueBefore := h.dueBefore_eq
  firstDue := h.firstDue_eq
  nextDueAfter := h.nextDueAfter_eq

/-- **What all writes preserve.** -/
theorem afterWrites (h : store.Keeps c.book) {writes : List StoreWrite}
    (hfits : ∀ write ∈ writes, write.Fits) :
    (store.afterWrites writes).Keeps (c.afterWrites writes).book := by
  induction writes generalizing store c with
  | nil => exact h
  | cons write rest ih =>
    obtain ⟨hwrite, hrest⟩ := List.forall_mem_cons.mp hfits
    exact ih (StoreWrite.keeps h hwrite) hrest

theorem of_get?_eq_none (h : ∀ key, store.get? key = none) : store.Keeps .blank :=
  blank.of_get?_eq fun key => (h key).trans Std.ExtTreeMap.getElem?_empty.symm

end Store.Keeps

/-- **A store is its collections.**  After any writes to a store that was empty, every reading returns what
five maps and three sets return after the same writes: the last value written under a key, or none after a
deletion, and all that is live, in the order of keys.  No reading fails. -/
theorem Store.afterWrites_shows {start : Store} (hempty : ∀ key, start.get? key = none)
    {writes : List StoreWrite} (hfits : ∀ write ∈ writes, write.Fits) :
    (start.afterWrites writes).Shows (Collections.empty.afterWrites writes) := by
  have hstart : start.Keeps Collections.empty.book := by
    rw [Collections.book_empty]
    exact .of_get?_eq_none hempty
  exact (hstart.afterWrites hfits).shows

/-- A name goes from an auction with one bid to a registration with one resolution. -/
def StoreWrite.sale : List StoreWrite :=
  [.setAuction .zero (.opened ⟨"label.terra"⟩ 0), .enqueue .bid ⟨0, .zero⟩,
    .setBid .zero ⟨.zero, ⟨"uluna", .max⟩, .zero⟩, .dequeue .bid ⟨0, .zero⟩, .deleteBid .zero .zero,
    .deleteAuction .zero, .setRegistration .zero ⟨⟨"label.terra"⟩, .zero, .max⟩,
    .enqueue .registration ⟨.max, .zero⟩, .setResolution .zero .zero .zero, .setReverse .zero .zero]

theorem Store.afterWrites_shows_sale :
    (∀ key, Store.empty.get? key = none) ∧ (∀ write ∈ StoreWrite.sale, write.Fits) ∧
      (Store.empty.afterWrites StoreWrite.sale).Shows (Collections.empty.afterWrites StoreWrite.sale) := by
  have hempty : ∀ key, Store.empty.get? key = none := fun _ => Std.ExtTreeMap.getElem?_empty
  have hname : "label.terra".utf8ByteSize < 256 ^ 8 := by decide
  have hdenom : "uluna".utf8ByteSize < 256 ^ 8 := by decide
  have hauction : (Auction.opened ⟨"label.terra"⟩ 0).Fits := ⟨hname, by simp [Auction.opened]⟩
  have hfits : ∀ write ∈ StoreWrite.sale, write.Fits := by
    simp only [StoreWrite.sale, List.forall_mem_cons, StoreWrite.Fits, true_and]
    exact ⟨hauction, hdenom, hname, List.forall_mem_nil _⟩
  exact ⟨hempty, hfits, afterWrites_shows hempty hfits⟩

end NameAuction
