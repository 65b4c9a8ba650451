import Mathlib.Data.List.Nodup
import Mathlib.Data.Set.List
import NameAuction.Proofs.Store.Book

/-!
# Listings

Every listing that the store makes succeeds and lists the book.  What a listing needs is that the keys under
its stem are those of its items and that their entries are read back (`Keeps.exists_mapM_startingWith`).  So
the records of a kind are listed, each once (`Keeps.auctions`, `Keeps.bids`, `Keeps.bidsOn`,
`Keeps.resolutions`), the entries of a queue (`Keeps.queueEntries`), and those of them that are due
(`Keeps.range_spanFrom`).
-/

namespace NameAuction

abbrev Item := (slot : Slot) × slot.Value

def Item.entry (item : Item) : Entry := (item.1.key, item.1.bytes item.2)

/-- The list has what satisfies the predicate, each once, in the order of keys; `item` says under which
slot a member is held. -/
structure Lists {β : Type} (list : List β) (item : β → Item) (p : β → Prop) : Prop where
  sorted : list.Pairwise fun a b => compare (item a).1.key (item b).1.key = .lt
  mem_iff : ∀ x, x ∈ list ↔ p x

theorem Book.item_eq {book : Book} {a b : Item} (ha : book a.1 = some a.2) (hb : book b.1 = some b.2)
    (h : a.1 = b.1) : a = b := by
  obtain ⟨slot, value⟩ := a
  obtain ⟨slot', value'⟩ := b
  obtain rfl : slot = slot' := h
  have hvalue : value = value' := Option.some.inj (ha.symm.trans hb)
  rw [hvalue]

theorem Lists.nodup {β : Type} {list : List β} {item : β → Item} {p : β → Prop}
    (h : Lists list item p) : list.Nodup := by
  refine List.Pairwise.imp ?_ h.sorted
  rintro a _ hlt rfl
  exact Bytes.compare_self_ne_lt (item a).1.key hlt

theorem Lists.nodup_slots {β : Type} {list : List β} {item : β → Item} {p : β → Prop}
    (h : Lists list item p) : (list.map fun x => (item x).1).Nodup := by
  refine List.pairwise_map.mpr (h.sorted.imp fun {a b} hlt heq => ?_)
  rw [heq] at hlt
  exact Bytes.compare_self_ne_lt _ hlt

theorem Lists.unique {β : Type} {list list' : List β} {item : β → Item} {p : β → Prop}
    (h : Lists list item p) (h' : Lists list' item p) : list = list' := by
  have hperm : list.Perm list' := (List.perm_ext_iff_of_nodup h.nodup h'.nodup).mpr fun x =>
    (h.mem_iff x).trans (h'.mem_iff x).symm
  exact hperm.eq_of_pairwise (fun _ _ _ _ hab hba => absurd hba (Bytes.compare_lt_asymm hab))
    h.sorted h'.sorted

theorem mapM_eq_ok {α β : Type} {f : α → Except Fault β} {g : β → α} {list : List β}
    (h : ∀ x ∈ list, f (g x) = .ok x) : (list.map g).mapM f = .ok list := by
  induction list with
  | nil => rfl
  | cons x rest ih =>
    have hrest := ih fun y hy => h y (List.mem_cons_of_mem _ hy)
    rw [List.map_cons, List.mapM_cons, h x (List.mem_cons_self ..), hrest]
    rfl

theorem auctionItem_injective :
    Function.Injective fun x : NameId × Auction => (⟨.auction x.1, x.2⟩ : Item) := by
  rintro ⟨_, _⟩ ⟨_, _⟩ heq
  cases heq
  rfl

theorem registrationItem_injective :
    Function.Injective fun x : NameId × Registration => (⟨.registration x.1, x.2⟩ : Item) := by
  rintro ⟨_, _⟩ ⟨_, _⟩ heq
  cases heq
  rfl

theorem resolutionItem_injective :
    Function.Injective fun x : Resolution => (⟨.resolution x.id x.child, x.account⟩ : Item) := by
  rintro ⟨_, _, _⟩ ⟨_, _, _⟩ heq
  cases heq
  rfl

namespace Store.Keeps

variable {store : Store} {book : Book}

/-- **A scan lists items of the book.**  The members of a type stand for items, and those that satisfy `p`
for the items of the span. -/
theorem exists_range_eq {β : Type} (h : store.Keeps book) (span : Span) (item : β → Item)
    (hinj : Function.Injective item) {p : β → Prop}
    (hp : ∀ x, p x ↔ book (item x).1 = some (item x).2 ∧ span.contains (item x).1.key = true)
    (hitem : ∀ (slot : Slot) (value : slot.Value), book slot = some value →
      span.contains slot.key = true → ∃ x, item x = ⟨slot, value⟩) :
    ∃ list, store.range span = list.map (fun x => (item x).entry) ∧ Lists list item p := by
  let entryOf : { x // p x } → Entry := fun x => (item x.1).entry
  have hentry : ∀ entry ∈ store.range span, entry ∈ Set.range entryOf := by
    rintro ⟨key, bytes⟩ hmem
    obtain ⟨hget, hspan⟩ := mem_range.mp hmem
    obtain ⟨slot, rfl⟩ := h.exists_slot key bytes hget
    rw [h.get?_key] at hget
    obtain ⟨value, hbook, rfl⟩ := Option.map_eq_some_iff.mp hget
    obtain ⟨x, hx⟩ := hitem slot value hbook hspan
    have hpx : p x := (hp x).mpr (by rw [hx]; exact ⟨hbook, hspan⟩)
    refine ⟨⟨x, hpx⟩, ?_⟩
    show (item x).entry = _
    rw [hx]
    rfl
  have hrange : store.range span ∈ Set.range (List.map entryOf) := by
    rw [Set.range_list_map]
    exact hentry
  obtain ⟨chosen, hchosen⟩ := hrange
  have hmap : store.range span = (chosen.map Subtype.val).map fun x => (item x).entry := by
    rw [List.map_map, ← hchosen]
    rfl
  have hsorted := listed_range store span
  rw [hmap] at hsorted
  have hpairwise := List.pairwise_map.mp hsorted
  refine ⟨chosen.map Subtype.val, hmap, hpairwise, ?_⟩
  intro x
  constructor
  · intro hmem
    obtain ⟨⟨_, hpx⟩, -, rfl⟩ := List.mem_map.mp hmem
    exact hpx
  · intro hpx
    obtain ⟨hbook, hspan⟩ := (hp x).mp hpx
    have hmem : (item x).entry ∈ store.range span := by
      refine mem_range.mpr ⟨?_, hspan⟩
      rw [h.get?_key, hbook]
      rfl
    rw [← hchosen] at hmem
    obtain ⟨⟨y, hpy⟩, hchosen, heq⟩ := List.mem_map.mp hmem
    have hslot : (item y).1 = (item x).1 := Slot.key_injective (congrArg Prod.fst heq)
    obtain rfl := hinj (Book.item_eq ((hp y).mp hpy).1 hbook hslot)
    exact List.mem_map_of_mem (f := Subtype.val) hchosen

/-- **What is read under a stem lists items of the book**, if reading the entry of an item gives back the
member that stands for it. -/
theorem exists_mapM_startingWith {β : Type} (h : store.Keeps book) {stem : Bytes}
    {read : Entry → Except Fault β} (item : β → Item) (hinj : Function.Injective item)
    (hstem : ∀ x, stem <+: (item x).1.key)
    (hitem : ∀ (slot : Slot) (value : slot.Value), book slot = some value → stem <+: slot.key →
      ∃ x, item x = ⟨slot, value⟩)
    (hread : ∀ x, book (item x).1 = some (item x).2 → read (item x).entry = .ok x) :
    ∃ list, (store.startingWith stem).mapM read = .ok list ∧
      Lists list item fun x => book (item x).1 = some (item x).2 := by
  obtain ⟨list, hrange, hlist⟩ := h.exists_range_eq (.startingWith stem) item hinj
    (p := fun x => book (item x).1 = some (item x).2)
    (fun x => (and_iff_left ((Span.contains_startingWith _ _).mpr (hstem x))).symm)
    fun slot value hbook hspan => hitem slot value hbook ((Span.contains_startingWith _ _).mp hspan)
  refine ⟨list, ?_, hlist⟩
  rw [Store.startingWith, hrange]
  exact mapM_eq_ok fun x hx => hread x ((hlist.mem_iff x).mp hx)

/-! ### Records -/

theorem decode_write {α : Type} [Layout α] {record : α} (hread : Layout.ReadsBack record) :
    decode (Layout.write record) = .ok record := by
  rw [decode, hread.ofBytes?_write]
  rfl

theorem read_record {α : Type} [Layout α] {id : NameId} {record : α}
    (hread : Layout.ReadsBack record) {region : UInt8} :
    (do
      let id ← Id.ofBytes ((region :: id.bytes).drop 1)
      return (id, ← decode (Layout.write record)) : Except Fault (NameId × α)) = .ok (id, record) := by
  have hid : Id.ofBytes ((region :: id.bytes).drop 1) = .ok id := Id.ofBytes_bytes id
  rw [hid, decode_write hread]
  rfl

theorem startsWith_own_region (slot : Slot) : [slot.region] <+: slot.key := Slot.startsWith_region.mpr rfl

theorem auctions (h : store.Keeps book) :
    ∃ list, store.auctions = .ok list ∧
      Lists list (fun x => ⟨.auction x.1, x.2⟩) fun x => book (.auction x.1) = some x.2 := by
  refine h.exists_mapM_startingWith (fun x : NameId × Auction => ⟨.auction x.1, x.2⟩) auctionItem_injective
    (fun x => startsWith_own_region (.auction x.1)) (fun slot value _ hstem => ?_) fun x hx => ?_
  · obtain ⟨id, rfl⟩ := Slot.region_eq_auctions.mp (Slot.startsWith_region.mp hstem)
    exact ⟨(id, value), rfl⟩
  · exact read_record (Auction.Fits.readsBack (h.fits _ _ hx))

theorem registrations (h : store.Keeps book) :
    ∃ list, store.registrations = .ok list ∧
      Lists list (fun x => ⟨.registration x.1, x.2⟩) fun x =>
        book (.registration x.1) = some x.2 := by
  refine h.exists_mapM_startingWith (fun x : NameId × Registration => ⟨.registration x.1, x.2⟩)
    registrationItem_injective (fun x => startsWith_own_region (.registration x.1))
    (fun slot value _ hstem => ?_) fun x hx => ?_
  · obtain ⟨id, rfl⟩ := Slot.region_eq_registrations.mp (Slot.startsWith_region.mp hstem)
    exact ⟨(id, value), rfl⟩
  · exact read_record (Registration.Fits.readsBack (h.fits _ _ hx))

/-! ### Bids -/

def bidItem (x : NameId × Bid) : Item := ⟨.bid x.1 x.2.bidder, x.2⟩

def bidOf? : Item → Option (NameId × Bid)
  | ⟨.bid id _, record⟩ => some (id, record)
  | _ => none

theorem bidItem_injective : Function.Injective bidItem := fun _ _ heq =>
  Option.some.inj (congrArg bidOf? heq)

theorem exists_bidItem (h : store.Keeps book) {id : NameId} {bidder : Account} {bid : Bid}
    (hbid : book (.bid id bidder) = some bid) : bidItem (id, bid) = ⟨.bid id bidder, bid⟩ := by
  obtain rfl := h.bidder_eq hbid
  rfl

theorem decode_bidItem (h : store.Keeps book) {x : NameId × Bid}
    (hbid : book (bidItem x).1 = some (bidItem x).2) : decode (bidItem x).entry.2 = .ok x.2 :=
  decode_write (Bid.Fits.readsBack (h.fits _ _ hbid).2)

theorem bids (h : store.Keeps book) :
    ∃ list, store.bids = .ok list ∧
      Lists list bidItem fun x => book (.bid x.1 x.2.bidder) = some x.2 := by
  refine h.exists_mapM_startingWith bidItem bidItem_injective (fun x => startsWith_own_region (bidItem x).1)
    (fun slot value hbook hstem => ?_) fun x hx => ?_
  · obtain ⟨id, bidder, rfl⟩ := Slot.region_eq_bids.mp (Slot.startsWith_region.mp hstem)
    exact ⟨(id, value), h.exists_bidItem hbook⟩
  · have hsplit : Key.splitBid (bidItem x).entry.1 = .ok (x.1, x.2.bidder) :=
      Key.split_append .bid Key.bids x.1 x.2.bidder
    rw [hsplit, h.decode_bidItem hx]
    rfl

theorem bidsOn (h : store.Keeps book) (id : NameId) :
    ∃ list, store.bidsOn id = .ok list ∧
      Lists list (fun bid => bidItem (id, bid)) fun bid => book (.bid id bid.bidder) = some bid := by
  refine h.exists_mapM_startingWith (fun bid => bidItem (id, bid))
    (fun _ _ heq => (Prod.mk.inj (bidItem_injective heq)).2)
    (fun bid => Slot.startsWith_bidsOn.mpr ⟨bid.bidder, rfl⟩) (fun slot value hbook hstem => ?_)
    fun bid hbid => h.decode_bidItem hbid
  obtain ⟨bidder, rfl⟩ := Slot.startsWith_bidsOn.mp hstem
  exact ⟨value, h.exists_bidItem hbook⟩

theorem hasBids_iff (h : store.Keeps book) (id : NameId) :
    store.hasBids id = true ↔ ∃ (bidder : Account) (bid : Bid), book (.bid id bidder) = some bid := by
  rw [Store.hasBids, isSome_first?_iff]
  simp only [Span.contains_startingWith]
  constructor
  · rintro ⟨key, bytes, hget, hstem⟩
    obtain ⟨slot, rfl⟩ := h.exists_slot key bytes hget
    obtain ⟨bidder, rfl⟩ := Slot.startsWith_bidsOn.mp hstem
    rw [h.get?_key] at hget
    obtain ⟨bid, hbid, -⟩ := Option.map_eq_some_iff.mp hget
    exact ⟨bidder, bid, hbid⟩
  · rintro ⟨bidder, bid, hbid⟩
    exact ⟨_, _, by rw [h.get?_key, hbid]; rfl, Slot.startsWith_bidsOn.mpr ⟨bidder, rfl⟩⟩

/-! ### Resolutions -/

theorem resolutionsOf (h : store.Keeps book) (id : NameId) :
    ∃ list, store.resolutionsOf id = .ok list ∧
      Lists list (fun x => ⟨.resolution id x.1, x.2⟩) fun x =>
        book (.resolution id x.1) = some x.2 := by
  refine h.exists_mapM_startingWith (fun x : NameId × Account => ⟨.resolution id x.1, x.2⟩)
    (by rintro ⟨_, _⟩ ⟨_, _⟩ heq; cases heq; rfl)
    (fun x => Slot.startsWith_resolutionsOf.mpr ⟨x.1, rfl⟩) (fun slot value _ hstem => ?_) fun x _ => ?_
  · obtain ⟨child, rfl⟩ := Slot.startsWith_resolutionsOf.mp hstem
    exact ⟨(child, value), rfl⟩
  · have hsplit : Key.splitResolution (Item.entry ⟨.resolution id x.1, x.2⟩).1 = .ok (id, x.1) :=
      Key.split_append .resolution Key.resolutions id x.1
    have hread : Id.ofBytes (Item.entry ⟨.resolution id x.1, x.2⟩).2 = .ok x.2 := Id.ofBytes_bytes x.2
    rw [hsplit, hread]
    rfl

theorem resolutions (h : store.Keeps book) :
    ∃ list, store.resolutions = .ok list ∧
      Lists list (fun x => ⟨.resolution x.id x.child, x.account⟩) fun x =>
        book (.resolution x.id x.child) = some x.account := by
  refine h.exists_mapM_startingWith (fun x : Resolution => ⟨.resolution x.id x.child, x.account⟩)
    resolutionItem_injective (fun x => startsWith_own_region (.resolution x.id x.child))
    (fun slot value _ hstem => ?_) fun x _ => ?_
  · obtain ⟨id, child, rfl⟩ := Slot.region_eq_resolutions.mp (Slot.startsWith_region.mp hstem)
    exact ⟨⟨id, child, value⟩, rfl⟩
  · have hsplit : Key.splitResolution (Item.entry ⟨.resolution x.id x.child, x.account⟩).1 =
        .ok (x.id, x.child) := Key.split_append .resolution Key.resolutions x.id x.child
    have hread : Id.ofBytes (Item.entry ⟨.resolution x.id x.child, x.account⟩).2 = .ok x.account :=
      Id.ofBytes_bytes x.account
    rw [hsplit, hread]
    rfl

/-! ### Queues -/

def dueItem (kind : QueueKind) (due : Due) : Item := ⟨.queued kind due, ()⟩

theorem dueItem_injective (kind : QueueKind) : Function.Injective (dueItem kind) := by
  intro a b heq
  cases heq
  rfl

theorem queueEntries (h : store.Keeps book) (kind : QueueKind) :
    ∃ list, store.queueEntries kind.queue = .ok list ∧
      Lists list (dueItem kind) fun due => book (.queued kind due) = some () := by
  refine h.exists_mapM_startingWith (dueItem kind) (dueItem_injective kind)
    (fun due => startsWith_own_region (.queued kind due)) (fun slot value _ hstem => ?_)
    fun due _ => Queue.ofKey_key kind.queue due
  obtain ⟨due, rfl⟩ := Slot.region_eq_queue.mp (Slot.startsWith_region.mp hstem)
  exact ⟨due, rfl⟩

end Store.Keeps

/-- The entry of the queue is due, and comes after the cursor where there is one. -/
def Book.Awaits (book : Book) (kind : QueueKind) (now : Time) (cursor : Option Due) (due : Due) :
    Prop :=
  book (.queued kind due) = some () ∧ due.time ≤ now ∧ ∀ last, cursor = some last → last.Before due

def Queue.spanFrom (queue : Queue) (now : Time) : Option Due → Span
  | none => queue.dueSpan now
  | some cursor => queue.dueSpanAfter now cursor

theorem Store.dueFrom_eq (store : Store) (queue : Queue) (now : Time) (cursor : Option Due) :
    store.dueFrom queue now cursor = store.firstDueIn (queue.spanFrom now cursor) := by
  cases cursor <;> rfl

theorem Queue.head?_of_spanFrom {queue : Queue} {now : Time} {cursor : Option Due} {key : Bytes}
    (h : (queue.spanFrom now cursor).contains key = true) : key.head? = some queue.region := by
  cases cursor with
  | none => exact head?_of_dueSpan h
  | some last => exact head?_of_dueSpan (dueSpanAfter_contains.mp h).1

theorem Queue.spanFrom_contains {kind : QueueKind} {now : Time} {cursor : Option Due} {slot : Slot} :
    (kind.queue.spanFrom now cursor).contains slot.key = true ↔
      ∃ due, slot = .queued kind due ∧ due.time ≤ now ∧
        ∀ last, cursor = some last → last.Before due := by
  cases cursor with
  | none =>
    rw [spanFrom, Slot.dueSpan_contains]
    simp
  | some last =>
    rw [spanFrom, Slot.dueSpanAfter_contains]
    simp

namespace Store.Keeps

variable {store : Store} {book : Book}

theorem range_spanFrom (h : store.Keeps book) (kind : QueueKind) (now : Time) (cursor : Option Due) :
    ∃ list, store.range (kind.queue.spanFrom now cursor) =
        list.map (fun due => (dueItem kind due).entry) ∧
      Lists list (dueItem kind) (book.Awaits kind now cursor) := by
  refine h.exists_range_eq _ (dueItem kind) (dueItem_injective kind) ?_ ?_
  · intro due
    refine and_congr_right fun _ =>
      ⟨fun hdue => Queue.spanFrom_contains.mpr ⟨due, rfl, hdue⟩, fun hdue => ?_⟩
    obtain ⟨due', heq, hdue'⟩ := Queue.spanFrom_contains.mp hdue
    cases heq
    exact hdue'
  · intro slot value _ hspan
    obtain ⟨due, rfl, -⟩ := Queue.spanFrom_contains.mp hspan
    exact ⟨due, rfl⟩

end Store.Keeps

end NameAuction
