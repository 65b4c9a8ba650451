import Mathlib.Data.List.Perm.Subperm
import NameAuction.Proofs.Store.Span

/-!
# What a store holds

A store is entries with layers of buffered writes over them.  `Store.contents` carries all of these
writes out, and every reading is a reading of the contents: of one key (`get?_eq`), of a span
(`range_eq`) and of the first entry of a span (`first?_eq`), where the search passes over the entries
that a layer deletes.  A write changes what its key holds (`get?_set`), and opening or committing a layer
changes nothing that is read (`get?_layer`, `get?_commit`).
-/

namespace NameAuction

/-- The listing of a map: every key once and in order. -/
def Listed {β : Type} (list : List (Bytes × β)) : Prop :=
  list.Pairwise fun a b => compare a.1 b.1 = .lt

namespace Listed

variable {β : Type}

theorem toList (map : Std.ExtTreeMap Bytes β compare) : Listed map.toList := map.ordered_keys_toList

theorem filter {list : List (Bytes × β)} (h : Listed list) (p : Bytes × β → Bool) :
    Listed (list.filter p) := List.Pairwise.filter p h

theorem nodup {list : List (Bytes × β)} (h : Listed list) : list.Nodup := by
  refine List.Pairwise.imp ?_ h
  rintro a _ hlt rfl
  exact Bytes.compare_self_ne_lt a.1 hlt

/-- **Two listings with the same members are equal.** -/
theorem eq_of_mem_iff {l₁ l₂ : List (Bytes × β)} (h₁ : Listed l₁) (h₂ : Listed l₂)
    (h : ∀ entry, entry ∈ l₁ ↔ entry ∈ l₂) : l₁ = l₂ := by
  have hperm : l₁.Perm l₂ := (List.perm_ext_iff_of_nodup h₁.nodup h₂.nodup).mpr h
  exact hperm.eq_of_pairwise (fun _ _ _ _ hab hba => absurd hba (Bytes.compare_lt_asymm hab)) h₁ h₂

/-- **The head of a listing is its entry with the least key.** -/
theorem head?_eq_some_iff {list : List (Bytes × β)} (h : Listed list) {entry : Bytes × β} :
    list.head? = some entry ↔
      entry ∈ list ∧ ∀ other ∈ list, (compare entry.1 other.1).isLE := by
  cases list with
  | nil => simp
  | cons first rest =>
    obtain ⟨hhead, -⟩ := List.pairwise_cons.mp h
    have hfirst : ∀ other ∈ first :: rest, (compare first.1 other.1).isLE := by
      intro other hother
      rcases List.mem_cons.mp hother with rfl | hother
      · exact Std.ReflOrd.isLE_rfl
      · rw [hhead other hother]; rfl
    rw [List.head?_cons, Option.some.injEq]
    constructor
    · rintro rfl
      exact ⟨List.mem_cons_self .., hfirst⟩
    · rintro ⟨hmem, hle⟩
      rcases List.mem_cons.mp hmem with rfl | hmem
      · rfl
      · -- the first entry is both at least and less
        have hge := hle first (List.mem_cons_self ..)
        rw [Std.OrientedOrd.eq_swap, hhead entry hmem] at hge
        exact absurd hge (by decide)

end Listed

namespace Store

/-! ### Writes -/

theorem getElem?_write (entries : Entries) (key other : Bytes) (value : Option Bytes) :
    (write entries key value)[other]? = if key = other then value else entries[other]? := by
  cases value with
  | some bytes => simp only [write, Std.ExtTreeMap.getElem?_insert, Std.compare_eq_iff_eq]
  | none => simp only [write, Std.ExtTreeMap.getElem?_erase, Std.compare_eq_iff_eq]

def writeAll (entries : Entries) (changes : List (Bytes × Option Bytes)) : Entries :=
  changes.foldl (fun entries change => write entries change.1 change.2) entries

theorem writeAll_cons (entries : Entries) (change : Bytes × Option Bytes)
    (rest : List (Bytes × Option Bytes)) :
    writeAll entries (change :: rest) = writeAll (write entries change.1 change.2) rest := rfl

theorem getElem?_writeAll_of_not_mem {changes : List (Bytes × Option Bytes)} {key : Bytes}
    (h : ∀ value, (key, value) ∉ changes) (entries : Entries) :
    (writeAll entries changes)[key]? = entries[key]? := by
  induction changes generalizing entries with
  | nil => rfl
  | cons change rest ih =>
    have hne : change.1 ≠ key := by
      rintro rfl
      exact h change.2 (List.mem_cons_self ..)
    rw [writeAll_cons, ih (fun value hv => h value (List.mem_cons_of_mem _ hv)), getElem?_write,
      if_neg hne]

theorem getElem?_writeAll_of_mem {changes : List (Bytes × Option Bytes)} (hlist : Listed changes)
    {key : Bytes} {value : Option Bytes} (h : (key, value) ∈ changes) (entries : Entries) :
    (writeAll entries changes)[key]? = value := by
  induction changes generalizing entries with
  | nil => cases h
  | cons change rest ih =>
    obtain ⟨hhead, hrest⟩ := List.pairwise_cons.mp hlist
    rw [writeAll_cons]
    rcases List.mem_cons.mp h with rfl | h
    · have hnot : ∀ w, (key, w) ∉ rest := fun w hw => Bytes.compare_self_ne_lt key (hhead _ hw)
      rw [getElem?_writeAll_of_not_mem hnot, getElem?_write, if_pos rfl]
    · exact ih hrest h _

/-- **A buffered write counts before what lies below.** -/
theorem getElem?_writeAll_toList (entries : Entries) (layer : Writes) (key : Bytes) :
    (writeAll entries layer.toList)[key]? = (layer[key]?).getD entries[key]? := by
  cases h : layer[key]? with
  | some value =>
    exact getElem?_writeAll_of_mem (.toList layer)
      (Std.ExtTreeMap.mem_toList_iff_getElem?_eq_some.mpr h) entries
  | none =>
    refine getElem?_writeAll_of_not_mem (fun value hv => ?_) entries
    rw [Std.ExtTreeMap.mem_toList_iff_getElem?_eq_some, h] at hv
    cases hv

/-! ### Contents -/

/-- Entries with the writes of layers carried out, the last layer first. -/
def flatten (base : Entries) : List Writes → Entries
  | [] => base
  | layer :: below => writeAll (flatten base below) layer.toList

/-- The entries that a store holds, all its layers carried out. -/
def contents (store : Store) : Entries := flatten store.base store.layers

theorem lookUp_eq (base : Entries) (layers : List Writes) (key : Bytes) :
    lookUp base layers key = (flatten base layers)[key]? := by
  induction layers with
  | nil => rfl
  | cons layer below ih =>
    rw [lookUp, flatten, getElem?_writeAll_toList, ih]
    cases layer[key]? with
    | some value => rfl
    | none => rfl

theorem get?_eq (store : Store) (key : Bytes) : store.get? key = store.contents[key]? :=
  lookUp_eq store.base store.layers key

def within (entries : Entries) (span : Span) : List Entry :=
  entries.toList.filter fun entry => span.contains entry.1

theorem mem_within {entries : Entries} {span : Span} {key value : Bytes} :
    (key, value) ∈ within entries span ↔ entries[key]? = some value ∧ span.contains key = true := by
  rw [within, List.mem_filter, Std.ExtTreeMap.mem_toList_iff_getElem?_eq_some]

theorem listed_within (entries : Entries) (span : Span) : Listed (within entries span) :=
  (Listed.toList entries).filter _

theorem getElem?_ofList_within (entries : Entries) (span : Span) (key : Bytes) :
    (Std.ExtTreeMap.ofList (within entries span) compare)[key]? =
      if span.contains key then entries[key]? else none := by
  have hdistinct : (within entries span).Pairwise fun a b => ¬ compare a.1 b.1 = .eq :=
    List.Pairwise.imp (fun hlt => by rw [hlt]; decide) (listed_within entries span)
  by_cases hmem : ∃ value, (key, value) ∈ within entries span
  · obtain ⟨value, hv⟩ := hmem
    rw [Std.ExtTreeMap.getElem?_ofList_of_mem Std.ReflOrd.compare_self hdistinct hv]
    obtain ⟨hget, hspan⟩ := mem_within.mp hv
    rw [if_pos hspan, hget]
  · have hnone : (Std.ExtTreeMap.ofList (within entries span) compare)[key]? = none := by
      apply Std.ExtTreeMap.getElem?_ofList_of_contains_eq_false
      rw [← Bool.not_eq_true, List.contains_iff_mem]
      intro h
      obtain ⟨⟨k, value⟩, hv, rfl⟩ := List.mem_map.mp h
      exact hmem ⟨value, hv⟩
    rw [hnone]
    split
    · rename_i hspan
      cases hget : entries[key]? with
      | none => rfl
      | some value => exact absurd ⟨value, mem_within.mpr ⟨hget, hspan⟩⟩ hmem
    · rfl

theorem scan_eq (base : Entries) (layers : List Writes) (span : Span) :
    scan base layers span = within (flatten base layers) span := by
  induction layers with
  | nil => rfl
  | cons layer below ih =>
    rw [scan, ih]
    refine Listed.eq_of_mem_iff (.toList _) (listed_within _ _) ?_
    rintro ⟨key, value⟩
    rw [overlay, Std.ExtTreeMap.mem_toList_iff_getElem?_eq_some, mem_within, flatten,
      getElem?_writeAll_toList]
    show (writeAll _ _)[key]? = some value ↔ _
    have hlist : Listed (layer.toList.filter fun change => span.contains change.1) :=
      (Listed.toList layer).filter _
    cases hspan : span.contains key with
    | false =>
      -- neither the writes nor the entries of the span have the key
      have hnot : ∀ v, (key, v) ∉ layer.toList.filter fun change => span.contains change.1 := by
        intro v hv
        have := (List.mem_filter.mp hv).2
        simp [hspan] at this
      rw [getElem?_writeAll_of_not_mem hnot, getElem?_ofList_within]
      simp [hspan]
    | true =>
      cases hlayer : layer[key]? with
      | some change =>
        have hmem : (key, change) ∈ layer.toList.filter fun change => span.contains change.1 :=
          List.mem_filter.mpr ⟨Std.ExtTreeMap.mem_toList_iff_getElem?_eq_some.mpr hlayer, hspan⟩
        rw [getElem?_writeAll_of_mem hlist hmem]
        simp
      | none =>
        have hnot : ∀ v, (key, v) ∉ layer.toList.filter fun change => span.contains change.1 := by
          intro v hv
          have := (List.mem_filter.mp hv).1
          rw [Std.ExtTreeMap.mem_toList_iff_getElem?_eq_some, hlayer] at this
          cases this
        rw [getElem?_writeAll_of_not_mem hnot, getElem?_ofList_within]
        simp [hspan]

/-- **A scan lists the contents of the span.** -/
theorem range_eq (store : Store) (span : Span) : store.range span = within store.contents span :=
  scan_eq store.base store.layers span

theorem mem_range {store : Store} {span : Span} {key value : Bytes} :
    (key, value) ∈ store.range span ↔ store.get? key = some value ∧ span.contains key = true := by
  rw [range_eq, mem_within, get?_eq]

theorem listed_range (store : Store) (span : Span) : Listed (store.range span) := by
  rw [range_eq]
  exact listed_within _ _

/-- Stores that hold the same under the keys of a span list the same. -/
theorem range_congr {store other : Store} {span : Span}
    (h : ∀ key, span.contains key = true → store.get? key = other.get? key) :
    store.range span = other.range span := by
  refine (listed_range store span).eq_of_mem_iff (listed_range other span) ?_
  rintro ⟨key, value⟩
  rw [mem_range, mem_range]
  exact and_congr_left fun hspan => by rw [h key hspan]

/-! ### The first entry of a span -/

def deletions (layer : Writes) (span : Span) : List (Bytes × Option Bytes) :=
  layer.toList.filter fun change => span.contains change.1 && change.2.isNone

theorem mem_deletions {layer : Writes} {span : Span} {key : Bytes} {value : Option Bytes} :
    (key, value) ∈ deletions layer span ↔
      layer[key]? = some value ∧ span.contains key = true ∧ value = none := by
  rw [deletions, List.mem_filter, Std.ExtTreeMap.mem_toList_iff_getElem?_eq_some]
  simp

/-- Behind a deleted key there is one deletion less. -/
theorem length_deletions_successor_lt {layer : Writes} {span : Span} {key : Bytes}
    (hspan : span.contains key = true) (hdel : layer[key]? = some none) :
    (deletions layer { span with start := key ++ [0] }).length < (deletions layer span).length := by
  have hstart : (compare span.start key).isLE := by
    simp only [Span.contains, Bool.and_eq_true] at hspan
    exact hspan.1
  have hmem : (key, none) ∈ deletions layer span := mem_deletions.mpr ⟨hdel, hspan, rfl⟩
  have hnot : (key, none) ∉ deletions layer { span with start := key ++ [0] } := by
    intro h
    have hlt := (Span.contains_from_successor hstart).mp (mem_deletions.mp h).2.1
    exact Bytes.compare_self_ne_lt key hlt.2
  have hlisted : ∀ span, Listed (deletions layer span) := fun _ => (Listed.toList layer).filter _
  have hsub : (key, none) :: deletions layer { span with start := key ++ [0] } ⊆
      deletions layer span := by
    rintro ⟨other, value⟩ h
    rcases List.mem_cons.mp h with h | h
    · rw [h]
      exact hmem
    · obtain ⟨hget, hcontains, hnone⟩ := mem_deletions.mp h
      exact mem_deletions.mpr ⟨hget, ((Span.contains_from_successor hstart).mp hcontains).1, hnone⟩
  have hnodup := List.nodup_cons.mpr ⟨hnot, (hlisted { span with start := key ++ [0] }).nodup⟩
  exact (List.subperm_of_subset hnodup hsub).length_le

/-- Behind its first key a span holds what it held but the first entry. -/
theorem within_successor {entries : Entries} {span : Span} {first : Entry} {rest : List Entry}
    (h : within entries span = first :: rest) :
    within entries { span with start := first.1 ++ [0] } = rest := by
  have hlisted := listed_within entries span
  rw [h] at hlisted
  obtain ⟨hhead, hrest⟩ := List.pairwise_cons.mp hlisted
  have hfirst : (first.1, first.2) ∈ within entries span := by
    rw [h]
    exact List.mem_cons_self ..
  have hstart : (compare span.start first.1).isLE := by
    have hspan := (mem_within.mp hfirst).2
    simp only [Span.contains, Bool.and_eq_true] at hspan
    exact hspan.1
  refine Listed.eq_of_mem_iff (listed_within _ _) hrest ?_
  rintro ⟨key, value⟩
  rw [mem_within, Span.contains_from_successor hstart]
  constructor
  · rintro ⟨hget, hspan, hlt⟩
    have hmem : (key, value) ∈ first :: rest := by
      rw [← h]
      exact mem_within.mpr ⟨hget, hspan⟩
    rcases List.mem_cons.mp hmem with rfl | hmem
    · exact absurd hlt (Bytes.compare_self_ne_lt _)
    · exact hmem
  · intro hmem
    have hwithin : (key, value) ∈ within entries span := by
      rw [h]
      exact List.mem_cons_of_mem _ hmem
    obtain ⟨hget, hspan⟩ := mem_within.mp hwithin
    exact ⟨hget, hspan, hhead _ hmem⟩

theorem range_successor {store : Store} {span : Span} {first : Entry} {rest : List Entry}
    (h : store.range span = first :: rest) :
    store.range { span with start := first.1 ++ [0] } = rest := by
  rw [range_eq] at h ⊢
  exact within_successor h

/-- **The search for the first entry that a layer keeps.**  Each deletion stands in its way once. -/
theorem firstKept_eq {layer : Writes} {entries : Entries} {first : Span → Option Entry}
    (hfirst : ∀ span, first span = (within entries span).head?) {bound : Nat} {span : Span}
    (hbound : (deletions layer span).length < bound) :
    firstKept layer first bound span =
      (within entries span).find? fun entry => decide (layer[entry.1]? ≠ some none) := by
  induction bound generalizing span with
  | zero => omega
  | succ bound ih =>
    rw [firstKept, hfirst]
    cases hlist : within entries span with
    | nil => rfl
    | cons entry rest =>
      obtain ⟨key, value⟩ := entry
      rw [List.head?_cons, List.find?_cons]
      by_cases hdel : layer[key]? = some none
      · have hmem : (key, value) ∈ within entries span := by
          rw [hlist]
          exact List.mem_cons_self ..
        have hlt := length_deletions_successor_lt (mem_within.mp hmem).2 hdel
        simp only [hdel, ne_eq, not_true_eq_false, decide_false]
        rw [ih (by omega), within_successor hlist]
      · simp only [ne_eq, hdel, not_false_eq_true, decide_true]

theorem length_deletions_le (layer : Writes) (span : Span) :
    (deletions layer span).length ≤ layer.size := by
  rw [← Std.ExtTreeMap.length_toList]
  exact List.length_filter_le ..

def bufferedWithin (layer : Writes) (span : Span) : List Entry :=
  (layer.toList.filter fun change => span.contains change.1).filterMap fun change =>
    change.2.map (change.1, ·)

theorem mem_bufferedWithin {layer : Writes} {span : Span} {key value : Bytes} :
    (key, value) ∈ bufferedWithin layer span ↔
      layer[key]? = some (some value) ∧ span.contains key = true := by
  simp only [bufferedWithin, List.mem_filterMap, List.mem_filter]
  constructor
  · rintro ⟨⟨k, change⟩, ⟨hmem, hspan⟩, hval⟩
    obtain ⟨v, rfl, heq⟩ := Option.map_eq_some_iff.mp hval
    cases heq
    exact ⟨Std.ExtTreeMap.mem_toList_iff_getElem?_eq_some.mp hmem, hspan⟩
  · rintro ⟨hget, hspan⟩
    exact ⟨(key, some value), ⟨Std.ExtTreeMap.mem_toList_iff_getElem?_eq_some.mpr hget, hspan⟩, rfl⟩

theorem listed_bufferedWithin (layer : Writes) (span : Span) :
    Listed (bufferedWithin layer span) := by
  have hlist : Listed (layer.toList.filter fun change => span.contains change.1) :=
    (Listed.toList layer).filter _
  refine List.Pairwise.filterMap _ ?_ hlist
  rintro ⟨k, v⟩ ⟨k', v'⟩ hlt entry hentry entry' hentry'
  obtain ⟨w, -, rfl⟩ := Option.map_eq_some_iff.mp hentry
  obtain ⟨w', -, rfl⟩ := Option.map_eq_some_iff.mp hentry'
  exact hlt

theorem firstBuffered_eq (layer : Writes) (span : Span) :
    firstBuffered layer span = (bufferedWithin layer span).head? := by
  rw [firstBuffered, bufferedWithin, List.head?_filterMap]

theorem mem_within_writeAll {entries : Entries} {layer : Writes} {span : Span} {key value : Bytes} :
    (key, value) ∈ within (writeAll entries layer.toList) span ↔
      (key, value) ∈ bufferedWithin layer span ∨
        (key, value) ∈ within entries span ∧ layer[key]? = none := by
  rw [mem_within, getElem?_writeAll_toList, mem_bufferedWithin, mem_within]
  cases layer[key]? with
  | none => simp
  | some change => simp

/-- What a listing seen through a layer has to do with the buffered and the kept entries. -/
structure Merges (buffered kept through : List Entry) : Prop where
  listed_buffered : Listed buffered
  listed_kept : Listed kept
  listed_through : Listed through
  mem_of_buffered : ∀ entry ∈ buffered, entry ∈ through
  /-- A kept entry that is not seen has a buffered one at its key. -/
  mem_of_kept : ∀ entry ∈ kept, entry ∈ through ∨ ∃ value, (entry.1, value) ∈ buffered
  mem_or_mem : ∀ entry ∈ through, entry ∈ buffered ∨ entry ∈ kept

theorem Merges.head?_of_not_lt {buffered kept through : List Entry}
    (h : Merges buffered kept through) {first : Entry} (hfirst : buffered.head? = some first)
    (hle : ∀ entry ∈ kept, (compare first.1 entry.1).isLE) : through.head? = some first := by
  obtain ⟨hmem, hleast⟩ := h.listed_buffered.head?_eq_some_iff.mp hfirst
  refine h.listed_through.head?_eq_some_iff.mpr ⟨h.mem_of_buffered first hmem, ?_⟩
  intro other hother
  rcases h.mem_or_mem other hother with hother | hother
  · exact hleast other hother
  · exact hle other hother

theorem Merges.head?_of_lt {buffered kept through : List Entry} (h : Merges buffered kept through)
    {first : Entry} (hfirst : kept.head? = some first)
    (hlt : ∀ entry ∈ buffered, compare first.1 entry.1 = .lt) : through.head? = some first := by
  obtain ⟨hmem, hleast⟩ := h.listed_kept.head?_eq_some_iff.mp hfirst
  have hthrough : first ∈ through := by
    rcases h.mem_of_kept first hmem with hthrough | ⟨value, hvalue⟩
    · exact hthrough
    · exact absurd (hlt _ hvalue) (Bytes.compare_self_ne_lt first.1)
  refine h.listed_through.head?_eq_some_iff.mpr ⟨hthrough, ?_⟩
  intro other hother
  rcases h.mem_or_mem other hother with hother | hother
  · rw [hlt other hother]
    rfl
  · exact hleast other hother

/-- **The earlier of the two heads is the head of the merged listing.** -/
theorem Merges.earlier_eq {buffered kept through : List Entry} (h : Merges buffered kept through) :
    earlier buffered.head? kept.head? = through.head? := by
  cases hb : buffered.head? with
  | none =>
    have hnil : buffered = [] := List.head?_eq_none_iff.mp hb
    cases hk : kept.head? with
    | none =>
      have hnone : through = [] := by
        refine List.eq_nil_iff_forall_not_mem.mpr ?_
        intro entry hentry
        rcases h.mem_or_mem entry hentry with hentry | hentry
        · rw [hnil] at hentry
          cases hentry
        · rw [List.head?_eq_none_iff.mp hk] at hentry
          cases hentry
      rw [hnone]
      rfl
    | some k =>
      refine (h.head?_of_lt hk fun entry hentry => ?_).symm
      rw [hnil] at hentry
      cases hentry
  | some b =>
    obtain ⟨-, hbleast⟩ := h.listed_buffered.head?_eq_some_iff.mp hb
    cases hk : kept.head? with
    | none =>
      refine (h.head?_of_not_lt hb fun entry hentry => ?_).symm
      rw [List.head?_eq_none_iff.mp hk] at hentry
      cases hentry
    | some k =>
      obtain ⟨-, hkleast⟩ := h.listed_kept.head?_eq_some_iff.mp hk
      cases hcmp : (compare k.1 b.1).isLT with
      | true =>
        have hlt : compare k.1 b.1 = .lt := Ordering.isLT_iff_eq_lt.mp hcmp
        simp only [earlier, hcmp, if_true]
        refine (h.head?_of_lt hk fun entry hentry => ?_).symm
        exact Std.TransCmp.lt_of_lt_of_isLE hlt (hbleast entry hentry)
      | false =>
        have hle : (compare b.1 k.1).isLE :=
          Bytes.isLE_compare_of_not_lt fun hlt => by simp [hlt] at hcmp
        simp only [earlier, hcmp, Bool.false_eq_true, if_false]
        refine (h.head?_of_not_lt hb fun entry hentry => ?_).symm
        exact Std.TransCmp.isLE_trans hle (hkleast entry hentry)

def keptWithin (entries : Entries) (layer : Writes) (span : Span) : List Entry :=
  (within entries span).filter fun entry => decide (layer[entry.1]? ≠ some none)

theorem merges_within (entries : Entries) (layer : Writes) (span : Span) :
    Merges (bufferedWithin layer span) (keptWithin entries layer span)
      (within (writeAll entries layer.toList) span) where
  listed_buffered := listed_bufferedWithin layer span
  listed_kept := (listed_within entries span).filter _
  listed_through := listed_within _ span
  mem_of_buffered := fun ⟨_, _⟩ h => mem_within_writeAll.mpr (.inl h)
  mem_of_kept := by
    rintro ⟨key, value⟩ h
    obtain ⟨hmem, hdel⟩ := List.mem_filter.mp h
    cases hlayer : layer[key]? with
    | none => exact .inl (mem_within_writeAll.mpr (.inr ⟨hmem, hlayer⟩))
    | some change =>
      cases change with
      | none => simp [hlayer] at hdel
      | some w => exact .inr ⟨w, mem_bufferedWithin.mpr ⟨hlayer, (mem_within.mp hmem).2⟩⟩
  mem_or_mem := by
    rintro ⟨key, value⟩ h
    rcases mem_within_writeAll.mp h with h | ⟨h, hnone⟩
    · exact .inl h
    · exact .inr (List.mem_filter.mpr ⟨h, by simp [hnone]⟩)

theorem firstIn_eq (base : Entries) (layers : List Writes) (span : Span) :
    firstIn base layers span = (within (flatten base layers) span).head? := by
  induction layers generalizing span with
  | nil => rw [firstIn, flatten, within, List.head?_filter]
  | cons layer below ih =>
    have hkept := firstKept_eq ih (Nat.lt_succ_of_le (length_deletions_le layer span))
    rw [← List.head?_filter] at hkept
    rw [firstIn, firstBuffered_eq, hkept, flatten]
    exact (merges_within _ layer span).earlier_eq

/-- **The first entry of a span is the head of its scan.** -/
theorem first?_eq (store : Store) (span : Span) : store.first? span = (store.range span).head? := by
  rw [range_eq]
  exact firstIn_eq store.base store.layers span

theorem isSome_first?_iff {store : Store} {span : Span} :
    (store.first? span).isSome = true ↔
      ∃ key value, store.get? key = some value ∧ span.contains key = true := by
  rw [first?_eq, List.isSome_head?, ← List.isEmpty_eq_false_iff, List.isEmpty_eq_false_iff_exists_mem]
  simp only [Prod.exists, mem_range]

/-! ### Writes and layers -/

theorem get?_set (store : Store) (key other : Bytes) (value : Option Bytes) :
    (store.set key value).get? other = if key = other then value else store.get? other := by
  obtain ⟨base, layers⟩ := store
  cases layers with
  | nil => exact getElem?_write base key other value
  | cons layer below =>
    show lookUp base (layer.insert key value :: below) other = if key = other then value
      else lookUp base (layer :: below) other
    simp only [lookUp, Std.ExtTreeMap.getElem?_insert, Std.compare_eq_iff_eq]
    by_cases h : key = other
    · rw [if_pos h, if_pos h]
    · rw [if_neg h, if_neg h]

theorem get?_layer (store : Store) (key : Bytes) : store.layer.get? key = store.get? key := by
  show lookUp store.base (∅ :: store.layers) key = _
  rw [lookUp, Std.ExtTreeMap.getElem?_empty]
  rfl

theorem get?_ofEntries (entries : Entries) (key : Bytes) :
    (ofEntries entries).get? key = entries[key]? := rfl

theorem get?_foldl_set (store : Store) {changes : List (Bytes × Option Bytes)} (key : Bytes) :
    (changes.foldl (fun below change => below.set change.1 change.2) store).get? key =
      (writeAll store.contents changes)[key]? := by
  suffices h : ∀ (store : Store) (entries : Entries), (∀ key, store.get? key = entries[key]?) →
      (changes.foldl (fun below change => below.set change.1 change.2) store).get? key =
        (writeAll entries changes)[key]? from h store _ (get?_eq store)
  induction changes with
  | nil => exact fun _ _ h => h key
  | cons change rest ih =>
    intro store entries h
    refine ih _ _ ?_
    intro other
    rw [get?_set, getElem?_write, h]

/-- **Committing a layer keeps what is read through it.** -/
theorem get?_commit {store : Store} (hlayer : store.layers ≠ []) (key : Bytes) :
    store.commit.get? key = store.get? key := by
  obtain ⟨base, layers⟩ := store
  cases layers with
  | nil => exact absurd rfl hlayer
  | cons layer below =>
    rw [commit, get?_foldl_set, get?_eq]
    rfl

end Store

end NameAuction
