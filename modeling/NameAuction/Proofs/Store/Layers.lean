import Mathlib.Data.List.Infix
import NameAuction.Proofs.Levels
import NameAuction.Proofs.Store.Contents

/-!
# Layers

A store with layers over it is read like an ordered map (`Store.readsAs_contents`), and its layers are levels:
a write, a new layer and a commit do to what is read what they do to a map of which copies are put aside
(`Store.simulates_copies`).  So after any writes, layers opened, committed and discarded, every layer and the
entries below are read like the copy of the map that belongs to them, and until a layer is committed, what
lies beneath it is untouched (`Store.layers_refine_map`).
-/

namespace NameAuction

inductive Edit
  | put (key value : Bytes)
  | delete (key : Bytes)

namespace Edit

def onStore (store : Store) : Edit → Store
  | put key value => store.put key value
  | delete key => store.delete key

def onEntries (entries : Entries) : Edit → Entries
  | put key value => entries.insert key value
  | delete key => entries.erase key

end Edit

namespace Store

/-! ### Reading -/

/-- The entries of an ordered map with keys from `start` on and below `stop`. -/
def between (entries : Entries) (start : Bytes) (stop : Option Bytes) : List Entry :=
  entries.toList.filter fun entry =>
    (compare start entry.1).isLE && stop.all fun stop => (compare entry.1 stop).isLT

structure ReadsAs (store : Store) (entries : Entries) : Prop where
  get : ∀ key, store.get? key = entries[key]?
  has : ∀ key, store.has key = entries.contains key
  range : ∀ start stop, store.range ⟨start, stop⟩ = between entries start stop
  first : ∀ start stop, store.first? ⟨start, stop⟩ = (between entries start stop).head?
  startingWith : ∀ stem,
    store.startingWith stem = entries.toList.filter fun entry => stem.isPrefixOf entry.1
  /-- Bounds that are equal or inverted leave nothing. -/
  inverted : ∀ start stop, (compare stop start).isLE → store.range ⟨start, some stop⟩ = []

theorem between_eq_nil (entries : Entries) {start stop : Bytes} (h : (compare stop start).isLE) :
    between entries start (some stop) = [] := by
  refine List.filter_eq_nil_iff.mpr ?_
  intro entry _ hbetween
  simp only [Option.all_some, Bool.and_eq_true, Ordering.isLT_iff_eq_lt] at hbetween
  obtain ⟨hstart, hstop⟩ := hbetween
  have hlt : compare entry.1 start = .lt := Std.TransCmp.lt_of_lt_of_isLE hstop h
  exact Bytes.compare_self_ne_lt _ (Std.TransCmp.lt_of_lt_of_isLE hlt hstart)

theorem readsAs_contents (store : Store) : store.ReadsAs store.contents where
  get := get?_eq store
  has key := by rw [has, get?_eq, ← Std.ExtTreeMap.contains_eq_isSome_getElem?]
  range start stop := range_eq store ⟨start, stop⟩
  first start stop := by
    rw [first?_eq, range_eq]
    rfl
  startingWith stem := by
    rw [startingWith, range_eq, within]
    refine List.filter_congr ?_
    intro entry _
    rw [Bool.eq_iff_iff, Span.contains_startingWith, List.isPrefixOf_iff_prefix]
  inverted start stop h := (range_eq store ⟨start, some stop⟩).trans (between_eq_nil _ h)

/-! ### Writes and layers -/

theorem length_layers_set (store : Store) (key : Bytes) (value : Option Bytes) :
    (store.set key value).layers.length = store.layers.length := by
  obtain ⟨base, layers⟩ := store
  cases layers <;> rfl

theorem discard_set (store : Store) (key : Bytes) (value : Option Bytes)
    (h : 0 < store.layers.length) : (store.set key value).discard = store.discard := by
  obtain ⟨base, layers⟩ := store
  cases layers with
  | nil => cases h
  | cons layer below => rfl

theorem length_layers_foldl_set (store : Store) (changes : List (Bytes × Option Bytes)) :
    (changes.foldl (fun below change => below.set change.1 change.2) store).layers.length =
      store.layers.length := by
  induction changes generalizing store with
  | nil => rfl
  | cons change rest ih => exact (ih _).trans (length_layers_set store change.1 change.2)

theorem discard_foldl_set (store : Store) (changes : List (Bytes × Option Bytes))
    (h : 0 < store.layers.length) :
    (changes.foldl (fun below change => below.set change.1 change.2) store).discard =
      store.discard := by
  induction changes generalizing store with
  | nil => rfl
  | cons change rest ih =>
    have hset : 0 < (store.set change.1 change.2).layers.length := by rwa [length_layers_set]
    exact (ih _ hset).trans (discard_set store change.1 change.2 h)

theorem length_layers_discard (store : Store) :
    store.discard.layers.length = store.layers.length - 1 := List.length_tail

theorem discard_of_length {store : Store} (h : store.layers.length = 0) : store.discard = store := by
  obtain ⟨base, layers⟩ := store
  obtain rfl : layers = [] := List.length_eq_zero_iff.mp h
  rfl

theorem commit_of_length {store : Store} (h : store.layers.length = 0) : store.commit = store := by
  obtain ⟨base, layers⟩ := store
  obtain rfl : layers = [] := List.length_eq_zero_iff.mp h
  rfl

def levels : Levels Store Edit where
  height store := store.layers.length
  make := Edit.onStore
  begin := layer
  commit := commit
  discard := discard
  height_make store edit := by cases edit <;> exact length_layers_set ..
  height_begin _ := rfl
  height_commit store := (length_layers_foldl_set _ _).trans (length_layers_discard store)
  height_discard := length_layers_discard
  commit_of_height _ := commit_of_length
  discard_of_height _ := discard_of_length
  discard_make store edit h := by cases edit <;> exact discard_set _ _ _ h
  discard_begin _ := rfl
  discard_commit store h := by
    refine discard_foldl_set _ _ ?_
    rw [length_layers_discard]
    omega

/-! ### A map with copies -/

/-- An ordered map of which a copy is put aside for every layer that is opened. -/
def mapLevels : Levels (Copies Entries) Edit := Copies.levels Edit.onEntries

theorem contents_eq {store : Store} {entries : Entries} (h : ∀ key, store.get? key = entries[key]?) :
    store.contents = entries :=
  Std.ExtTreeMap.ext_getElem? fun key => (get?_eq store key).symm.trans (h key)

theorem contents_onStore (store : Store) (edit : Edit) :
    (edit.onStore store).contents = edit.onEntries store.contents := by
  refine contents_eq fun key => ?_
  cases edit with
  | put written value =>
    show (store.set written (some value)).get? key = (store.contents.insert written value)[key]?
    rw [get?_set, Std.ExtTreeMap.getElem?_insert, get?_eq]
    simp only [Std.compare_eq_iff_eq]
  | delete written =>
    show (store.set written none).get? key = (store.contents.erase written)[key]?
    rw [get?_set, Std.ExtTreeMap.getElem?_erase, get?_eq]
    simp only [Std.compare_eq_iff_eq]

/-- **What is read of a store changes as a map with copies does.** -/
theorem simulates_copies :
    Simulates levels mapLevels fun store copies => store.contents = copies.top where
  make {store copies} edit _ h := by
    show (edit.onStore store).contents = edit.onEntries copies.top
    rw [contents_onStore, h]
  begin {store copies} h := by
    refine contents_eq fun key => ?_
    show store.layer.get? key = copies.top[key]?
    rw [get?_layer, ← h, get?_eq]
  commit {store copies} _ hopen h _ := by
    refine contents_eq fun key => ?_
    have hlayers : store.layers ≠ [] := List.length_pos_iff.mp hopen
    show store.commit.get? key = copies.top[key]?
    rw [get?_commit hlayers, ← h, get?_eq]

/-- **A store with layers is an ordered map with copies.**  Whatever is written and whichever layers are opened,
committed and discarded, as many layers are open as copies have been put aside, and every reading of each
layer, with what lies beneath it, is that of its copy: a write goes to the innermost one only, a commit makes
it the next one, and a discard goes back to that.  As long as a layer that has been opened stays open, the
store without it and all that is above it is the store as it was. -/
theorem layers_refine_map :
    (∀ (base : Entries) (requests : List (Request Edit)),
      (levels.afterAll (ofEntries base) requests).layers.length =
          (mapLevels.afterAll ⟨base, []⟩ requests).below.length ∧
        ∀ count, (levels.beneath count (levels.afterAll (ofEntries base) requests)).ReadsAs
          (mapLevels.beneath count (mapLevels.afterAll ⟨base, []⟩ requests)).top) ∧
    ∀ (store : Store) (requests : List (Request Edit)),
      (∀ made, made <+: requests →
        store.layers.length < (levels.afterAll store.layer made).layers.length) →
      levels.beneath store.layers.length (levels.afterAll store.layer requests) = store := by
  constructor
  · intro base requests
    have hstart : Mirrors levels mapLevels (fun store copies => store.contents = copies.top)
        (ofEntries base) ⟨base, []⟩ := .of_height rfl rfl rfl
    have hmirrors := simulates_copies.mirrors hstart requests
    refine ⟨hmirrors.height_eq, ?_⟩
    intro count
    rw [← hmirrors.beneath count]
    exact readsAs_contents _
  · intro store requests hopen
    exact Levels.beneath_begin_afterAll hopen

/-- Two layers: the outer one deletes a key and the inner one writes it again. -/
def rewritten : List (Request Edit) :=
  [.make (.put [1] [10]), .make (.put [2] [20]), .begin, .make (.delete [1]), .begin,
    .make (.put [1] [11]), .make (.delete [2]), .make (.put [] [0])]

def inner : List (Request Edit) := rewritten.drop 3

theorem layers_refine_map_rewritten :
    (levels.afterAll (ofEntries ∅) rewritten).range ⟨[], some [2]⟩ = [([], [0]), ([1], [11])] ∧
      (levels.beneath 1 (levels.afterAll (ofEntries ∅) rewritten)).range ⟨[], none⟩ = [([2], [20])] ∧
      levels.beneath 0 (levels.afterAll (levels.afterAll (ofEntries ∅) (rewritten.take 2)).layer inner) =
        levels.afterAll (ofEntries ∅) (rewritten.take 2) := by
  obtain ⟨-, hreads⟩ := layers_refine_map.1 ∅ rewritten
  have hopen : ∀ made ∈ inner.inits,
      (levels.afterAll (ofEntries ∅) (rewritten.take 2)).layers.length <
        (levels.afterAll (levels.afterAll (ofEntries ∅) (rewritten.take 2)).layer made).layers.length := by
    decide +kernel
  refine ⟨?_, ?_, ?_⟩
  · have htop := (hreads 2).range [] (some [2])
    rw [Levels.beneath_of_le (by decide +kernel)] at htop
    rw [htop]
    decide +kernel
  · rw [(hreads 1).range [] none]
    decide +kernel
  · exact layers_refine_map.2 _ inner fun made hmade => hopen made ((List.mem_inits _ _).mpr hmade)

end Store

end NameAuction
