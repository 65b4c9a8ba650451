import NameAuction.Proofs.Store.Contents

/-!
# The search for the first entry

The first entry of a span is searched for layer by layer: each layer asks the one below for its first entry,
and asks again from the next key on for as long as what it gets is an entry that it deletes.  `Finds` is this
search with nothing to bound it.  It comes to an end for every stack of layers and every span, always with the
head of the scan (`Store.finds_iff`), so the bound in `Store.firstIn` never cuts it short, and what is found is
the live entry with the least key, as the innermost layer has it (`Store.first?_agrees_with_range`).
-/

namespace NameAuction.Store

/-! ### The search without a bound -/

/-- The search of one layer for an entry that it does not delete; `first` says what the layer below answers. -/
inductive Search (layer : Writes) (first : Span → Option Entry → Prop) : Span → Option Entry → Prop
  | absent {span : Span} (h : first span none) : Search layer first span none
  | kept {span : Span} {entry : Entry} (h : first span (some entry))
      (hkept : layer[entry.1]? ≠ some none) : Search layer first span (some entry)
  | deleted {span : Span} {entry : Entry} {found : Option Entry} (h : first span (some entry))
      (hdeleted : layer[entry.1]? = some none)
      (hrest : Search layer first { span with start := entry.1 ++ [0] } found) :
      Search layer first span found

/-- The search through layers over some entries comes to an end and has found this. -/
def Finds (base : Entries) : List Writes → Span → Option Entry → Prop
  | [], span, found => found = base.toList.find? fun entry => span.contains entry.1
  | layer :: below, span, found =>
    ∃ kept, Search layer (Finds base below) span kept ∧ found = earlier (firstBuffered layer span) kept

/-! ### One layer -/

section

variable {layer : Writes} {entries : Entries} {first : Span → Option Entry → Prop}

/-- **The search of a layer ends with the first entry that it keeps.** -/
theorem Search.eq_head? (hfirst : ∀ span found, first span found ↔ found = (within entries span).head?)
    {span : Span} {found : Option Entry} (h : Search layer first span found) :
    found = (keptWithin entries layer span).head? := by
  induction h with
  | absent h =>
    have hnil := List.head?_eq_none_iff.mp ((hfirst _ _).mp h).symm
    rw [keptWithin, hnil]
    rfl
  | kept h hkept =>
    obtain ⟨rest, hlist⟩ := List.head?_eq_some_iff.mp ((hfirst _ _).mp h).symm
    rw [keptWithin, hlist, List.filter_cons_of_pos (by simpa using hkept)]
    rfl
  | deleted h hdeleted _ ih =>
    obtain ⟨rest, hlist⟩ := List.head?_eq_some_iff.mp ((hfirst _ _).mp h).symm
    rw [ih, keptWithin, within_successor hlist, keptWithin, hlist,
      List.filter_cons_of_neg (by simpa using hdeleted)]

/-- **The search of a layer comes to an end.**  Every deletion leaves one entry less below. -/
theorem Search.exists_of_head? (hfirst : ∀ span found, first span found ↔ found = (within entries span).head?)
    (span : Span) : Search layer first span (keptWithin entries layer span).head? := by
  -- induction on what the span holds below, of which a deleted entry is always the head
  generalize hlist : within entries span = list
  induction list generalizing span with
  | nil =>
    rw [keptWithin, hlist]
    exact .absent ((hfirst _ _).mpr (by rw [hlist]; rfl))
  | cons entry rest ih =>
    have hanswer : first span (some entry) := (hfirst _ _).mpr (by rw [hlist]; rfl)
    have hrest := within_successor hlist
    by_cases hdeleted : layer[entry.1]? = some none
    · have hskip : keptWithin entries layer span =
          keptWithin entries layer { span with start := entry.1 ++ [0] } := by
        rw [keptWithin, hlist, List.filter_cons_of_neg (by simpa using hdeleted), keptWithin, hrest]
      rw [hskip]
      exact .deleted hanswer hdeleted (ih _ hrest)
    · rw [keptWithin, hlist, List.filter_cons_of_pos (by simpa using hdeleted)]
      exact .kept hanswer hdeleted

theorem search_iff (hfirst : ∀ span found, first span found ↔ found = (within entries span).head?)
    {span : Span} {found : Option Entry} :
    Search layer first span found ↔ found = (keptWithin entries layer span).head? := by
  constructor
  · exact Search.eq_head? hfirst
  · rintro rfl
    exact .exists_of_head? hfirst span

end

/-! ### All layers -/

/-- **The search through any layers ends, with the head of the scan.** -/
theorem finds_iff (base : Entries) (layers : List Writes) (span : Span) (found : Option Entry) :
    Finds base layers span found ↔ found = (scan base layers span).head? := by
  rw [scan_eq]
  induction layers generalizing span found with
  | nil => rw [Finds, flatten, within, List.head?_filter]
  | cons layer below ih =>
    have hhead := (merges_within (flatten base below) layer span).earlier_eq
    rw [← firstBuffered_eq] at hhead
    simp only [Finds, search_iff ih, exists_eq_left]
    rw [hhead, flatten]

theorem first?_eq_some_iff {store : Store} {span : Span} {key value : Bytes} :
    store.first? span = some (key, value) ↔
      (store.get? key = some value ∧ span.contains key = true) ∧
        ∀ other, store.has other = true → span.contains other = true → (compare key other).isLE := by
  rw [first?_eq, (listed_range store span).head?_eq_some_iff, mem_range]
  refine and_congr_right fun _ => ⟨fun hleast other hhas hspan => ?_, ?_⟩
  · obtain ⟨bytes, hget⟩ := Option.isSome_iff_exists.mp hhas
    exact hleast (other, bytes) (mem_range.mpr ⟨hget, hspan⟩)
  · rintro hleast ⟨other, bytes⟩ hother
    obtain ⟨hget, hspan⟩ := mem_range.mp hother
    exact hleast other (Option.isSome_of_eq_some hget) hspan

theorem get?_of_buffered {store : Store} {layer : Writes} {below : List Writes} {key : Bytes}
    {buffered : Option Bytes} (hlayers : store.layers = layer :: below)
    (hbuffered : layer[key]? = some buffered) : store.get? key = buffered := by
  rw [get?, hlayers, lookUp, hbuffered]

/-- **The first entry of a span is what a scan lists first.**  For every stack of layers and any bounds, open,
equal and inverted ones included, the search ends and finds the head of the scan, which is also what the bounded
search answers.  It is the live entry with the least key, and where the innermost layer has buffered something
under that key, it has its value. -/
theorem first?_agrees_with_range (store : Store) (start : Bytes) (stop : Option Bytes) :
    (∀ found, Finds store.base store.layers ⟨start, stop⟩ found ↔
      found = (store.range ⟨start, stop⟩).head?) ∧
    store.first? ⟨start, stop⟩ = (store.range ⟨start, stop⟩).head? ∧
    (∀ key value, store.first? ⟨start, stop⟩ = some (key, value) ↔
      (store.get? key = some value ∧ (Span.mk start stop).contains key = true) ∧
        ∀ other, store.has other = true → (Span.mk start stop).contains other = true →
          (compare key other).isLE) ∧
    ∀ layer below key value buffered, store.layers = layer :: below →
      store.first? ⟨start, stop⟩ = some (key, value) → layer[key]? = some buffered →
      buffered = some value := by
  refine ⟨finds_iff store.base store.layers ⟨start, stop⟩, first?_eq store _,
    fun _ _ => first?_eq_some_iff, ?_⟩
  intro layer below key value buffered hlayers hfirst hbuffered
  have hget := (first?_eq_some_iff.mp hfirst).1.1
  rw [get?_of_buffered hlayers hbuffered] at hget
  exact hget

/-- Three entries, of which the outer layer deletes the first, and the inner one deletes the second and writes
the third again. -/
def shadowed : Store :=
  ((((((ofEntries ∅).put [1] [10]).put [2] [20]).put [3] [30]).layer.delete [1]).layer.delete [2]).put [3] [33]

theorem first?_agrees_with_range_shadowed :
    shadowed.layers.length = 2 ∧ shadowed.first? ⟨[1], none⟩ = some ([3], [33]) ∧
      Finds shadowed.base shadowed.layers ⟨[1], none⟩ (some ([3], [33])) ∧
      ∀ layer below buffered, shadowed.layers = layer :: below → layer[([3] : Bytes)]? = some buffered →
        buffered = some [33] := by
  have hfirst : shadowed.first? ⟨[1], none⟩ = some ([3], [33]) := by decide +kernel
  obtain ⟨hfinds, hhead, -, hvalue⟩ := first?_agrees_with_range shadowed [1] none
  refine ⟨rfl, hfirst, (hfinds _).mpr (hfirst.symm.trans hhead), ?_⟩
  intro layer below buffered hlayers hbuffered
  exact hvalue layer below [3] [33] buffered hlayers hfirst hbuffered

end NameAuction.Store
