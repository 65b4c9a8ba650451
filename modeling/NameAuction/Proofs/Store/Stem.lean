import NameAuction.Proofs.Store.Contents

/-!
# Scans by the beginning of a key

What starts with a stem is scanned as a range of keys, from the stem itself up to `Bytes.afterAll?`.  A byte
string is above everything that starts with the stem just where there is such an end and it is at most this
byte string (`Bytes.isAfterAll_iff`).  So the end is the least byte string above (`Bytes.afterAll?_eq_some_iff`),
and where it is missing nothing is above (`Bytes.afterAll?_eq_none_iff_forall_not`), which is so for the stems
of bytes 255 only (`Bytes.afterAll?_eq_none_iff`).  Whatever layers a store has, a scan by a stem lists its
entries under the keys that start with it, and no other (`Store.scan_by_stem_exact`).
-/

namespace NameAuction

namespace Bytes

variable {stem : Bytes}

/-- The bound is above all byte strings that start with the stem. -/
def IsAfterAll (stem bound : Bytes) : Prop := ∀ key, stem <+: key → compare key bound = .lt

/-- The least byte string above all that start with the stem. -/
structure IsLeastAfterAll (stem stop : Bytes) : Prop where
  isAfterAll : stem.IsAfterAll stop
  least : ∀ bound, stem.IsAfterAll bound → (compare stop bound).isLE

/-- **Above all that starts with a stem** is what is at least the end of the stem. -/
theorem isAfterAll_iff {bound : Bytes} :
    stem.IsAfterAll bound ↔ ∃ stop, stem.afterAll? = some stop ∧ (compare stop bound).isLE := by
  constructor
  · intro h
    have hstem : compare stem bound = .lt := h stem List.prefix_rfl
    -- below the end, the bound would be one of the byte strings that it is above
    have hout : (Span.startingWith stem).contains bound ≠ true := fun hin =>
      compare_self_ne_lt bound (h bound ((Span.contains_startingWith stem bound).mp hin))
    cases hend : stem.afterAll? with
    | none => exact absurd (by simp [Span.startingWith, Span.contains, hend, hstem]) hout
    | some stop =>
      have hnot : compare bound stop ≠ .lt := fun hlt =>
        hout (by simp [Span.startingWith, Span.contains, hend, hstem, hlt])
      exact ⟨stop, rfl, isLE_compare_of_not_lt hnot⟩
  · rintro ⟨stop, hend, hle⟩ key hkey
    have hin := (Span.contains_startingWith stem key).mpr hkey
    simp only [Span.startingWith, Span.contains, hend, Option.all_some, Bool.and_eq_true] at hin
    exact Std.TransCmp.lt_of_lt_of_isLE (Ordering.isLT_iff_eq_lt.mp hin.2) hle

theorem isAfterAll_of_afterAll? {stop : Bytes} (h : stem.afterAll? = some stop) : stem.IsAfterAll stop :=
  isAfterAll_iff.mpr ⟨stop, h, Std.ReflOrd.isLE_rfl⟩

theorem afterAll?_eq_some_iff {stop : Bytes} : stem.afterAll? = some stop ↔ stem.IsLeastAfterAll stop := by
  constructor
  · intro hend
    refine ⟨isAfterAll_of_afterAll? hend, fun bound hbound => ?_⟩
    obtain ⟨other, hother, hle⟩ := isAfterAll_iff.mp hbound
    obtain rfl : stop = other := Option.some.inj (hend.symm.trans hother)
    exact hle
  · rintro ⟨habove, hleast⟩
    obtain ⟨other, hother, hle⟩ := isAfterAll_iff.mp habove
    have hge := hleast other (isAfterAll_of_afterAll? hother)
    rw [hother, Std.LawfulEqOrd.eq_of_compare (Std.OrientedCmp.isLE_antisymm hle hge)]

/-- Where a stem has no end, nothing is above all that starts with it. -/
theorem afterAll?_eq_none_iff_forall_not : stem.afterAll? = none ↔ ∀ bound, ¬ stem.IsAfterAll bound := by
  rw [Option.eq_none_iff_forall_ne_some]
  constructor
  · intro hnone bound hbound
    obtain ⟨stop, hend, -⟩ := isAfterAll_iff.mp hbound
    exact hnone stop hend
  · intro hnot stop hend
    exact hnot stop (isAfterAll_of_afterAll? hend)

/-- **Only a stem of bytes 255 has no end**, the empty one among them. -/
theorem afterAll?_eq_none_iff : stem.afterAll? = none ↔ ∀ byte ∈ stem, byte = 255 := by
  induction stem with
  | nil => simp [afterAll?]
  | cons byte rest ih =>
    rw [List.forall_mem_cons, ← ih]
    cases hrest : afterAll? rest with
    | some next => simp [afterAll?, hrest]
    | none => simp [afterAll?, hrest]

example : afterAll? [7, 254, 255, 255] = some [7, 255] := rfl

end Bytes

namespace Store

/-- **A scan by a stem is exact.**  The end of the scan is missing just for the stems of bytes 255, which
nothing is above, and else it is the least byte string above all that starts with the stem.  So for every store,
with any layers, and every stem the entries whose keys start with the stem are listed, each once and in the
order of keys, and nothing else is; and there is a first one in the range just where there is such an entry. -/
theorem scan_by_stem_exact :
    (∀ stem : Bytes,
      (stem.afterAll? = none ↔ ∀ byte ∈ stem, byte = 255) ∧
      (stem.afterAll? = none ↔ ∀ bound, ¬ stem.IsAfterAll bound) ∧
      ∀ stop, stem.afterAll? = some stop ↔ stem.IsLeastAfterAll stop) ∧
    ∀ (store : Store) (stem : Bytes),
      Listed (store.startingWith stem) ∧
      (∀ key value, (key, value) ∈ store.startingWith stem ↔ store.get? key = some value ∧ stem <+: key) ∧
      ((store.first? ⟨stem, stem.afterAll?⟩).isSome = true ↔
        ∃ key value, store.get? key = some value ∧ stem <+: key) := by
  refine ⟨fun stem => ⟨Bytes.afterAll?_eq_none_iff, Bytes.afterAll?_eq_none_iff_forall_not,
    fun stop => Bytes.afterAll?_eq_some_iff⟩, fun store stem => ⟨listed_range store _, ?_, ?_⟩⟩
  · intro key value
    rw [startingWith, mem_range, Span.contains_startingWith]
  · show (store.first? (.startingWith stem)).isSome = true ↔ _
    simp only [isSome_first?_iff, Span.contains_startingWith]

end Store

end NameAuction
