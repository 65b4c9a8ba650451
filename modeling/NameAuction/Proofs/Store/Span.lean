import NameAuction.Store.Basic

/-!
# Ranges of keys

The order of keys and the spans that the store scans.  `below_afterAll?_iff` says what lies below the
least byte string above all extensions of a stem: the keys whose beginning, cut to the length of the
stem, is at most the stem.  From it, `Span.startingWith stem` holds exactly the keys that start with
`stem` (`contains_startingWith`), and a span from the next key on holds what comes strictly after a key
(`contains_from_successor`).
-/

namespace NameAuction

/-! ### The order of keys -/

namespace Bytes

theorem compare_append (stem a b : Bytes) : compare (stem ++ a) (stem ++ b) = compare a b := by
  induction stem with
  | nil => rfl
  | cons byte rest ih =>
    rw [List.cons_append, List.cons_append, List.compare_cons_cons, ih]
    simp

theorem isLE_compare_append (stem rest : Bytes) : (compare stem (stem ++ rest)).isLE := by
  have h := compare_append stem [] rest
  rw [List.append_nil] at h
  rw [h]
  exact List.isLE_compare_nil_left

theorem compare_self_ne_lt (key : Bytes) : compare key key ≠ .lt := by
  rw [Std.ReflOrd.compare_self]
  decide

theorem compare_lt_asymm {a b : Bytes} (hab : compare a b = .lt) : compare b a ≠ .lt := by
  rw [Std.OrientedOrd.eq_swap, hab]
  decide

theorem isLE_compare_of_not_lt {a b : Bytes} (h : compare b a ≠ .lt) : (compare a b).isLE := by
  rwa [Std.OrientedOrd.eq_swap, Ordering.isLE_swap, Ordering.isGE_iff_ne_lt]

/-- **Nothing lies between a key and its shortest extension.** -/
theorem compare_lt_iff_isLE_successor (key other : Bytes) :
    (compare (key ++ [0]) other).isLE ↔ compare key other = .lt := by
  induction key generalizing other with
  | nil =>
    cases other with
    | nil => simp
    | cons byte rest =>
      simp only [List.nil_append, List.compare_cons_cons, List.compare_nil_cons, iff_true]
      rw [Ordering.isLE_then_iff_or, and_iff_left List.isLE_compare_nil_left,
        ← Ordering.isLE_iff_eq_lt_or_eq_eq, Std.isLE_compare]
      exact UInt8.le_iff_toNat_le.mpr (Nat.zero_le _)
  | cons byte rest ih =>
    cases other with
    | nil => simp
    | cons b more =>
      simp only [List.cons_append, List.compare_cons_cons, Ordering.isLE_then_iff_or, Ordering.then_eq_lt,
        ih more]

/-! ### Above all extensions of a stem -/

theorem compare_lt_succ_iff {a b : UInt8} (hb : b ≠ 255) : compare a (b + 1) = .lt ↔ a ≤ b := by
  have hlt : b.toNat < 255 := by
    have h := b.toNat_lt
    have hne : b.toNat ≠ 255 := fun h => hb (UInt8.toNat_inj.mp h)
    omega
  have hsucc : (b + 1).toNat = b.toNat + 1 := by
    rw [UInt8.toNat_add]
    exact Nat.mod_eq_of_lt (by change b.toNat + 1 < 256; omega)
  rw [Std.compare_eq_lt, UInt8.lt_iff_toNat_lt, UInt8.le_iff_toNat_le, hsucc]
  omega

theorem le_255 (a : UInt8) : a ≤ 255 := by
  have h := a.toNat_lt
  rw [UInt8.le_iff_toNat_le]
  show a.toNat ≤ 255
  omega

/-- **What lies below the end of a stem.**  A key is below the least byte string above all extensions of
a stem, or there is no such byte string, exactly if its beginning is at most the stem. -/
theorem below_afterAll?_iff (stem key : Bytes) :
    (stem.afterAll?.all fun stop => (compare key stop).isLT) = true ↔
      (compare (key.take stem.length) stem).isLE := by
  induction stem generalizing key with
  | nil => simp [afterAll?]
  | cons byte rest ih =>
    cases key with
    | nil =>
      cases h : afterAll? rest with
      | some next => simp [afterAll?, h]
      | none =>
        by_cases hbyte : byte = 255
        · simp [afterAll?, h, hbyte]
        · simp [afterAll?, h, hbyte]
    | cons k ks =>
      have hrest := ih ks
      simp only [List.length_cons, List.take_succ_cons, List.compare_cons_cons, Ordering.isLE_then_iff_or]
      cases h : afterAll? rest with
      | some next =>
        rw [h, Option.all_some, Ordering.isLT_iff_eq_lt] at hrest
        simp only [afterAll?, h, Option.all_some, List.compare_cons_cons, Ordering.isLT_iff_eq_lt,
          Ordering.then_eq_lt, hrest]
      | none =>
        -- everything is below the end of the rest, so the first byte decides
        rw [and_iff_left (hrest.mp (by rw [h]; rfl)), ← Ordering.isLE_iff_eq_lt_or_eq_eq, Std.isLE_compare]
        by_cases hbyte : byte = 255
        · subst hbyte
          simpa [afterAll?, h] using le_255 k
        · have hnil : ¬ compare ks [] = .lt := by cases ks <;> simp
          simp only [afterAll?, h, hbyte, if_false, Option.all_some, List.compare_cons_cons,
            Ordering.isLT_iff_eq_lt, Ordering.then_eq_lt, hnil, and_false, or_false]
          exact compare_lt_succ_iff hbyte

theorem isLE_compare_take {stem key : Bytes} (h : (compare stem key).isLE) :
    (compare stem (key.take stem.length)).isLE := by
  induction stem generalizing key with
  | nil => exact List.isLE_compare_nil_left
  | cons byte rest ih =>
    cases key with
    | nil => simp at h
    | cons k ks =>
      simp only [List.length_cons, List.take_succ_cons, List.compare_cons_cons,
        Ordering.isLE_then_iff_or] at h ⊢
      exact h.imp_right (And.imp_right ih)

end Bytes

/-! ### Spans -/

namespace Span

open Bytes

/-- **A stem's span holds the keys that start with the stem.** -/
theorem contains_startingWith (stem key : Bytes) :
    (startingWith stem).contains key = true ↔ stem <+: key := by
  simp only [startingWith, contains, Bool.and_eq_true, below_afterAll?_iff]
  constructor
  · rintro ⟨hge, hle⟩
    -- the beginning of the key is both at least and at most the stem
    have heq : compare (key.take stem.length) stem = .eq :=
      Std.OrientedCmp.isLE_antisymm hle (isLE_compare_take hge)
    have htake := Std.LawfulEqOrd.eq_of_compare heq
    rw [← htake]
    exact List.take_prefix _ _
  · rintro ⟨rest, rfl⟩
    exact ⟨isLE_compare_append stem rest, by simp⟩

theorem contains_from_successor {span : Span} {key other : Bytes}
    (hkey : (compare span.start key).isLE) :
    ({ span with start := key ++ [0] } : Span).contains other = true ↔
      span.contains other = true ∧ compare key other = .lt := by
  simp only [contains, Bool.and_eq_true, compare_lt_iff_isLE_successor]
  constructor
  · rintro ⟨hlt, hstop⟩
    have hle : (compare key other).isLE := by rw [hlt]; rfl
    exact ⟨⟨Std.TransCmp.isLE_trans hkey hle, hstop⟩, hlt⟩
  · rintro ⟨⟨-, hstop⟩, hlt⟩
    exact ⟨hlt, hstop⟩

end Span

end NameAuction
