import Mathlib.Data.Set.Function
import NameAuction.Proofs.Command

/-!
# What a commitment binds

The text of a commitment has four fields with colons between them.  Salts and names may hold colons as well, so
the text is taken apart from its end: an account is written without colons, and so is a proper amount
(`Coin.colon_notMem_render`), whose number ends where its denomination begins (`Coin.render_injective`).  What
precedes the amount is bound as a whole (`Commitment.preimage_eq_iff`), and where the salt ends in it is not:
for different names, the part of the one name up to a colon may be the end of the other salt
(`Commitment.Trades`).
-/

namespace NameAuction

/-! ### Cutting texts -/

/-- A list is cut in one way only at the last place of an element. -/
theorem append_cons_inj_of_notMem_right {α : Type} {c : α} {xs xs' ys ys' : List α} (h : c ∉ ys)
    (h' : c ∉ ys') (heq : xs ++ c :: ys = xs' ++ c :: ys') : xs = xs' ∧ ys = ys' := by
  rcases List.append_eq_append_iff.mp heq with ⟨_ | ⟨d, as⟩, hxs, hys⟩ | ⟨_ | ⟨d, as⟩, hxs, hys⟩
  · exact ⟨by simpa using hxs.symm, by simpa using hys⟩
  · refine absurd ?_ h
    rw [(List.cons.inj hys).2]
    simp
  · exact ⟨by simpa using hxs, by simpa using hys.symm⟩
  · refine absurd ?_ h'
    rw [(List.cons.inj hys).2]
    simp

/-- A list is cut in one way only where a property ends that its first part has throughout. -/
theorem append_cons_inj_of_all {α : Type} {p : α → Bool} {xs xs' ys ys' : List α} {c c' : α}
    (hxs : ∀ x ∈ xs, p x = true) (hxs' : ∀ x ∈ xs', p x = true) (hc : p c = false) (hc' : p c' = false)
    (heq : xs ++ c :: ys = xs' ++ c' :: ys') : xs = xs' ∧ c :: ys = c' :: ys' := by
  have hfirst : xs = xs' := by
    have htake := congrArg (List.takeWhile p) heq
    rw [List.takeWhile_append_of_pos hxs, List.takeWhile_append_of_pos hxs'] at htake
    simpa [hc, hc'] using htake
  subst hfirst
  exact ⟨rfl, List.append_cancel_left heq⟩

/-! ### Hexadecimal text -/

namespace Hex

theorem digit_injective : ∀ n < 16, ∀ m < 16, digit n = digit m → n = m := by decide

theorem digit_ne_colon : ∀ n < 16, digit n ≠ ':' := by decide

theorem pair_injective {byte other : UInt8} (h : pair byte = pair other) : byte = other := by
  have hbyte := byte.toNat_lt
  have hother := other.toNat_lt
  simp only [pair, List.cons.injEq, and_true] at h
  have hhigh := digit_injective _ (by omega) _ (by omega) h.1
  have hlow := digit_injective _ (by omega) _ (by omega) h.2
  exact UInt8.toNat_inj.mp (by omega)

theorem encode_injective {bytes others : Bytes} (h : encode bytes = encode others) : bytes = others := by
  replace h : bytes.flatMap pair = others.flatMap pair := String.ofList_inj.mp h
  induction bytes generalizing others with
  | nil =>
    cases others with
    | nil => rfl
    | cons => simp [pair] at h
  | cons byte rest ih =>
    cases others with
    | nil => simp [pair] at h
    | cons other more =>
      rw [List.flatMap_cons, List.flatMap_cons] at h
      obtain ⟨hfirst, hrest⟩ := List.append_inj h rfl
      rw [pair_injective hfirst, ih hrest]

theorem colon_notMem_encode (bytes : Bytes) : ':' ∉ (encode bytes).toList := by
  rw [encode, String.toList_ofList, List.mem_flatMap]
  rintro ⟨byte, -, hcolon⟩
  have hbyte := byte.toNat_lt
  simp only [pair, List.mem_cons, List.not_mem_nil, or_false] at hcolon
  rcases hcolon with heq | heq
  · exact digit_ne_colon _ (by omega) heq.symm
  · exact digit_ne_colon _ (by omega) heq.symm

end Hex

theorem Id.toHex_injective {kind : IdKind} {a b : Id kind} (h : a.toHex = b.toHex) : a = b :=
  Id.bytes_injective (Hex.encode_injective h)

/-! ### Amounts -/

namespace Coin

variable {coin other : Coin}

theorem denom_of_check (h : coin.check = .ok ()) :
    ∃ first rest, coin.denom.toList = first :: rest ∧ first.isDigit = false ∧ ':' ∉ first :: rest := by
  have hdenom : isDenom coin.denom = true := ensure_eq_ok_iff.mp h
  unfold isDenom at hdenom
  split at hdenom
  · cases hdenom
  · rename_i first rest hchars
    simp only [Bool.and_eq_true, List.all_eq_true, Bool.or_eq_true] at hdenom
    obtain ⟨⟨-, hfirst⟩, hrest⟩ := hdenom
    refine ⟨first, rest, hchars, ?_, fun hcolon => ?_⟩
    · change (decide ('a'.val ≤ first.val) && decide (first.val ≤ 'z'.val)) = true at hfirst
      have hlower : 'a'.val ≤ first.val := of_decide_eq_true (Bool.and_eq_true_iff.mp hfirst).1
      have hdigit : ¬ first.val ≤ '9'.val := fun hle =>
        absurd (UInt32.le_trans hlower hle) (by decide)
      exact Bool.and_eq_false_iff.mpr (.inr (decide_eq_false hdigit))
    · rcases List.mem_cons.mp hcolon with heq | hmem
      · rw [← heq] at hfirst
        exact absurd hfirst (by decide)
      · exact absurd (hrest _ hmem) (by decide)

theorem repr_injective {n m : Nat} (h : (Nat.repr n).toList = (Nat.repr m).toList) : n = m := by
  rw [Nat.repr_eq_ofList_toDigits, Nat.repr_eq_ofList_toDigits, String.toList_ofList,
    String.toList_ofList] at h
  rw [← Nat.ofDigitChars_ten_toDigits (n := n), h, Nat.ofDigitChars_ten_toDigits]

theorem isDigit_of_mem_repr {n : Nat} {c : Char} (h : c ∈ (Nat.repr n).toList) : c.isDigit = true := by
  rw [Nat.repr_eq_ofList_toDigits, String.toList_ofList] at h
  exact Nat.isDigit_of_mem_toDigits (by decide) (by decide) h

theorem colon_notMem_render (h : coin.check = .ok ()) : ':' ∉ coin.render.toList := by
  obtain ⟨first, rest, hdenom, -, hcolon⟩ := denom_of_check h
  rw [render, String.toList_append, hdenom, List.mem_append]
  rintro (hdigit | hmem)
  · exact absurd (isDigit_of_mem_repr hdigit) (by decide)
  · exact hcolon hmem

/-- **A proper coin is read off its text.** -/
theorem render_injective (h : coin.check = .ok ()) (h' : other.check = .ok ())
    (heq : coin.render = other.render) : coin = other := by
  obtain ⟨first, rest, hdenom, hfirst, -⟩ := denom_of_check h
  obtain ⟨first', rest', hdenom', hfirst', -⟩ := denom_of_check h'
  have hlists := congrArg String.toList heq
  rw [render, render, String.toList_append, String.toList_append, hdenom, hdenom'] at hlists
  obtain ⟨hnumber, hrest⟩ := append_cons_inj_of_all (fun _ => isDigit_of_mem_repr)
    (fun _ => isDigit_of_mem_repr) hfirst hfirst' hlists
  rw [← hdenom, ← hdenom'] at hrest
  obtain ⟨denom, amount⟩ := coin
  obtain ⟨denom', amount'⟩ := other
  rw [Coin.mk.injEq]
  exact ⟨String.toList_inj.mp hrest, Word.ext (repr_injective hnumber)⟩

end Coin

/-! ### The text of a commitment -/

namespace Commitment

variable {salt salt' : String} {name name' : Name} {amount amount' : Coin} {bidder bidder' : Account}

/-- Salt and name, as they begin the text of a commitment. -/
def stem (salt : String) (name : Name) : String := salt ++ ":" ++ name.text

theorem toList_stem : (stem salt name).toList = salt.toList ++ ':' :: name.text.toList := by
  simp [stem]

theorem toList_preimage : (preimage salt name amount bidder).toList =
    ((stem salt name).toList ++ ':' :: amount.render.toList) ++ ':' :: bidder.toHex.toList := by
  simp [preimage, stem]

/-- **What the text of a commitment binds**: the amount, the account, and salt and name together. -/
theorem preimage_eq_iff (h : amount.check = .ok ()) (h' : amount'.check = .ok ()) :
    preimage salt name amount bidder = preimage salt' name' amount' bidder' ↔
      stem salt name = stem salt' name' ∧ amount = amount' ∧ bidder = bidder' := by
  constructor
  · intro heq
    have hlists := congrArg String.toList heq
    rw [toList_preimage, toList_preimage] at hlists
    -- from the end: the account, then the amount, and the rest is salt and name
    obtain ⟨hrest, hbidder⟩ := append_cons_inj_of_notMem_right (Hex.colon_notMem_encode _)
      (Hex.colon_notMem_encode _) hlists
    obtain ⟨hstem, hamount⟩ := append_cons_inj_of_notMem_right (Coin.colon_notMem_render h)
      (Coin.colon_notMem_render h') hrest
    exact ⟨String.toList_inj.mp hstem, Coin.render_injective h h' (String.toList_inj.mp hamount),
      Id.toHex_injective (String.toList_inj.mp hbidder)⟩
  · rintro ⟨hstem, rfl, rfl⟩
    refine String.toList_inj.mp ?_
    rw [toList_preimage, toList_preimage, hstem]

theorem stem_left_injective (h : stem salt name = stem salt' name) : salt = salt' := by
  have hlists := congrArg String.toList h
  rw [toList_stem, toList_stem] at hlists
  exact String.toList_inj.mp (List.append_cancel_right hlists)

/-- The other salt is longer, and what it has more is what the name has more at its beginning. -/
def Trades (salt : String) (name : Name) (salt' : String) (name' : Name) : Prop :=
  ∃ part, salt' = salt ++ ":" ++ part ∧ name.text = part ++ ":" ++ name'.text

/-- **What salt and name can trade**: with different names, the part of one name up to a colon. -/
theorem stem_eq_iff_of_ne (hne : name ≠ name') :
    stem salt name = stem salt' name' ↔ Trades salt name salt' name' ∨ Trades salt' name' salt name := by
  constructor
  · intro heq
    have hlists := congrArg String.toList heq
    rw [toList_stem, toList_stem] at hlists
    have hnames : name.text.toList ≠ name'.text.toList := fun htexts =>
      hne (congrArg Name.mk (String.toList_inj.mp htexts))
    rcases List.append_eq_append_iff.mp hlists with ⟨_ | ⟨c, part⟩, hsalt, hname⟩ | ⟨_ | ⟨c, part⟩, hsalt, hname⟩
    · exact absurd (List.cons.inj hname).2 hnames
    · obtain ⟨rfl, hname⟩ := List.cons.inj hname
      refine .inl ⟨String.ofList part, String.toList_inj.mp ?_, String.toList_inj.mp ?_⟩
      · simpa using hsalt
      · simpa using hname
    · exact absurd (List.cons.inj hname).2.symm hnames
    · obtain ⟨rfl, hname⟩ := List.cons.inj hname
      refine .inr ⟨String.ofList part, String.toList_inj.mp ?_, String.toList_inj.mp ?_⟩
      · simpa using hsalt
      · simpa using hname
  · rintro (⟨part, hsalt, hname⟩ | ⟨part, hsalt, hname⟩)
    · simp [stem, hsalt, hname, String.append_assoc]
    · simp [stem, hsalt, hname, String.append_assoc]

namespace Trades

variable (h : Trades salt name salt' name')

include h

theorem length_lt : salt.utf8ByteSize < salt'.utf8ByteSize := by
  obtain ⟨part, rfl, -⟩ := h
  have hcolon : ":".utf8ByteSize = 1 := rfl
  simp only [String.utf8ByteSize_append, hcolon]
  omega

theorem colon_mem_salt : ':' ∈ salt'.toList := by
  obtain ⟨part, rfl, -⟩ := h
  simp

theorem colon_mem_name : ':' ∈ name.text.toList := by
  obtain ⟨part, -, hname⟩ := h
  simp [hname]

end Trades

/-- **A text has one opening for a name.** -/
theorem preimage_injective (h : amount.check = .ok ()) (h' : amount'.check = .ok ())
    (heq : preimage salt name amount bidder = preimage salt' name amount' bidder') :
    salt = salt' ∧ amount = amount' ∧ bidder = bidder' := by
  obtain ⟨hstem, hamount, hbidder⟩ := (preimage_eq_iff h h').mp heq
  exact ⟨stem_left_injective hstem, hamount, hbidder⟩

end Commitment

/-- No two of the texts have the same short digest. -/
def Hash.Separates (texts : Set String) : Prop :=
  Set.InjOn (fun text => Hash.shortDigest (Bytes.ofText text)) texts

namespace Commitment

/-- What a reveal on the name can say: it passes its check, and its text is one of the given ones. -/
structure Candidate (texts : Set String) (name : Name) (salt : String) (amount : Coin) (bidder : Account) :
    Prop where
  checked : (Command.reveal name salt amount bidder).check = .ok ()
  text_mem : preimage salt name amount bidder ∈ texts

/-- **A commitment is opened in one way**, as far as the short digest tells texts apart. -/
theorem Candidate.unique {texts : Set String} (hseparates : Hash.Separates texts) {name : Name}
    {salt salt' : String} {amount amount' : Coin} {bidder bidder' : Account}
    (h : Candidate texts name salt amount bidder) (h' : Candidate texts name salt' amount' bidder')
    (hseal : Commitment.seal salt name amount bidder = Commitment.seal salt' name amount' bidder') :
    salt = salt' ∧ amount = amount' ∧ bidder = bidder' := by
  have hdigests := congrArg Id.toBlock hseal
  exact preimage_injective (Command.amount_check h.checked) (Command.amount_check h'.checked)
    (hseparates h.text_mem h'.text_mem hdigests)

end Commitment

end NameAuction
