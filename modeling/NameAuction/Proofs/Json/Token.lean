import Mathlib.Data.List.Basic
import Mathlib.Data.List.TakeDrop
import NameAuction.Json.Parser
import NameAuction.Json.Printer

/-!
# Literals and numbers read back

A string literal is read piece by piece, and each written character is one piece that spells it, whether it
stands for itself or is escaped (`Json.exists_piece`).  So the literal of a text spells the text
(`Json.literal?_write`).  A natural number is read back from its digits if what follows them cannot go on with
the number (`Json.number?_toDigits`).
-/

namespace NameAuction.Json

/-! ### Texts -/

/-- The piece spells the character: it is the character, or the number of a control. -/
def Piece.Spells (c : Char) : Piece → Prop
  | .char d => d = c
  | .unit n => n = c.toNat ∧ n < 0x20

/-- Controls are no halves of surrogate pairs, whatever follows them. -/
theorem spell?_unit {n : Nat} (h : n < 0x20) (pieces : List Piece) :
    spell? (.unit n :: pieces) = (spell? pieces).map (Char.ofNat n :: ·) := by
  have hhigh : isHighSurrogate n = false := by
    simp only [isHighSurrogate, Bool.and_eq_false_iff, decide_eq_false_iff_not]
    omega
  have hlow : isLowSurrogate n = false := by
    simp only [isLowSurrogate, Bool.and_eq_false_iff, decide_eq_false_iff_not]
    omega
  match pieces with
  | [] => simp [spell?, hhigh, hlow]
  | .char d :: rest => simp [spell?, hhigh, hlow]
  | .unit m :: rest => rw [spell?, if_neg (by simp [hhigh]), if_neg (by simp [hlow])]

theorem Piece.Spells.spell?_cons {c : Char} {piece : Piece} (h : piece.Spells c) (pieces : List Piece) :
    spell? (piece :: pieces) = (spell? pieces).map (c :: ·) := by
  cases piece with
  | char d =>
    obtain rfl : d = c := h
    rfl
  | unit n =>
    obtain ⟨rfl, hcontrol⟩ := h
    rw [spell?_unit hcontrol, Char.ofNat_toNat]

theorem hexUnit?_control : ∀ n < 0x20,
    hexUnit? '0' '0' (Nat.digitChar (n / 16)) (Nat.digitChar (n % 16)) = some n := by decide

theorem pieces?_short {c d : Char} (h : shortEscape? d = some c) (rest : List Char) :
    pieces? ('\\' :: d :: rest) = (pieces? rest).map fun found => (.char c :: found.1, found.2) := by
  have hu : d ≠ 'u' := by
    rintro rfl
    cases h
  rw [pieces?, h]
  · cases pieces? rest <;> rfl
  · rintro _ _ _ _ _ heq -
    exact hu heq

theorem pieces?_plain {c : Char} (hquote : c ≠ '"') (hescape : c ≠ '\\') (h : 0x20 ≤ c.toNat)
    (rest : List Char) :
    pieces? (c :: rest) = (pieces? rest).map fun found => (.char c :: found.1, found.2) := by
  rw [pieces?, if_neg (by omega)]
  · cases pieces? rest <;> rfl
  all_goals
    intros
    contradiction

theorem pieces?_control {n : Nat} (h : n < 0x20) (rest : List Char) :
    pieces? ('\\' :: 'u' :: '0' :: '0' :: Nat.digitChar (n / 16) :: Nat.digitChar (n % 16) :: rest) =
      (pieces? rest).map fun found => (.unit n :: found.1, found.2) := by
  rw [pieces?, hexUnit?_control n h]
  cases pieces? rest <;> rfl

/-- A character is written by its short escape, by its number, or as it is. -/
theorem escapeChar_cases (c : Char) :
    (∃ d, shortEscape? d = some c ∧ escapeChar c = ['\\', d]) ∨
      (c.toNat < 0x20 ∧ escapeChar c =
        ['\\', 'u', '0', '0', Nat.digitChar (c.toNat / 16), Nat.digitChar (c.toNat % 16)]) ∨
      (c ≠ '"' ∧ c ≠ '\\' ∧ 0x20 ≤ c.toNat ∧ escapeChar c = [c]) := by
  fun_cases escapeChar c
  case case1 h => exact .inl ⟨'"', by rw [h]; rfl, rfl⟩
  case case2 h => exact .inl ⟨'\\', by rw [h]; rfl, rfl⟩
  case case3 h => exact .inl ⟨'b', by rw [h]; rfl, rfl⟩
  case case4 h => exact .inl ⟨'f', by rw [h]; rfl, rfl⟩
  case case5 h => exact .inl ⟨'n', by rw [h]; rfl, rfl⟩
  case case6 h => exact .inl ⟨'r', by rw [h]; rfl, rfl⟩
  case case7 h => exact .inl ⟨'t', by rw [h]; rfl, rfl⟩
  case case8 hcontrol => exact .inr (.inl ⟨hcontrol, rfl⟩)
  case case9 hquote hescape _ _ _ _ _ hplain =>
    exact .inr (.inr ⟨hquote, hescape, Nat.le_of_not_lt hplain, rfl⟩)

/-- **Each written character is read as one piece that spells it.** -/
theorem exists_piece (c : Char) : ∃ piece : Piece, piece.Spells c ∧ ∀ rest,
    pieces? (escapeChar c ++ rest) = (pieces? rest).map fun found => (piece :: found.1, found.2) := by
  obtain ⟨d, hshort, hwrite⟩ | ⟨hcontrol, hwrite⟩ | ⟨hquote, hescape, hplain, hwrite⟩ :=
    escapeChar_cases c
  · rw [hwrite]
    exact ⟨.char c, rfl, pieces?_short hshort⟩
  · rw [hwrite]
    exact ⟨.unit c.toNat, ⟨rfl, hcontrol⟩, pieces?_control hcontrol⟩
  · rw [hwrite]
    exact ⟨.char c, rfl, pieces?_plain hquote hescape hplain⟩

/-- The pieces of a written text spell it. -/
theorem exists_pieces (text rest : List Char) : ∃ pieces : List Piece,
    pieces? (text.flatMap escapeChar ++ '"' :: rest) = some (pieces, rest) ∧ spell? pieces = some text := by
  induction text with
  | nil => exact ⟨[], rfl, rfl⟩
  | cons c text ih =>
    obtain ⟨pieces, hpieces, hspell⟩ := ih
    obtain ⟨piece, hspells, hread⟩ := exists_piece c
    refine ⟨piece :: pieces, ?_, ?_⟩
    · rw [List.flatMap_cons, List.append_assoc, hread, hpieces]
      rfl
    · rw [hspells.spell?_cons, hspell]
      rfl

theorem write_text_append (spelt : String) (rest : List Char) :
    (Literal.text spelt).write ++ rest = '"' :: (spelt.toList.flatMap escapeChar ++ '"' :: rest) := by
  rw [Literal.write, List.append_assoc]
  rfl

/-- **The literal of a text spells the text.** -/
theorem literal?_write (spelt : String) (rest : List Char) :
    literal? (spelt.toList.flatMap escapeChar ++ '"' :: rest) = some (.text spelt, rest) := by
  obtain ⟨pieces, hpieces, hspell⟩ := exists_pieces spelt.toList rest
  simp only [literal?, hpieces, Option.bind_eq_bind, Option.bind_some, hspell, String.ofList_toList]

/-! ### Numbers -/

/-- What may follow a document inside of another one, or nothing. -/
def Closed (rest : List Char) : Prop := ∀ c ∈ rest.head?, c = ',' ∨ c = ']' ∨ c = '\x7d'

theorem closed_nil : Closed [] := by
  rintro _ ⟨⟩

theorem closed_cons {c : Char} (h : c = ',' ∨ c = ']' ∨ c = '\x7d') (rest : List Char) :
    Closed (c :: rest) := by
  rintro _ ⟨⟩
  exact h

theorem digits_append {whole rest : List Char} (h : ∀ c ∈ whole, c.isDigit) (hrest : Closed rest) :
    digits (whole ++ rest) = (whole, rest) := by
  rw [digits, List.span_eq_takeWhile_dropWhile, List.takeWhile_append_of_pos h,
    List.dropWhile_append_of_pos h]
  cases rest with
  | nil => rw [List.takeWhile_nil, List.dropWhile_nil, List.append_nil]
  | cons c rest =>
    have hc : ¬ c.isDigit := by
      obtain rfl | rfl | rfl := hrest c rfl <;> decide
    rw [List.takeWhile_cons_of_neg hc, List.dropWhile_cons_of_neg hc, List.append_nil]

theorem natOfDigits_toDigits (n : Nat) : natOfDigits (Nat.toDigits 10 n) = n :=
  Nat.ofDigitChars_ten_toDigits

theorem head?_toDigits_ne {n : Nat} (h : 0 < n) : (Nat.toDigits 10 n).head? ≠ some '0' := by
  induction n using Nat.strongRecOn with
  | ind n ih =>
    obtain hsmall | hlarge := Nat.lt_or_ge n 10
    · have hdigits : ∀ m < 10, 0 < m → Nat.digitChar m ≠ '0' := by decide
      rw [Nat.toDigits_of_lt_base hsmall, List.head?_cons]
      exact fun heq => hdigits n hsmall h (Option.some.inj heq)
    · rw [Nat.toDigits_of_base_le (by decide) hlarge, List.head?_append_of_ne_nil _ Nat.toDigits_ne_nil]
      exact ih (n / 10) (Nat.div_lt_self h (by decide)) (Nat.div_pos hlarge (by decide))

theorem integer?_toDigits (n : Nat) {rest : List Char} (h : Closed rest) :
    integer? (Nat.toDigits 10 n ++ rest) = some (Nat.toDigits 10 n, rest) := by
  have hdigits : digits (Nat.toDigits 10 n ++ rest) = (Nat.toDigits 10 n, rest) :=
    digits_append (fun c hc => Nat.isDigit_of_mem_toDigits (by decide) (by decide) hc) h
  rw [integer?, hdigits]
  obtain rfl | hpos := Nat.eq_zero_or_pos n
  · rfl
  · have hhead := head?_toDigits_ne hpos
    split
    · next heq => exact absurd (Prod.mk.inj heq).1 Nat.toDigits_ne_nil
    · next heq =>
      rw [(Prod.mk.inj heq).1] at hhead
      exact absurd rfl hhead
    · rfl

theorem fraction?_closed {rest : List Char} (h : Closed rest) : fraction? rest = some ([], rest) := by
  rw [fraction?.eq_def]
  split
  · exact absurd (h '.' rfl) (by decide)
  · rfl

theorem exponent?_closed {rest : List Char} (h : Closed rest) : exponent? rest = some ([], rest) := by
  cases rest with
  | nil => rfl
  | cons c rest =>
    have hc : ¬ (c = 'e' ∨ c = 'E') := by
      obtain rfl | rfl | rfl := h c rfl <;> decide
    exact if_neg hc

/-- **A natural number is read back from its digits.** -/
theorem number?_toDigits (n : Nat) {rest : List Char} (h : Closed rest) :
    number? (Nat.toDigits 10 n ++ rest) = some (.nat n, rest) := by
  have hunsigned : ∀ tail, Nat.toDigits 10 n ++ rest ≠ '-' :: tail := by
    intro tail heq
    have hdash : integer? ('-' :: tail) = none := rfl
    rw [← heq, integer?_toDigits n h] at hdash
    cases hdash
  rw [number?.eq_def]
  split
  · next heq =>
    split at heq
    · next hdash => exact absurd hdash (hunsigned _)
    · obtain ⟨rfl, rfl⟩ := Prod.mk.inj heq
      simp only [integer?_toDigits n h, fraction?_closed h, exponent?_closed h, Option.bind_eq_bind,
        Option.bind_some, natOfDigits_toDigits]

end NameAuction.Json
