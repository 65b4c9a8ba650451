import NameAuction.Proofs.Json.Token

/-!
# Documents read back

`Json.Plain` documents are made of texts and natural numbers only, in arrays and objects of any depth.  Each of
them reads back from what is written for it, whatever closes it (`Json.Plain.readsBack`), so its compact text
is read as the document (`Json.parse?_compact`).  Reading descends by one step at every item and member and at
every bracket, and for each of these at least one character is written, so twice the length bounds the steps.
-/

namespace NameAuction.Json

/-- No number but a natural one, and no broken literal. -/
inductive Plain : Json → Prop
  | null : Plain .null
  | bool (value : Bool) : Plain (.bool value)
  | nat (value : Nat) : Plain (.nat value)
  | text (spelt : String) : Plain (.text spelt)
  | arr {items : List Json} : (∀ item ∈ items, Plain item) → Plain (.arr items)
  | ofMembers {members : List (String × Json)} :
      (∀ member ∈ members, Plain member.2) → Plain (.ofMembers members)

/-! ### The first character -/

/-- The text starts with a character that is neither blank nor closes an array. -/
def Opens (cs : List Char) : Prop := ∃ c tail, cs = c :: tail ∧ isBlank c = false ∧ c ≠ ']'

theorem Opens.append {cs : List Char} (h : Opens cs) (rest : List Char) : Opens (cs ++ rest) := by
  obtain ⟨c, tail, rfl, hc⟩ := h
  exact ⟨c, tail ++ rest, rfl, hc⟩

theorem skipBlanks_cons {c : Char} (h : isBlank c = false) (tail : List Char) :
    skipBlanks (c :: tail) = c :: tail :=
  List.dropWhile_cons_of_neg (by rw [h]; decide)

theorem Opens.skipBlanks {cs : List Char} (h : Opens cs) : skipBlanks cs = cs := by
  obtain ⟨c, tail, rfl, hc, -⟩ := h
  exact skipBlanks_cons hc tail

theorem ne_of_isDigit {c d : Char} (h : c.isDigit) (hd : d.isDigit = false) : c ≠ d := by
  rintro rfl
  rw [hd] at h
  cases h

theorem opens_of_isDigit {c : Char} (h : c.isDigit) (tail : List Char) : Opens (c :: tail) := by
  have hblank : isBlank c = false := by
    simp only [isBlank, ne_of_isDigit (d := ' ') h rfl, ne_of_isDigit (d := '\n') h rfl,
      ne_of_isDigit (d := '\t') h rfl, ne_of_isDigit (d := '\r') h rfl, decide_false, Bool.or_self]
  exact ⟨c, tail, rfl, hblank, ne_of_isDigit h rfl⟩

theorem exists_toDigits_eq_cons (n : Nat) :
    ∃ c tail, Nat.toDigits 10 n = c :: tail ∧ c.isDigit := by
  obtain ⟨c, tail, heq⟩ := List.exists_cons_of_ne_nil (Nat.toDigits_ne_nil : Nat.toDigits 10 n ≠ [])
  exact ⟨c, tail, heq, Nat.isDigit_of_mem_toDigits (by decide) (by decide) (heq ▸ List.mem_cons_self)⟩

theorem Plain.opens {document : Json} (h : document.Plain) : Opens document.write := by
  cases h with
  | null => exact ⟨_, _, rfl, rfl, by decide⟩
  | bool value => cases value <;> exact ⟨_, _, rfl, rfl, by decide⟩
  | nat value =>
    obtain ⟨c, tail, heq, hc⟩ := exists_toDigits_eq_cons value
    rw [write, heq]
    exact opens_of_isDigit hc tail
  | text spelt => exact ⟨_, _, rfl, rfl, by decide⟩
  | arr => exact ⟨_, _, rfl, rfl, by decide⟩
  | ofMembers => exact ⟨_, _, rfl, rfl, by decide⟩

/-! ### Items and members -/

def ReadsBack (document : Json) : Prop :=
  ∀ {bound : Nat} {rest : List Char}, 2 * document.write.length ≤ bound → Closed rest →
    value? bound (document.write ++ rest) = some (document, rest)

theorem writeItems_cons_cons (item next : Json) (items : List Json) :
    writeItems (item :: next :: items) = item.write ++ ',' :: writeItems (next :: items) := rfl

theorem items?_write {items : List Json} (hne : items ≠ []) (h : ∀ item ∈ items, item.ReadsBack)
    {bound : Nat} {rest : List Char} (hbound : 2 * (writeItems items).length + 1 ≤ bound) :
    items? bound (writeItems items ++ ']' :: rest) = some (items, rest) := by
  induction items generalizing bound with
  | nil => exact absurd rfl hne
  | cons item items ih =>
    obtain ⟨hitem, hitems⟩ := List.forall_mem_cons.mp h
    obtain ⟨bound, rfl⟩ := Nat.exists_eq_add_one.mpr (Nat.zero_lt_of_lt hbound)
    cases items with
    | nil =>
      rw [writeItems] at hbound ⊢
      rw [items?, hitem (by omega) (closed_cons (.inr (.inl rfl)) rest)]
      rfl
    | cons next items =>
      rw [writeItems_cons_cons, List.length_append, List.length_cons] at hbound
      rw [writeItems_cons_cons, List.append_assoc, List.cons_append, items?,
        hitem (by omega) (closed_cons (.inl rfl) _)]
      have htail : items? bound (writeItems (next :: items) ++ ']' :: rest) = some (next :: items, rest) :=
        ih (List.cons_ne_nil next items) hitems (by omega)
      exact congrArg (Option.map fun found => (item :: found.1, found.2)) htail

/-- Members as their texts spell the keys. -/
def keyed (members : List (String × Json)) : List (Literal × Json) :=
  members.map fun member => (.text member.1, member.2)

theorem write_ofMembers (members : List (String × Json)) :
    (ofMembers members).write = '\x7b' :: writeMembers (keyed members) ++ ['\x7d'] := rfl

theorem writeMembers_single (spelt : String) (value : Json) :
    writeMembers (keyed [(spelt, value)]) = (Literal.text spelt).write ++ ':' :: value.write := rfl

theorem writeMembers_cons_cons (spelt : String) (value : Json) (next : String × Json)
    (members : List (String × Json)) :
    writeMembers (keyed ((spelt, value) :: next :: members)) =
      (Literal.text spelt).write ++ ':' :: value.write ++ ',' :: writeMembers (keyed (next :: members)) := rfl

section

variable {spelt : String} {value : Json} (h : value.ReadsBack) {bound : Nat}
  (hbound : 2 * value.write.length ≤ bound) (rest : List Char)

include h hbound

theorem members?_comma :
    members? (bound + 1) ((Literal.text spelt).write ++ ':' :: value.write ++ ',' :: rest) =
      (members? bound rest).map fun found => ((.text spelt, value) :: found.1, found.2) := by
  rw [members?, List.append_assoc, write_text_append, skipBlanks_cons rfl]
  simp only [List.cons_append, literal?_write, Option.bind_eq_bind, Option.bind_some,
    skipBlanks_cons (c := ':') rfl, skipBlanks_cons (c := ',') rfl, h hbound (closed_cons (.inl rfl) rest)]

theorem members?_brace :
    members? (bound + 1) ((Literal.text spelt).write ++ ':' :: value.write ++ '\x7d' :: rest) =
      some ([(.text spelt, value)], rest) := by
  rw [members?, List.append_assoc, write_text_append, skipBlanks_cons rfl]
  simp only [List.cons_append, literal?_write, Option.bind_eq_bind, Option.bind_some,
    skipBlanks_cons (c := ':') rfl, skipBlanks_cons (c := '\x7d') rfl,
    h hbound (closed_cons (.inr (.inr rfl)) rest)]

end

theorem members?_write {members : List (String × Json)} (hne : members ≠ [])
    (h : ∀ member ∈ members, member.2.ReadsBack) {bound : Nat} {rest : List Char}
    (hbound : 2 * (writeMembers (keyed members)).length + 1 ≤ bound) :
    members? bound (writeMembers (keyed members) ++ '\x7d' :: rest) = some (keyed members, rest) := by
  induction members generalizing bound with
  | nil => exact absurd rfl hne
  | cons member members ih =>
    obtain ⟨spelt, value⟩ := member
    obtain ⟨hvalue : value.ReadsBack, hmembers⟩ := List.forall_mem_cons.mp h
    obtain ⟨bound, rfl⟩ := Nat.exists_eq_add_one.mpr (Nat.zero_lt_of_lt hbound)
    cases members with
    | nil =>
      rw [writeMembers_single, List.length_append, List.length_cons] at hbound
      exact members?_brace hvalue (by omega) rest
    | cons next members =>
      rw [writeMembers_cons_cons, List.length_append, List.length_append, List.length_cons,
        List.length_cons] at hbound
      rw [writeMembers_cons_cons, List.append_assoc, List.cons_append, members?_comma hvalue (by omega)]
      have htail : members? bound (writeMembers (keyed (next :: members)) ++ '\x7d' :: rest) =
          some (keyed (next :: members), rest) :=
        ih (List.cons_ne_nil next members) hmembers (by omega)
      exact congrArg (Option.map fun found => ((.text spelt, value) :: found.1, found.2)) htail

/-! ### Documents -/

theorem value?_digit {c : Char} (h : c.isDigit) (bound : Nat) (tail : List Char) :
    value? (bound + 1) (c :: tail) = number? (c :: tail) := by
  have hne : ∀ d : Char, d.isDigit = false → ∀ tail', c :: tail ≠ d :: tail' := fun d hd _ heq =>
    ne_of_isDigit h hd (List.cons.inj heq).1
  rw [value?, (opens_of_isDigit h tail).skipBlanks]
  split
  case h_7 => rfl
  all_goals
    next heq => exact absurd heq (hne _ rfl _)

theorem opens_writeItems {item : Json} (h : item.Plain) (items : List Json) :
    Opens (writeItems (item :: items)) := by
  cases items with
  | nil => exact h.opens
  | cons next items => exact h.opens.append _

theorem exists_writeMembers_eq_cons (member : String × Json) (members : List (String × Json)) :
    ∃ cs, writeMembers (keyed (member :: members)) = '"' :: cs := by
  cases members <;> exact ⟨_, rfl⟩

theorem value?_arr {cs rest : List Char} (h : Opens cs) {bound : Nat} {items : List Json}
    (hitems : items? bound cs = some (items, rest)) :
    value? (bound + 1) ('[' :: cs) = some (.arr items, rest) := by
  have hopen : skipBlanks ('[' :: cs) = '[' :: cs := rfl
  have hskip := h.skipBlanks
  obtain ⟨c, tail, heq, -, hc⟩ := h
  simp only [value?, hopen, hskip]
  rw [heq] at hitems ⊢
  split
  · next hclose => exact absurd (List.cons.inj hclose).1 hc
  · rw [hitems]
    rfl

theorem value?_obj {cs rest : List Char} {bound : Nat} {members : List (Literal × Json)}
    (hmembers : members? bound ('"' :: cs) = some (members, rest)) :
    value? (bound + 1) ('\x7b' :: '"' :: cs) = some (.obj members, rest) := by
  have hread : value? (bound + 1) ('\x7b' :: '"' :: cs) =
      (members? bound ('"' :: cs)).map fun found => (.obj found.1, found.2) := rfl
  rw [hread, hmembers]
  rfl

theorem readsBack_of_succ {document : Json} (hopens : Opens document.write)
    (h : ∀ {bound : Nat} {rest : List Char}, 2 * document.write.length ≤ bound + 1 → Closed rest →
      value? (bound + 1) (document.write ++ rest) = some (document, rest)) : document.ReadsBack := by
  intro bound rest hbound hrest
  obtain ⟨c, tail, heq, -⟩ := hopens
  cases bound with
  | zero =>
    rw [heq, List.length_cons] at hbound
    omega
  | succ bound => exact h hbound hrest

/-- **A plain document reads back, whatever closes it.** -/
theorem Plain.readsBack {document : Json} (h : document.Plain) : document.ReadsBack := by
  induction h with
  | null => exact readsBack_of_succ Plain.null.opens fun _ _ => rfl
  | bool value =>
    refine readsBack_of_succ (Plain.bool value).opens fun _ _ => ?_
    cases value <;> rfl
  | nat value =>
    refine readsBack_of_succ (Plain.nat value).opens fun _ hrest => ?_
    have hread := number?_toDigits value hrest
    obtain ⟨c, tail, heq, hc⟩ := exists_toDigits_eq_cons value
    rw [heq, List.cons_append] at hread
    rw [write, heq, List.cons_append, value?_digit hc, hread]
  | text spelt =>
    refine readsBack_of_succ (Plain.text spelt).opens fun _ _ => ?_
    rw [Json.text, write, write_text_append]
    exact congrArg (Option.map fun found => (Json.str found.1, found.2)) (literal?_write spelt _)
  | @arr items hplain ih =>
    refine readsBack_of_succ (Plain.arr hplain).opens fun {bound rest} hbound hrest => ?_
    cases items with
    | nil => rfl
    | cons item items =>
      have hopens := opens_writeItems (hplain item List.mem_cons_self) items
      -- the brackets are two characters, so the step they take leaves more than the items need
      rw [write, List.length_append, List.length_cons, List.length_singleton] at hbound
      rw [write, List.append_assoc]
      exact value?_arr (hopens.append _) (items?_write (List.cons_ne_nil _ _) ih (by omega))
  | @ofMembers members hplain ih =>
    refine readsBack_of_succ (Plain.ofMembers hplain).opens fun {bound rest} hbound hrest => ?_
    cases members with
    | nil => rfl
    | cons member members =>
      rw [write_ofMembers, List.length_append, List.length_cons, List.length_singleton] at hbound
      have hmembers : members? bound (writeMembers (keyed (member :: members)) ++ '\x7d' :: rest) =
          some (keyed (member :: members), rest) :=
        members?_write (List.cons_ne_nil _ _) ih (by omega)
      obtain ⟨cs, heq⟩ := exists_writeMembers_eq_cons member members
      rw [heq, List.cons_append] at hmembers
      rw [write_ofMembers, heq, List.append_assoc]
      exact value?_obj hmembers

/-- **The compact text of a plain document is read as the document.** -/
theorem parse?_compact {document : Json} (h : document.Plain) : parse? document.compact = some document := by
  have hread : value? (2 * document.write.length + 2) (document.write ++ []) = some (document, []) :=
    h.readsBack (by omega) closed_nil
  rw [List.append_nil] at hread
  simp only [parse?, compact, String.toList_ofList, hread, Option.bind_eq_bind, Option.bind_some]
  rfl

end NameAuction.Json
