import NameAuction.Event.Layout
import NameAuction.Proofs.Binary.ReadBack

/-!
# Events are told by their bytes

Bytes discern two values if they are the same, with anything behind them, for equal values only
(`Layout.Discerns`).  Values that read back are discerned, and so are pairs of such values, field by field.
A bundle may hold denominations that reading it back would refuse, so bundles are discerned by their lists of
coins.  Events with texts and bundles of a length that fits are discerned: the number in front tells the kinds
apart, and the fields follow (`Event.discerns`).
-/

namespace NameAuction

namespace Layout

/-- The bytes of the two values, whatever follows them, are the same for equal values only. -/
def Discerns {α : Type} [Layout α] (a b : α) : Prop :=
  ∀ rest rest', write a ++ rest = write b ++ rest' → a = b ∧ rest = rest'

section

variable {α β : Type} [Layout α] [Layout β]

theorem ReadsBack.discerns {a b : α} (ha : ReadsBack a) (hb : ReadsBack b) : Discerns a b := by
  intro rest rest' h
  have hread := ha rest
  rw [h, hb rest'] at hread
  exact Prod.mk.inj (Option.some.inj hread.symm)

theorem Discerns.prod {a b : α} {c d : β} (hfirst : Discerns a b) (hsecond : Discerns c d) :
    Discerns (a, c) (b, d) := by
  intro rest rest' h
  change (write a ++ write c) ++ rest = (write b ++ write d) ++ rest' at h
  rw [List.append_assoc, List.append_assoc] at h
  obtain ⟨rfl, hmore⟩ := hfirst _ _ h
  obtain ⟨rfl, hrest⟩ := hsecond _ _ hmore
  exact ⟨rfl, hrest⟩

theorem Discerns.injective {a b : α} (h : Discerns a b) (heq : write a = write b) : a = b :=
  (h [] [] (by rw [heq])).1

theorem readMany_flatMap {values : List α} (h : ∀ value ∈ values, ReadsBack value) (rest : Bytes) :
    (readMany values.length : Reader (List α)) (values.flatMap write ++ rest) = some (values, rest) := by
  induction values with
  | nil => rfl
  | cons value more ih =>
    have hmore := ih fun other hother => h other (List.mem_cons_of_mem _ hother)
    show (read >>= fun first => readMany more.length >>= fun others => pure (first :: others)) _ = _
    rw [List.flatMap_cons, List.append_assoc, bind_eq_some (h value (List.mem_cons_self ..) _),
      bind_eq_some hmore]
    rfl

theorem ReadsBack.list {values : List α} (h : ∀ value ∈ values, ReadsBack value)
    (hlength : values.length < 256 ^ 8) : ReadsBack values := by
  intro rest
  show (readLength >>= readMany) ((writeLength values.length ++ values.flatMap write) ++ rest) = _
  rw [List.append_assoc, readLength, writeLength, bind_eq_some (readNat_writeNat hlength _)]
  exact readMany_flatMap h rest

end

end Layout

open Layout

theorem Bool.readsBack (flag : Bool) : ReadsBack flag := by
  intro rest
  cases flag with
  | false => exact bind_eq_some (@take_append [0] 1 rfl rest)
  | true => exact bind_eq_some (@take_append [1] 1 rfl rest)

/-! ### Bundles -/

structure Bundle.Fits (bundle : Bundle) : Prop where
  length : bundle.coins.length < 256 ^ 8
  coins : ∀ coin ∈ bundle.coins, coin.Fits

theorem Bundle.Fits.discerns {bundle other : Bundle} (h : bundle.Fits) (h' : other.Fits) :
    Discerns bundle other := by
  intro rest rest' heq
  have hcoins := ReadsBack.list (fun coin hcoin => (h.coins coin hcoin).readsBack) h.length
  have hcoins' := ReadsBack.list (fun coin hcoin => (h'.coins coin hcoin).readsBack) h'.length
  obtain ⟨hsame, hrest⟩ := hcoins.discerns hcoins' rest rest' heq
  obtain ⟨coins, hascending⟩ := bundle
  obtain ⟨coins', hascending'⟩ := other
  obtain rfl : coins = coins' := hsame
  exact ⟨rfl, hrest⟩

/-! ### Events -/

namespace Event

/-- The lengths of all texts and lists of the event fit in eight bytes. -/
def Fits : Event → Prop
  | .opened name _ _ => Text.Fits name.text
  | .bidPlaced name _ deposit => Text.Fits name.text ∧ deposit.Fits
  | .bidRevealed name _ amount _ => Text.Fits name.text ∧ amount.Fits
  | .renewed name fee _ => Text.Fits name.text ∧ fee.Fits
  | .ownerChanged name _ _ => Text.Fits name.text
  | .subNameSet name _ => Text.Fits name.text
  | .subNameCleared name _ => Text.Fits name.text
  | .revealStarted name _ => Text.Fits name.text
  | .closed name => Text.Fits name.text
  | .settled name _ amount _ => Text.Fits name.text ∧ amount.Fits
  | .slashed name _ deposit => Text.Fits name.text ∧ deposit.Fits
  | .expired name _ => Text.Fits name.text

/-- The number with which the bytes of an event begin. -/
def number : Event → Nat
  | .opened .. => 0
  | .bidPlaced .. => 1
  | .bidRevealed .. => 2
  | .renewed .. => 3
  | .ownerChanged .. => 4
  | .subNameSet .. => 5
  | .subNameCleared .. => 6
  | .revealStarted .. => 7
  | .closed _ => 8
  | .settled .. => 9
  | .slashed .. => 10
  | .expired .. => 11

theorem number_lt (event : Event) : event.number < 256 ^ 4 := by
  have hnumber : event.number < 12 := by cases event <;> simp [number]
  exact Nat.lt_trans hnumber (by decide)

theorem exists_write_eq (event : Event) : ∃ fields, write event = writeTag event.number ++ fields := by
  cases event <;> exact ⟨_, rfl⟩

theorem number_eq {a b : Event} {rest rest' : Bytes} (h : write a ++ rest = write b ++ rest') :
    a.number = b.number := by
  obtain ⟨fields, ha⟩ := a.exists_write_eq
  obtain ⟨fields', hb⟩ := b.exists_write_eq
  rw [ha, hb, List.append_assoc, List.append_assoc] at h
  have hread := readTag_writeTag a.number_lt (fields ++ rest)
  rw [h, readTag_writeTag b.number_lt] at hread
  exact (Prod.mk.inj (Option.some.inj hread)).1.symm

theorem eq_of_fields {α : Type} [Layout α] {number : Nat} {a b : α} {rest rest' : Bytes} (make : α → Event)
    (hfields : Discerns a b)
    (h : (writeTag number ++ write a) ++ rest = (writeTag number ++ write b) ++ rest') :
    make a = make b ∧ rest = rest' := by
  rw [List.append_assoc, List.append_assoc] at h
  exact (hfields _ _ (List.append_cancel_left h)).imp_left (congrArg make)

end Event

theorem Name.discerns {name other : Name} (h : Text.Fits name.text) (h' : Text.Fits other.text) :
    Discerns name other := (Name.readsBack h).discerns (Name.readsBack h')

theorem Coin.Fits.discerns {coin other : Coin} (h : coin.Fits) (h' : other.Fits) : Discerns coin other :=
  h.readsBack.discerns h'.readsBack

theorem Word.discerns {size : Nat} (word other : Word size) : Discerns word other :=
  word.readsBack.discerns other.readsBack

theorem Id.discerns {kind : IdKind} (id other : Id kind) : Discerns id other :=
  id.readsBack.discerns other.readsBack

/-- **Events are told by their bytes.**  The number in front tells the kind, and of the fields each shows
where it ends. -/
theorem Event.discerns {a b : Event} (ha : a.Fits) (hb : b.Fits) : Discerns a b := by
  intro rest rest' h
  have hnumber := number_eq h
  cases a with
  | opened name organizer endTime =>
    cases b with
    | opened name' organizer' endTime' =>
      have hfields := (Name.discerns ha hb).prod <|
        (Id.discerns organizer organizer').prod (Word.discerns endTime endTime')
      exact eq_of_fields (fun x => .opened x.1 x.2.1 x.2.2) hfields h
    | _ => cases hnumber
  | bidPlaced name bidder deposit =>
    cases b with
    | bidPlaced name' bidder' deposit' =>
      have hfields := (Name.discerns ha.1 hb.1).prod <|
        (Id.discerns bidder bidder').prod (Coin.Fits.discerns ha.2 hb.2)
      exact eq_of_fields (fun x => .bidPlaced x.1 x.2.1 x.2.2) hfields h
    | _ => cases hnumber
  | bidRevealed name bidder amount isTop =>
    cases b with
    | bidRevealed name' bidder' amount' isTop' =>
      have hfields := (Name.discerns ha.1 hb.1).prod <| (Id.discerns bidder bidder').prod <|
        (Coin.Fits.discerns ha.2 hb.2).prod <| (Bool.readsBack isTop).discerns (Bool.readsBack isTop')
      exact eq_of_fields (fun x => .bidRevealed x.1 x.2.1 x.2.2.1 x.2.2.2) hfields h
    | _ => cases hnumber
  | renewed name fee endTime =>
    cases b with
    | renewed name' fee' endTime' =>
      have hfields := (Name.discerns ha.1 hb.1).prod <|
        (Bundle.Fits.discerns ha.2 hb.2).prod (Word.discerns endTime endTime')
      exact eq_of_fields (fun x => .renewed x.1 x.2.1 x.2.2) hfields h
    | _ => cases hnumber
  | ownerChanged name oldOwner newOwner =>
    cases b with
    | ownerChanged name' oldOwner' newOwner' =>
      have hfields := (Name.discerns ha hb).prod <|
        (Id.discerns oldOwner oldOwner').prod (Id.discerns newOwner newOwner')
      exact eq_of_fields (fun x => .ownerChanged x.1 x.2.1 x.2.2) hfields h
    | _ => cases hnumber
  | subNameSet name account =>
    cases b with
    | subNameSet name' account' =>
      have hfields := (Name.discerns ha hb).prod (Id.discerns account account')
      exact eq_of_fields (fun x => .subNameSet x.1 x.2) hfields h
    | _ => cases hnumber
  | subNameCleared name account =>
    cases b with
    | subNameCleared name' account' =>
      have hfields := (Name.discerns ha hb).prod (Id.discerns account account')
      exact eq_of_fields (fun x => .subNameCleared x.1 x.2) hfields h
    | _ => cases hnumber
  | revealStarted name endTime =>
    cases b with
    | revealStarted name' endTime' =>
      have hfields := (Name.discerns ha hb).prod (Word.discerns endTime endTime')
      exact eq_of_fields (fun x => .revealStarted x.1 x.2) hfields h
    | _ => cases hnumber
  | closed name =>
    cases b with
    | closed name' =>
      exact eq_of_fields Event.closed (Name.discerns ha hb) h
    | _ => cases hnumber
  | settled name owner amount endTime =>
    cases b with
    | settled name' owner' amount' endTime' =>
      have hfields := (Name.discerns ha.1 hb.1).prod <| (Id.discerns owner owner').prod <|
        (Coin.Fits.discerns ha.2 hb.2).prod (Word.discerns endTime endTime')
      exact eq_of_fields (fun x => .settled x.1 x.2.1 x.2.2.1 x.2.2.2) hfields h
    | _ => cases hnumber
  | slashed name bidder deposit =>
    cases b with
    | slashed name' bidder' deposit' =>
      have hfields := (Name.discerns ha.1 hb.1).prod <|
        (Id.discerns bidder bidder').prod (Coin.Fits.discerns ha.2 hb.2)
      exact eq_of_fields (fun x => .slashed x.1 x.2.1 x.2.2) hfields h
    | _ => cases hnumber
  | expired name owner =>
    cases b with
    | expired name' owner' =>
      exact eq_of_fields (fun x => .expired x.1 x.2) ((Name.discerns ha hb).prod (Id.discerns owner owner')) h
    | _ => cases hnumber

end NameAuction
