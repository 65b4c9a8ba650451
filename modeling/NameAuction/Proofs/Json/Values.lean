import NameAuction.Json.Record
import NameAuction.Proofs.Bundle
import NameAuction.Proofs.Json.ReadBack

/-!
# Values read back from their documents

A value is kept if it is written as a plain document that is read as the value (`Form.Kept`); its text then
gives it back (`Form.Kept.ofText?_toText`).  A type is lossless if all its values are kept (`Form.Lossless`).
Texts, numbers and identifiers are (`Hex.decode_encode`, `Id.ofHex_toHex`), so are lists of what is, and a
record is if its fields are, since its members are found by their names (`Form.Kept.of_record`).  Where a bundle
should stand, coins in any order are read as the bundle of them (`Form.ofJson?_coins`).
-/

namespace NameAuction

/-! ### Hexadecimal text -/

namespace Hex

def code (n : Nat) : UInt8 := UInt8.ofNat (digit n).toNat

def codes (byte : UInt8) : Bytes := [code (byte.toNat / 16), code (byte.toNat % 16)]

theorem utf8EncodeChar_digit : ∀ n < 16, String.utf8EncodeChar (digit n) = [code n] := by decide

theorem value?_code : ∀ n < 16, value? (code n) = some n := by decide

theorem flatMap_utf8EncodeChar_pair (byte : UInt8) :
    (pair byte).flatMap String.utf8EncodeChar = codes byte := by
  have hbyte := byte.toNat_lt
  rw [pair, List.flatMap_cons, List.flatMap_cons, utf8EncodeChar_digit _ (by omega),
    utf8EncodeChar_digit _ (by omega)]
  rfl

theorem ofText_encode (bytes : Bytes) : Bytes.ofText (encode bytes) = bytes.flatMap codes := by
  rw [Bytes.ofText, encode, String.toByteArray_ofList, List.utf8Encode, List.toList_data_toByteArray,
    List.flatMap_assoc]
  exact List.flatMap_congr fun byte _ => flatMap_utf8EncodeChar_pair byte

theorem decodePairs_codes (position : Nat) (bytes : Bytes) :
    decodePairs position (bytes.flatMap codes) = .ok bytes := by
  induction bytes generalizing position with
  | nil => rfl
  | cons byte bytes ih =>
    have hbyte := byte.toNat_lt
    have hsame : 16 * (byte.toNat / 16) + byte.toNat % 16 = byte.toNat := Nat.div_add_mod ..
    rw [List.flatMap_cons, codes, List.cons_append, List.cons_append, List.nil_append, decodePairs,
      value?_code _ (by omega), value?_code _ (by omega), ih]
    simp only [Except.map, hsame, UInt8.ofNat_toNat]

/-- **Bytes are read back from their digits.** -/
theorem decode_encode (bytes : Bytes) : decode (encode bytes) = .ok bytes := by
  have heven : (bytes.flatMap codes).length % 2 ≠ 1 := by
    rw [List.length_flatMap]
    simp [codes]
  rw [decode, ofText_encode, if_neg heven, decodePairs_codes]

end Hex

theorem Id.ofHex_toHex {kind : IdKind} (id : Id kind) : Id.ofHex id.toHex = .ok id := by
  have hblock : Block.ofBytes? id.bytes = some id.toBlock := dif_pos id.length_bytes
  rw [ofHex, toHex, Block.toHex, Hex.decode_encode]
  simp only [ofBytes, hblock]

/-! ### Records -/

/-- Reading succeeds throughout a list where it does at every place. -/
theorem mapM_map_eq_some {α β γ : Type} {read : β → Option γ} {write : α → β} {result : α → γ} {values : List α}
    (h : ∀ value ∈ values, read (write value) = some (result value)) :
    (values.map write).mapM read = some (values.map result) := by
  induction values with
  | nil => rfl
  | cons value values ih =>
    obtain ⟨hvalue, hvalues⟩ := List.forall_mem_cons.mp h
    rw [List.map_cons, List.mapM_cons, hvalue, ih hvalues]
    rfl

namespace Json

theorem filter_eq_singleton {members : List (String × Json)} (h : (members.map Prod.fst).Nodup)
    {member : String × Json} (hmember : member ∈ members) :
    members.filter (fun other => other.1 = member.1) = [member] := by
  induction members with
  | nil => cases hmember
  | cons first members ih =>
    obtain ⟨hfirst, hmembers⟩ := List.nodup_cons.mp h
    have hne : ∀ other ∈ members, other.1 ≠ first.1 := fun other hother heq =>
      hfirst (heq ▸ List.mem_map_of_mem hother)
    obtain rfl | hmember := List.mem_cons.mp hmember
    · have hnone : members.filter (fun other => other.1 = member.1) = [] :=
        List.filter_eq_nil_iff.mpr fun other hother => by simpa using hne other hother
      rw [List.filter_cons, if_pos (by simp), hnone]
    · rw [List.filter_cons, if_neg (by simpa using (hne member hmember).symm), ih hmembers hmember]

theorem member?_keyed {members : List (String × Json)} (h : (members.map Prod.fst).Nodup)
    {member : String × Json} (hmember : member ∈ members) :
    member? member.1 (keyed members) = some (some member.2) := by
  have hfilter : (keyed members).filter (fun other => other.1 = .text member.1) =
      keyed (members.filter fun other => other.1 = member.1) := by
    rw [keyed, keyed, List.filter_map]
    congr 2
    funext other
    simp
  rw [member?, hfilter, filter_eq_singleton h hmember]
  rfl

/-- **The members of a record are found by their names.** -/
theorem record?_zip (names : List String) (values : List Json) (hnames : names.Nodup)
    (hlength : values.length = names.length) :
    (ofMembers (names.zip values)).record? names = some (values.map some) := by
  have hfst : (names.zip values).map Prod.fst = names := List.map_fst_zip hlength.ge
  have hsnd : (names.zip values).map (fun member => some member.2) = values.map some :=
    List.map_map.symm.trans (congrArg (List.map some) (List.map_snd_zip hlength.le))
  have hall : (keyed (names.zip values)).all fun member => member.1.text?.isSome := by
    rw [keyed, List.all_map]
    exact List.all_eq_true.mpr fun _ _ => rfl
  have hfound : ((names.zip values).map Prod.fst).mapM (member? · (keyed (names.zip values))) =
      some ((names.zip values).map fun member => some member.2) :=
    mapM_map_eq_some fun member hmember => member?_keyed (hfst.symm ▸ hnames) hmember
  rw [hfst, hsnd] at hfound
  exact (if_pos hall).trans hfound

end Json

/-! ### Values -/

namespace Form

/-- The document of the value is plain, and it is read as the value. -/
structure Kept {α : Type} [Form α] (value : α) : Prop where
  plain : (toJson value).Plain
  read : ofJson? (toJson value) = some value

class Lossless (α : Type) [Form α] : Prop where
  kept : ∀ value : α, Kept value

theorem plain {α : Type} [Form α] [Lossless α] (value : α) : (toJson value).Plain :=
  (Lossless.kept value).plain

variable {α : Type} [Form α]

theorem field?_toJson [Lossless α] (value : α) : field? (some (toJson value)) = some value :=
  (Lossless.kept value).read

theorem ofJson?_of_ne_null {document : Json} (h : document ≠ .null) :
    (ofJson? document : Option (Option α)) = (ofJson? document).map some := by
  cases document
  case null => exact absurd rfl h
  all_goals rfl

namespace Kept

/-- **A value that is kept is read back from its text.** -/
theorem ofText?_toText {value : α} (h : Kept value) : ofText? (toText value) = some value := by
  rw [ofText?, toText, Json.parse?_compact h.plain, Option.bind_some, h.read]

theorem list {values : List α} (h : ∀ value ∈ values, Kept value) : Kept values where
  plain := .arr (List.forall_mem_map.mpr fun value hvalue => (h value hvalue).plain)
  read := (mapM_map_eq_some fun value hvalue => (h value hvalue).read).trans (by rw [List.map_id'])

theorem none : Kept (none : Option α) := ⟨.null, rfl⟩

/-- An optional value that is there, as far as its document does not stand for none. -/
theorem some {value : α} (h : Kept value) (hne : toJson value ≠ .null) : Kept (some value) where
  plain := h.plain
  read := (ofJson?_of_ne_null hne).trans (congrArg (Option.map Option.some) h.read)

theorem of_record {value : α} (names : List String) (values : List Json)
    (hdocument : toJson value = .ofMembers (names.zip values)) (hplain : ∀ value ∈ values, value.Plain)
    (hnames : names.Nodup) (hlength : values.length = names.length)
    (hread : ∀ document : Json, document.record? names = .some (values.map .some) →
      ofJson? document = .some value) : Kept value where
  plain := hdocument ▸ .ofMembers fun _ hmember => hplain _ (List.of_mem_zip hmember).2
  read := hdocument ▸ hread _ (Json.record?_zip names values hnames hlength)

end Kept

instance : Lossless String := ⟨fun text => ⟨.text text, rfl⟩⟩

instance {size : Nat} : Lossless (Word size) :=
  ⟨fun word => ⟨.nat word.toNat, Word.ofNat?_eq_some_iff.mpr rfl⟩⟩

instance {kind : IdKind} : Lossless (Id kind) :=
  ⟨fun id => ⟨.text id.toHex, congrArg Except.toOption id.ofHex_toHex⟩⟩

instance : Lossless Name := ⟨fun name => ⟨.text name.text, rfl⟩⟩

instance [Lossless α] : Lossless (List α) := ⟨fun _ => .list fun value _ => Lossless.kept value⟩

instance : Lossless Coin where
  kept coin := by
    refine .of_record ["denom", "amount"] [toJson coin.denom, toJson coin.amount] rfl
      (by simp [plain]) (by decide) rfl fun document h => Option.bind_eq_some_iff.mpr ⟨_, h, ?_⟩
    simp only [List.map_cons, List.map_nil, field?_toJson]
    rfl

theorem ofJson?_coins (coins : List Coin) :
    (ofJson? (toJson coins) : Option Bundle) = (Bundle.ofCoins coins).toOption := by
  have hcoins : (list? (toJson coins) : Option (List Coin)) = some coins := (Lossless.kept coins).read
  change (list? (toJson coins)).bind (fun coins => (Bundle.ofCoins coins).toOption) = _
  rw [hcoins, Option.bind_some]

instance : Lossless Phase where
  kept phase := by
    cases phase with
    | bid => exact ⟨.text _, rfl⟩
    | reveal => exact ⟨.text _, rfl⟩

instance : Lossless TopBid where
  kept top := by
    refine .of_record ["bidder", "amount"] [toJson top.bidder, toJson top.amount] rfl
      (by simp [plain]) (by decide) rfl fun document h => Option.bind_eq_some_iff.mpr ⟨_, h, ?_⟩
    simp only [List.map_cons, List.map_nil, field?_toJson]
    rfl

instance : Lossless (Option TopBid) where
  kept top := by
    cases top with
    | none => exact .none
    | some top => exact .some (Lossless.kept top) nofun

instance : Lossless Auction where
  kept auction := by
    refine .of_record ["name", "status", "end_time", "top_bid"]
      [toJson auction.name, toJson auction.phase, toJson auction.endTime, toJson auction.topBid] rfl
      (by simp [plain]) (by decide) rfl fun document h => Option.bind_eq_some_iff.mpr ⟨_, h, ?_⟩
    simp only [List.map_cons, List.map_nil, field?_toJson]
    rfl

instance : Lossless Bid where
  kept bid := by
    refine .of_record ["hash", "deposit", "bidder"]
      [toJson bid.commitment, toJson bid.deposit, toJson bid.bidder] rfl
      (by simp [plain]) (by decide) rfl fun document h => Option.bind_eq_some_iff.mpr ⟨_, h, ?_⟩
    simp only [List.map_cons, List.map_nil, field?_toJson]
    rfl

instance : Lossless Registration where
  kept registration := by
    refine .of_record ["name", "owner", "end_time"]
      [toJson registration.name, toJson registration.owner, toJson registration.endTime] rfl
      (by simp [plain]) (by decide) rfl fun document h => Option.bind_eq_some_iff.mpr ⟨_, h, ?_⟩
    simp only [List.map_cons, List.map_nil, field?_toJson]
    rfl

instance : Lossless FeeRow where
  kept row := by
    refine .of_record ["length", "amount"] [toJson row.length, toJson row.amount] rfl
      (by simp [plain]) (by decide) rfl fun document h => Option.bind_eq_some_iff.mpr ⟨_, h, ?_⟩
    simp only [List.map_cons, List.map_nil, field?_toJson]
    rfl

instance : Lossless FeeTable where
  kept table := ⟨plain table.rows, congrArg (Option.map FeeTable.mk) (Lossless.kept table.rows).read⟩

instance : Lossless Params where
  kept params := by
    refine .of_record
      ["bid_period", "reveal_period", "renewal_interval", "min_deposit", "root_name", "min_name_length",
        "renewal_fees"]
      [toJson params.bidPeriod, toJson params.revealPeriod, toJson params.renewalInterval,
        toJson params.minDeposit, toJson params.root, toJson params.minNameLength, toJson params.fees] rfl
      (by simp [plain]) (by decide) rfl fun document h => Option.bind_eq_some_iff.mpr ⟨_, h, ?_⟩
    simp only [List.map_cons, List.map_nil, field?_toJson]
    rfl

instance : Lossless PlacedBid where
  kept placed := by
    refine .of_record ["name_hash", "bid"] [toJson placed.id, toJson placed.bid] rfl
      (by simp [plain]) (by decide) rfl fun document h => Option.bind_eq_some_iff.mpr ⟨_, h, ?_⟩
    simp only [List.map_cons, List.map_nil, field?_toJson]
    rfl

instance : Lossless Resolution where
  kept resolution := by
    refine .of_record ["name_hash", "child_hash", "address"]
      [toJson resolution.id, toJson resolution.child, toJson resolution.account] rfl
      (by simp [plain]) (by decide) rfl fun document h => Option.bind_eq_some_iff.mpr ⟨_, h, ?_⟩
    simp only [List.map_cons, List.map_nil, field?_toJson]
    rfl

instance : Lossless Genesis where
  kept genesis := by
    refine .of_record ["params", "auctions", "bids", "registries", "resolves"]
      [toJson genesis.params, toJson genesis.auctions, toJson genesis.bids, toJson genesis.registrations,
        toJson genesis.resolutions] rfl
      (by simp [plain]) (by decide) rfl fun document h => Option.bind_eq_some_iff.mpr ⟨_, h, ?_⟩
    simp only [List.map_cons, List.map_nil, field?_toJson]
    rfl

end Form

end NameAuction
