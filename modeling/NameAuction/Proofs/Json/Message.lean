import NameAuction.Json.Message
import NameAuction.Proofs.Json.Values

/-!
# Commands and genesis documents read back

A command is kept if its fee, where it has one, is the bundle of some coins (`Command.FeeFromCoins.kept`).  In
the document of a renewal the coins of the fee may stand in any order: the command that is read has the bundle
of them, and nothing is read if they have none (`Command.ofJson?_renewal`).  Together with what holds of a
genesis, this is `Form.documents_keep_values`.
-/

namespace NameAuction

open Form

namespace Form

/-- A variant is kept if its fields are plain and `reader`, which gets them in the order of their names, gives
the value back. -/
theorem Kept.of_variant {α : Type} [Form α] {value : α} (tag : String) (names : List String)
    (values : List Json) {reader : List (Option Json) → Option α}
    (hdocument : toJson value = .tagged tag (.ofMembers (names.zip values)))
    (hreader : ∀ fields : Json, ofJson? (.tagged tag fields) = (fields.record? names).bind reader)
    (hplain : ∀ value ∈ values, value.Plain) (hnames : names.Nodup) (hlength : values.length = names.length)
    (hread : reader (values.map .some) = .some value) : Kept value where
  plain := by
    have hfields : (Json.ofMembers (names.zip values)).Plain :=
      .ofMembers fun _ hmember => hplain _ (List.of_mem_zip hmember).2
    rw [hdocument]
    exact .ofMembers (List.forall_mem_singleton.mpr hfields)
  read := by
    rw [hdocument, hreader, Json.record?_zip names values hnames hlength]
    exact hread

end Form

namespace Command

/-- The document of a renewal with the coins of the fee as they are given. -/
def renewal (name : Name) (coins : List Coin) (owner : Account) : Json :=
  .tagged "renew_registry" (.ofMembers [("name", toJson name), ("fee", toJson coins), ("owner", toJson owner)])

theorem plain_renewal (name : Name) (coins : List Coin) (owner : Account) : (renewal name coins owner).Plain :=
  .ofMembers (List.forall_mem_singleton.mpr (.ofMembers (by simp [plain])))

/-- **A renewal is read with the bundle of the coins of its fee**, or not at all. -/
theorem ofJson?_renewal (name : Name) (coins : List Coin) (owner : Account) :
    ofJson? (renewal name coins owner) = (Bundle.ofCoins coins).toOption.map (renew name · owner) := by
  let names := ["name", "fee", "owner"]
  let values := [toJson name, toJson coins, toJson owner]
  have hvariant : (renewal name coins owner).variant? =
      some ("renew_registry", some (.ofMembers (names.zip values))) := rfl
  have hrecord := Json.record?_zip names values (by decide) rfl
  have hfee : (field? (some (toJson coins)) : Option Bundle) = (Bundle.ofCoins coins).toOption :=
    ofJson?_coins coins
  change (renewal name coins owner).variant?.bind _ = _
  rw [hvariant, Option.bind_some]
  change ((Json.ofMembers (names.zip values)).record? names).bind _ = _
  rw [hrecord, Option.bind_some]
  change (field? (some (toJson name))).bind (fun name => (field? (some (toJson coins))).bind fun fee =>
    (field? (some (toJson owner))).bind fun owner => some (renew name fee owner)) = _
  rw [hfee]
  simp only [field?_toJson, Option.bind_some]
  cases Bundle.ofCoins coins <;> rfl

/-- The fee of the command, where it has one, is the bundle of some coins. -/
def FeeFromCoins : Command → Prop
  | .renew _ fee _ => ∃ coins, Bundle.ofCoins coins = .ok fee
  | _ => True

theorem FeeFromCoins.kept {command : Command} (h : command.FeeFromCoins) : Kept command := by
  cases command with
  | openAuction name organizer =>
    refine .of_variant "open_auction" ["name", "organizer"] [toJson name, toJson organizer] rfl
      (fun _ => rfl) (by simp [plain]) (by decide) rfl ?_
    simp only [List.map_cons, List.map_nil, field?_toJson]
    rfl
  | bid name commitment deposit bidder =>
    refine .of_variant "bid_auction" ["name", "hash", "deposit", "bidder"]
      [toJson name, toJson commitment, toJson deposit, toJson bidder] rfl
      (fun _ => rfl) (by simp [plain]) (by decide) rfl ?_
    simp only [List.map_cons, List.map_nil, field?_toJson]
    rfl
  | reveal name salt amount bidder =>
    refine .of_variant "reveal_bid" ["name", "salt", "amount", "bidder"]
      [toJson name, toJson salt, toJson amount, toJson bidder] rfl
      (fun _ => rfl) (by simp [plain]) (by decide) rfl ?_
    simp only [List.map_cons, List.map_nil, field?_toJson]
    rfl
  | renew name fee owner =>
    obtain ⟨coins, hcoins⟩ := h
    have hown : Bundle.ofCoins fee.coins = .ok fee :=
      (Bundle.ofCoins_perm (Bundle.ofCoins_eq_ok_iff.mp hcoins).2).mpr hcoins
    exact ⟨plain_renewal name fee.coins owner, (ofJson?_renewal name fee.coins owner).trans (by rw [hown]; rfl)⟩
  | changeOwner name newOwner owner =>
    refine .of_variant "update_owner" ["name", "new_owner", "owner"]
      [toJson name, toJson newOwner, toJson owner] rfl
      (fun _ => rfl) (by simp [plain]) (by decide) rfl ?_
    simp only [List.map_cons, List.map_nil, field?_toJson]
    rfl
  | setSubName name account owner =>
    refine .of_variant "register_sub_name" ["name", "address", "owner"]
      [toJson name, toJson account, toJson owner] rfl
      (fun _ => rfl) (by simp [plain]) (by decide) rfl ?_
    simp only [List.map_cons, List.map_nil, field?_toJson]
    rfl
  | clearSubName name owner =>
    refine .of_variant "unregister_sub_name" ["name", "owner"] [toJson name, toJson owner] rfl
      (fun _ => rfl) (by simp [plain]) (by decide) rfl ?_
    simp only [List.map_cons, List.map_nil, field?_toJson]
    rfl

end Command

namespace Form

/-- **Documents keep values.**  A genesis is read back from its text, and so is a command whose fee is the
bundle of some coins.  The coins of a fee may come in any order: the command that is read has the bundle that
these coins make, which lists them by denomination, and nothing is read just where they make none. -/
theorem documents_keep_values :
    (∀ genesis : Genesis, ofText? (toText genesis) = some genesis) ∧
    (∀ command : Command, command.FeeFromCoins → ofText? (toText command) = some command) ∧
    ∀ (name : Name) (coins : List Coin) (owner : Account),
      ofText? (Command.renewal name coins owner).compact =
          (Bundle.ofCoins coins).toOption.map (Command.renew name · owner) ∧
        ∀ fee, Bundle.ofCoins coins = .ok fee → fee.coins.Perm coins ∧ Coin.Ascending fee.coins := by
  refine ⟨fun genesis => (Lossless.kept genesis).ofText?_toText, fun command h => h.kept.ofText?_toText,
    fun name coins owner => ⟨?_, fun fee h => ⟨(Bundle.ofCoins_eq_ok_iff.mp h).2, fee.ascending⟩⟩⟩
  rw [ofText?, Json.parse?_compact (Command.plain_renewal name coins owner), Option.bind_some,
    Command.ofJson?_renewal]

/-- A name whose text has characters that are escaped, and some outside of ASCII. -/
def escapedName : Name := ⟨"a\"\\\n\u0001한국.terra"⟩

def unsortedCoins : List Coin := [⟨"uusd", ⟨70, by decide⟩⟩, ⟨"uluna", ⟨30, by decide⟩⟩]

theorem documents_keep_values_escaped : ∃ fee, Bundle.ofCoins unsortedCoins = .ok fee ∧
    ofText? (toText (Command.renew escapedName fee Id.zero)) = some (Command.renew escapedName fee Id.zero) ∧
    ofText? (Command.renewal escapedName unsortedCoins Id.zero).compact =
      some (Command.renew escapedName fee Id.zero) ∧
    (ofText? (Command.renewal escapedName (unsortedCoins ++ unsortedCoins) Id.zero).compact :
      Option Command) = none := by
  obtain ⟨-, hcommand, hrenewal⟩ := documents_keep_values
  obtain ⟨fee, hfee⟩ : ∃ fee, Bundle.ofCoins unsortedCoins = .ok fee :=
    Bundle.exists_ofCoins_iff.mpr ⟨by decide, by decide, by decide⟩
  have hrepeated : (Bundle.ofCoins (unsortedCoins ++ unsortedCoins)).toOption = none := by decide +kernel
  refine ⟨fee, hfee, hcommand _ ⟨_, hfee⟩, ?_, ?_⟩
  · rw [(hrenewal ..).1, hfee]
    rfl
  · rw [(hrenewal ..).1, hrepeated]
    rfl

end Form

end NameAuction
