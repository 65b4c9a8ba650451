import NameAuction.Json.Parser
import NameAuction.Json.Printer
import NameAuction.Word
import NameAuction.Id
import NameAuction.Bundle
import NameAuction.Name

/-!
# Values as JSON documents

`Form` says how a type is written as a document and read back.  Words are numbers without a sign, and in
range; identifiers are texts of hexadecimal digits; bundles are rebuilt from their coins, so a document
cannot smuggle in a list that is none.  A member that may be absent stands for `null`.
-/

namespace NameAuction

/-- The document of a value, and its reading. -/
class Form (α : Type) where
  toJson : α → Json
  ofJson? : Json → Option α
  /-- What a record holds where the member is missing. -/
  whenAbsent : Option α := none

namespace Form

def field? {α : Type} [Form α] : Option Json → Option α
  | some document => ofJson? document
  | none => whenAbsent

def ofText? {α : Type} [Form α] (text : String) : Option α := (Json.parse? text).bind ofJson?

def toText {α : Type} [Form α] (value : α) : String := (toJson value).compact

def list? {α : Type} [Form α] : Json → Option (List α)
  | .arr items => items.mapM ofJson?
  | _ => none

end Form

open Form

def Json.tag (name : String) : Json := .text name

def Json.tagged (name : String) (value : Json) : Json := .ofMembers [(name, value)]

instance : Form Bool where
  toJson value := .bool value
  ofJson?
    | .bool value => some value
    | _ => none

instance : Form String where
  toJson text := .text text
  ofJson?
    | .str (.text text) => some text
    | _ => none

instance {size : Nat} : Form (Word size) where
  toJson word := .nat word.toNat
  ofJson?
    | .nat n => Word.ofNat? n
    | _ => none

instance {α : Type} [Form α] : Form (List α) where
  toJson values := .arr (values.map toJson)
  ofJson? := list?

instance {α : Type} [Form α] : Form (Option α) where
  toJson
    | some value => toJson value
    | none => .null
  ofJson?
    | .null => some none
    | document => (ofJson? document).map some
  whenAbsent := some none

instance {kind : IdKind} : Form (Id kind) where
  toJson id := .text id.toHex
  ofJson?
    | .str (.text text) => (Id.ofHex text).toOption
    | _ => none

def Json.byte? : Json → Option UInt8
  | .nat n => if n < 256 then some (UInt8.ofNat n) else none
  | _ => none

instance {size : Nat} : Form (Block size) where
  toJson block := .arr (block.bytes.map fun byte => .nat byte.toNat)
  ofJson?
    | .arr items => (items.mapM Json.byte?).bind Block.ofBytes?
    | _ => none

instance : Form Name where
  toJson name := .text name.text
  ofJson?
    | .str (.text text) => some ⟨text⟩
    | _ => none

instance : Form Coin where
  toJson coin := .ofMembers [("denom", toJson coin.denom), ("amount", toJson coin.amount)]
  ofJson? document := do
    let [denom, amount] ← document.record? ["denom", "amount"] | none
    some ⟨← field? denom, ← field? amount⟩

instance : Form Bundle where
  toJson bundle := toJson bundle.coins
  ofJson? document := do
    let coins : List Coin ← list? document
    (Bundle.ofCoins coins).toOption

end NameAuction
