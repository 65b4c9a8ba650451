import NameAuction.Event.Log
import NameAuction.Json.Record
import NameAuction.Query

/-!
# Messages as JSON documents

The documents of commands, queries, answers and events.  Each of them is a variant: its name, with the
fields that it needs.
-/

namespace NameAuction

open Form

instance : Form Command where
  toJson
    | .openAuction name organizer => .tagged "open_auction" <| .ofMembers [
        ("name", toJson name), ("organizer", toJson organizer)]
    | .bid name commitment deposit bidder => .tagged "bid_auction" <| .ofMembers [
        ("name", toJson name), ("hash", toJson commitment), ("deposit", toJson deposit),
        ("bidder", toJson bidder)]
    | .reveal name salt amount bidder => .tagged "reveal_bid" <| .ofMembers [
        ("name", toJson name), ("salt", toJson salt), ("amount", toJson amount),
        ("bidder", toJson bidder)]
    | .renew name fee owner => .tagged "renew_registry" <| .ofMembers [
        ("name", toJson name), ("fee", toJson fee), ("owner", toJson owner)]
    | .changeOwner name newOwner owner => .tagged "update_owner" <| .ofMembers [
        ("name", toJson name), ("new_owner", toJson newOwner), ("owner", toJson owner)]
    | .setSubName name account owner => .tagged "register_sub_name" <| .ofMembers [
        ("name", toJson name), ("address", toJson account), ("owner", toJson owner)]
    | .clearSubName name owner => .tagged "unregister_sub_name" <| .ofMembers [
        ("name", toJson name), ("owner", toJson owner)]
  ofJson? document := do
    let (tag, some fields) ← document.variant? | none
    match tag with
    | "open_auction" => do
      let [name, organizer] ← fields.record? ["name", "organizer"] | none
      some (.openAuction (← field? name) (← field? organizer))
    | "bid_auction" => do
      let [name, commitment, deposit, bidder] ←
        fields.record? ["name", "hash", "deposit", "bidder"] | none
      some (.bid (← field? name) (← field? commitment) (← field? deposit) (← field? bidder))
    | "reveal_bid" => do
      let [name, salt, amount, bidder] ←
        fields.record? ["name", "salt", "amount", "bidder"] | none
      some (.reveal (← field? name) (← field? salt) (← field? amount) (← field? bidder))
    | "renew_registry" => do
      let [name, fee, owner] ← fields.record? ["name", "fee", "owner"] | none
      some (.renew (← field? name) (← field? fee) (← field? owner))
    | "update_owner" => do
      let [name, newOwner, owner] ← fields.record? ["name", "new_owner", "owner"] | none
      some (.changeOwner (← field? name) (← field? newOwner) (← field? owner))
    | "register_sub_name" => do
      let [name, account, owner] ← fields.record? ["name", "address", "owner"] | none
      some (.setSubName (← field? name) (← field? account) (← field? owner))
    | "unregister_sub_name" => do
      let [name, owner] ← fields.record? ["name", "owner"] | none
      some (.clearSubName (← field? name) (← field? owner))
    | _ => none

instance : Form AuctionFilter where
  toJson
    | .all => .tag "all"
    | .name name => .tagged "name" (toJson name)
    | .phase phase => .tagged "status" (toJson phase)
  ofJson? document :=
    match document.variant? with
    | some ("all", none) | some ("all", some .null) => some .all
    | some ("name", some value) => (ofJson? value).map .name
    | some ("status", some value) => (ofJson? value).map .phase
    | _ => none

instance : Form Query where
  toJson
    | .auctions filter => .tagged "auctions" <| .ofMembers [("filter", toJson filter)]
    | .bids name bidder => .tagged "bids" <| .ofMembers [
        ("name", toJson name), ("bidder", toJson bidder)]
    | .registration name => .tagged "registry" <| .ofMembers [("name", toJson name)]
    | .resolution name => .tagged "resolve" <| .ofMembers [("name", toJson name)]
    | .reverse account => .tagged "reverse_resolve" <| .ofMembers [("address", toJson account)]
    | .params => .tag "params"
  ofJson? document := do
    match ← document.variant? with
    | ("params", none) | ("params", some .null) => some .params
    | ("auctions", some fields) => do
      let [filter] ← fields.record? ["filter"] | none
      some (.auctions (← field? filter))
    | ("bids", some fields) => do
      let [name, bidder] ← fields.record? ["name", "bidder"] | none
      some (.bids (← field? name) (← field? bidder))
    | ("registry", some fields) => do
      let [name] ← fields.record? ["name"] | none
      some (.registration (← field? name))
    | ("resolve", some fields) => do
      let [name] ← fields.record? ["name"] | none
      some (.resolution (← field? name))
    | ("reverse_resolve", some fields) => do
      let [account] ← fields.record? ["address"] | none
      some (.reverse (← field? account))
    | _ => none

instance : Form Answer where
  toJson
    | .auctions auctions => .tagged "auctions" (toJson auctions)
    | .bids bids => .tagged "bids" (toJson bids)
    | .registration registration => .tagged "registry" (toJson registration)
    | .resolution account => .tagged "resolve" (toJson account)
    | .reverse registration => .tagged "reverse_resolve" (toJson registration)
    | .params params => .tagged "params" (toJson params)
  ofJson? document := do
    let (tag, some value) ← document.variant? | none
    match tag with
    | "auctions" => (ofJson? value).map .auctions
    | "bids" => (ofJson? value).map .bids
    | "registry" => (ofJson? value).map .registration
    | "resolve" => (ofJson? value).map .resolution
    | "reverse_resolve" => (ofJson? value).map .reverse
    | "params" => (ofJson? value).map .params
    | _ => none

/-! ### Events -/

def Event.values : Event → List Json
  | .opened name organizer endTime => [toJson name, toJson organizer, toJson endTime]
  | .bidPlaced name bidder deposit => [toJson name, toJson bidder, toJson deposit]
  | .bidRevealed name bidder amount isTop =>
    [toJson name, toJson bidder, toJson amount, toJson isTop]
  | .renewed name fee endTime => [toJson name, toJson fee, toJson endTime]
  | .ownerChanged name oldOwner newOwner => [toJson name, toJson oldOwner, toJson newOwner]
  | .subNameSet name account => [toJson name, toJson account]
  | .subNameCleared name account => [toJson name, toJson account]
  | .revealStarted name endTime => [toJson name, toJson endTime]
  | .closed name => [toJson name]
  | .settled name owner amount endTime =>
    [toJson name, toJson owner, toJson amount, toJson endTime]
  | .slashed name bidder deposit => [toJson name, toJson bidder, toJson deposit]
  | .expired name owner => [toJson name, toJson owner]

instance : Form Event where
  toJson event := .tagged event.title.1 (.ofMembers (event.title.2.zip event.values))
  ofJson? document := do
    let (tag, some fields) ← document.variant? | none
    match tag with
    | "AuctionOpened" => do
      let [name, organizer, endTime] ← fields.record? ["name", "organizer", "end_time"] | none
      some (.opened (← field? name) (← field? organizer) (← field? endTime))
    | "BidPlaced" => do
      let [name, bidder, deposit] ← fields.record? ["name", "bidder", "deposit"] | none
      some (.bidPlaced (← field? name) (← field? bidder) (← field? deposit))
    | "BidRevealed" => do
      let [name, bidder, amount, isTop] ←
        fields.record? ["name", "bidder", "amount", "top_bid"] | none
      some (.bidRevealed (← field? name) (← field? bidder) (← field? amount) (← field? isTop))
    | "RegistryRenewed" => do
      let [name, fee, endTime] ← fields.record? ["name", "fee", "end_time"] | none
      some (.renewed (← field? name) (← field? fee) (← field? endTime))
    | "OwnerUpdated" => do
      let [name, oldOwner, newOwner] ←
        fields.record? ["name", "old_owner", "new_owner"] | none
      some (.ownerChanged (← field? name) (← field? oldOwner) (← field? newOwner))
    | "SubNameRegistered" => do
      let [name, account] ← fields.record? ["name", "address"] | none
      some (.subNameSet (← field? name) (← field? account))
    | "SubNameUnregistered" => do
      let [name, account] ← fields.record? ["name", "address"] | none
      some (.subNameCleared (← field? name) (← field? account))
    | "RevealStarted" => do
      let [name, endTime] ← fields.record? ["name", "end_time"] | none
      some (.revealStarted (← field? name) (← field? endTime))
    | "AuctionClosed" => do
      let [name] ← fields.record? ["name"] | none
      some (.closed (← field? name))
    | "AuctionSettled" => do
      let [name, owner, amount, endTime] ←
        fields.record? ["name", "owner", "amount", "end_time"] | none
      some (.settled (← field? name) (← field? owner) (← field? amount) (← field? endTime))
    | "BidSlashed" => do
      let [name, bidder, deposit] ← fields.record? ["name", "bidder", "deposit"] | none
      some (.slashed (← field? name) (← field? bidder) (← field? deposit))
    | "RegistryExpired" => do
      let [name, owner] ← fields.record? ["name", "owner"] | none
      some (.expired (← field? name) (← field? owner))
    | _ => none

instance : Form LogEntry where
  toJson entry := .ofMembers [
    ("time", toJson entry.time),
    ("event", toJson entry.event),
    ("prev_event_hash", toJson entry.previous),
    ("event_hash", toJson entry.digest)]
  ofJson? document := do
    let [time, event, previous, digest] ←
      document.record? ["time", "event", "prev_event_hash", "event_hash"] | none
    some ⟨← field? time, ← field? event, ← field? previous, ← field? digest⟩

end NameAuction
