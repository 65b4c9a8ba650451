import NameAuction.Genesis.Basic
import NameAuction.Json.Form

/-!
# Records as JSON documents

The documents of the records that a registrar keeps, of its parameters, and of a genesis.
-/

namespace NameAuction

open Form

instance : Form Phase where
  toJson
    | .bid => .tag "Bid"
    | .reveal => .tag "Reveal"
  ofJson? document :=
    match document.variant? with
    | some ("Bid", none) | some ("Bid", some .null) => some .bid
    | some ("Reveal", none) | some ("Reveal", some .null) => some .reveal
    | _ => none

instance : Form TopBid where
  toJson top := .ofMembers [("bidder", toJson top.bidder), ("amount", toJson top.amount)]
  ofJson? document := do
    let [bidder, amount] ← document.record? ["bidder", "amount"] | none
    some ⟨← field? bidder, ← field? amount⟩

instance : Form Auction where
  toJson auction := .ofMembers [
    ("name", toJson auction.name),
    ("status", toJson auction.phase),
    ("end_time", toJson auction.endTime),
    ("top_bid", toJson auction.topBid)]
  ofJson? document := do
    let [name, phase, endTime, topBid] ←
      document.record? ["name", "status", "end_time", "top_bid"] | none
    some ⟨← field? name, ← field? phase, ← field? endTime, ← field? topBid⟩

instance : Form Bid where
  toJson bid := .ofMembers [
    ("hash", toJson bid.commitment),
    ("deposit", toJson bid.deposit),
    ("bidder", toJson bid.bidder)]
  ofJson? document := do
    let [commitment, deposit, bidder] ← document.record? ["hash", "deposit", "bidder"] | none
    some ⟨← field? commitment, ← field? deposit, ← field? bidder⟩

instance : Form Registration where
  toJson registration := .ofMembers [
    ("name", toJson registration.name),
    ("owner", toJson registration.owner),
    ("end_time", toJson registration.endTime)]
  ofJson? document := do
    let [name, owner, endTime] ← document.record? ["name", "owner", "end_time"] | none
    some ⟨← field? name, ← field? owner, ← field? endTime⟩

instance : Form FeeRow where
  toJson row := .ofMembers [("length", toJson row.length), ("amount", toJson row.amount)]
  ofJson? document := do
    let [length, amount] ← document.record? ["length", "amount"] | none
    some ⟨← field? length, ← field? amount⟩

instance : Form FeeTable where
  toJson table := toJson table.rows
  ofJson? document := (list? document).map FeeTable.mk

instance : Form Params where
  toJson params := .ofMembers [
    ("bid_period", toJson params.bidPeriod),
    ("reveal_period", toJson params.revealPeriod),
    ("renewal_interval", toJson params.renewalInterval),
    ("min_deposit", toJson params.minDeposit),
    ("root_name", toJson params.root),
    ("min_name_length", toJson params.minNameLength),
    ("renewal_fees", toJson params.fees)]
  ofJson? document := do
    let [bidPeriod, revealPeriod, renewalInterval, minDeposit, root, minNameLength, fees] ←
      document.record? ["bid_period", "reveal_period", "renewal_interval", "min_deposit",
        "root_name", "min_name_length", "renewal_fees"] | none
    some ⟨← field? bidPeriod, ← field? revealPeriod, ← field? renewalInterval,
      ← field? minDeposit, ← field? root, ← field? minNameLength, ← field? fees⟩

instance : Form PlacedBid where
  toJson placed := .ofMembers [("name_hash", toJson placed.id), ("bid", toJson placed.bid)]
  ofJson? document := do
    let [id, bid] ← document.record? ["name_hash", "bid"] | none
    some ⟨← field? id, ← field? bid⟩

instance : Form Resolution where
  toJson resolution := .ofMembers [
    ("name_hash", toJson resolution.id),
    ("child_hash", toJson resolution.child),
    ("address", toJson resolution.account)]
  ofJson? document := do
    let [id, child, account] ← document.record? ["name_hash", "child_hash", "address"] | none
    some ⟨← field? id, ← field? child, ← field? account⟩

instance : Form Genesis where
  toJson genesis := .ofMembers [
    ("params", toJson genesis.params),
    ("auctions", toJson genesis.auctions),
    ("bids", toJson genesis.bids),
    ("registries", toJson genesis.registrations),
    ("resolves", toJson genesis.resolutions)]
  ofJson? document := do
    let [params, auctions, bids, registrations, resolutions] ←
      document.record? ["params", "auctions", "bids", "registries", "resolves"] | none
    some ⟨← field? params, ← field? auctions, ← field? bids, ← field? registrations,
      ← field? resolutions⟩

/-- Parameters from a document; they must be usable. -/
def Params.ofText (text : String) : Except ParamsFault Params := do
  let params : Params ← demand (Form.ofText? text) .unreadable
  params.check
  return params

end NameAuction
