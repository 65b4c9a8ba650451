import NameAuction.Binary.Record
import NameAuction.Event.Log
import NameAuction.Query

/-!
# Messages as bytes

The layouts of everything that is not held in the store itself: parameters, genesis, commands, queries,
answers and log entries.
-/

namespace NameAuction

open Layout

instance : Layout FeeRow := via (fun row => (row.length, row.amount)) fun (length, amount) =>
  ⟨length, amount⟩

instance : Layout FeeTable := via FeeTable.rows FeeTable.mk

instance : Layout Params :=
  via
    (fun params => (params.bidPeriod, params.revealPeriod, params.renewalInterval,
      params.minDeposit, params.root, params.minNameLength, params.fees))
    fun (bidPeriod, revealPeriod, renewalInterval, minDeposit, root, minNameLength, fees) =>
      ⟨bidPeriod, revealPeriod, renewalInterval, minDeposit, root, minNameLength, fees⟩

instance : Layout PlacedBid := via (fun placed => (placed.id, placed.bid)) fun (id, bid) => ⟨id, bid⟩

instance : Layout Resolution :=
  via (fun resolution => (resolution.id, resolution.child, resolution.account))
    fun (id, child, account) => ⟨id, child, account⟩

instance : Layout Genesis :=
  via
    (fun genesis => (genesis.params, genesis.auctions, genesis.bids, genesis.registrations,
      genesis.resolutions))
    fun (params, auctions, bids, registrations, resolutions) =>
      ⟨params, auctions, bids, registrations, resolutions⟩

instance : Layout Command where
  write
    | .openAuction name organizer => writeTag 0 ++ write (name, organizer)
    | .bid name commitment deposit bidder =>
      writeTag 1 ++ write (name, commitment, deposit, bidder)
    | .reveal name salt amount bidder => writeTag 2 ++ write (name, salt, amount, bidder)
    | .renew name fee owner => writeTag 3 ++ write (name, fee, owner)
    | .changeOwner name newOwner owner => writeTag 4 ++ write (name, newOwner, owner)
    | .setSubName name account owner => writeTag 5 ++ write (name, account, owner)
    | .clearSubName name owner => writeTag 6 ++ write (name, owner)
  read := do
    match ← readTag with
    | 0 => return .openAuction (← read) (← read)
    | 1 => return .bid (← read) (← read) (← read) (← read)
    | 2 => return .reveal (← read) (← read) (← read) (← read)
    | 3 => return .renew (← read) (← read) (← read)
    | 4 => return .changeOwner (← read) (← read) (← read)
    | 5 => return .setSubName (← read) (← read) (← read)
    | 6 => return .clearSubName (← read) (← read)
    | _ => refuse

instance : Layout AuctionFilter where
  write
    | .all => writeTag 0
    | .name name => writeTag 1 ++ write name
    | .phase phase => writeTag 2 ++ write phase
  read := do
    match ← readTag with
    | 0 => return .all
    | 1 => return .name (← read)
    | 2 => return .phase (← read)
    | _ => refuse

instance : Layout Query where
  write
    | .auctions filter => writeTag 0 ++ write filter
    | .bids name bidder => writeTag 1 ++ write (name, bidder)
    | .registration name => writeTag 2 ++ write name
    | .resolution name => writeTag 3 ++ write name
    | .reverse account => writeTag 4 ++ write account
    | .params => writeTag 5
  read := do
    match ← readTag with
    | 0 => return .auctions (← read)
    | 1 => return .bids (← read) (← read)
    | 2 => return .registration (← read)
    | 3 => return .resolution (← read)
    | 4 => return .reverse (← read)
    | 5 => return .params
    | _ => refuse

instance : Layout Answer where
  write
    | .auctions auctions => writeTag 0 ++ write auctions
    | .bids bids => writeTag 1 ++ write bids
    | .registration registration => writeTag 2 ++ write registration
    | .resolution account => writeTag 3 ++ write account
    | .reverse registration => writeTag 4 ++ write registration
    | .params params => writeTag 5 ++ write params
  read := do
    match ← readTag with
    | 0 => return .auctions (← read)
    | 1 => return .bids (← read)
    | 2 => return .registration (← read)
    | 3 => return .resolution (← read)
    | 4 => return .reverse (← read)
    | 5 => return .params (← read)
    | _ => refuse

instance : Layout LogEntry :=
  via (fun entry => (entry.time, entry.event, entry.previous, entry.digest))
    fun (time, event, previous, digest) => ⟨time, event, previous, digest⟩

end NameAuction
