import NameAuction.Binary.Basic
import NameAuction.Auction

/-!
# Records as bytes

The layouts of the records that the store holds.
-/

namespace NameAuction

open Layout

instance : Layout Phase where
  write
    | .bid => writeTag 0
    | .reveal => writeTag 1
  read := do
    match ← readTag with
    | 0 => pure .bid
    | 1 => pure .reveal
    | _ => refuse

instance : Layout TopBid := via (fun top => (top.bidder, top.amount)) fun (bidder, amount) =>
  ⟨bidder, amount⟩

instance : Layout Auction :=
  via (fun auction => (auction.name, auction.phase, auction.endTime, auction.topBid))
    fun (name, phase, endTime, topBid) => ⟨name, phase, endTime, topBid⟩

instance : Layout Bid := via (fun bid => (bid.commitment, bid.deposit, bid.bidder))
  fun (commitment, deposit, bidder) => ⟨commitment, deposit, bidder⟩

instance : Layout Registration := via (fun reg => (reg.name, reg.owner, reg.endTime))
  fun (name, owner, endTime) => ⟨name, owner, endTime⟩

end NameAuction
