import NameAuction.Binary.Basic
import NameAuction.Event.Basic

/-!
# Events as bytes

The number of the event comes first and then its fields.
-/

namespace NameAuction

open Layout

instance : Layout Event where
  write
    | .opened name organizer endTime => writeTag 0 ++ write (name, organizer, endTime)
    | .bidPlaced name bidder deposit => writeTag 1 ++ write (name, bidder, deposit)
    | .bidRevealed name bidder amount isTop => writeTag 2 ++ write (name, bidder, amount, isTop)
    | .renewed name fee endTime => writeTag 3 ++ write (name, fee, endTime)
    | .ownerChanged name oldOwner newOwner => writeTag 4 ++ write (name, oldOwner, newOwner)
    | .subNameSet name account => writeTag 5 ++ write (name, account)
    | .subNameCleared name account => writeTag 6 ++ write (name, account)
    | .revealStarted name endTime => writeTag 7 ++ write (name, endTime)
    | .closed name => writeTag 8 ++ write name
    | .settled name owner amount endTime => writeTag 9 ++ write (name, owner, amount, endTime)
    | .slashed name bidder deposit => writeTag 10 ++ write (name, bidder, deposit)
    | .expired name owner => writeTag 11 ++ write (name, owner)
  read := do
    match ← readTag with
    | 0 => return .opened (← read) (← read) (← read)
    | 1 => return .bidPlaced (← read) (← read) (← read)
    | 2 => return .bidRevealed (← read) (← read) (← read) (← read)
    | 3 => return .renewed (← read) (← read) (← read)
    | 4 => return .ownerChanged (← read) (← read) (← read)
    | 5 => return .subNameSet (← read) (← read)
    | 6 => return .subNameCleared (← read) (← read)
    | 7 => return .revealStarted (← read) (← read)
    | 8 => return .closed (← read)
    | 9 => return .settled (← read) (← read) (← read) (← read)
    | 10 => return .slashed (← read) (← read) (← read)
    | 11 => return .expired (← read) (← read)
    | _ => refuse

end NameAuction
