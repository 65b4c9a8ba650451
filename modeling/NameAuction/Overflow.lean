/-!
# Overflow

The sums and products whose exact result can leave the range of its type.  Each of them is checked, and
a failure names the place.
-/

namespace NameAuction

/-- The place where an exact result did not fit. -/
inductive Overflow
  | coinAddition
  | timestamp
  | renewalTotal
  | renewalExtension
deriving DecidableEq

def Overflow.place : Overflow → String
  | .coinAddition => "coin addition"
  | .timestamp => "timestamp"
  | .renewalTotal => "renewal fee total"
  | .renewalExtension => "renewal extension"

end NameAuction
