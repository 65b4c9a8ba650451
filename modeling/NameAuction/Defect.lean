/-!
# Defects

A defect is a broken promise inside the program, not a fault of its input: a division by zero, a
difference below zero, a name cut into levels that it has not got.  The functions that could meet one
say so in their result, so that it can be stated, and proved, that none ever does.
-/

namespace NameAuction

inductive Defect
  /-- A name that was not checked to have two or three levels. -/
  | levelCount (name : String) (levels : Nat)
  | divisionByZero
  | negativeDifference
  | numberTooLarge
  /-- A sweep that did not reach the end of its queue. -/
  | unfinishedSweep
deriving DecidableEq

def Defect.message : Defect → String
  | .levelCount name levels =>
    "name " ++ name ++ " must have 2 or 3 levels, has " ++ Nat.repr levels
  | .divisionByZero => "attempt to divide by zero"
  | .negativeDifference => "attempt to subtract with overflow"
  | .numberTooLarge => "number out of range"
  | .unfinishedSweep => "sweep did not finish"

end NameAuction
