import NameAuction.Id
import NameAuction.Defect
import NameAuction.Hash.Sha256
import NameAuction.Text.Normal
import NameAuction.Text.Quoted

/-!
# Names

A name is a text of labels with dots between them.  The last label is the root, the one before it is
what gets auctioned, and a third one in front names something below it.  `Name.check` says whether a
text is a proper name; `parts`, `ids` and `secondLevel` are for names of two or three levels and report
a defect for any other.
-/

namespace NameAuction

structure Name where
  text : String
deriving DecidableEq

inductive NameFlaw
  | empty
  | tooLong
  | emptyLabel
  | longLabel
  | notNormal
  | auctionLevels
  | registrationLevels
  | registerLevels
  | unregisterLevels
  /-- A query that takes names of the listed numbers of levels only. -/
  | queryLevels (allowed : List Nat)
deriving DecidableEq

def NameFlaw.message : NameFlaw → String
  | .empty => "empty name"
  | .tooLong => "name longer than 255 bytes"
  | .emptyLabel => "empty label"
  | .longLabel => "label longer than 63 bytes"
  | .notNormal => "name is not in normalized form"
  | .auctionLevels => "only second level name is accepted for auction"
  | .registrationLevels => "only second level name is accepted for registry"
  | .registerLevels => "only the second or third level name is accepted for register"
  | .unregisterLevels => "only the second or third level name is accepted for unregister"
  | .queryLevels allowed =>
    "expected [" ++ String.intercalate ", " (allowed.map Nat.repr) ++ "] levels"

/-- The pieces of a text between its dots; a text without a dot is one piece. -/
def splitDots : List Char → List (List Char)
  | [] => [[]]
  | c :: rest =>
    if c = '.' then [] :: splitDots rest
    else
      match splitDots rest with
      | piece :: pieces => (c :: piece) :: pieces
      | [] => [[c]]

def NameId.ofText (text : String) : NameId := ⟨Hash.shortDigest (Bytes.ofText text)⟩

namespace Name

instance : ToString Name := ⟨Name.text⟩

/-- The name in quotation marks, as listings for a reader show it. -/
def inspect (name : Name) : String := "Name(" ++ Text.quoted name.text ++ ")"

def maxLength : Nat := 255

def maxLabelLength : Nat := 63

def labels (name : Name) : List String := (splitDots name.text.toList).map String.ofList

def levels (name : Name) : Nat := name.labels.length

/-- The flaw of a label, if it has one; lengths are in bytes. -/
def labelFlaw? (label : String) : Option NameFlaw :=
  if label.isEmpty then some .emptyLabel
  else if label.utf8ByteSize > maxLabelLength then some .longLabel
  else none

/-- What is wrong with a name: the name as a whole is looked at first, then its labels from the left,
and last its spelling. -/
def check (name : Name) : Except NameFlaw Unit :=
  if name.text.isEmpty then .error .empty
  else if name.text.utf8ByteSize > maxLength then .error .tooLong
  else
    match name.labels.findSome? labelFlaw? with
    | some flaw => .error flaw
    | none => if Text.isNormal name.text then .ok () else .error .notNormal

/-- The labels of a name of two or three levels; the child of a two-level name is empty. -/
structure Parts where
  root : String
  parent : String
  child : String
deriving DecidableEq

def parts (name : Name) : Except Defect Parts :=
  match name.labels with
  | [parent, root] => .ok ⟨root, parent, ""⟩
  | [child, parent, root] => .ok ⟨root, parent, child⟩
  | labels => .error (.levelCount name.text labels.length)

/-- The text of the second-level name that the parts belong to. -/
def Parts.secondLevel (parts : Parts) : String := parts.parent ++ "." ++ parts.root

def ids (name : Name) : Except Defect (NameId × NameId) :=
  name.parts.map fun parts => (.ofText parts.secondLevel, .ofText parts.child)

def id (name : Name) : Except Defect NameId :=
  name.parts.map fun parts => .ofText parts.secondLevel

/-- The second-level name that a name is or belongs to. -/
def secondLevel (name : Name) : Except Defect Name :=
  name.parts.map fun parts => ⟨parts.secondLevel⟩

end Name

end NameAuction
