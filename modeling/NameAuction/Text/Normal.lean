import NameAuction.Text.NormalData

/-!
# The composed normal form

Text has many spellings for one string of letters: a letter with an accent is one character or two.
The composed normal form takes every character apart, puts the marks of each letter into the order of
their classes, and joins what can be joined.  `isNormal` asks whether a text is already so written.
-/

namespace NameAuction.Text

/-! ### Hangul

A syllable is a leading consonant, a vowel and perhaps a trailing consonant, and its code point is
computed from theirs. -/

def hangulBase : Nat := 0xac00

def leadBase : Nat := 0x1100

def vowelBase : Nat := 0x1161

/-- One below the first trailing consonant, so that trail number zero means none. -/
def trailBase : Nat := 0x11a7

def vowelCount : Nat := 21

def trailCount : Nat := 28

def leadCount : Nat := 19

def syllableCount : Nat := leadCount * vowelCount * trailCount

def splitSyllable (n : Nat) : List Nat :=
  let index := n - hangulBase
  let lead := leadBase + index / (vowelCount * trailCount)
  let vowel := vowelBase + index % (vowelCount * trailCount) / trailCount
  let trail := index % trailCount
  if trail = 0 then [lead, vowel] else [lead, vowel, trailBase + trail]

def isSyllable (n : Nat) : Bool := hangulBase ≤ n && n < hangulBase + syllableCount

def joinSyllable? (first second : Nat) : Option Nat :=
  if leadBase ≤ first ∧ first < leadBase + leadCount
      ∧ vowelBase ≤ second ∧ second < vowelBase + vowelCount then
    some (hangulBase + ((first - leadBase) * vowelCount + (second - vowelBase)) * trailCount)
  else if isSyllable first ∧ (first - hangulBase) % trailCount = 0
      ∧ trailBase < second ∧ second < trailBase + trailCount then
    some (first + (second - trailBase))
  else none

/-! ### One character -/

/-- The class of a mark; letters and everything else that stands by itself have class zero. -/
def markClass (n : Nat) : Nat :=
  if n < 0x300 then 0
  else
    match markClasses.find? fun range => range.1 ≤ n && n ≤ range.2.1 with
    | some range => range.2.2
    | none => 0

def splitOnce (n : Nat) : List Nat :=
  match composites.find? (·.1 = n) with
  | some (_, first, second) => [first, second]
  | none =>
    match splitOnly.find? (·.1 = n) with
    | some (_, first, second) => [first, second]
    | none =>
      match (equivalents ++ ideographEquivalents).find? (·.1 = n) with
      | some (_, other) => [other]
      | none => [n]

/-- What a character stands for, taken apart up to `depth` times. -/
def splitTo : (depth : Nat) → Nat → List Nat
  | 0, n => [n]
  | depth + 1, n =>
    if n < 0xc0 then [n]
    else if isSyllable n then splitSyllable n
    else if splitOnce n = [n] then [n]
    else (splitOnce n).flatMap (splitTo depth)

/-- What a character stands for; no entry of the data needs more than four steps. -/
def split (n : Nat) : List Nat := splitTo 4 n

/-- The character that composition puts for two. -/
def join? (first second : Nat) : Option Nat :=
  if second < 0x300 then none
  else
    match joinSyllable? first second with
    | some joined => some joined
    | none => (composites.find? fun entry => entry.2.1 = first && entry.2.2 = second).map (·.1)

/-! ### Whole texts -/

/-- A character before a text whose marks are in order: it moves right past marks of smaller class. -/
def insertMark (n : Nat) : List Nat → List Nat
  | [] => [n]
  | m :: rest =>
    if 0 < markClass m ∧ markClass m < markClass n then m :: insertMark n rest else n :: m :: rest

def orderMarks (ns : List Nat) : List Nat := ns.foldr insertMark []

/-- Joins what follows the letter `letter`, some of whose marks could not be joined. -/
def joinFrom (letter : Nat) (marks : List Nat) : List Nat → List Nat
  | [] => letter :: marks
  | n :: rest =>
    let free := match marks.getLast? with
      | none => true
      | some mark => markClass mark < markClass n
    match if free then join? letter n else none with
    | some joined => joinFrom joined marks rest
    | none =>
      if markClass n = 0 then letter :: marks ++ joinFrom n [] rest
      else joinFrom letter (marks ++ [n]) rest

/-- Joins all that can be joined; marks before the first letter stay as they are. -/
def joinAll : List Nat → List Nat
  | [] => []
  | n :: rest => if markClass n = 0 then joinFrom n [] rest else n :: joinAll rest

def normalize (ns : List Nat) : List Nat := joinAll (orderMarks (ns.flatMap split))

def isNormal (text : String) : Bool :=
  let ns := text.toList.map Char.toNat
  normalize ns == ns

end NameAuction.Text
