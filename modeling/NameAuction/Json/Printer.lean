import NameAuction.Json.Basic

/-!
# Writing JSON

Two layouts: `compact` puts no blanks between tokens, and `pretty` gives every item and member a line of
its own, two spaces deeper than its bracket.  A string keeps all characters but the quotation mark, the
backslash and the controls.
-/

namespace NameAuction.Json

def escapeChar (c : Char) : List Char :=
  if c = '"' then ['\\', '"']
  else if c = '\\' then ['\\', '\\']
  else if c = '\x08' then ['\\', 'b']
  else if c = '\x0c' then ['\\', 'f']
  else if c = '\n' then ['\\', 'n']
  else if c = '\r' then ['\\', 'r']
  else if c = '\t' then ['\\', 't']
  else if c.toNat < 0x20 then
    ['\\', 'u', '0', '0', Nat.digitChar (c.toNat / 16), Nat.digitChar (c.toNat % 16)]
  else [c]

def Literal.write : Literal → List Char
  | .text spelt => '"' :: spelt.toList.flatMap escapeChar ++ ['"']
  | .broken body => '"' :: body.toList ++ ['"']

mutual

/-- A document without blanks between its tokens. -/
def write : Json → List Char
  | .null => ['n', 'u', 'l', 'l']
  | .bool true => ['t', 'r', 'u', 'e']
  | .bool false => ['f', 'a', 'l', 's', 'e']
  | .nat value => Nat.toDigits 10 value
  | .number literal => literal.toList
  | .str literal => literal.write
  | .arr items => '[' :: writeItems items ++ [']']
  | .obj members => '\x7b' :: writeMembers members ++ ['\x7d']
termination_by structural document => document

def writeItems : List Json → List Char
  | [] => []
  | [item] => item.write
  | item :: items => item.write ++ ',' :: writeItems items
termination_by structural items => items

def writeMembers : List (Literal × Json) → List Char
  | [] => []
  | [(key, value)] => key.write ++ ':' :: value.write
  | (key, value) :: members => key.write ++ ':' :: value.write ++ ',' :: writeMembers members
termination_by structural members => members

end

def compact (document : Json) : String := String.ofList document.write

/-! ### One line for each item -/

/-- The end of a line, and the indentation of the next one. -/
def newLine (depth : Nat) : List Char := '\n' :: List.replicate (2 * depth) ' '

mutual

/-- A document whose brackets stand at some depth. -/
def writeLines (depth : Nat) : Json → List Char
  | .arr [] => ['[', ']']
  | .arr items => '[' :: linesOfItems (depth + 1) items ++ newLine depth ++ [']']
  | .obj [] => ['\x7b', '\x7d']
  | .obj members => '\x7b' :: linesOfMembers (depth + 1) members ++ newLine depth ++ ['\x7d']
  | .null => ['n', 'u', 'l', 'l']
  | .bool true => ['t', 'r', 'u', 'e']
  | .bool false => ['f', 'a', 'l', 's', 'e']
  | .nat value => Nat.toDigits 10 value
  | .number literal => literal.toList
  | .str literal => literal.write
termination_by structural document => document

def linesOfItems (depth : Nat) : List Json → List Char
  | [] => []
  | [item] => newLine depth ++ writeLines depth item
  | item :: items => newLine depth ++ writeLines depth item ++ ',' :: linesOfItems depth items
termination_by structural items => items

def linesOfMembers (depth : Nat) : List (Literal × Json) → List Char
  | [] => []
  | [(key, value)] => newLine depth ++ key.write ++ ':' :: ' ' :: writeLines depth value
  | (key, value) :: members =>
    newLine depth ++ key.write ++ ':' :: ' ' :: writeLines depth value
      ++ ',' :: linesOfMembers depth members
termination_by structural members => members

end

def pretty (document : Json) : String := String.ofList (writeLines 0 document)

end NameAuction.Json
