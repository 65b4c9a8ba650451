import NameAuction.Text.Unprintable

/-!
# Quoted text

A text in quotation marks, as messages show it: the mark itself and the backslash take a backslash
before them, four controls have short names, and a character that has no picture of its own is
written as its number in hexadecimal.
-/

namespace NameAuction.Text

/-- One character of a text that stands between two marks `quote`. -/
def escape (quote c : Char) : List Char :=
  if c = '\x00' then ['\\', '0']
  else if c = '\t' then ['\\', 't']
  else if c = '\r' then ['\\', 'r']
  else if c = '\n' then ['\\', 'n']
  else if c = '\\' ∨ c = quote then ['\\', c]
  else if isUnprintable c then ['\\', 'u', '\x7b'] ++ Nat.toDigits 16 c.toNat ++ ['\x7d']
  else [c]

def quotedBetween (quote : Char) (cs : List Char) : String :=
  String.ofList (quote :: cs.flatMap (escape quote) ++ [quote])

/-- A text in double marks; a single mark stays as it is. -/
def quoted (text : String) : String := quotedBetween '"' text.toList

/-- A character in single marks; a double mark stays as it is. -/
def quotedChar (c : Char) : String := quotedBetween '\'' [c]

end NameAuction.Text
