/-!
# JSON documents

A document as its parser delivers it.  Documents here carry natural numbers; any other number keeps its
literal, so that it can stand where nothing is read from it.  The same holds for a string literal that
spells half of a surrogate pair: it names no text, but a field that is ignored may hold one.
-/

namespace NameAuction

namespace Json

/-- What a string literal spells. -/
inductive Literal
  | text (text : String)
  /-- The inside of a literal that spells half of a surrogate pair. -/
  | broken (body : String)
deriving DecidableEq

end Json

inductive Json
  | null
  | bool (value : Bool)
  | nat (value : Nat)
  /-- The literal of a number that is negative or has a fraction or an exponent. -/
  | number (literal : String)
  | str (literal : Json.Literal)
  | arr (items : List Json)
  | obj (members : List (Json.Literal × Json))

namespace Json

instance : Inhabited Json := ⟨null⟩

def text (text : String) : Json := .str (.text text)

def ofMembers (members : List (String × Json)) : Json :=
  .obj (members.map fun member => (.text member.1, member.2))

/-! ### Records and variants

A record is an object, or an array of its values in order.  A member of another name is ignored, and
each name of the record may come once.  A variant is its bare name, or an object of one member that has
the name as its key. -/

def Literal.text? : Literal → Option String
  | .text spelt => some spelt
  | .broken _ => none

/-- The value of one name of a record; `none` where the name comes twice, `some none` where it is
missing. -/
def member? (name : String) (members : List (Literal × Json)) : Option (Option Json) :=
  match members.filter fun member => member.1 = .text name with
  | [] => some none
  | [(_, value)] => some (some value)
  | _ => none

/-- The values of a record, in the order of `names`; a missing one is `none`. -/
def record? (names : List String) : Json → Option (List (Option Json))
  | .arr items => if items.length = names.length then some (items.map some) else none
  | .obj members =>
    if members.all fun member => member.1.text?.isSome then
      names.mapM fun name => member? name members
    else none
  | _ => none

/-- The name of a variant and what comes with it. -/
def variant? : Json → Option (String × Option Json)
  | .str (.text name) => some (name, none)
  | .obj [(.text name, value)] => some (name, some value)
  | _ => none

end Json

end NameAuction
