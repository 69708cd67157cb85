import PodWorkspace.Text.Digits

/-! JSON values as they are written: numbers keep their spelling, and objects keep the order of
their members, also of members with equal names. -/

namespace PodWorkspace

/-- A JSON value. A string literal that names half of a surrogate pair denotes no text; it is
`text none`, and a member with such a name has the name `none`. -/
inductive Json where
  | null
  | bool (b : Bool)
  | number (literal : String)
  | text (s : Option String)
  | list (items : List Json)
  | object (members : List (Option String × Json))
  deriving Inhabited, Repr

namespace Json

def ofText (s : String) : Json := .text (some s)

def ofMembers (members : List (String × Json)) : Json :=
  .object (members.map fun m => (some m.1, m.2))

def ofTexts (texts : List String) : Json :=
  .list (texts.map ofText)

def ofInt (n : Int) : Json := .number (toString n)

def ofNat (n : Nat) : Json := .number (toString n)

def members : Json → List (String × Json)
  | .object ms => ms.filterMap fun m => m.1.map fun name => (name, m.2)
  | _ => []

def get? (name : String) (v : Json) : Option Json :=
  v.members.reverse.lookup name

def items : Json → List Json
  | .list xs => xs
  | _ => []

def text? : Json → Option String
  | .text s => s
  | _ => none

def bool? : Json → Option Bool
  | .bool b => some b
  | _ => none

/-- The integer that a number literal spells without point and exponent. `-0` is not one: it is
the negative zero, which only fractions have. -/
def int? : Json → Option Int
  | .number literal =>
    match literal.toList with
    | '-' :: ds => if ds.all Char.isDigit && ds != ['0'] then some (-(Text.natOfDecimals ds : Int)) else none
    | ds => if ds.all Char.isDigit then some (Text.natOfDecimals ds : Int) else none
  | _ => none

end Json

end PodWorkspace
