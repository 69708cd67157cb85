import PodWorkspace.Json.Basic

/-! Documents as JSON or YAML text gives them, before the place where a value stands has said how
to read it. A quoted scalar of YAML is a text; a plain one is kept as it is written, since `1` is a
text where a text is wanted and a number where a number is wanted. -/

namespace PodWorkspace

/-- A document. A member whose name is no scalar has the name `none`. -/
inductive Document where
  | null
  | bool (b : Bool)
  | number (literal : String)
  | text (s : Option String)
  | plain (s : String)
  | list (items : List Document)
  | map (members : List (Option String × Document))
  deriving Inhabited, Repr

namespace Document

mutual

def ofJson : Json → Document
  | .null => .null
  | .bool b => .bool b
  | .number literal => .number literal
  | .text s => .text s
  | .list items => .list (ofItems items)
  | .object members => .map (ofMembers members)

def ofItems : List Json → List Document
  | [] => []
  | x :: xs => ofJson x :: ofItems xs

def ofMembers : List (Option String × Json) → List (Option String × Document)
  | [] => []
  | (name, x) :: ms => (name, ofJson x) :: ofMembers ms

end

def isNullWord (s : String) : Bool :=
  s == "" || s == "~" || s == "null" || s == "Null" || s == "NULL"

/-- Whether a document stands for an absent value where one may be absent. -/
def isAbsent : Document → Bool
  | .null => true
  | .plain s => isNullWord s
  | _ => false

/-- A text: a string literal, or a plain scalar whatever it looks like. -/
def text? : Document → Option String
  | .text s => s
  | .plain s => some s
  | _ => none

/-- A boolean, which a quoted scalar never is. -/
def bool? : Document → Option Bool
  | .bool b => some b
  | .plain "true" | .plain "True" | .plain "TRUE" => some true
  | .plain "false" | .plain "False" | .plain "FALSE" => some false
  | _ => none

/-- The number that a plain scalar without sign spells: in decimal without a leading zero, or in
one of the bases that a mark in front names. -/
def plainNat? : List Char → Option Nat
  | '0' :: 'x' :: ds => Text.natOfDigits? 16 ds
  | '0' :: 'o' :: ds => Text.natOfDigits? 8 ds
  | '0' :: 'b' :: ds => Text.natOfDigits? 2 ds
  | ['0'] => some 0
  | '0' :: _ => none
  | ds => Text.natOfDigits? 10 ds

def plainInt? (s : String) : Option Int :=
  match s.toList with
  | '-' :: ds => (plainNat? ds).map fun n => -(n : Int)
  | '+' :: ds => (plainNat? ds).map fun n => (n : Int)
  | ds => (plainNat? ds).map fun n => (n : Int)

/-- Whether a plain scalar spells a number with a fraction or an exponent, or one of the words for
numbers that are none. -/
def isPlainFraction (s : String) : Bool :=
  let unsigned := match s.toList with
    | '-' :: cs | '+' :: cs => cs
    | cs => cs
  let isWord := ["inf", "Inf", "INF"].any fun w => unsigned == '.' :: w.toList
  let whole := unsigned.takeWhile Char.isDigit
  let rest := unsigned.dropWhile Char.isDigit
  let (fraction, rest) := match rest with
    | '.' :: cs => (cs.takeWhile Char.isDigit, cs.dropWhile Char.isDigit)
    | cs => ([], cs)
  let isExponent := match rest with
    | [] => true
    | e :: cs =>
      let ds := match cs with
        | '-' :: ds | '+' :: ds => ds
        | ds => ds
      (e == 'e' || e == 'E') && !ds.isEmpty && ds.all Char.isDigit
  isWord || [".nan", ".NaN", ".NAN"].contains s ||
    (!(whole.isEmpty && fraction.isEmpty) && isExponent)

def int? : Document → Option Int
  | .number literal => (Json.number literal).int?
  | .plain s => plainInt? s
  | _ => none

/-- Whether a number is an integer of `bits` bits with sign. -/
def hasWidth (bits : Nat) (n : Int) : Bool :=
  let half : Int := Int.ofNat (Nat.pow 2 (bits - 1))
  0 ≤ n + half && n < half

def intOfWidth? (bits : Nat) (d : Document) : Option Int := d.int?.filter (hasWidth bits)

/-- The items of a list, which an empty plain scalar has none of. -/
def list? : Document → Option (List Document)
  | .list items => some items
  | .plain "" => some []
  | _ => none

/-- The members with names, in their order. -/
def namedMembers? : List (Option String × Document) → Option (List (String × Document))
  | [] => some []
  | (none, _) :: _ => none
  | (some name, d) :: rest => (namedMembers? rest).map ((name, d) :: ·)

/-- The members of a map, which an empty plain scalar has none of. -/
def members? : Document → Option (List (String × Document))
  | .map members => namedMembers? members
  | .plain "" => some []
  | _ => none

end Document

end PodWorkspace
