import PodWorkspace.Failure

/-! Amounts such as `10Gi`, `500m` or `1e3`: a number with an optional sign and point, then a unit
or an exponent. An amount is kept as the user wrote it. -/

namespace PodWorkspace.Manifest

/-- The units, decimal and binary. -/
def quantityUnits : List String :=
  ["n", "u", "m", "k", "M", "G", "T", "P", "E", "Ki", "Mi", "Gi", "Ti", "Pi", "Ei"]

/-- `cs` without one sign in front. -/
def dropSign : List Char → List Char
  | '+' :: cs | '-' :: cs => cs
  | cs => cs

/-- An exponent: a letter, an optional sign and at least one digit. -/
def isExponent : List Char → Bool
  | 'e' :: cs | 'E' :: cs => !(dropSign cs).isEmpty && (dropSign cs).all Char.isDigit
  | _ => false

/-- Whether a text without white space at its ends is an amount. -/
def isQuantity (cs : List Char) : Bool :=
  let number := (dropSign cs).takeWhile fun c => c.isDigit || c == '.'
  let unit := (dropSign cs).dropWhile fun c => c.isDigit || c == '.'
  number.any Char.isDigit && number.count '.' ≤ 1 &&
    (unit.isEmpty || quantityUnits.contains (String.ofList unit) || isExponent unit)

def parseQuantity (option raw : String) : Except Failure String :=
  if isQuantity (Text.trimChars raw.toList) then .ok (Text.trim raw)
  else .error (.configuration option s!"invalid quantity '{raw}'")

end PodWorkspace.Manifest
