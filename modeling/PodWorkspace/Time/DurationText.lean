import PodWorkspace.Time.Duration

/-! Durations as users write them: segments such as `1h30m` or `1.5s`, each a number directly
followed by its unit. `Duration.parse` says which text is refused and why. -/

namespace PodWorkspace

namespace Duration

/-- Why a text is no duration. The texts are without white space at their ends. -/
inductive ParseError where
  | empty
  | invalid (text : String)
  | missingUnit (text : String)
  | unknownUnit (unit text : String)
  deriving DecidableEq, Repr

def ParseError.message : ParseError → String
  | .empty => "empty duration"
  | .invalid text => s!"invalid duration '{text}'"
  | .missingUnit text => s!"missing unit in duration '{text}'"
  | .unknownUnit unit text => s!"unknown unit '{unit}' in duration '{text}'"

/-- The units, in nanoseconds. -/
def unitNanos? (unit : List Char) : Option Float :=
  match String.ofList unit with
  | "ns" => some 1.0
  | "us" | "µs" => some 1e3
  | "ms" => some 1e6
  | "s" => some 1e9
  | "m" => some (60.0 * 1e9)
  | "h" => some (3600.0 * 1e9)
  | _ => none

/-- The characters of a number: ASCII digits and points. -/
def isNumberChar (c : Char) : Bool := c.isDigit || c == '.'

/-- Digits with at most one point and at least one digit. -/
def isNumber (cs : List Char) : Bool :=
  cs.any Char.isDigit && cs.count '.' ≤ 1

/-- The value of a number: its digits, moved by the digits after the point. -/
def numberValue (cs : List Char) : Float :=
  let digits := cs.filter Char.isDigit
  let places := (cs.dropWhile (· != '.')).length - 1
  Float.ofScientific (Text.natOfDecimals digits) true places

theorem length_dropWhile_le {α : Type} (p : α → Bool) (cs : List α) :
    (cs.dropWhile p).length ≤ cs.length :=
  (List.dropWhile_suffix p).length_le

/-- The nanoseconds of the segments of `cs` added to `total`; `text` is what the user wrote. -/
def sumSegments (text : String) (total : Float) (cs : List Char) : Except ParseError Float :=
  match cs with
  | [] => .ok total
  | c :: rest =>
    if isNumberChar c then
      let number := c :: rest.takeWhile isNumberChar
      let afterNumber := rest.dropWhile isNumberChar
      if isNumber number then
        let unit := afterNumber.takeWhile fun c => !isNumberChar c
        if unit.isEmpty then .error (.missingUnit text)
        else
          match unitNanos? unit with
          | none => .error (.unknownUnit (String.ofList unit) text)
          | some nanos =>
            sumSegments text (total + numberValue number * nanos)
              (afterNumber.dropWhile fun c => !isNumberChar c)
      else .error (.invalid text)
    else .error (.invalid text)
termination_by cs.length
decreasing_by
  simp only [List.length_cons]
  exact Nat.lt_succ_of_le (Nat.le_trans (length_dropWhile_le _ _) (length_dropWhile_le _ _))

/-- The duration that a text stands for. The sum is rounded to nanoseconds, a half away from
zero, and kept within 64 bits. -/
def parse (raw : String) : Except ParseError Duration :=
  let text := Text.trim raw
  if text = "" then .error .empty
  else if text = "0" then .ok ⟨0⟩
  else (sumSegments text 0.0 text.toList).map fun total => ⟨total.round.toUInt64.toNat⟩

end Duration

end PodWorkspace
