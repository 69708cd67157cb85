import PodWorkspace.Text.Blank
import PodWorkspace.Time.Duration

/-! Points in time as RFC 3339 writes them. Reading is lenient: numbers may have fewer digits than
the standard asks for, a space may stand for the `T`, and white space may surround the parts.
Writing always uses UTC, either in whole seconds or with as many digits as the fraction needs. -/

namespace PodWorkspace

/-- A point in time: the seconds since the beginning of 1970 in UTC, and the nanoseconds after
them. During a leap second the nanoseconds are at least a thousand million. -/
structure Timestamp where
  seconds : Int
  nanos : Nat
  deriving DecidableEq, Repr, Inhabited

namespace Timestamp

def isLeap (year : Int) : Bool :=
  year % 4 == 0 && (year % 100 != 0 || year % 400 == 0)

def daysIn (year : Int) (month : Nat) : Nat :=
  if month == 2 then (if isLeap year then 29 else 28)
  else if month == 4 || month == 6 || month == 9 || month == 11 then 30
  else 31

/-- The days from the first of January 1970 to a date. Years are counted from March, so that the
leap day is the last one. -/
def daysOfDate (year : Int) (month day : Nat) : Int :=
  let y := if month ≤ 2 then year - 1 else year
  let m : Int := if month ≤ 2 then month + 9 else month - 3
  365 * y + y / 4 - y / 100 + y / 400 + (153 * m + 2) / 5 + day - 1 - 719468

/-- The date that lies a number of days after the first of January 1970. -/
def dateOfDays (days : Int) : Int × Nat × Nat :=
  let z := days + 719468
  let era := z / 146097
  let dayOfEra := z % 146097
  let yearOfEra := (dayOfEra - dayOfEra / 1460 + dayOfEra / 36524 - dayOfEra / 146096) / 365
  let dayOfYear := dayOfEra - (365 * yearOfEra + yearOfEra / 4 - yearOfEra / 100)
  let m := (5 * dayOfYear + 2) / 153
  let day := dayOfYear - (153 * m + 2) / 5 + 1
  let month := if m < 10 then m + 3 else m - 9
  let year := yearOfEra + era * 400 + (if month ≤ 2 then 1 else 0)
  (year, month.toNat, day.toNat)

/-- Four digits for the years that they suffice for, and a sign with at least four for others. -/
def yearText (year : Int) : List Char :=
  if 0 ≤ year ∧ year ≤ 9999 then Text.padded 4 year.toNat
  else (if year < 0 then '-' else '+') :: Text.padded 4 year.natAbs

/-- Date and time of day without fraction. -/
def clockText (t : Timestamp) : List Char :=
  let (year, month, day) := dateOfDays (t.seconds / 86400)
  let clock := (t.seconds % 86400).toNat
  yearText year ++ '-' :: Text.padded 2 month ++ '-' :: Text.padded 2 day ++
    'T' :: Text.padded 2 (clock / 3600) ++ ':' :: Text.padded 2 (clock / 60 % 60) ++
    ':' :: Text.padded 2 (clock % 60 + t.nanos / 1000000000)

/-- The text in whole seconds, such as `2024-05-01T12:00:00Z`. -/
def text (t : Timestamp) : String :=
  String.ofList (t.clockText ++ ['Z'])

/-- A point and three, six or nine digits, or nothing for a whole second. -/
def fractionText (nanos : Nat) : List Char :=
  if nanos == 0 then []
  else if nanos % 1000000 == 0 then '.' :: Text.padded 3 (nanos / 1000000)
  else if nanos % 1000 == 0 then '.' :: Text.padded 6 (nanos / 1000)
  else '.' :: Text.padded 9 nanos

/-- The text with the fraction and the offset in digits, such as `2024-05-01T12:00:00.500+00:00`. -/
def preciseText (t : Timestamp) : String :=
  String.ofList (t.clockText ++ fractionText (t.nanos % 1000000000) ++ "+00:00".toList)

def microText (t : Timestamp) : String :=
  String.ofList (t.clockText ++ '.' :: Text.padded 6 (t.nanos % 1000000000 / 1000) ++ ['Z'])

/-- A number of one to `width` digits after white space, and what follows it. -/
def readNumber (width : Nat) (cs : List Char) : Option (Nat × List Char) :=
  let cs := cs.dropWhile Text.isBlank
  let ds := (cs.takeWhile Char.isDigit).take width
  if ds.isEmpty then none
  else some (Text.natOfDecimals ds, cs.drop ds.length)

/-- A year: up to four digits, or any number of them after a sign. -/
def readYear (cs : List Char) : Option (Int × List Char) :=
  match cs.dropWhile Text.isBlank with
  | '-' :: rest => (readNumber rest.length rest).map fun (n, after) => (-(n : Int), after)
  | '+' :: rest => (readNumber rest.length rest).map fun (n, after) => ((n : Int), after)
  | cs => (readNumber 4 cs).map fun (n, after) => ((n : Int), after)

def readMark (c : Char) (cs : List Char) : Option (List Char) :=
  match cs.dropWhile Text.isBlank with
  | d :: rest => if c = d then some rest else none
  | [] => none

/-- The nanoseconds of a fraction, of which digits past the ninth are ignored. -/
def readFraction : List Char → Option (Nat × List Char)
  | '.' :: rest =>
    let ds := rest.takeWhile Char.isDigit
    if ds.isEmpty then none
    else
      let first := ds.take 9
      some (Text.natOfDecimals first * Nat.pow 10 (9 - first.length),
        rest.dropWhile Char.isDigit)
  | cs => some (0, cs)

/-- Hours and minutes of an offset, in seconds. -/
def readOffsetClock (cs : List Char) : Option (Nat × List Char) :=
  match cs with
  | a :: b :: rest =>
    if a.isDigit && b.isDigit then
      match rest.dropWhile fun c => c == ':' || Text.isBlank c with
      | c :: d :: rest =>
        if c.isDigit && d.isDigit && c.toNat < '6'.toNat then
          let seconds := Text.natOfDecimals [a, b] * 3600 + Text.natOfDecimals [c, d] * 60
          if seconds < 86400 then some (seconds, rest) else none
        else none
      | _ => none
    else none
  | _ => none

def readOffset (cs : List Char) : Option (Int × List Char) :=
  match cs with
  | 'Z' :: rest | 'z' :: rest => some (0, rest)
  | '+' :: rest => (readOffsetClock rest).map fun (n, after) => ((n : Int), after)
  | '-' :: rest | '−' :: rest => (readOffsetClock rest).map fun (n, after) => (-(n : Int), after)
  | a :: b :: c :: rest =>
    if [a.toUpper, b.toUpper, c.toUpper] = ['U', 'T', 'C'] then some (0, rest) else none
  | _ => none

def read? (s : String) : Option Timestamp := do
  let (year, cs) ← readYear s.toList
  let cs ← readMark '-' cs
  let (month, cs) ← readNumber 2 cs
  let cs ← readMark '-' cs
  let (day, cs) ← readNumber 2 cs
  let cs ← match cs with
    | 't' :: rest | 'T' :: rest | ' ' :: rest => some rest
    | _ => none
  let (hour, cs) ← readNumber 2 cs
  let cs ← readMark ':' cs
  let (minute, cs) ← readNumber 2 cs
  let cs ← readMark ':' cs
  let (second, cs) ← readNumber 2 cs
  let (nanos, cs) ← readFraction cs
  let (offset, cs) ← readOffset (cs.dropWhile Text.isBlank)
  if cs.all Text.isBlank && 1 ≤ month && month ≤ 12 && 1 ≤ day && day ≤ daysIn year month &&
      hour ≤ 23 && minute ≤ 59 && second ≤ 60 then
    let (second, nanos) := if second = 60 then (59, nanos + 1000000000) else (second, nanos)
    some ⟨daysOfDate year month day * 86400 + hour * 3600 + minute * 60 + second - offset, nanos⟩
  else none

end Timestamp

end PodWorkspace
