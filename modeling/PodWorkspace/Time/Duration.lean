import PodWorkspace.Text.Blank
import PodWorkspace.Text.Digits

/-! Lengths of time in nanoseconds, and their text: the largest of the units `s`, `ms`, `µs` and
`ns` that fits at least once, with the rest as a fraction without trailing zeros. -/

namespace PodWorkspace

structure Duration where
  nanos : Nat
  deriving DecidableEq, Repr, Inhabited

namespace Duration

def ofSeconds (n : Nat) : Duration := ⟨n * 1000000000⟩

def ofMillis (n : Nat) : Duration := ⟨n * 1000000⟩

instance : Add Duration := ⟨fun a b => ⟨a.nanos + b.nanos⟩⟩
instance : LE Duration := ⟨fun a b => a.nanos ≤ b.nanos⟩
instance : LT Duration := ⟨fun a b => a.nanos < b.nanos⟩
instance (a b : Duration) : Decidable (a ≤ b) := inferInstanceAs (Decidable (a.nanos ≤ b.nanos))
instance (a b : Duration) : Decidable (a < b) := inferInstanceAs (Decidable (a.nanos < b.nanos))

def seconds (d : Duration) : Nat := d.nanos / 1000000000

def subsecNanos (d : Duration) : Nat := d.nanos % 1000000000

def millis (d : Duration) : Nat := d.nanos / 1000000

/-- The seconds, with a begun one counted in full. -/
def secondsUp (d : Duration) : Nat := (d.nanos + 999999999) / 1000000000

/-- The number of times that `nanos` holds a unit of `10 ^ places` nanoseconds. -/
def decimal (places nanos : Nat) : List Char :=
  let whole := Nat.toDigits 10 (nanos / Nat.pow 10 places)
  let fraction := Text.dropEndWhile (· == '0') (Text.padded places (nanos % Nat.pow 10 places))
  if fraction.isEmpty then whole else whole ++ '.' :: fraction

/-- The text of a length of time, such as `600s`, `1.5s`, `500ms` or `0ns`. -/
def text (d : Duration) : String :=
  let n := d.nanos
  let (places, unit) :=
    if 1000000000 ≤ n then (9, "s")
    else if 1000000 ≤ n then (6, "ms")
    else if 1000 ≤ n then (3, "µs")
    else (0, "ns")
  String.ofList (if places = 0 then Nat.toDigits 10 n else decimal places n) ++ unit

end Duration

end PodWorkspace
