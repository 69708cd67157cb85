import PodWorkspace.Text.Bytes
import PodWorkspace.Text.Split

/-! The form in which an address carries named values: `name=value`, with `&` between two of them,
letters and digits as they are, a space as `+`, and every other byte as `%` with two hexadecimal
digits. -/

namespace PodWorkspace.Text.Form

/-- Whether a byte stands for itself. -/
def isPlain (b : UInt8) : Bool :=
  let c := Char.ofNat b.toNat
  c.isAlphanum || c == '*' || c == '-' || c == '.' || c == '_'

def hexDigit (n : Nat) : Char := Char.ofNat (if n < 10 then 48 + n else 55 + n)

def hexValue? (b : UInt8) : Option Nat :=
  let n := b.toNat
  if 48 ≤ n ∧ n ≤ 57 then some (n - 48)
  else if 65 ≤ n ∧ n ≤ 70 then some (n - 55)
  else if 97 ≤ n ∧ n ≤ 102 then some (n - 87)
  else none

def encodeByte (b : UInt8) : List Char :=
  if isPlain b then [Char.ofNat b.toNat]
  else if b = 0x20 then ['+']
  else ['%', hexDigit (b.toNat / 16), hexDigit (b.toNat % 16)]

def encode (s : String) : String := String.ofList ((utf8 s).flatMap encodeByte)

/-- The bytes that the bytes of an address stand for. A `%` without two digits stands for
itself. -/
def decodeBytes : Bytes → Bytes
  | [] => []
  | b :: rest =>
    if b = 0x2b then 0x20 :: decodeBytes rest
    else if b = 0x25 then
      match rest with
      | h :: l :: more =>
        match hexValue? h, hexValue? l with
        | some x, some y => UInt8.ofNat (16 * x + y) :: decodeBytes more
        | _, _ => b :: decodeBytes (h :: l :: more)
      | rest => b :: decodeBytes rest
    else b :: decodeBytes rest

/-- The text that a text in an address stands for; it stands for itself when its bytes are none. -/
def decode (s : String) : String := (ofUtf8? (decodeBytes (utf8 s))).getD s

def encodePairs (pairs : List (String × String)) : String :=
  join "&" (pairs.map fun p => encode p.1 ++ "=" ++ encode p.2)

def decodePairs (s : String) : List (String × String) :=
  ((split '&' s).filter fun piece => !piece.isEmpty).map fun piece =>
    match cut '=' piece with
    | some (name, value) => (decode name, decode value)
    | none => (decode piece, "")

end PodWorkspace.Text.Form
