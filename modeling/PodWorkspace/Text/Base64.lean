import PodWorkspace.Text.Bytes

/-! Base64 with the standard alphabet and padding: `encode` writes the one form of a sequence of
bytes, and `decode` refuses every other text, also one with white space, without padding or with
bits set in the unused part of its last digit. -/

namespace PodWorkspace.Text.Base64

def digit (n : Nat) : Char :=
  if n < 26 then Char.ofNat (65 + n)
  else if n < 52 then Char.ofNat (71 + n)
  else if n < 62 then Char.ofNat (n - 4)
  else if n = 62 then '+'
  else '/'

def value? (c : Char) : Option Nat :=
  let n := c.toNat
  if 65 ≤ n ∧ n ≤ 90 then some (n - 65)
  else if 97 ≤ n ∧ n ≤ 122 then some (n - 71)
  else if 48 ≤ n ∧ n ≤ 57 then some (n + 4)
  else if c = '+' then some 62
  else if c = '/' then some 63
  else none

/-- Three bytes become four digits; one or two bytes at the end are padded. -/
def encodeChars : Bytes → List Char
  | [] => []
  | [a] =>
    let n := a.toNat
    [digit (n / 4), digit (n % 4 * 16), '=', '=']
  | [a, b] =>
    let n := a.toNat * 256 + b.toNat
    [digit (n / 1024), digit (n / 16 % 64), digit (n % 16 * 4), '=']
  | a :: b :: c :: rest =>
    let n := (a.toNat * 256 + b.toNat) * 256 + c.toNat
    digit (n / 262144) :: digit (n / 4096 % 64) :: digit (n / 64 % 64) :: digit (n % 64) ::
      encodeChars rest

/-- The bytes of a last group, whose padding begins after two or three digits. -/
def decodeLast (w x : Nat) (y : Option Nat) : Option Bytes :=
  match y with
  | none =>
    if x % 16 = 0 then some [UInt8.ofNat (w * 4 + x / 16)] else none
  | some y =>
    if y % 4 = 0 then
      let n := (w * 64 + x) * 16 + y / 4
      some [UInt8.ofNat (n / 256), UInt8.ofNat (n % 256)]
    else none

/-- The bytes that digits in groups of four stand for. -/
def decodeChars : List Char → Option Bytes
  | [] => some []
  | a :: b :: c :: d :: rest => do
    let w ← value? a
    let x ← value? b
    if d = '=' ∧ rest = [] then
      if c = '=' then decodeLast w x none
      else decodeLast w x (some (← value? c))
    else
      let y ← value? c
      let z ← value? d
      let n := ((w * 64 + x) * 64 + y) * 64 + z
      let more ← decodeChars rest
      some (UInt8.ofNat (n / 65536) :: UInt8.ofNat (n / 256 % 256) :: UInt8.ofNat (n % 256) :: more)
  | _ => none

def encode (bytes : Bytes) : String :=
  String.ofList (encodeChars bytes)

def decode (s : String) : Option Bytes :=
  decodeChars s.toList

end PodWorkspace.Text.Base64
