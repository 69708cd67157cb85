import PodWorkspace.Json.Basic

/-! The compact JSON text of a value: no white space, and in string literals only quotes,
backslashes and the control characters below U+0020 escaped. -/

namespace PodWorkspace.Json

def hexDigit (n : Nat) : Char :=
  if n < 10 then Char.ofNat (48 + n) else Char.ofNat (87 + n)

def escape (c : Char) : List Char :=
  if c = '"' then ['\\', '"']
  else if c = '\\' then ['\\', '\\']
  else if c = '\x08' then ['\\', 'b']
  else if c = '\x0c' then ['\\', 'f']
  else if c = '\n' then ['\\', 'n']
  else if c = '\r' then ['\\', 'r']
  else if c = '\t' then ['\\', 't']
  else if c.toNat < 0x20 then
    ['\\', 'u', '0', '0', hexDigit (c.toNat / 16), hexDigit (c.toNat % 16)]
  else [c]

/-- The string literal of a text, and of no text the literal of half a surrogate pair. -/
def renderText : Option String → List Char
  | some s => '"' :: (s.toList.flatMap escape ++ ['"'])
  | none => "\"\\ud800\"".toList

mutual

def renderChars : Json → List Char
  | .null => ['n', 'u', 'l', 'l']
  | .bool true => ['t', 'r', 'u', 'e']
  | .bool false => ['f', 'a', 'l', 's', 'e']
  | .number literal => literal.toList
  | .text s => renderText s
  | .list [] => ['[', ']']
  | .list (x :: xs) => '[' :: (renderChars x ++ renderItems xs)
  | .object [] => ['{', '}']
  | .object ((name, x) :: ms) => '{' :: (renderText name ++ ':' :: (renderChars x ++ renderMembers ms))

/-- The items after the first one, up to the closing bracket. -/
def renderItems : List Json → List Char
  | [] => [']']
  | x :: xs => ',' :: (renderChars x ++ renderItems xs)

/-- The members after the first one, up to the closing brace. -/
def renderMembers : List (Option String × Json) → List Char
  | [] => ['}']
  | (name, x) :: ms => ',' :: (renderText name ++ ':' :: (renderChars x ++ renderMembers ms))

end

def render (v : Json) : String :=
  String.ofList v.renderChars

end PodWorkspace.Json
