import PodWorkspace.Document.Shape
import PodWorkspace.Text.Unprintable
import PodWorkspace.Yaml.Scalar

/-! Writing a JSON value as a YAML document in block style. A text is written plain when it reads
back as the same text, as a literal scalar when it has several lines, and between quotes
otherwise. -/

namespace PodWorkspace.Yaml

/-- The digits of a number in base 16, with zeros in front up to `width` of them. -/
def hexDigits (width n : Nat) : List Char :=
  let ds := Nat.toDigits 16 n
  List.replicate (width - ds.length) '0' ++ ds

def isPrintable (c : Char) : Bool :=
  isAllowed c && c != '\t' && c != '\n' && c != '\r' && !Text.isUnprintable c

def escaped (c : Char) : List Char :=
  if c == '"' || c == '\\' then ['\\', c]
  else if c == '\n' then ['\\', 'n']
  else if c == '\r' then ['\\', 'r']
  else if c == '\t' then ['\\', 't']
  else if isPrintable c then [c]
  else if c.toNat < 0x100 then '\\' :: 'x' :: hexDigits 2 c.toNat
  else if c.toNat < 0x10000 then '\\' :: 'u' :: hexDigits 4 c.toNat
  else '\\' :: 'U' :: hexDigits 8 c.toNat

def doubleQuoted (cs : List Char) : List Char := '"' :: (cs.flatMap escaped ++ ['"'])

def singleQuoted (cs : List Char) : List Char :=
  '\'' :: ((cs.flatMap fun c => if c == '\'' then ['\'', '\''] else [c]) ++ ['\''])

/-- Whether a plain scalar stands for a text and not for a value of another type. -/
def isPlainText (s : String) : Bool :=
  match (Document.plain s).toJson with
  | .text _ => true
  | _ => false

/-- Whether a text of one line reads back when it is written plain. -/
def isPlainSafe (cs : List Char) : Bool :=
  cs.all isPrintable && beginsPlain false cs && cs.head? != some '-' &&
    cs.getLast?.all (fun c => !isSpace c) && (plainPiece false false cs).2.isEmpty &&
    !isMarker cs && isPlainText (String.ofList cs)

def oneLine (s : String) : String :=
  let cs := s.toList
  String.ofList <|
    if isPlainSafe cs then cs
    else if cs.all isPrintable then singleQuoted cs
    else doubleQuoted cs

/-- The header of a literal scalar, from the newlines at its end. -/
def literalHeader (breaks : Nat) : String :=
  if breaks = 0 then "|-" else if breaks = 1 then "|" else "|+"

/-- The header and the lines of a text that can be written as a literal scalar. -/
def literal? (s : String) : Option (String × List String) :=
  let lines := Text.pieces '\n' s.toList
  let isFit := 1 < lines.length && lines.all (·.all isPrintable) &&
    (lines.head?.bind List.head?).any fun c => !isSpace c
  let breaks := (s.toList.reverse.takeWhile (· == '\n')).length
  if isFit then
    some (literalHeader breaks,
      (if breaks = 0 then lines else lines.dropLast).map String.ofList)
  else none

/-- A line further to the right, unless nothing is in it. -/
def indented (line : String) : String := if line.isEmpty then line else "  " ++ line

/-- A written value, by the way in which it joins what stands before it. -/
inductive Written where
  | inline (text : String)
  | literal (header : String) (lines : List String)
  | list (lines : List String)
  | map (lines : List String)

def itemLines : Written → List String
  | .inline text => ["- " ++ text]
  | .literal header lines => ("- " ++ header) :: lines.map indented
  | .list lines | .map lines =>
    match lines with
    | [] => ["-"]
    | first :: rest => ("- " ++ first) :: rest.map indented

def memberLines (name : String) : Written → List String
  | .inline text => [oneLine name ++ ": " ++ text]
  | .literal header lines => (oneLine name ++ ": " ++ header) :: lines.map indented
  | .list lines => (oneLine name ++ ":") :: lines
  | .map lines => (oneLine name ++ ":") :: lines.map indented

mutual

def written : Json → Written
  | .null => .inline "null"
  | .bool b => .inline (if b then "true" else "false")
  | .number literal => .inline literal
  | .text s =>
    match literal? (s.getD "") with
    | some (header, lines) => .literal header lines
    | none => .inline (oneLine (s.getD ""))
  | .list [] => .inline "[]"
  | .list (x :: xs) => .list (itemLines (written x) ++ writtenItems xs)
  | .object [] => .inline "{}"
  | .object ((name, x) :: ms) => .map (memberLines (name.getD "") (written x) ++ writtenMembers ms)

def writtenItems : List Json → List String
  | [] => []
  | x :: xs => itemLines (written x) ++ writtenItems xs

def writtenMembers : List (Option String × Json) → List String
  | [] => []
  | (name, x) :: ms => memberLines (name.getD "") (written x) ++ writtenMembers ms

end

def documentText (v : Json) : String :=
  match written v with
  | .inline text => text ++ "\n"
  | .literal header lines => Text.join "\n" (header :: lines.map indented) ++ "\n"
  | .list lines | .map lines => Text.join "\n" lines ++ "\n"

end PodWorkspace.Yaml
