import PodWorkspace.Document.Basic
import PodWorkspace.Text.Blank
import PodWorkspace.Text.Split

/-! The lines of YAML text. Block structure is a matter of indentation, so a line knows its own;
quoted scalars and flow collections run across lines, so lines turn back into one sequence of
characters and the other way round. -/

namespace PodWorkspace.Yaml

/-- A line: the column where its text begins, and the text. -/
structure Line where
  indent : Nat
  text : List Char
  deriving DecidableEq, Repr, Inhabited

/-- A space or a tab. -/
def isSpace (c : Char) : Bool := c == ' ' || c == '\t'

def lineOf (cs : List Char) : Line :=
  ⟨(cs.takeWhile (· == ' ')).length, cs.dropWhile (· == ' ')⟩

def normalBreaks : List Char → List Char
  | '\r' :: '\n' :: rest => '\n' :: normalBreaks rest
  | '\r' :: rest => '\n' :: normalBreaks rest
  | c :: rest => c :: normalBreaks rest
  | [] => []

/-- The characters of each line; the last one has no newline after it. -/
def rawLines (cs : List Char) : List (List Char) :=
  Text.pieces '\n' (normalBreaks cs)

/-- Nothing but white space, or a comment. -/
def isVoid (cs : List Char) : Bool :=
  match cs.dropWhile isSpace with
  | [] => true
  | c :: _ => c == '#'

/-- The lines from the first one on that says something. -/
def dropVoid (lines : List Line) : List Line :=
  lines.dropWhile fun l => isVoid l.text

def endLine : List Line → Option (List Line)
  | [] => some []
  | l :: rest => if isVoid l.text then some rest else none

/-- The lines as one sequence of characters, from the text of the first one on. -/
def flat : List Line → List Char
  | [] => []
  | [l] => l.text
  | l :: next :: rest => l.text ++ '\n' :: (List.replicate next.indent ' ' ++ flat (next :: rest))

def isFlowMark (c : Char) : Bool :=
  c == ',' || c == '[' || c == ']' || c == '\x7b' || c == '\x7d'

/-- The lines of a sequence of characters; the first one is the rest of a line. -/
def ofFlat (cs : List Char) : List Line :=
  (Text.pieces '\n' cs).map lineOf

def isAllowed (c : Char) : Bool :=
  let n := c.toNat
  n == 9 || n == 10 || n == 13 || (0x20 ≤ n && n ≤ 0x7E) || n == 0x85 || (0xA0 ≤ n && n ≤ 0xD7FF) ||
    (0xE000 ≤ n && n ≤ 0xFFFD && n != 0xFEFF) || 0x10000 ≤ n

/-- The rest of a line that begins with a marker of three characters. -/
def marked? (marker : List Char) (cs : List Char) : Option (List Char) :=
  match Text.dropFront marker cs with
  | some [] => some []
  | some (c :: rest) => if isSpace c then some rest else none
  | none => none

def isMarker (cs : List Char) : Bool :=
  (marked? ['-', '-', '-'] cs).isSome || (marked? ['.', '.', '.'] cs).isSome

/-- Whether a line says that a document is over, and nothing else. -/
def isEndMarker (cs : List Char) : Bool :=
  (marked? ['.', '.', '.'] cs).any isVoid

/-- One document of a stream: what stands beside the marker that begins it, if that says something,
and the lines after it. -/
structure DocumentLines where
  beside : Option (List Char)
  lines : List Line
  deriving Inhabited

/-- The documents that raw lines hold. Only the first one may begin without a marker; directives may
stand in front of each. -/
def documentLines : Nat → Bool → List (List Char) → Option (List DocumentLines)
  | 0, _, _ => none
  | fuel + 1, isFirst, lines =>
    let isSkipped (l : List Char) : Bool :=
      isVoid l || l.head? == some '%' || (!isFirst && isEndMarker l)
    match lines.dropWhile isSkipped with
    | [] => some []
    | l :: rest => do
      let (beside, body) ← match marked? ['-', '-', '-'] l with
        | some content =>
          some (if isVoid content then none else some (content.dropWhile isSpace), rest)
        | none => if isFirst then some (none, l :: rest) else none
      let inside := body.takeWhile fun l => !isMarker l
      let more ← documentLines fuel false (body.dropWhile fun l => !isMarker l)
      some (⟨beside, inside.map lineOf⟩ :: more)

/-- The documents of a text; a text without any holds an empty one. -/
def documentsOf (s : String) : Option (List DocumentLines) := do
  let lines := rawLines s.toList
  match ← documentLines (lines.length + 2) true lines with
  | [] => some [⟨none, []⟩]
  | documents => some documents

end PodWorkspace.Yaml
