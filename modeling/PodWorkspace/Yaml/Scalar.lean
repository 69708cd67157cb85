import PodWorkspace.Yaml.Line

/-! The scalars of YAML: quoted text, plain text, and block scalars whose lines are kept or folded.
A single line break inside a quoted or plain scalar counts as a space, and further ones count as
newlines. -/

namespace PodWorkspace.Yaml

inductive Part where
  | char (c : Char)
  | space (c : Char)
  | newline
  /-- A line break behind a backslash, which counts for nothing. -/
  | continued
  deriving DecidableEq, Repr

/-- What stands for the breaks and the spaces between two parts of a text. -/
def gap (spaces : List Char) (breaks : Nat) (continued : Bool) : List Char :=
  if continued then List.replicate breaks '\n'
  else if breaks = 0 then spaces
  else if breaks = 1 then [' ']
  else List.replicate (breaks - 1) '\n'

/-- The text of the parts. Spaces next to a line break are dropped. -/
def foldParts (spaces : List Char) (breaks : Nat) (continued : Bool) : List Part → List Char
  | [] => gap spaces breaks continued
  | .char c :: ps => gap spaces breaks continued ++ c :: foldParts [] 0 false ps
  | .space c :: ps =>
    if breaks > 0 || continued then foldParts [] breaks continued ps
    else foldParts (spaces ++ [c]) 0 false ps
  | .newline :: ps => foldParts [] (breaks + 1) continued ps
  | .continued :: ps => gap spaces breaks continued ++ foldParts [] 0 true ps

/-- The parts of a single-quoted scalar after its opening quote, and what follows the closing
one. -/
def singleParts : List Char → Option (List Part × List Char)
  | [] => none
  | '\'' :: '\'' :: rest => (singleParts rest).map fun (ps, after) => (.char '\'' :: ps, after)
  | '\'' :: rest => some ([], rest)
  | '\n' :: rest => (singleParts rest).map fun (ps, after) => (.newline :: ps, after)
  | c :: rest =>
    (singleParts rest).map fun (ps, after) => ((if isSpace c then .space c else .char c) :: ps, after)

def unescape? (c : Char) : Option Char :=
  [('0', 0), ('a', 7), ('b', 8), ('t', 9), ('\t', 9), ('n', 10), ('v', 11), ('f', 12), ('r', 13),
    ('e', 27), (' ', 32), ('"', 34), ('/', 47), ('\\', 92), ('N', 0x85), ('_', 0xA0), ('L', 0x2028),
    ('P', 0x2029)].lookup c |>.map Char.ofNat

def charOfHex? (ds : List Char) : Option Char := do
  let n ← Text.natOfDigits? 16 ds
  if n < 0xD800 ∨ (0xDFFF < n ∧ n ≤ 0x10FFFF) then some (Char.ofNat n) else none

/-- The parts of a double-quoted scalar after its opening quote, and what follows the closing
one. -/
def doubleParts : List Char → Option (List Part × List Char)
  | [] => none
  | '"' :: rest => some ([], rest)
  | '\n' :: rest => (doubleParts rest).map fun (ps, after) => (.newline :: ps, after)
  | '\\' :: '\n' :: rest => (doubleParts rest).map fun (ps, after) => (.continued :: ps, after)
  | '\\' :: 'x' :: a :: b :: rest => do
    let c ← charOfHex? [a, b]
    let (ps, after) ← doubleParts rest
    some (.char c :: ps, after)
  | '\\' :: 'u' :: a :: b :: c :: d :: rest => do
    let c ← charOfHex? [a, b, c, d]
    let (ps, after) ← doubleParts rest
    some (.char c :: ps, after)
  | '\\' :: 'U' :: a :: b :: c :: d :: e :: f :: g :: h :: rest => do
    let c ← charOfHex? [a, b, c, d, e, f, g, h]
    let (ps, after) ← doubleParts rest
    some (.char c :: ps, after)
  | '\\' :: c :: rest => do
    let c ← unescape? c
    let (ps, after) ← doubleParts rest
    some (.char c :: ps, after)
  | c :: rest =>
    (doubleParts rest).map fun (ps, after) => ((if isSpace c then .space c else .char c) :: ps, after)

def quoted? : List Char → Option (String × List Char)
  | '\'' :: rest => (singleParts rest).map fun (ps, after) =>
    (String.ofList (foldParts [] 0 false ps), after)
  | '"' :: rest => (doubleParts rest).map fun (ps, after) =>
    (String.ofList (foldParts [] 0 false ps), after)
  | _ => none

/-- Whether a plain scalar may begin here. -/
def beginsPlain (inFlow : Bool) : List Char → Bool
  | [] => false
  | c :: rest =>
    let isFollowed := match rest with
      | [] => false
      | d :: _ => !(isSpace d || d == '\n')
    if c == '-' then isFollowed
    else if c == '?' || c == ':' then isFollowed && !inFlow
    else !(isSpace c || c == '\n' || isFlowMark c || "#&*!|>'\"%@\x60".toList.contains c)

/-- A colon that is no part of a plain scalar of a flow collection but does not stand before a value
either, since no space parts it from the mark after it. -/
def isStrayColon : List Char → Bool
  | ':' :: c :: _ => isFlowMark c || c == '?'
  | _ => false

/-- Whether a plain scalar ends before a character: at a colon that is followed by space, and in a
flow collection at any of its marks. -/
def endsPlain (inFlow : Bool) (c : Char) (rest : List Char) : Bool :=
  (inFlow && (isFlowMark c || isStrayColon (c :: rest))) || (c == ':' && match rest with
    | [] => true
    | d :: _ => isSpace d || d == '\n')

/-- The part of a plain scalar that stands on one line, and what follows it. -/
def plainPiece (inFlow afterSpace : Bool) : List Char → List Char × List Char
  | [] => ([], [])
  | c :: rest =>
    if c == '\n' || (c == '#' && afterSpace) || endsPlain inFlow c rest then ([], c :: rest)
    else
      let (more, after) := plainPiece inFlow (isSpace c) rest
      (c :: more, after)

/-- What the breaks between two lines of a plain scalar count for. -/
def breakText (breaks : Nat) : List Char := gap [] breaks false

/-- A plain scalar of a flow collection, and what follows it. -/
def flowPlain : Nat → List Char → List Char × List Char
  | 0, cs => ([], cs)
  | fuel + 1, cs =>
    let (piece, rest) := plainPiece true false cs
    let piece := Text.dropEndWhile isSpace piece
    let between := rest.takeWhile fun c => isSpace c || c == '\n'
    match rest.dropWhile fun c => isSpace c || c == '\n' with
    | [] => (piece, [])
    | c :: after =>
      if between.count '\n' = 0 || c == '#' || endsPlain true c after then (piece, c :: after)
      else
        let (more, after) := flowPlain fuel (c :: after)
        (piece ++ breakText (between.count '\n') ++ more, after)

/-- The continuation lines of a plain scalar, which are indented by at least `low`, and the lines
after it. -/
def plainLines (low : Nat) (breaks : Nat) : List Line → List Char × List Line
  | [] => ([], [])
  | l :: rest =>
    let text := l.text.dropWhile isSpace
    if text.isEmpty then
      let (more, after) := plainLines low (breaks + 1) rest
      if more.isEmpty then ([], l :: rest) else (more, after)
    else if l.indent < low || text.head? == some '#' then ([], l :: rest)
    else
      let (piece, left) := plainPiece false false text
      let piece := breakText breaks ++ Text.dropEndWhile isSpace piece
      if left.isEmpty then
        let (more, after) := plainLines low 1 rest
        if more.isEmpty then (piece, { l with text := [] } :: rest) else (piece ++ more, after)
      else (piece, { l with text := left } :: rest)

/-- A plain scalar outside of flow collections, and the lines from its end on. -/
def blockPlain (low : Nat) : List Line → List Char × List Line
  | [] => ([], [])
  | l :: rest =>
    let (piece, left) := plainPiece false false l.text
    let piece := Text.dropEndWhile isSpace piece
    if left.isEmpty then
      let (more, after) := plainLines low 1 rest
      if more.isEmpty then (piece, { l with text := [] } :: rest) else (piece ++ more, after)
    else (piece, { l with text := left } :: rest)

/-- What happens to the newlines at the end of a block scalar. -/
inductive Chomping where
  | clip | strip | keep
  deriving DecidableEq, Repr

/-- The indentation and the chomping that the header of a block scalar asks for. -/
def blockHeader (number : Option Nat) (chomping : Chomping) :
    List Char → Option (Option Nat × Chomping)
  | [] => some (number, chomping)
  | c :: rest =>
    if c == '+' then blockHeader number .keep rest
    else if c == '-' then blockHeader number .strip rest
    else if c.isDigit && c != '0' then blockHeader (some (c.toNat - '0'.toNat)) chomping rest
    else if isSpace c && isVoid rest then some (number, chomping)
    else none

/-- The lines of a block scalar with the indentation taken away. -/
def blockBody (indent : Nat) (lines : List Line) : List (List Char) :=
  lines.map fun l => List.replicate (l.indent - indent) ' ' ++ l.text

/-- The lines of a literal scalar one below the other. -/
def literalText : List (List Char) → List Char
  | [] => []
  | [l] => l
  | l :: rest => l ++ '\n' :: literalText rest

/-- The lines of a folded scalar. A break between two lines that are not indented further counts as
a space. -/
def foldedText (sinceDeep : Bool) (breaks : Nat) : List (List Char) → List Char
  | [] => []
  | [] :: rest => foldedText sinceDeep (breaks + 1) rest
  | l :: rest =>
    let isDeep := l.head?.any isSpace
    let between := if sinceDeep || isDeep then List.replicate breaks '\n' else breakText breaks
    between ++ l ++ foldedText isDeep 1 rest

/-- The newlines at the end of a block scalar of which `breaks` follow the last line. -/
def Chomping.ending (breaks : Nat) : Chomping → List Char
  | .strip => []
  | .clip => List.replicate (min breaks 1) '\n'
  | .keep => List.replicate breaks '\n'

/-- The text of a block scalar whose lines are given without indentation. `isClosed` says whether a
newline follows the last one. -/
def blockText (isFolded : Bool) (chomping : Chomping) (isClosed : Bool)
    (lines : List (List Char)) : List Char :=
  let kept := (lines.reverse.dropWhile List.isEmpty).reverse
  let breaks := lines.length - kept.length + if isClosed then 1 else 0
  if kept.isEmpty then
    match chomping with
    | .keep => List.replicate (breaks - 1) '\n'
    | _ => []
  else (if isFolded then foldedText true 0 kept else literalText kept) ++ chomping.ending breaks

/-- A block scalar after its header, and the lines after it. Its lines are indented by at least
`low`. -/
def blockScalar? (low : Nat) (isFolded : Bool) (header : List Char) (lines : List Line) :
    Option (String × List Line) := do
  let (number, chomping) ← blockHeader none .clip header
  let indent := match number with
    | some n => low - 1 + n
    | none =>
      let first := (lines.find? fun l => !l.text.isEmpty).toList
      let before := lines.takeWhile fun l => l.text.isEmpty
      (before ++ first).foldl (fun widest l => max widest l.indent) (max low 1)
  let isInside (l : Line) : Bool := l.text.isEmpty || indent ≤ l.indent
  let inside := lines.takeWhile isInside
  let rest := lines.dropWhile isInside
  some (String.ofList (blockText isFolded chomping (!rest.isEmpty) (blockBody indent inside)), rest)

end PodWorkspace.Yaml
