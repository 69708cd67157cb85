import PodWorkspace.Json.Basic

/-! Reading JSON text. The reader accepts the grammar of the standard, with white space between
the tokens and nothing after the value. The recursion is bounded by the length of the text, which
every step shortens. -/

namespace PodWorkspace.Json

def isSpace (c : Char) : Bool :=
  c == ' ' || c == '\t' || c == '\n' || c == '\r'

/-- A piece of a string literal: a character, or the code unit that a `\u` escape names. -/
inductive Piece where
  | char (c : Char)
  | unit (n : Nat)
  deriving DecidableEq, Repr

def unescape? (c : Char) : Option Char :=
  if c = '"' then some '"'
  else if c = '\\' then some '\\'
  else if c = '/' then some '/'
  else if c = 'b' then some '\x08'
  else if c = 'f' then some '\x0c'
  else if c = 'n' then some '\n'
  else if c = 'r' then some '\r'
  else if c = 't' then some '\t'
  else none

def codeUnit? (a b c d : Char) : Option Nat := Text.natOfDigits? 16 [a, b, c, d]

/-- The pieces of a string literal after its opening quote, and what follows the closing one. -/
def readPieces : List Char → Option (List Piece × List Char)
  | [] => none
  | '"' :: rest => some ([], rest)
  | '\\' :: 'u' :: a :: b :: c :: d :: rest => do
    let n ← codeUnit? a b c d
    let (ps, after) ← readPieces rest
    some (.unit n :: ps, after)
  | '\\' :: c :: rest => do
    let e ← unescape? c
    let (ps, after) ← readPieces rest
    some (.char e :: ps, after)
  | c :: rest =>
    if c.toNat < 0x20 then none
    else do
      let (ps, after) ← readPieces rest
      some (.char c :: ps, after)

/-- The characters that the pieces of a literal denote: two code units of a surrogate pair join
to one character, and half a pair denotes nothing. -/
def joinPieces : List Piece → Option (List Char)
  | [] => some []
  | .char c :: ps => (joinPieces ps).map (c :: ·)
  | .unit high :: .unit low :: ps =>
    if 0xD800 ≤ high ∧ high < 0xDC00 then
      if 0xDC00 ≤ low ∧ low < 0xE000 then
        (joinPieces ps).map (Char.ofNat (0x10000 + (high - 0xD800) * 0x400 + (low - 0xDC00)) :: ·)
      else none
    else if 0xDC00 ≤ high ∧ high < 0xE000 then none
    else (joinPieces (.unit low :: ps)).map (Char.ofNat high :: ·)
  | .unit n :: ps =>
    if 0xD800 ≤ n ∧ n < 0xE000 then none else (joinPieces ps).map (Char.ofNat n :: ·)

/-- A string literal after its opening quote, and what follows the closing one. -/
def readText (cs : List Char) : Option (Option String × List Char) :=
  (readPieces cs).map fun (ps, after) => ((joinPieces ps).map String.ofList, after)

/-- The integer part of a number: a zero alone, or digits that begin with another one. -/
def readWhole : List Char → Option (List Char × List Char)
  | '0' :: rest => some (['0'], rest)
  | cs => if (cs.takeWhile Char.isDigit).isEmpty then none
    else some (cs.takeWhile Char.isDigit, cs.dropWhile Char.isDigit)

/-- The fraction of a number, if there is one: a point and at least one digit. -/
def readFraction : List Char → Option (List Char × List Char)
  | '.' :: rest =>
    if (rest.takeWhile Char.isDigit).isEmpty then none
    else some ('.' :: rest.takeWhile Char.isDigit, rest.dropWhile Char.isDigit)
  | cs => some ([], cs)

/-- The sign of an exponent, if there is one. -/
def readSign : List Char → List Char × List Char
  | '+' :: rest => (['+'], rest)
  | '-' :: rest => (['-'], rest)
  | cs => ([], cs)

/-- The exponent of a number, if there is one. -/
def readExponent : List Char → Option (List Char × List Char)
  | c :: rest =>
    if c = 'e' ∨ c = 'E' then
      let (sign, ds) := readSign rest
      if (ds.takeWhile Char.isDigit).isEmpty then none
      else some (c :: (sign ++ ds.takeWhile Char.isDigit), ds.dropWhile Char.isDigit)
    else some ([], c :: rest)
  | [] => some ([], [])

/-- A number without its sign. -/
def readUnsigned (cs : List Char) : Option (List Char × List Char) := do
  let (whole, cs) ← readWhole cs
  let (fraction, cs) ← readFraction cs
  let (exponent, cs) ← readExponent cs
  some (whole ++ fraction ++ exponent, cs)

def readNumber : List Char → Option (Json × List Char)
  | '-' :: rest => (readUnsigned rest).map fun (ds, after) => (.number (String.ofList ('-' :: ds)), after)
  | cs => (readUnsigned cs).map fun (ds, after) => (.number (String.ofList ds), after)

mutual

/-- A value, after white space, and what follows it. -/
def readValue : Nat → List Char → Option (Json × List Char)
  | 0, _ => none
  | fuel + 1, cs =>
    match cs.dropWhile isSpace with
    | 'n' :: 'u' :: 'l' :: 'l' :: rest => some (.null, rest)
    | 't' :: 'r' :: 'u' :: 'e' :: rest => some (.bool true, rest)
    | 'f' :: 'a' :: 'l' :: 's' :: 'e' :: rest => some (.bool false, rest)
    | '"' :: rest => (readText rest).map fun (s, after) => (.text s, after)
    | '[' :: rest =>
      match rest.dropWhile isSpace with
      | ']' :: after => some (.list [], after)
      | _ => do
        let (x, after) ← readValue fuel rest
        let (xs, after) ← readItems fuel after
        some (.list (x :: xs), after)
    | '{' :: rest =>
      match rest.dropWhile isSpace with
      | '}' :: after => some (.object [], after)
      | _ => do
        let (m, after) ← readMember fuel rest
        let (ms, after) ← readMembers fuel after
        some (.object (m :: ms), after)
    | cs => readNumber cs

/-- The items of a list after the first one, up to the closing bracket. -/
def readItems : Nat → List Char → Option (List Json × List Char)
  | 0, _ => none
  | fuel + 1, cs =>
    match cs.dropWhile isSpace with
    | ']' :: after => some ([], after)
    | ',' :: rest => do
      let (x, after) ← readValue fuel rest
      let (xs, after) ← readItems fuel after
      some (x :: xs, after)
    | _ => none

/-- A member of an object, after white space. -/
def readMember : Nat → List Char → Option ((Option String × Json) × List Char)
  | 0, _ => none
  | fuel + 1, cs =>
    match cs.dropWhile isSpace with
    | '"' :: rest => do
      let (name, after) ← readText rest
      match after.dropWhile isSpace with
      | ':' :: rest => do
        let (x, after) ← readValue fuel rest
        some ((name, x), after)
      | _ => none
    | _ => none

/-- The members of an object after the first one, up to the closing brace. -/
def readMembers : Nat → List Char → Option (List (Option String × Json) × List Char)
  | 0, _ => none
  | fuel + 1, cs =>
    match cs.dropWhile isSpace with
    | '}' :: after => some ([], after)
    | ',' :: rest => do
      let (m, after) ← readMember fuel rest
      let (ms, after) ← readMembers fuel after
      some (m :: ms, after)
    | _ => none

end

/-- The value of a JSON text with nothing but white space after it. -/
def readChars? (cs : List Char) : Option Json :=
  match readValue (cs.length + 1) cs with
  | some (v, after) => if after.all isSpace then some v else none
  | none => none

def read? (s : String) : Option Json :=
  readChars? s.toList

end PodWorkspace.Json
