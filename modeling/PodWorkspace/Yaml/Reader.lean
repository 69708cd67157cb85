import PodWorkspace.Yaml.Scalar

/-! Reading YAML text: block and flow collections, all kinds of scalars,
anchors with their aliases, and comments. The recursion is bounded by the length of the text. -/

namespace PodWorkspace.Yaml

abbrev Anchors := List (String × Document)

abbrev Reader := StateT Anchors Option

def refuse {α : Type} : Reader α := fun _ => none

def lifted {α : Type} (x : Option α) : Reader α := fun s => x.map (·, s)

def isNameChar (c : Char) : Bool :=
  c.isAlphanum || c == '_' || c == '-'

def anchorName? (cs : List Char) : Option (String × List Char) :=
  let name := cs.takeWhile isNameChar
  if name.isEmpty then none else some (String.ofList name, cs.dropWhile isNameChar)

def aliased (name : String) : Reader Document := fun s => (s.lookup name).map (·, s)

def anchor (name : String) (d : Document) : Reader Unit := fun s => some ((), (name, d) :: s)

def tagOf (inFlow : Bool) (cs : List Char) : List Char × List Char :=
  let inTag (c : Char) : Bool :=
    !(isSpace c || c == '\n' || (inFlow && isFlowMark c))
  (cs.takeWhile inTag, cs.dropWhile inTag)

/-- A document under a tag: a plain scalar that is tagged as text is one. -/
def tagged (tag : List Char) (d : Document) : Document :=
  match d with
  | .plain s => if tag = ['!', 's', 't', 'r'] || tag.isEmpty then .text s else d
  | _ => d

def memberName : Document → Option String
  | .text s => s
  | .plain s => some s
  | _ => none

/-- What follows white space, line breaks and comments. -/
def skipFlow (inComment : Bool) : List Char → List Char
  | [] => []
  | c :: rest =>
    if c == '\n' then skipFlow false rest
    else if inComment then skipFlow true rest
    else if isSpace c then skipFlow false rest
    else if c == '#' then skipFlow true rest
    else c :: rest

mutual

/-- A node of a flow collection, and what follows it. -/
def flowNode : Nat → List Char → Reader (Document × List Char)
  | 0, _ => refuse
  | fuel + 1, cs =>
    match skipFlow false cs with
    | '[' :: rest => do
      let (items, after) ← flowItems fuel rest
      return (.list items, after)
    | '{' :: rest => do
      let (members, after) ← flowMembers fuel rest
      return (.map members, after)
    | '*' :: rest => do
      let (name, after) ← lifted (anchorName? rest)
      return (← aliased name, after)
    | '&' :: rest => do
      let (name, after) ← lifted (anchorName? rest)
      let (d, after) ← flowNode fuel after
      anchor name d
      return (d, after)
    | '!' :: rest => do
      let (tag, after) := tagOf true rest
      let (d, after) ← flowNode fuel after
      return (tagged tag d, after)
    | cs =>
      if cs.head? == some '"' || cs.head? == some '\'' then do
        let (s, after) ← lifted (quoted? cs)
        return (.text s, after)
      else if beginsPlain true cs then
        let (s, after) := flowPlain (cs.length + 1) cs
        if isStrayColon after then refuse
        else return (.plain (String.ofList s), after)
      else refuse

/-- A node, or nothing before the mark that ends it. -/
def flowValue : Nat → List Char → Reader (Document × List Char)
  | 0, _ => refuse
  | fuel + 1, cs =>
    match skipFlow false cs with
    | ',' :: rest => return (.plain "", ',' :: rest)
    | ']' :: rest => return (.plain "", ']' :: rest)
    | '}' :: rest => return (.plain "", '}' :: rest)
    | cs => flowNode fuel cs

/-- The items of a flow list up to its closing bracket. A pair counts as a map of its own. -/
def flowItems : Nat → List Char → Reader (List Document × List Char)
  | 0, _ => refuse
  | fuel + 1, cs =>
    match skipFlow false cs with
    | ']' :: after => return ([], after)
    | cs => do
      let (d, after) ← flowNode fuel cs
      let (d, after) ← match skipFlow false after with
        | ':' :: rest => do
          let (value, after) ← flowValue fuel rest
          pure (Document.map [(memberName d, value)], after)
        | after => pure (d, after)
      match skipFlow false after with
      | ',' :: rest => do
        let (more, after) ← flowItems fuel rest
        return (d :: more, after)
      | ']' :: after => return ([d], after)
      | _ => refuse

/-- The members of a flow map up to its closing brace. -/
def flowMembers : Nat → List Char → Reader (List (Option String × Document) × List Char)
  | 0, _ => refuse
  | fuel + 1, cs =>
    match skipFlow false cs with
    | '\x7d' :: after => return ([], after)
    | cs => do
      let (key, after) ← flowNode fuel cs
      let (value, after) ← match skipFlow false after with
        | ':' :: rest => flowValue fuel rest
        | after => pure (Document.plain "", after)
      match skipFlow false after with
      | ',' :: rest => do
        let (more, after) ← flowMembers fuel rest
        return ((memberName key, value) :: more, after)
      | '\x7d' :: after => return ([(memberName key, value)], after)
      | _ => refuse

end

def isDash : List Char → Bool
  | ['-'] => true
  | '-' :: c :: _ => isSpace c
  | _ => false

def afterColon? (cs : List Char) : Option (List Char) :=
  match cs.dropWhile isSpace with
  | [':'] => some []
  | ':' :: c :: rest => if isSpace c then some (c :: rest) else none
  | _ => none

/-- The name of a member and what follows its colon, without properties in front. -/
def bareKey? (cs : List Char) : Option (Document × List Char) :=
  if cs.head? == some '"' || cs.head? == some '\'' then do
    let (s, after) ← quoted? cs
    return (.text s, ← afterColon? after)
  else if beginsPlain false cs then do
    let (s, after) := plainPiece false false cs
    return (.plain (String.ofList (Text.dropEndWhile isSpace s)), ← afterColon? after)
  else none

/-- The name of a member with the anchor that it may have, and what follows its colon. -/
def key? (cs : List Char) : Option (Option String × Document × List Char) :=
  match cs with
  | '&' :: rest => do
    let (name, after) ← anchorName? rest
    let (d, after) ← bareKey? (after.dropWhile isSpace)
    return (some name, d, after)
  | _ => (bareKey? cs).map fun (d, after) => (none, d, after)

/-- A quoted scalar, a flow collection or a plain scalar that begins on the first line, and the lines
after it. -/
def scalarOrFlow (low : Nat) (lines : List Line) : Reader (Document × List Line) := do
  let text := (lines.head?.map (·.text)).getD []
  let (d, rest) ←
    match text.head? with
    | some '[' | some '{' => do
      let cs := flat lines
      let (d, after) ← flowNode (cs.length + 1) cs
      pure (d, ofFlat after)
    | some '"' | some '\'' => do
      let (s, after) ← lifted (quoted? (flat lines))
      pure (Document.text s, ofFlat after)
    | _ =>
      if beginsPlain false text then
        let (s, rest) := blockPlain low lines
        pure (Document.plain (String.ofList s), rest)
      else refuse
  return (d, ← lifted (endLine rest))

mutual

/-- A node that begins on a line of its own and is indented by at least `low`, and the lines after
it. -/
def blockNode : Nat → Nat → List Line → Reader (Document × List Line)
  | 0, _, _ => refuse
  | fuel + 1, low, lines =>
    match dropVoid lines with
    | [] => return (.plain "", [])
    | l :: rest =>
      if l.indent < low then return (.plain "", l :: rest)
      else if isDash l.text then do
        let (items, rest) ← blockItems fuel l.indent (l :: rest)
        return (.list items, rest)
      else if (key? l.text).isSome then do
        let (members, rest) ← blockMembers fuel l.indent (l :: rest)
        return (.map members, rest)
      else inlineNode fuel low false (l :: rest)

/-- The items of a list whose dashes stand in column `column`, and the lines after it. -/
def blockItems : Nat → Nat → List Line → Reader (List Document × List Line)
  | 0, _, _ => refuse
  | fuel + 1, column, lines =>
    match dropVoid lines with
    | [] => return ([], [])
    | l :: rest =>
      if l.indent = column && isDash l.text then do
        let text := l.text.drop 1
        let body := text.dropWhile isSpace
        let inner := if isVoid body then rest
          else ⟨column + 1 + (text.length - body.length), body⟩ :: rest
        let (d, rest) ← blockNode fuel (column + 1) inner
        let (more, rest) ← blockItems fuel column rest
        return (d :: more, rest)
      else if column < l.indent then refuse
      else return ([], l :: rest)

/-- The members of a map whose names stand in column `column`, and the lines after it. -/
def blockMembers : Nat → Nat → List Line →
    Reader (List (Option String × Document) × List Line)
  | 0, _, _ => refuse
  | fuel + 1, column, lines =>
    match dropVoid lines with
    | [] => return ([], [])
    | l :: rest =>
      if l.indent = column then do
        let (name, key, after) ← lifted (key? l.text)
        if let some name := name then anchor name key
        let body := after.dropWhile isSpace
        let (d, rest) ←
          if isVoid body then nextNode fuel (column + 1) true rest
          else inlineNode fuel (column + 1) true (⟨column + 1, body⟩ :: rest)
        let (more, rest) ← blockMembers fuel column rest
        return ((memberName key, d) :: more, rest)
      else if column < l.indent then refuse
      else return ([], l :: rest)

/-- The node on the next lines. The dashes of a list that is the value of a member may stand in the
column of its name. -/
def nextNode : Nat → Nat → Bool → List Line → Reader (Document × List Line)
  | 0, _, _, _ => refuse
  | fuel + 1, low, isMember, lines =>
    match dropVoid lines with
    | [] => return (.plain "", [])
    | l :: rest =>
      if low ≤ l.indent then blockNode fuel low (l :: rest)
      else if isMember && l.indent + 1 = low && isDash l.text then do
        let (items, rest) ← blockItems fuel l.indent (l :: rest)
        return (.list items, rest)
      else return (.plain "", l :: rest)

/-- A node that begins in the middle of a line, and the lines after it. -/
def inlineNode : Nat → Nat → Bool → List Line → Reader (Document × List Line)
  | 0, _, _, _ => refuse
  | _, _, _, [] => return (.plain "", [])
  | fuel + 1, low, isMember, l :: rest =>
    match l.text with
    | '*' :: cs => do
      let (name, after) ← lifted (anchorName? cs)
      let d ← aliased name
      return (d, ← lifted (endLine ({ l with text := after } :: rest)))
    | '&' :: cs => do
      let (name, after) ← lifted (anchorName? cs)
      let body := after.dropWhile isSpace
      let (d, rest) ← if isVoid body then nextNode fuel low isMember rest
        else inlineNode fuel low isMember ({ l with text := body } :: rest)
      anchor name d
      return (d, rest)
    | '!' :: cs => do
      let (tag, after) := tagOf false cs
      let body := after.dropWhile isSpace
      let (d, rest) ← if isVoid body then nextNode fuel low isMember rest
        else inlineNode fuel low isMember ({ l with text := body } :: rest)
      return (tagged tag d, rest)
    | '|' :: header => do
      let (s, rest) ← lifted (blockScalar? low false header rest)
      return (.text s, rest)
    | '>' :: header => do
      let (s, rest) ← lifted (blockScalar? low true header rest)
      return (.text s, rest)
    | _ => scalarOrFlow low (l :: rest)

end

/-- The document that lines hold, and the lines after it. Neither a list nor a map of lines may begin
beside the marker of the document. -/
def documentNode (source : DocumentLines) : Reader (Document × List Line) :=
  let fuel (lines : List Line) : Nat := 2 * (flat lines).length + 2 * lines.length + 8
  match source.beside with
  | none => blockNode (fuel source.lines) 0 source.lines
  | some text =>
    let lines := ⟨4, text⟩ :: source.lines
    inlineNode (fuel lines) 0 false lines

def document? (source : DocumentLines) : Option Document := do
  let ((d, rest), _) ← (documentNode source).run []
  if (dropVoid rest).isEmpty then some d else none

/-- The documents of a text. A text without one stands for an empty document. -/
def readAll? (s : String) : Option (List Document) :=
  if s.toList.all isAllowed then do (← documentsOf s).mapM document? else none

def read? (s : String) : Option Document :=
  match readAll? s with
  | some [d] => some d
  | _ => none

end PodWorkspace.Yaml
