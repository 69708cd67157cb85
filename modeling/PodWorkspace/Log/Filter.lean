import PodWorkspace.Log.Basic
import PodWorkspace.Text.Blank
import PodWorkspace.Text.Digits
import PodWorkspace.Text.Split

/-! Which events a log shows. A filter is a list of directives, each with the least severe level
that it shows of a target, and perhaps only inside a span. The text of a filter has the most specific
directives first: those with the longest targets, and of equally long ones the last in the order of
their letters. -/

namespace PodWorkspace

/-- A directive of a filter. Without a level it shows nothing. -/
structure Directive where
  target : Option String := none
  span : Option String := none
  level : Option Level
  deriving DecidableEq, Repr

namespace Directive

def levelWords : List (String × Option Level) :=
  [("off", none), ("error", some .error), ("warn", some .warn), ("info", some .info),
    ("debug", some .debug), ("trace", some .trace)]

def levelWord (level : Option Level) : String :=
  ((levelWords.find? fun w => w.2 == level).map (·.1)).getD ""

/-- The number of a level, which may have a sign and zeros in front. -/
def levelNumber? (word : String) : Option Nat :=
  Text.natOfDigits? 10 ((Text.stripFront "+" word).getD word).toList

/-- The level that a word in any ASCII case or a number names. The words count from zero. -/
def level? (word : String) : Option (Option Level) :=
  match levelNumber? word with
  | some n => levelWords[n]?.map (·.2)
  | none => levelWords.lookup (Text.lowerAscii word)

/-- The level after an equals sign, which may be left out. -/
def levelAfter? (text : String) : Option (Option Level) :=
  if text.isEmpty then some (some .trace) else level? text

/-- Whether a character may begin a directive without a span. -/
def mayBegin (c : Char) : Bool :=
  c.isAlphanum || c == '-' || c == ':' || c == '_' || (128 ≤ c.toNat && !Text.isBlank c)

/-- The directive with a target and what follows a `[`. -/
def ofSpan? (target : Option String) (text : String) : Option Directive := do
  let (span, rest) ← Text.cut ']' text
  if span.toList.any fun c => c == '{' then none
  else if rest.isEmpty then some ⟨target, some span, some .trace⟩
  else some ⟨target, some span, ← levelAfter? (← Text.stripFront "=" rest)⟩

/-- The directive that a text spells: a level, a target, or both with an equals sign between them,
and perhaps a span in brackets. -/
def parse? (text : String) : Option Directive :=
  match text.toList with
  | [] => none
  | '[' :: rest => ofSpan? none (String.ofList rest)
  | c :: cs =>
    if !mayBegin c then none
    else
      let target := (c :: cs).takeWhile fun c => c != '=' && c != '['
      match (c :: cs).dropWhile fun c => c != '=' && c != '[' with
      | '=' :: rest => do
        some ⟨some (String.ofList target), none, ← levelAfter? (String.ofList rest)⟩
      | '[' :: rest => ofSpan? (some (String.ofList target)) (String.ofList rest)
      | _ =>
        match level? text with
        | some level => some ⟨none, none, level⟩
        | none => some ⟨some text, none, some .trace⟩

def text (d : Directive) : String :=
  let scope := d.target.getD "" ++ (d.span.elim "" fun s => s!"[{s}]")
  if scope.isEmpty then levelWord d.level else s!"{scope}={levelWord d.level}"

/-- Whether two directives are about the same events. -/
def sameScope (a b : Directive) : Bool := a.target == b.target && a.span == b.span

/-- Whether `a` is more specific than `b`. -/
def precedes (a b : Directive) : Bool :=
  match a.target, b.target with
  | some s, some t => t.utf8ByteSize < s.utf8ByteSize || (s.utf8ByteSize == t.utf8ByteSize && t < s)
  | some _, none => true
  | none, _ => false

end Directive

/-- A filter: its directives, those without a span first, and the most specific first. -/
structure Filter where
  directives : List Directive
  deriving DecidableEq, Repr

namespace Filter

/-- The directives with one more, which replaces one about the same events. -/
def insert (d : Directive) : List Directive → List Directive
  | [] => [d]
  | e :: rest =>
    if d.sameScope e then d :: rest
    else if (d.span.isNone && e.span.isSome) || (d.span.isSome == e.span.isSome && d.precedes e) then
      d :: e :: rest
    else e :: insert d rest

/-- The filter of some directives. Without any it shows errors. -/
def ofDirectives (ds : List Directive) : Filter :=
  if ds.isEmpty then ⟨[⟨none, none, some .error⟩]⟩
  else ⟨ds.foldl (fun kept d => insert d kept) []⟩

/-- The filter that a text spells, with commas between its directives. -/
def parse? (text : String) : Option Filter :=
  (((Text.split ',' text).filter fun piece => !piece.isEmpty).mapM Directive.parse?).map ofDirectives

def text (f : Filter) : String := Text.join "," (f.directives.map Directive.text)

/-- The filter that shows all targets down to a level. -/
def ofLevel (level : Level) : Filter := ⟨[⟨none, none, some level⟩]⟩

/-- The filter that a setting spells; without a usable one, debugging decides. -/
def ofSetting (setting : Option String) (isDebugging : Bool) : Filter :=
  (setting.bind parse?).getD (ofLevel (if isDebugging then .debug else .info))

def level (f : Filter) : Option Level :=
  (f.directives.find? fun d => d.target.isNone && d.span.isNone).bind (·.level)

def shows (f : Filter) (e : Event) : Bool := f.level.any fun level => e.passes level

end Filter

end PodWorkspace
