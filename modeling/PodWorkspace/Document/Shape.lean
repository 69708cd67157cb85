import PodWorkspace.Dict
import PodWorkspace.Document.Basic
import PodWorkspace.Json.Record
import PodWorkspace.Text.Base64
import PodWorkspace.Time.Timestamp

/-! The shapes of API values, and documents read by them. A record keeps the members it knows and
drops the others; an absent value may be written as `null`; a required member that is missing has
the default of its shape. What is read is again JSON, with every value in its one written form. -/

namespace PodWorkspace

/-- The shape of a value in the API. -/
inductive Shape where
  | text
  | bool
  | int32
  | int64
  | time
  | microTime
  | bytes
  /-- A number or the name of one. -/
  | intOrText
  /-- Any JSON value. -/
  | any
  | list (item : Shape)
  | dict (value : Shape)
  /-- Members with their names; a required one is always there. -/
  | record (members : List (String × Bool × Shape))
  deriving Inhabited

namespace Shape

def optional (name : String) (s : Shape) : String × Bool × Shape := (name, false, s)

def required (name : String) (s : Shape) : String × Bool × Shape := (name, true, s)

end Shape

namespace Document

mutual

def toJson : Document → Json
  | .null => .null
  | .bool b => .bool b
  | .number literal => .number literal
  | .text s => .text s
  | .plain s =>
    if isNullWord s then .null
    else match (Document.plain s).bool? with
      | some b => .bool b
      | none => match plainInt? s with
        | some n => .ofInt n
        | none => if isPlainFraction s then .number s else .ofText s
  | .list items => .list (itemsToJson items)
  | .map members => .object (membersToJson members)

def itemsToJson : List Document → List Json
  | [] => []
  | d :: ds => toJson d :: itemsToJson ds

def membersToJson : List (Option String × Document) → List (Option String × Json)
  | [] => []
  | (name, d) :: ms => (name, toJson d) :: membersToJson ms

end

/-- A number or the name of one. -/
def intOrText? : Document → Option Json
  | .plain s =>
    match plainInt? s with
    | some n => if hasWidth 32 n then some (.ofInt n) else none
    | none =>
      if isNullWord s || (Document.plain s).bool?.isSome || isPlainFraction s then none
      else some (.ofText s)
  | .text s => s.map .ofText
  | d => (d.intOfWidth? 32).map .ofInt

def time? (d : Document) : Option Timestamp := d.text?.bind Timestamp.read?

def bytes? (d : Document) : Option Text.Bytes := d.text?.bind Text.Base64.decode

/-- The last of the values that are given for a member, all of which have to be readable, unless
none is given or the last one is absent. -/
def optional? {α : Type} (name : String) (read : Document → Option α)
    (members : List (String × Document)) : Option (Option α) := do
  let given ← (members.filter (·.1 == name)).mapM fun m =>
    if m.2.isAbsent then some none else (read m.2).map some
  some (given.getLast?.join)

def listOf? {α : Type} (read : Document → Option α) (d : Document) : Option (List α) := do
  (← d.list?).mapM read

def dictOf? {α : Type} (read : Document → Option α) (d : Document) : Option (Dict α) := do
  some (.ofList (← (← d.members?).mapM fun m => (read m.2).map fun v => (m.1, v)))

end Document

namespace Shape

mutual

def default : Shape → Json
  | .text | .time | .microTime | .bytes => .ofText ""
  | .bool => .bool false
  | .int32 | .int64 | .intOrText => .ofInt 0
  | .any => .null
  | .list _ => .list []
  | .dict _ => .object []
  | .record members => .ofMembers (defaultMembers members)

def defaultMembers : List (String × Bool × Shape) → List (String × Json)
  | [] => []
  | (name, required, s) :: rest =>
    if required then (name, default s) :: defaultMembers rest else defaultMembers rest

end

mutual

/-- The value that a document holds for a shape, in its one written form. -/
def read? : Shape → Document → Option Json
  | .text, d => d.text?.map .ofText
  | .bool, d => d.bool?.map .bool
  | .int32, d => (d.intOfWidth? 32).map .ofInt
  | .int64, d => (d.intOfWidth? 64).map .ofInt
  | .time, d => d.time?.map fun t => .ofText t.text
  | .microTime, d => d.time?.map fun t => .ofText t.microText
  | .bytes, d => d.bytes?.map fun b => .ofText (Text.Base64.encode b)
  | .intOrText, d => d.intOrText?
  | .any, d => some d.toJson
  | .list item, d => (Document.listOf? (read? item) d).map .list
  | .dict value, d => (Document.dictOf? (read? value) d).map fun e => .ofDict id e
  | .record members, d => do
    some (.ofMembers (← readMembers? members (← d.members?)))

/-- The members of a record that are given or required. -/
def readMembers? : List (String × Bool × Shape) → List (String × Document) →
    Option (List (String × Json))
  | [], _ => some []
  | (name, required, s) :: rest, given => do
    let value ← Document.optional? name (read? s) given
    let more ← readMembers? rest given
    match value with
    | some v => some ((name, v) :: more)
    | none => some (if required then (name, s.default) :: more else more)

end

end Shape

end PodWorkspace
