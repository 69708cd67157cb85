import PodWorkspace.Dict
import PodWorkspace.Json.Basic

/-! Reading records with fixed fields. A record is written as an object, whose members may come in
any order and beside members that the record does not know, or as a list of its fields in their
order. A field given twice, also once under each of two names, is an error; so is a value of
another type, since nothing is converted. -/

namespace PodWorkspace.Json

/-- A field of a record: its name, and the other names under which it is read. -/
structure Field where
  name : String
  aliases : List String

def Field.plain (name : String) : Field := ⟨name, []⟩

/-- The fields of a record that were given, by name. -/
abbrev Record := List (String × Json)

def fieldOf? (fields : List Field) (member : String) : Option String :=
  (fields.find? fun f => f.name == member || f.aliases.contains member).map (·.name)

/-- The members that are fields, each at most once. A member whose name is no text is an error. -/
def recordOfMembers? (fields : List Field) : List (Option String × Json) → Option Record
  | [] => some []
  | (none, _) :: _ => none
  | (some member, v) :: rest => do
    let given ← recordOfMembers? fields rest
    match fieldOf? fields member with
    | none => some given
    | some name => if (given.lookup name).isSome then none else some ((name, v) :: given)

/-- The record that an object or a list of values gives for `fields`. -/
def record? (fields : List Field) : Json → Option Record
  | .object members => recordOfMembers? fields members
  | .list items =>
    if items.length ≤ fields.length then some ((fields.map (·.name)).zip items) else none
  | _ => none

def Record.required? {α : Type} (r : Record) (name : String) (read : Json → Option α) : Option α :=
  (r.lookup name).bind read

/-- A field with a value for when it is not given. -/
def Record.withDefault? {α : Type} (r : Record) (name : String) (read : Json → Option α)
    (default : α) : Option α :=
  match r.lookup name with
  | none => some default
  | some v => read v

def optional? {α : Type} (read : Json → Option α) : Json → Option (Option α)
  | .null => some none
  | v => (read v).map some

def list? {α : Type} (read : Json → Option α) : Json → Option (List α)
  | .list items => items.mapM read
  | _ => none

/-- The entries of an object whose members all have the type that `read` reads. -/
def entries? {α : Type} (read : Json → Option α) : List (Option String × Json) →
    Option (List (String × α))
  | [] => some []
  | (none, _) :: _ => none
  | (some name, v) :: rest => do
    let x ← read v
    let more ← entries? read rest
    some ((name, x) :: more)

/-- A map, in which the last member with a name counts. -/
def dict? {α : Type} (read : Json → Option α) : Json → Option (Dict α)
  | .object members => (entries? read members).map Dict.ofList
  | _ => none

/-- The members of a map in the order of their names. -/
def ofDict {α : Type} (write : α → Json) (d : Dict α) : Json :=
  ofMembers (d.entries.map fun e => (e.1, write e.2))

/-- The members for a field that is left out when it has no value. -/
def memberIfSome {α : Type} (name : String) (write : α → Json) : Option α → List (String × Json)
  | none => []
  | some x => [(name, write x)]

end PodWorkspace.Json
