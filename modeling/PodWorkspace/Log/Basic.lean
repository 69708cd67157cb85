/-! Log events and the buffer that holds them back until it is known whether anyone wants them. -/

namespace PodWorkspace

inductive Level where
  | error | warn | info | debug | trace
  deriving DecidableEq, Repr

namespace Level

def name : Level → String
  | .error => "ERROR"
  | .warn => "WARN"
  | .info => "INFO"
  | .debug => "DEBUG"
  | .trace => "TRACE"

/-- The rank, from the most severe on. -/
def rank : Level → Nat
  | .error => 0
  | .warn => 1
  | .info => 2
  | .debug => 3
  | .trace => 4

def ofName? : String → Option Level
  | "error" => some .error
  | "warn" => some .warn
  | "info" => some .info
  | "debug" => some .debug
  | "trace" => some .trace
  | _ => none

end Level

/-- A log event: a message and named fields in the order in which they were given. -/
structure Event where
  level : Level
  message : String
  fields : List (String × String)
  deriving DecidableEq, Repr

namespace Event

/-- The fields as `name=value`, with spaces between them. -/
def fieldsText : List (String × String) → String
  | [] => ""
  | [(name, value)] => s!"{name}={value}"
  | (name, value) :: rest => s!"{name}={value} {fieldsText rest}"

/-- The message followed by the fields, or the one that is there. -/
def text (e : Event) : String :=
  if e.fields.isEmpty then e.message
  else if e.message.isEmpty then fieldsText e.fields
  else s!"{e.message} {fieldsText e.fields}"

/-- The event without its fields, which have become part of its message. -/
def flatten (e : Event) : Event := ⟨e.level, e.text, []⟩

def line (e : Event) : String := s!"{e.level.name} {e.text}"

def passes (level : Level) (e : Event) : Bool := e.level.rank ≤ level.rank

end Event

/-- Events that are held back. -/
structure LogBuffer where
  events : List Event
  deriving DecidableEq, Repr

namespace LogBuffer

/-- The buffer without events. -/
def empty : LogBuffer := ⟨[]⟩

/-- The buffer with one more event, which keeps its level and its text. -/
def push (b : LogBuffer) (e : Event) : LogBuffer := ⟨b.events ++ [e.flatten]⟩

def size (b : LogBuffer) : Nat := b.events.length

/-- The events to replay, all of them or none, and the buffer after that, which is empty. -/
def finish (b : LogBuffer) (flush : Bool) : List Event × LogBuffer :=
  (if flush then b.events else [], empty)

end LogBuffer

end PodWorkspace
