import PodWorkspace.Json.Record

/-! Mounts of a workspace container. -/

namespace PodWorkspace

/-- A mount: its kind, what is mounted and where, and further options. -/
structure Mount where
  kind : String := ""
  source : String := ""
  target : String := ""
  other : List String := []
  deriving DecidableEq, Repr, Inhabited

namespace Mount

def volume (source target : String) : Mount := { kind := "volume", source, target }

def isVolume (m : Mount) : Bool := m.kind == "volume"

/-- Whether a pod can express the mount: binds and volumes only. -/
def isSupported (m : Mount) : Bool := m.kind == "bind" || m.kind == "volume"

def text (m : Mount) : String :=
  m.other.foldl (fun s extra => s!"{s},{extra}")
    s!"type={m.kind},src={m.source},dst={m.target}"

def fields : List Json.Field := ["type", "source", "target", "other"].map .plain

def toJson (m : Mount) : Json :=
  .ofMembers <|
    [("type", Json.ofText m.kind), ("source", .ofText m.source), ("target", .ofText m.target)] ++
    if m.other.isEmpty then [] else [("other", .ofTexts m.other)]

def ofJson? (v : Json) : Option Mount := do
  let r ← Json.record? fields v
  return {
    kind := ← r.withDefault? "type" Json.text? ""
    source := ← r.withDefault? "source" Json.text? ""
    target := ← r.withDefault? "target" Json.text? ""
    other := ← r.withDefault? "other" (Json.list? Json.text?) [] }

end Mount

end PodWorkspace
