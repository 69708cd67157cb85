import PodWorkspace.Text.Form

/-! Addresses on the API server. A name goes into a path as it is, so a name with a space makes no
address, and one with a `?` or a `#` changes what the address means. -/

namespace PodWorkspace.Server

/-- An address: the path and what follows it, as they are sent. -/
structure Address where
  text : String
  deriving DecidableEq, Repr

namespace Address

def ofPath (path : String) : Address := ⟨path⟩

def withQuery (path : String) (query : List (String × String)) : Address :=
  ⟨path ++ "?" ++ Text.Form.encodePairs query⟩

/-- The part that is sent: what follows a `#` stays behind. -/
def sent (a : Address) : String := Text.before '#' a.text

def path (a : Address) : String := Text.before '?' a.sent

def query (a : Address) : List (String × String) :=
  match Text.cut '?' a.sent with
  | some (_, query) => Text.Form.decodePairs query
  | none => []

def maxBytes : Nat := 65534

def isPathChar (c : Char) : Bool :=
  let n := c.toNat
  n == 0x21 || n == 0x22 || (0x24 ≤ n && n ≤ 0x3b) || n == 0x3d || (0x40 ≤ n && n ≤ 0x5f) ||
    (0x61 ≤ n && n ≤ 0x7e) || 0x7f ≤ n

def isQueryChar (c : Char) : Bool :=
  let n := c.toNat
  n == 0x21 || (0x24 ≤ n && n ≤ 0x3b) || n == 0x3d || 0x3f ≤ n

def isWritable (a : Address) : Bool :=
  a.text.utf8ByteSize ≤ maxBytes && a.path.toList.all isPathChar &&
    (match Text.cut '?' a.sent with
      | some (_, query) => query.toList.all isQueryChar
      | none => true)

end Address

end PodWorkspace.Server
