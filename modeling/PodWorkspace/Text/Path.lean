import PodWorkspace.Text.Split

/-! File paths by their parts: repeated and trailing slashes and inner dots say nothing, two dots
are a part like any other, and a leading slash or dot tells paths apart. -/

namespace PodWorkspace.Text

inductive PathPart where
  | root
  /-- The dot with which a relative path may begin. -/
  | here
  | up
  | name (s : List Char)
  deriving DecidableEq, Repr

def namedParts (ps : List (List Char)) : List PathPart :=
  (ps.filter fun p => p != [] && p != ['.']).map fun p => if p = ['.', '.'] then .up else .name p

def pathParts (path : String) : List PathPart :=
  match path.toList with
  | '/' :: rest => .root :: namedParts (pieces '/' rest)
  | cs =>
    match pieces '/' cs with
    | ['.'] :: rest => .here :: namedParts rest
    | ps => namedParts ps

/-- Whether `parent` is `path` or a directory above it, judged by the parts. -/
def isWithin (path parent : String) : Bool :=
  (pathParts parent).isPrefixOf (pathParts path)

end PodWorkspace.Text
