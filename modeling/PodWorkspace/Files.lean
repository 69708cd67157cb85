import PodWorkspace.Text.Split

/-! Files as the provider reads them: by their path, with the system's word for why one cannot be
read. A `FileTree` is a small tree of files below the working directory. -/

namespace PodWorkspace

inductive FileFault where
  | missing
  | isDirectory
  | notADirectory
  | denied
  deriving DecidableEq, Repr

def FileFault.message : FileFault → String
  | .missing => "No such file or directory (os error 2)"
  | .isDirectory => "Is a directory (os error 21)"
  | .notADirectory => "Not a directory (os error 20)"
  | .denied => "Permission denied (os error 13)"

abbrev Files := String → Except FileFault String

/-- The files and directories below the working directory, by the parts of their paths. A directory
has no content. -/
structure FileTree where
  entries : List (List String × Option String)

namespace FileTree

/-- The parts of a path, without those that say nothing. -/
def parts (path : String) : List String :=
  (Text.split '/' path).filter fun p => p != "" && p != "."

def ofEntries (entries : List (String × Option String)) : FileTree :=
  ⟨entries.map fun e => (parts e.1, e.2)⟩

/-- What stands at a place: a file with its content, or a directory. -/
def at? (t : FileTree) (place : List String) : Option (Option String) :=
  match t.entries.reverse.lookup place with
  | some content => some content
  | none => if place.isEmpty || t.entries.any fun e => place.isPrefixOf e.1 then some none else none

/-- The content of the file that is reached from the directory `place` by further parts. -/
def walk (t : FileTree) (mustBeDirectory : Bool) (place : List String) :
    List String → Except FileFault String
  | [] =>
    match t.at? place with
    | none => .error .missing
    | some none => .error .isDirectory
    | some (some content) => if mustBeDirectory then .error .notADirectory else .ok content
  | part :: rest =>
    match t.at? place with
    | none => .error .missing
    | some (some _) => .error .notADirectory
    | some none =>
      if part = ".." then
        if place.isEmpty then .error .missing else t.walk mustBeDirectory place.dropLast rest
      else t.walk mustBeDirectory (place ++ [part]) rest

/-- The files of a tree; outside of it there are none. -/
def files (t : FileTree) : Files := fun path =>
  match path.toList with
  | [] => .error .missing
  | '/' :: _ => .error .missing
  | cs => t.walk (cs.getLast? == some '/') [] (parts path)

end FileTree

end PodWorkspace
