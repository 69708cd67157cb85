/-! Cutting texts at a separator: at its first occurrence, or at every one. -/

namespace PodWorkspace.Text

/-- The pieces of `cs` between the occurrences of `sep`; there is always at least one. -/
def pieces (sep : Char) : List Char → List (List Char)
  | [] => [[]]
  | c :: cs =>
    if c = sep then [] :: pieces sep cs
    else
      match pieces sep cs with
      | [] => [[c]]
      | first :: others => (c :: first) :: others

/-- What stands before and after the first `sep`, if there is one. -/
def cutChars (sep : Char) : List Char → Option (List Char × List Char)
  | [] => none
  | c :: cs =>
    if c = sep then some ([], cs)
    else (cutChars sep cs).map fun halves => (c :: halves.1, halves.2)

/-- The pieces of a text between the occurrences of `sep`. -/
def split (sep : Char) (s : String) : List String :=
  (pieces sep s.toList).map String.ofList

/-- What stands before and after the first `sep` of a text, if there is one. -/
def cut (sep : Char) (s : String) : Option (String × String) :=
  (cutChars sep s.toList).map fun halves => (String.ofList halves.1, String.ofList halves.2)

/-- The text before the first `sep`, or all of it. -/
def before (sep : Char) (s : String) : String :=
  String.ofList (s.toList.takeWhile (· != sep))

/-- `cs` without `front`, when it begins with it. -/
def dropFront : List Char → List Char → Option (List Char)
  | [], cs => some cs
  | _ :: _, [] => none
  | f :: front, c :: cs => if f = c then dropFront front cs else none

/-- `s` without `front`, when it begins with it. -/
def stripFront (front s : String) : Option String :=
  (dropFront front.toList s.toList).map String.ofList

/-- Whether `part` stands somewhere in `cs`. -/
def occursIn (part : List Char) : List Char → Bool
  | [] => part.isEmpty
  | c :: cs => (dropFront part (c :: cs)).isSome || occursIn part cs

def occurs (part s : String) : Bool :=
  occursIn part.toList s.toList

/-- The texts one after another, with `sep` between neighbours. -/
def join (sep : String) : List String → String
  | [] => ""
  | [s] => s
  | s :: rest => s ++ sep ++ join sep rest

def lowerAscii (s : String) : String :=
  String.ofList (s.toList.map Char.toLower)

end PodWorkspace.Text
