import PodWorkspace.Failure
import PodWorkspace.Registry.Host

/-! The registry from which an image is pulled. The first part of a reference is a host when it has
a point or a colon or is `localhost`; without a host the image comes from Docker Hub. -/

namespace PodWorkspace.Registry

def hubAddress : String := "https://index.docker.io/v1/"

inductive ImageFault where
  | empty
  | hasBlank
  | emptyPart
  | upperCase
  deriving DecidableEq, Repr

def ImageFault.message : ImageFault → String
  | .empty => "empty reference"
  | .hasBlank => "contains whitespace"
  | .emptyPart => "empty path component"
  | .upperCase => "repository name must be lowercase"

/-- Whether the first part of a reference is a host. -/
def isHost (part : List Char) : Bool :=
  part.contains '.' || part.contains ':' || part == "localhost".toList

/-- The host of a reference, if it names one, and the rest of it. -/
def hostAndPath (image : List Char) : Option (List Char) × List Char :=
  match Text.cutChars '/' image with
  | some (first, rest) => if isHost first then (some first, rest) else (none, image)
  | none => (none, image)

/-- The hosts that a reference may name for Docker Hub. -/
def isHub (host : String) : Bool :=
  host == hubHost || hubAliases.contains host

/-- The address of the registry that a reference means. -/
def imageRegistry? (image : String) : Except ImageFault String :=
  if image.isEmpty then .error .empty
  else if image.toList.any Text.isBlank then .error .hasBlank
  else
    let (host, path) := hostAndPath image.toList
    let repository := path.takeWhile fun c => c != '@' && c != ':'
    if (Text.pieces '/' repository).any List.isEmpty then .error .emptyPart
    else if repository.any Char.isUpper then .error .upperCase
    else
      match host.map String.ofList with
      | some h => .ok (if isHub h then hubAddress else h)
      | none => .ok hubAddress

/-- The address of the registry for an image, or why there is none. -/
def imageRegistry (image : String) : Except Failure String :=
  match imageRegistry? image with
  | .ok address => .ok address
  | .error fault =>
    .error (.serialization s!"invalid image '{image}': {fault.message}" (some "ImageReference"))

end PodWorkspace.Registry
