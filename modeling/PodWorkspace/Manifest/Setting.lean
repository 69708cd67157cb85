import PodWorkspace.Cluster.Pod
import PodWorkspace.Options.Basic
import PodWorkspace.Spec.Basic
import PodWorkspace.WorkspaceName

/-! What the manifests of a workspace are built from: the options and the namespace. A container
that a template already declares under the name of a built one is folded into it: its variables and
mounts stand first, its ports, sources of variables and pull policy are kept, and its rights count
only when the built container has none. -/

namespace PodWorkspace.Manifest

open Cluster

/-- The options, and the namespace in which the objects live. -/
structure Setting where
  options : ManifestOptions
  «namespace» : String

def devContainerName : String := "devpod"

def initContainerName : String := "devpod-init"

def claimVolumeName : String := "devpod"

def createdLabels : Dict String := .single createdLabel "true"

def Setting.image (s : Setting) (spec : RunSpec) : String :=
  s.options.dangerouslyOverrideImage.getD spec.image

def Setting.helperImage (s : Setting) : String :=
  s.options.helperImage.getD "busybox:latest"

def lastNamed? (name : String) (containers : List Container) : Option Container :=
  (containers.filter (·.name == name)).getLast?

def othersThan (name : String) (containers : List Container) : List Container :=
  containers.filter (·.name != name)

/-- One list after another, where a list that is absent adds nothing. -/
def appended {α : Type} : Option (List α) → Option (List α) → Option (List α)
  | none, none => none
  | first, second => some (first.getD [] ++ second.getD [])

/-- A built container with what a template declares under its name. -/
def foldInto (built declared : Container) : Container :=
  { built with
    env := appended declared.env built.env
    volumeMounts := appended declared.volumeMounts built.volumeMounts
    envFrom := declared.envFrom
    ports := declared.ports
    imagePullPolicy := declared.imagePullPolicy
    securityContext := built.securityContext.or declared.securityContext }

/-- A built container with what `declared` holds under its name. -/
def mergeDeclared (built : Container) (declared : List Container) : Container :=
  match lastNamed? built.name declared with
  | some c => foldInto built c
  | none => built

end PodWorkspace.Manifest
