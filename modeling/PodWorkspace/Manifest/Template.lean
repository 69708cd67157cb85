import PodWorkspace.Cluster.Pod
import PodWorkspace.Failure
import PodWorkspace.Files
import PodWorkspace.Yaml.Reader

/-! Pod manifests that the user gives as templates, in YAML or JSON. -/

namespace PodWorkspace.Manifest

open Cluster

def parseTemplate (option path raw : String) : Except Failure Pod :=
  match (Yaml.read? raw).bind Pod.ofDocument? with
  | some pod => .ok pod
  | none => .error (.configuration option
      s!"failed to parse pod template {path}: not a pod manifest")

def loadTemplate (files : Files) (option path : String) : Except Failure Pod :=
  match files path with
  | .ok raw => parseTemplate option path raw
  | .error fault => .error (.configuration option
      s!"failed to read pod template {path}: {fault.message}")

end PodWorkspace.Manifest
