import PodWorkspace.Text.Blank

/-! The names of the objects of a workspace, which follow from its id, and the labels and
annotations by which they are known. -/

namespace PodWorkspace

def createdLabel : String := "devpod.sh/created"

/-- The label that names the workspace of an architecture detection pod. -/
def workspaceLabel : String := "devpod.sh/workspace"

def workspaceUidLabel : String := "devpod.sh/workspace-uid"

/-- The annotation of a volume claim that holds the record of the workspace. -/
def infoAnnotation : String := "devpod.sh/info"

/-- The annotation of a pod that holds the snapshot of the options it was built with. -/
def lastAppliedAnnotation : String := "devpod.sh/last-applied-configuration"

/-- A workspace, as the cluster knows it. -/
structure WorkspaceName where
  id : String
  deriving DecidableEq, Repr, Inhabited

namespace WorkspaceName

/-- The name of the volume claim, the pod and the role binding. -/
def resource (w : WorkspaceName) : String := s!"devpod-{w.id}"

def pullSecret (w : WorkspaceName) : String := s!"devpod-pull-secret-{w.id}"

def detectionSelector (w : WorkspaceName) : String := s!"{workspaceLabel}={w.resource}"

/-- The greatest length of the name of an architecture detection pod. -/
def archPodNameMax : Nat := 32

/-- The name of an architecture detection pod with a given suffix: as much of the workspace's
name as fits, without dashes at its end, then a dash and the suffix. -/
def archPod (w : WorkspaceName) (suffix : String) : String :=
  let head := w.resource.toList.take (archPodNameMax - (suffix.utf8ByteSize + 1))
  String.ofList (Text.dropEndWhile (· == '-') head) ++ "-" ++ suffix

end WorkspaceName

end PodWorkspace
