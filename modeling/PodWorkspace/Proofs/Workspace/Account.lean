import PodWorkspace.Proofs.Workspace.Stage

/-! How a launch sees to the service account of its pod and to the role binding of that: each is
found, or it is not found and then created. -/

namespace PodWorkspace

open Cluster Program

namespace Workspace

variable {w : Workspace} {steps : List (Step interface)} {account role : String}

/-- The ways in which a service account is seen to with success. -/
inductive SeesAccount (w : Workspace) (account : String) : List (Step interface) → Prop
  | found {existing : ServiceAccount} :
      SeesAccount w account [.call (.getServiceAccount account) (some (.ok (some existing)))]
  | created :
      SeesAccount w account [.call (.getServiceAccount account) (some (.ok none)),
        .call (.createServiceAccount (Manifest.serviceAccount account w.namespace)) (some (.ok ()))]

theorem seesAccount_of_runs (h : Runs (w.ensureAccount account) steps (some (.ok ()))) :
    w.SeesAccount account steps := by
  obtain ⟨answer, rest, rfl, hRest⟩ := runs_request_andThen_ok.1 h
  cases answer with
  | some existing =>
    obtain ⟨rfl, -⟩ := runs_note.1 hRest
    exact .found
  | none =>
    obtain ⟨answer, rfl, hEnding⟩ := runs_request.1 (runs_log.1 hRest)
    rcases answer with _ | (f | _) <;> cases hEnding
    exact .created

/-- The ways in which the role binding of a workspace is seen to with success. -/
inductive SeesBinding (w : Workspace) (account role : String) : List (Step interface) → Prop
  | found {existing : RoleBinding} :
      SeesBinding w account role [.call (.getRoleBinding w.resource) (some (.ok (some existing)))]
  | created :
      SeesBinding w account role [.call (.getRoleBinding w.resource) (some (.ok none)),
        .call (.createRoleBinding (Manifest.roleBinding w.name account role w.namespace))
          (some (.ok ()))]

theorem seesBinding_of_runs (h : Runs (w.ensureRoleBinding account role) steps (some (.ok ()))) :
    w.SeesBinding account role steps := by
  obtain ⟨answer, rest, rfl, hRest⟩ := runs_request_andThen_ok.1 h
  cases answer with
  | some existing =>
    obtain ⟨rfl, -⟩ := runs_note.1 hRest
    exact .found
  | none =>
    obtain ⟨answer, rfl, hEnding⟩ := runs_request.1 (runs_log.1 hRest)
    rcases answer with _ | (f | _) <;> cases hEnding
    exact .created

/-- The ways in which the account of a workspace and its binding are seen to with success. -/
inductive SeesAccess (w : Workspace) : List (Step interface) → Prop
  | unwanted (hAccount : w.options.manifest.serviceAccount = none) : SeesAccess w []
  | unbound {account : String} {steps : List (Step interface)}
      (hAccount : w.options.manifest.serviceAccount = some account)
      (hSees : w.SeesAccount account steps) : SeesAccess w steps
  | bound {account role : String} {steps more : List (Step interface)}
      (hAccount : w.options.manifest.serviceAccount = some account)
      (hSees : w.SeesAccount account steps) (hBinding : w.SeesBinding account role more) :
      SeesAccess w (steps ++ more)

theorem seesAccess_of_runs (h : Runs w.ensureServiceAccount steps (some (.ok ()))) :
    w.SeesAccess steps := by
  unfold ensureServiceAccount at h
  split at h
  · rename_i hAccount
    obtain ⟨rfl, -⟩ := runs_done.1 h
    exact .unwanted hAccount
  · rename_i account hAccount
    obtain ⟨seeing, _, rest, rfl, hSees, hRest⟩ := runs_andThen_ok.1 h
    split at hRest
    · obtain ⟨rfl, -⟩ := runs_done.1 hRest
      exact .unbound hAccount (by simpa using seesAccount_of_runs hSees)
    · exact .bound hAccount (seesAccount_of_runs hSees) (seesBinding_of_runs hRest)

end Workspace

end PodWorkspace
