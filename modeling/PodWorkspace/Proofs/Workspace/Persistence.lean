import PodWorkspace.Manifest.WorkspaceClaim
import PodWorkspace.Proofs.Dict
import PodWorkspace.Proofs.Spec.Record
import PodWorkspace.Workspace.Basic

/-! What the volume claim of a workspace keeps. The annotation with the record is put in last, so no
annotation that the user wants takes its place, and the record that is read from the claim is the one
that the claim was built with. -/

namespace PodWorkspace

open Cluster

namespace Manifest

variable {s : Setting} {w : WorkspaceName} {record : WorkspaceRecord} {claim : VolumeClaim}

theorem workspaceClaim_ok (h : (workspaceClaim s w record).outcome = .ok claim) :
    claim.name = w.resource ∧
      claim.metadata.annotation? infoAnnotation = some record.annotation := by
  obtain ⟨size, -, h⟩ := Logged.outcome_bind_eq_ok.1 h
  obtain ⟨extra, -, h⟩ := Logged.outcome_bind_eq_ok.1 h
  obtain rfl := Except.ok.inj h
  exact ⟨rfl, Dict.get?_insert_self _ _ _⟩

end Manifest

namespace Workspace

variable {w : Workspace} {record : WorkspaceRecord} {claim stored : VolumeClaim}

theorem recordOf_of_annotation
    (h : claim.metadata.annotation? infoAnnotation = some record.annotation) :
    w.recordOf claim = .ok record := by
  rw [recordOf, h, Option.filter_some_pos (by simp [WorkspaceRecord.annotation_isEmpty])]
  exact WorkspaceRecord.ofAnnotation_annotation record

/-- A claim that carries the annotations of a new one has its record. -/
theorem recordOf_workspaceClaim {s : Manifest.Setting} {name : WorkspaceName}
    (h : (Manifest.workspaceClaim s name record).outcome = .ok claim)
    (hStored : stored.metadata.annotations = claim.metadata.annotations) :
    w.recordOf stored = .ok record := by
  have hRaw : stored.metadata.annotation? infoAnnotation = some record.annotation := by
    rw [ObjectMeta.annotation?, hStored]
    exact (Manifest.workspaceClaim_ok h).2
  exact recordOf_of_annotation hRaw

end Workspace

namespace Manifest

/-- Whatever annotations are wanted, the record of a workspace reads back from its claim, for every
workspace that looks at it; and so does its text with the names that older claims have for its
members. -/
theorem record_of_workspaceClaim {s : Setting} {w : WorkspaceName} {record : WorkspaceRecord}
    {claim : VolumeClaim} (h : (workspaceClaim s w record).outcome = .ok claim) :
    (∃ raw, claim.metadata.annotation? infoAnnotation = some raw ∧
      raw = record.text "workspaceId" "spec" ∧ WorkspaceRecord.ofAnnotation raw = .ok record) ∧
    (∀ reader : Workspace, reader.recordOf claim = .ok record) ∧
    WorkspaceRecord.ofAnnotation (record.text "WorkspaceID" "Options") = .ok record := by
  have hRaw := (workspaceClaim_ok h).2
  have hText := record.annotation_eq_text
  refine ⟨⟨record.annotation, hRaw, hText, record.ofAnnotation_annotation⟩, ?_, ?_⟩
  · intro reader
    exact Workspace.recordOf_workspaceClaim h rfl
  · exact record.ofAnnotation_text rfl rfl

/-- A setting whose annotations name that of the record, and another one. -/
def shadowing : Setting where
  options := { pvcAnnotations := some "devpod.sh/info=\x7b\x7d, team = blue ,devpod.sh/info=bogus" }
  «namespace» := "team"

/-- A record with all that a specification can have. -/
def storied : WorkspaceRecord where
  workspaceId := "notes"
  spec := {
    uid := "uid-😀"
    user := "\x00\n\"\\"
    image := "debian"
    cmd := ["-c", "écho \uffff"]
    env := (Dict.single "spec" "Options").insert "WorkspaceID" ""
    labels := ["flag", "a=b=c"]
    privileged := some false
    resources := some "requests.cpu=1"
    workspaceMount := some (.volume "notes" "/workspaces/notes")
    mounts := [{ kind := "bind", source := "/tmp", target := "/t", other := ["ro", ""] }, {}] }

/-- The user's annotation is kept beside the record, and those that would take its place are not. -/
theorem record_of_workspaceClaim_of_shadowing :
    ∃ claim, (workspaceClaim shadowing ⟨"notes"⟩ storied).outcome = .ok claim ∧
      claim.metadata.annotation? "team" = some "blue" ∧
      (∀ reader : Workspace, reader.recordOf claim = .ok storied) ∧
      WorkspaceRecord.ofAnnotation (storied.text "WorkspaceID" "Options") = .ok storied := by
  have hTeam : (workspaceClaim shadowing ⟨"notes"⟩ storied).outcome.toOption.any
      (fun claim => claim.metadata.annotation? "team" == some "blue") = true := by decide +kernel
  cases hClaim : (workspaceClaim shadowing ⟨"notes"⟩ storied).outcome with
  | error f =>
    rw [hClaim] at hTeam
    cases hTeam
  | ok claim =>
    rw [hClaim] at hTeam
    obtain ⟨-, hReaders, hLegacy⟩ := record_of_workspaceClaim hClaim
    exact ⟨claim, rfl, beq_iff_eq.1 hTeam, hReaders, hLegacy⟩

end Manifest

end PodWorkspace
