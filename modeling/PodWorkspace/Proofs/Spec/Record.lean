import PodWorkspace.Proofs.Json.Record
import PodWorkspace.Spec.Basic

/-! The record of a workspace reads back from its annotation, with the specification and the mounts
in it, whatever texts they are made of. -/

namespace PodWorkspace

open Json

namespace Mount

/-- A mount as a table with all fields. -/
def table (m : Mount) : List (String × Option Json) :=
  [("type", some (ofText m.kind)), ("source", some (ofText m.source)),
    ("target", some (ofText m.target)),
    ("other", if m.other.isEmpty then none else some (ofTexts m.other))]

theorem toJson_eq_present (m : Mount) : m.toJson = .ofMembers (present m.table) := by
  unfold toJson table
  split <;> simp_all [present]

theorem areDistinct_fields : AreDistinct fields := by decide

theorem names_table (m : Mount) : m.table.map (·.1) = fields.map (·.name) := rfl

theorem isNumberless_toJson (m : Mount) : m.toJson.isNumberless = true := by
  rw [toJson_eq_present, isNumberless_present]
  unfold table
  split <;> simp [isNumberless_ofTexts]

theorem ofJson_toJson (m : Mount) : ofJson? m.toJson = some m := by
  have hLookup := lookup_of_record areDistinct_fields m.names_table
  rw [toJson_eq_present, ofJson?, record_ofMembers_present areDistinct_fields m.names_table]
  rw [Option.bind_eq_bind, Option.bind_some]
  have hOther : Record.withDefault? (present m.table) "other" (list? text?) [] = some m.other := by
    exact withDefault_unless ((hLookup "other").trans rfl) List.isEmpty_iff.1 (list_ofTexts m.other)
  have hText (name value : String) (h : (m.table.lookup name).join = some (ofText value)) :
      Record.withDefault? (present m.table) name text? "" = some value :=
    withDefault_of_written ((hLookup name).trans h) rfl
  rw [hText "type" m.kind rfl, hText "source" m.source rfl, hText "target" m.target rfl, hOther]
  rfl

end Mount

namespace RunSpec

/-- A specification as a table with all fields. -/
def table (s : RunSpec) : List (String × Option Json) :=
  [("uid", some (ofText s.uid)), ("user", some (ofText s.user)), ("image", some (ofText s.image)),
    ("entrypoint", some (ofText s.entrypoint)), ("cmd", some (ofTexts s.cmd)),
    ("env", some (ofDict ofText s.env)), ("capAdd", some (ofTexts s.capAdd)),
    ("securityOpt", some (ofTexts s.securityOpt)), ("labels", some (ofTexts s.labels)),
    ("privileged", s.privileged.map .bool), ("resources", s.resources.map ofText),
    ("workspaceMount", s.workspaceMount.map Mount.toJson),
    ("mounts", some (.list (s.mounts.map Mount.toJson)))]

theorem toJson_eq_present (s : RunSpec) : s.toJson = .ofMembers (present s.table) := by
  simp only [toJson, table]
  cases s.privileged <;> cases s.resources <;> cases s.workspaceMount <;> rfl

theorem areDistinct_fields : AreDistinct fields := by decide

theorem names_table (s : RunSpec) : s.table.map (·.1) = fields.map (·.name) := rfl

theorem isNumberless_toJson (s : RunSpec) : s.toJson.isNumberless = true := by
  rw [toJson_eq_present, isNumberless_present]
  have hMount : (s.workspaceMount.map Mount.toJson).all isNumberless = true := by
    cases s.workspaceMount <;> simp [Mount.isNumberless_toJson]
  have hPrivileged : (s.privileged.map Json.bool).all isNumberless = true := by
    cases s.privileged <;> rfl
  simp [table, isNumberless_ofTexts, isNumberless_ofDict_ofText, isNumberless_list, hMount,
    hPrivileged, Mount.isNumberless_toJson]

theorem ofJson_toJson (s : RunSpec) : ofJson? s.toJson = some s := by
  have hLookup := lookup_of_record areDistinct_fields s.names_table
  rw [toJson_eq_present, ofJson?, record_ofMembers_present areDistinct_fields s.names_table]
  rw [Option.bind_eq_bind, Option.bind_some]
  dsimp only
  have hText (name value : String) (h : (s.table.lookup name).join = some (ofText value)) :
      Record.withDefault? (present s.table) name text? "" = some value :=
    withDefault_of_written ((hLookup name).trans h) rfl
  have hTexts (name : String) (texts : List String)
      (h : (s.table.lookup name).join = some (ofTexts texts)) :
      Record.withDefault? (present s.table) name (list? text?) [] = some texts :=
    withDefault_of_written ((hLookup name).trans h) (list_ofTexts texts)
  have hEnv : Record.withDefault? (present s.table) "env" (dict? text?) ∅ = some s.env :=
    withDefault_of_written ((hLookup "env").trans rfl) (dict_ofDict text_ofText s.env)
  have hPrivileged :
      Record.withDefault? (present s.table) "privileged" (optional? bool?) none =
        some s.privileged :=
    withDefault_optional ((hLookup "privileged").trans rfl) (fun _ => rfl) (fun _ => by simp)
  have hResources :
      Record.withDefault? (present s.table) "resources" (optional? text?) none =
        some s.resources :=
    withDefault_optional ((hLookup "resources").trans rfl) (fun _ => rfl) (fun _ => by simp [ofText])
  have hMount :
      Record.withDefault? (present s.table) "workspaceMount" (optional? Mount.ofJson?) none =
        some s.workspaceMount :=
    withDefault_optional ((hLookup "workspaceMount").trans rfl) Mount.ofJson_toJson
      (fun _ => by simp [Mount.toJson, ofMembers])
  have hMounts :
      Record.withDefault? (present s.table) "mounts" (list? Mount.ofJson?) [] = some s.mounts :=
    withDefault_of_written ((hLookup "mounts").trans rfl) (list_map Mount.ofJson_toJson s.mounts)
  rw [hText "uid" s.uid rfl, hText "user" s.user rfl, hText "image" s.image rfl,
    hText "entrypoint" s.entrypoint rfl, hTexts "cmd" s.cmd rfl, hEnv,
    hTexts "capAdd" s.capAdd rfl, hTexts "securityOpt" s.securityOpt rfl,
    hTexts "labels" s.labels rfl, hPrivileged, hResources, hMount, hMounts]
  rfl

end RunSpec

namespace WorkspaceRecord

/-- The text of a record in which its two members have the given names. -/
def text (idName specName : String) (r : WorkspaceRecord) : String :=
  "\x7b" ++ (ofText idName).render ++ ":" ++ (ofText r.workspaceId).render ++ "," ++
    (ofText specName).render ++ ":" ++ r.spec.toJson.render ++ "\x7d"

theorem text_eq_render (idName specName : String) (r : WorkspaceRecord) :
    r.text idName specName =
      (ofMembers [(idName, ofText r.workspaceId), (specName, r.spec.toJson)]).render := by
  apply String.toList_injective
  simp [text, render, ofMembers, ofText, renderChars, renderMembers]

theorem annotation_eq_text (r : WorkspaceRecord) : r.annotation = r.text "workspaceId" "spec" :=
  (text_eq_render _ _ r).symm

/-- A record reads back from its text under any names that stand for its fields. -/
theorem ofAnnotation_text {idName specName : String} (r : WorkspaceRecord)
    (hId : fieldOf? fields idName = some "workspaceId")
    (hSpec : fieldOf? fields specName = some "spec") :
    ofAnnotation (r.text idName specName) = .ok r := by
  have hNumberless :
      (ofMembers [(idName, ofText r.workspaceId), (specName, r.spec.toJson)]).isNumberless = true := by
    simp [isNumberless_ofMembers, RunSpec.isNumberless_toJson]
  have hRecord :
      record? fields (ofMembers [(idName, ofText r.workspaceId), (specName, r.spec.toJson)]) =
        some [("workspaceId", ofText r.workspaceId), ("spec", r.spec.toJson)] := by
    simp [ofMembers, record?, recordOfMembers?, hId, hSpec, List.lookup_cons]
  have hRead :
      ofJson? (ofMembers [(idName, ofText r.workspaceId), (specName, r.spec.toJson)]) = some r := by
    rw [ofJson?, hRecord]
    simp [Record.required?, text?, ofText, RunSpec.ofJson_toJson, List.lookup_cons]
  rw [text_eq_render, ofAnnotation, read_render hNumberless, Option.bind_some, hRead]

/-- The record reads back from its annotation. -/
theorem ofAnnotation_annotation (r : WorkspaceRecord) : ofAnnotation r.annotation = .ok r := by
  rw [annotation_eq_text]
  exact ofAnnotation_text r rfl rfl

theorem annotation_isEmpty (r : WorkspaceRecord) : r.annotation.isEmpty = false := by
  rw [Bool.eq_false_iff]
  intro hEmpty
  have hRead := ofAnnotation_annotation r
  rw [String.isEmpty_iff.1 hEmpty] at hRead
  have hNone : ofAnnotation "" = .error (.undecodable "ContainerInfo") := by rfl
  rw [hNone] at hRead
  cases hRead

end WorkspaceRecord

end PodWorkspace
