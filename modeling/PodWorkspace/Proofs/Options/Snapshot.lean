import PodWorkspace.Options.Snapshot
import PodWorkspace.Proofs.Json.Record

/-! The snapshot of the options holds them all: whatever texts they are made of, the options that are
read from a snapshot are those it was taken of. -/

namespace PodWorkspace.ManifestOptions

open Json

/-- The options as a table with all fields, which have a value when they are written. -/
def table (o : ManifestOptions) : List (String × Option Json) :=
  let switch (on : Bool) : Option Json := if on then some (.bool true) else none
  [("pullSecretsEnabled", switch o.pullSecretsEnabled),
    ("createNamespace", switch o.createNamespace),
    ("clusterRole", o.clusterRole.map ofText),
    ("serviceAccount", o.serviceAccount.map ofText),
    ("helperImage", o.helperImage.map ofText),
    ("helperResources", o.helperResources.map ofText),
    ("storageClass", o.storageClass.map ofText),
    ("diskSize", o.diskSize.map ofText),
    ("pvcAccessMode", o.pvcAccessMode.map ofText),
    ("pvcAnnotations", o.pvcAnnotations.map ofText),
    ("nodeSelector", o.nodeSelector.map ofText),
    ("resources", o.resources.map ofText),
    ("workspaceVolumeMount", o.workspaceVolumeMount.map ofText),
    ("podManifestTemplate", o.podManifestTemplate.map ofText),
    ("archDetectionPodManifestTemplate", o.archDetectionPodManifestTemplate.map ofText),
    ("labels", o.labels.map ofText),
    ("dangerouslyOverrideImage", o.dangerouslyOverrideImage.map ofText),
    ("strictSecurity", switch o.strictSecurity)]

theorem switchMember_eq_present (name : String) (on : Bool) :
    switchMember name on = present [(name, if on then some (.bool true) else none)] := by
  cases on <;> rfl

theorem toJson_eq_present (o : ManifestOptions) : o.toJson = .ofMembers (present o.table) := by
  simp only [toJson, textMember, memberIfSome_eq_present, switchMember_eq_present,
    ← present_append, List.cons_append, List.nil_append, table]

theorem areDistinct_fields : AreDistinct fields := by decide

theorem names_table (o : ManifestOptions) : o.table.map (·.1) = fields.map (·.name) := rfl

theorem isNumberless_toJson (o : ManifestOptions) : o.toJson.isNumberless = true := by
  have hSwitch (on : Bool) :
      (if on then some (Json.bool true) else none).all isNumberless = true := by
    cases on <;> rfl
  simp [toJson_eq_present, isNumberless_present, table, hSwitch]

/-- The options read back from their JSON object. -/
theorem ofJson_toJson (o : ManifestOptions) : ofJson? o.toJson = some o := by
  have hLookup := lookup_of_record areDistinct_fields o.names_table
  have hSwitch (name : String) (on : Bool)
      (h : (o.table.lookup name).join = if on then some (.bool true) else none) :
      Record.withDefault? (present o.table) name bool? false = some on :=
    withDefault_of_lookup ((hLookup name).trans h) (by cases on <;> simp)
      (by cases on <;> simp [bool?])
  have hText (name : String) (value : Option String)
      (h : (o.table.lookup name).join = value.map ofText) :
      Record.withDefault? (present o.table) name (optional? text?) none = some value :=
    withDefault_optional ((hLookup name).trans h) (fun _ => rfl) (fun _ => by simp [ofText])
  rw [toJson_eq_present, ofJson?,
    record_ofMembers_present areDistinct_fields o.names_table]
  rw [Option.bind_eq_bind, Option.bind_some]
  dsimp only
  rw [hSwitch "pullSecretsEnabled" o.pullSecretsEnabled rfl,
    hSwitch "createNamespace" o.createNamespace rfl,
    hText "clusterRole" o.clusterRole rfl,
    hText "serviceAccount" o.serviceAccount rfl,
    hText "helperImage" o.helperImage rfl,
    hText "helperResources" o.helperResources rfl,
    hText "storageClass" o.storageClass rfl,
    hText "diskSize" o.diskSize rfl,
    hText "pvcAccessMode" o.pvcAccessMode rfl,
    hText "pvcAnnotations" o.pvcAnnotations rfl,
    hText "nodeSelector" o.nodeSelector rfl,
    hText "resources" o.resources rfl,
    hText "workspaceVolumeMount" o.workspaceVolumeMount rfl,
    hText "podManifestTemplate" o.podManifestTemplate rfl,
    hText "archDetectionPodManifestTemplate" o.archDetectionPodManifestTemplate rfl,
    hText "labels" o.labels rfl,
    hText "dangerouslyOverrideImage" o.dangerouslyOverrideImage rfl,
    hSwitch "strictSecurity" o.strictSecurity rfl]
  rfl

/-- The options read back from their snapshot. -/
theorem ofSnapshot_snapshot (o : ManifestOptions) : ofSnapshot o.snapshot = .ok o := by
  rw [ofSnapshot, snapshot, read_render o.isNumberless_toJson, Option.bind_some, ofJson_toJson]

theorem toList_snapshot (o : ManifestOptions) : o.snapshot.toList = o.toJson.renderChars :=
  String.toList_ofList

/-- A snapshot keeps the options whole, whatever texts they hold: they are read back from it, and other
options have another snapshot. It is the compact object of those options that are switched on or given,
and a single line. -/
theorem snapshot_round_trips :
    (∀ o : ManifestOptions, ofSnapshot o.snapshot = .ok o) ∧ Function.Injective snapshot ∧
      ∀ o : ManifestOptions,
        o.snapshot.toList =
          '\x7b' :: ([','].intercalate ((present o.table).map fun m => memberChars (some m.1, m.2)) ++
            ['\x7d']) ∧
        HasNoControls o.snapshot.toList := by
  refine ⟨ofSnapshot_snapshot, fun o o' hSame => ?_, fun o => ⟨?_, ?_⟩⟩
  · have hRead := ofSnapshot_snapshot o
    rw [hSame, ofSnapshot_snapshot o'] at hRead
    exact (Except.ok.inj hRead).symm
  · rw [toList_snapshot, toJson_eq_present, ofMembers, renderChars_object, List.map_map]
    rfl
  · rw [toList_snapshot]
    exact hasNoControls_renderChars o.isNumberless_toJson

example : snapshot { serviceAccount := some "", labels := some "a\"\\\n\x01é" } =
    "\x7b\"serviceAccount\":\"\",\"labels\":\"a\\\"\\\\\\n\\u0001é\"\x7d" := by
  decide +kernel

end PodWorkspace.ManifestOptions
