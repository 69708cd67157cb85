import PodWorkspace.Details
import PodWorkspace.Proofs.Json.Record
import PodWorkspace.Proofs.Text.Split

/-! The details of a workspace read back from their text, whichever texts are left out of it because
they are empty. What they tell of a workspace is whether a pod was found for it, and for each label of
its container the value that the last entry with that key gives it. -/

namespace PodWorkspace

open Json

/-! ### Labels -/

namespace RunSpec

/-- An entry gives a label a value: what stands after the first equals sign, with the key before it. An
entry without an equals sign is the key of an empty value. -/
inductive GivesLabel (key : String) : String → String → Prop where
  | assigned {value : String} (hKey : '=' ∉ key.toList) : GivesLabel key value (key ++ "=" ++ value)
  | bare (hKey : '=' ∉ key.toList) : GivesLabel key "" key

/-- The last of the entries that give a label a value gives it this one. -/
def LastGivesLabel (entries : List String) (key value : String) : Prop :=
  ∃ before entry after, entries = before ++ entry :: after ∧ GivesLabel key value entry ∧
    ∀ later ∈ after, ∀ other, ¬GivesLabel key other later

variable {entry key value : String}

theorem labelEntry_eq_iff : labelEntry entry = (key, value) ↔ GivesLabel key value entry := by
  constructor
  · intro h
    unfold labelEntry at h
    cases hCut : Text.cut '=' entry with
    | none =>
      obtain ⟨rfl, rfl⟩ : entry = key ∧ "" = value := by simpa [hCut] using h
      exact .bare (Text.cut_eq_none_iff.1 hCut)
    | some halves =>
      obtain rfl : halves = (key, value) := by simpa [hCut] using h
      obtain ⟨rfl, hKey⟩ := Text.cut_eq_some_iff.1 hCut
      exact .assigned hKey
  · rintro (hKey | hKey)
    · have hCut : Text.cut '=' (key ++ "=" ++ value) = some (key, value) := Text.cut_append hKey value
      rw [labelEntry, hCut, Option.getD_some]
    · rw [labelEntry, Text.cut_eq_none_iff.2 hKey, Option.getD_none]

theorem key_labelEntry_eq_iff : (labelEntry entry).1 = key ↔ ∃ value, GivesLabel key value entry := by
  simp only [← labelEntry_eq_iff, Prod.ext_iff, exists_and_left, exists_eq', and_true]

/-- In the map of the labels a key has the value of the last entry with it. -/
theorem get?_labelMap_iff {s : RunSpec} :
    s.labelMap.get? key = some value ↔ LastGivesLabel s.labels key value := by
  rw [labelMap, Dict.get?_ofList_eq_some_iff]
  constructor
  · rintro ⟨before, after, hSplit, hAfter⟩
    obtain ⟨entriesBefore, rest, hEntries, rfl, hRest⟩ := List.map_eq_append_iff.1 hSplit
    obtain ⟨entry, entriesAfter, rfl, hEntry, rfl⟩ := List.map_eq_cons_iff.1 hRest
    refine ⟨entriesBefore, entry, entriesAfter, hEntries, labelEntry_eq_iff.1 hEntry, ?_⟩
    intro later hMem other hGives
    exact hAfter _ (List.mem_map_of_mem hMem) (key_labelEntry_eq_iff.2 ⟨other, hGives⟩)
  · rintro ⟨before, entry, after, hEntries, hGives, hAfter⟩
    refine ⟨before.map labelEntry, after.map labelEntry, ?_, ?_⟩
    · rw [hEntries, List.map_append, List.map_cons, labelEntry_eq_iff.2 hGives]
    · intro later hMem hKey
      obtain ⟨entry, hEntry, rfl⟩ := List.mem_map.1 hMem
      obtain ⟨other, hOther⟩ := key_labelEntry_eq_iff.1 hKey
      exact hAfter entry hEntry other hOther

example : ({ labels := ["a=1", "b", "a=2=3"] } : RunSpec).labelMap =
    .ofList [("a", "2=3"), ("b", "")] := by
  decide

end RunSpec

/-! ### The text of details -/

namespace Details

/-- A text as it is written, which an empty one is not. -/
def written? (value : String) : Option Json := if value.isEmpty then none else some (ofText value)

theorem textMember_eq_present (name value : String) :
    textMember name value = present [(name, written? value)] := by
  unfold textMember written?
  split <;> rfl

@[simp] theorem all_isNumberless_written (value : String) :
    (written? value).all isNumberless = true := by
  unfold written?
  split <;> rfl

theorem withDefault_written {r : Record} {name value : String}
    (hLookup : r.lookup name = written? value) : r.withDefault? name text? "" = some value :=
  withDefault_unless hLookup String.isEmpty_iff.1 (text_ofText value)

/-- Whether a workspace runs and since when, as a table with all fields. -/
def stateTable (d : Details) : List (String × Option Json) :=
  [("Status", written? d.status), ("StartedAt", written? d.startedAt)]

/-- What its container is made with, as a table with all fields. -/
def configTable (d : Details) : List (String × Option Json) :=
  [("Labels", if d.labels.isEmpty then none else some (ofDict ofText d.labels))]

/-- The details as a table with all fields, two of which are tables of their own. -/
def table (d : Details) : List (String × Option Json) :=
  [("ID", written? d.id), ("Created", written? d.created),
    ("State", some (ofMembers (present d.stateTable))),
    ("Config", some (ofMembers (present d.configTable)))]

theorem toJson_eq_present (d : Details) : d.toJson = .ofMembers (present d.table) := by
  have hState : textMember "Status" d.status ++ textMember "StartedAt" d.startedAt =
      present d.stateTable := by
    rw [textMember_eq_present, textMember_eq_present, ← present_append]
    rfl
  have hConfig : (if d.labels.isEmpty then [] else [("Labels", ofDict ofText d.labels)]) =
      present d.configTable := by
    unfold configTable
    split <;> rfl
  rw [toJson, hState, hConfig, table, present_cons, present_cons (_, written? d.created),
    textMember_eq_present, textMember_eq_present, List.append_assoc]
  rfl

theorem state_ofMembers (d : Details) :
    state? (.ofMembers (present d.stateTable)) = some (d.status, d.startedAt) := by
  have hFields : AreDistinct (["Status", "StartedAt"].map .plain) := by decide
  have hNames : d.stateTable.map (·.1) = (["Status", "StartedAt"].map Field.plain).map (·.name) := rfl
  have hLookup := lookup_of_record hFields hNames
  rw [state?, record_ofMembers_present hFields hNames, Option.bind_eq_bind, Option.bind_some,
    withDefault_written ((hLookup "Status").trans rfl),
    withDefault_written ((hLookup "StartedAt").trans rfl)]
  rfl

theorem labels_ofMembers (d : Details) :
    labels? (.ofMembers (present d.configTable)) = some d.labels := by
  have hFields : AreDistinct [.plain "Labels"] := by decide
  have hNames : d.configTable.map (·.1) = [Field.plain "Labels"].map (·.name) := rfl
  have hLookup := lookup_of_record hFields hNames
  rw [labels?, record_ofMembers_present hFields hNames, Option.bind_eq_bind, Option.bind_some]
  exact withDefault_unless ((hLookup "Labels").trans rfl) Dict.isEmpty_iff.1
    (dict_ofDict text_ofText d.labels)

theorem ofJson_toJson (d : Details) : ofJson? d.toJson = some d := by
  have hFields : AreDistinct (["ID", "Created", "State", "Config"].map .plain) := by decide
  have hNames : d.table.map (·.1) =
      (["ID", "Created", "State", "Config"].map Field.plain).map (·.name) := rfl
  have hLookup := lookup_of_record hFields hNames
  rw [toJson_eq_present, ofJson?, record_ofMembers_present hFields hNames, Option.bind_eq_bind,
    Option.bind_some, withDefault_of_written ((hLookup "State").trans rfl) d.state_ofMembers]
  dsimp only [Option.bind_eq_bind, Option.bind_some]
  rw [withDefault_written ((hLookup "ID").trans rfl),
    withDefault_written ((hLookup "Created").trans rfl),
    withDefault_of_written ((hLookup "Config").trans rfl) d.labels_ofMembers]
  rfl

theorem isNumberless_toJson (d : Details) : d.toJson.isNumberless = true := by
  have hLabels : (ofMembers (present d.configTable)).isNumberless = true := by
    rw [isNumberless_present, configTable]
    split <;> simp [isNumberless_ofDict_ofText]
  rw [toJson_eq_present, isNumberless_present]
  simp [table, hLabels, isNumberless_present, stateTable]

/-- Details read back from their text. -/
theorem parse_text (d : Details) : parse? d.text = some d := by
  rw [parse?, text, read_render d.isNumberless_toJson, Option.bind_some, ofJson_toJson]

/-! ### What details tell -/

theorem isRunning_ofObjects (claim : Cluster.VolumeClaim) (spec : RunSpec)
    (running : Option Cluster.Pod) :
    (ofObjects claim spec running).isRunning = running.isSome := by
  cases running with
  | none => exact (by decide : (exitedStatus == runningStatus) = false)
  | some pod => exact beq_self_eq_true runningStatus

/-- All details read back from their text. Those of a workspace say that it runs if and only if a pod was
found for it, before and after that, and have for each label the value that its last entry gives it. -/
theorem parse_text_and_tells :
    (∀ d : Details, parse? d.text = some d) ∧
      ∀ claim (record : WorkspaceRecord) running,
        let told := ofObjects claim record.spec running
        (told.isRunning = true ↔ ∃ pod, running = some pod) ∧
          (∀ key value,
            told.labels.get? key = some value ↔ RunSpec.LastGivesLabel record.spec.labels key value) ∧
          ∃ d, parse? told.text = some d ∧ d.isRunning = told.isRunning := by
  refine ⟨parse_text, fun claim record running => ⟨?_, fun key value => ?_, ?_⟩⟩
  · rw [isRunning_ofObjects, Option.isSome_iff_exists]
  · exact RunSpec.get?_labelMap_iff
  · exact ⟨_, parse_text _, rfl⟩

end Details

end PodWorkspace
