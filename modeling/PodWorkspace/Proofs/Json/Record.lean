import PodWorkspace.Json.Record
import PodWorkspace.Proofs.Dict
import PodWorkspace.Proofs.Json.RoundTrip

/-! Records read back from the objects they are written as. The members of a record are those entries
of a table that have a value; when the table has each of its names once, the record that is read has
them all, and a lookup in it is a lookup in the table. -/

namespace PodWorkspace.Json

/-- The members of a table: its entries with a value. -/
def present (table : List (String × Option Json)) : List (String × Json) :=
  table.filterMap fun e => e.2.map (e.1, ·)

theorem present_append (first second : List (String × Option Json)) :
    present (first ++ second) = present first ++ present second :=
  List.filterMap_append

theorem present_cons (e : String × Option Json) (table : List (String × Option Json)) :
    present (e :: table) = present [e] ++ present table :=
  present_append [e] table

theorem memberIfSome_eq_present {α : Type} (name : String) (write : α → Json) (value : Option α) :
    memberIfSome name write value = present [(name, value.map write)] := by
  cases value <;> rfl

theorem names_present_sublist (table : List (String × Option Json)) :
    ((present table).map (·.1)).Sublist (table.map (·.1)) := by
  induction table with
  | nil => exact .slnil
  | cons e table ih =>
    obtain ⟨name, _ | v⟩ := e
    · exact ih.cons _
    · exact ih.cons_cons _

/-- A lookup among the members of a table is a lookup in the table. -/
theorem lookup_present {table : List (String × Option Json)} (h : (table.map (·.1)).Nodup)
    (name : String) : (present table).lookup name = (table.lookup name).join := by
  induction table with
  | nil => rfl
  | cons e table ih =>
    obtain ⟨key, value⟩ := e
    simp only [List.map_cons, List.nodup_cons] at h
    have hRest := ih h.2
    rw [present_cons, List.lookup_append, hRest, List.lookup_cons]
    by_cases hKey : name = key
    · subst hKey
      -- An entry without a value lets the lookup through, but no later one has its name.
      have hNone : table.lookup name = none := by
        rw [List.lookup_eq_none_iff]
        intro e hMem
        simpa using fun hEq => h.1 (List.mem_map.2 ⟨e, hMem, hEq.symm⟩)
      cases value <;> simp [present, hNone]
    · have hOther : (name == key) = false := by simpa using hKey
      cases value <;> simp [present, List.lookup_cons, hOther]

/-- The record of members that are fields, each given once. -/
theorem recordOfMembers_of_nodup {fields : List Field} {members : List (String × Json)}
    (hKnown : ∀ m ∈ members, fieldOf? fields m.1 = some m.1) (hNodup : (members.map (·.1)).Nodup) :
    recordOfMembers? fields (members.map fun m => (some m.1, m.2)) = some members := by
  induction members with
  | nil => rfl
  | cons m members ih =>
    simp only [List.map_cons, List.nodup_cons] at hNodup
    have hRest := ih (fun e hMem => hKnown e (List.mem_cons_of_mem _ hMem)) hNodup.2
    have hNew : members.lookup m.1 = none := by
      rw [List.lookup_eq_none_iff]
      intro e hMem
      simpa using fun hEq => hNodup.1 (List.mem_map.2 ⟨e, hMem, hEq.symm⟩)
    simp [recordOfMembers?, hRest, hKnown m List.mem_cons_self, hNew]

/-- Whether the names of fields are distinct and each of them stands for its own field. -/
def AreDistinct (fields : List Field) : Prop :=
  (fields.map (·.name)).Nodup ∧ ∀ name ∈ fields.map (·.name), fieldOf? fields name = some name

instance (fields : List Field) : Decidable (AreDistinct fields) :=
  inferInstanceAs (Decidable (_ ∧ _))

section Table

variable {fields : List Field} {table : List (String × Option Json)}

/-- What is written from a table of all fields reads back as the record of its members. -/
theorem record_ofMembers_present (hFields : AreDistinct fields)
    (hNames : table.map (·.1) = fields.map (·.name)) :
    record? fields (.ofMembers (present table)) = some (present table) := by
  have hSub := hNames ▸ names_present_sublist table
  refine recordOfMembers_of_nodup (fun m hMem => hFields.2 _ ?_) (hFields.1.sublist hSub)
  exact hSub.subset (List.mem_map_of_mem hMem)

/-- A field of that record is the entry of the table. -/
theorem lookup_of_record (hFields : AreDistinct fields)
    (hNames : table.map (·.1) = fields.map (·.name)) (name : String) :
    (present table).lookup name = (table.lookup name).join :=
  lookup_present (hNames ▸ hFields.1) name

end Table

/-! ### Fields of a record -/

section Fields

variable {r : Record} {name : String} {α : Type}

/-- A field that is left out when it has its default value, and otherwise written so that it reads
back, is read as it was. -/
theorem withDefault_of_lookup {read : Json → Option α} {value default : α} {written : Option Json}
    (hLookup : r.lookup name = written) (hNone : written = none → value = default)
    (hSome : ∀ v, written = some v → read v = some value) :
    r.withDefault? name read default = some value := by
  unfold Record.withDefault?
  rw [hLookup]
  cases written with
  | none => rw [hNone rfl]
  | some v => exact hSome v rfl

/-- A field that is left out under a condition, under which it has its default value. -/
theorem withDefault_unless {read : Json → Option α} {value default : α} {isDefault : Bool} {v : Json}
    (hLookup : r.lookup name = if isDefault then none else some v)
    (hDefault : isDefault = true → value = default) (hRead : read v = some value) :
    r.withDefault? name read default = some value := by
  cases isDefault with
  | true => exact withDefault_of_lookup hLookup (fun _ => hDefault rfl) nofun
  | false => exact withDefault_of_lookup hLookup nofun fun _ hv => Option.some.inj hv ▸ hRead

/-- A field that is always written. -/
theorem withDefault_of_written {read : Json → Option α} {value default : α} {v : Json}
    (hLookup : r.lookup name = some v) (hRead : read v = some value) :
    r.withDefault? name read default = some value :=
  withDefault_of_lookup hLookup (by simp) fun _ hv => Option.some.inj hv ▸ hRead

/-- A field for an optional value, which is left out when there is none. -/
theorem withDefault_optional {read : Json → Option α} {write : α → Json} {value : Option α}
    (hLookup : r.lookup name = value.map write) (hRead : ∀ x, read (write x) = some x)
    (hNull : ∀ x, write x ≠ .null) :
    r.withDefault? name (optional? read) none = some value := by
  refine withDefault_of_lookup hLookup (by simp) fun v hValue => ?_
  obtain ⟨x, rfl, rfl⟩ := Option.map_eq_some_iff.1 hValue
  have hSome : ∀ v, v ≠ .null → optional? read v = (read v).map some := by
    intro v hv
    cases v <;> first | rfl | exact absurd rfl hv
  rw [hSome _ (hNull x), hRead, Option.map_some]

end Fields

/-! ### Values without numbers -/

theorem isNumberless_ofMembers {members : List (String × Json)} :
    (ofMembers members).isNumberless = members.all fun m => m.2.isNumberless := by
  show haveNumberless _ = _
  induction members with
  | nil => rfl
  | cons m members ih => simp [haveNumberless, ih]

theorem isNumberless_present {table : List (String × Option Json)} :
    (ofMembers (present table)).isNumberless = table.all fun e => e.2.all isNumberless := by
  rw [isNumberless_ofMembers]
  induction table with
  | nil => rfl
  | cons e table ih =>
    obtain ⟨name, _ | v⟩ := e <;> simp_all [present]

@[simp] theorem isNumberless_ofText (s : String) : (ofText s).isNumberless = true := rfl

@[simp] theorem all_isNumberless_ofText (value : Option String) :
    (value.map ofText).all isNumberless = true := by
  cases value <;> rfl

theorem isNumberless_list {items : List Json} :
    (Json.list items).isNumberless = items.all isNumberless := by
  show areNumberless _ = _
  induction items with
  | nil => rfl
  | cons x items ih => simp [areNumberless, ih]

theorem isNumberless_ofTexts (texts : List String) : (ofTexts texts).isNumberless = true := by
  simp [ofTexts, isNumberless_list]

theorem isNumberless_ofDict_ofText (d : Dict String) : (ofDict ofText d).isNumberless = true := by
  simp [ofDict, isNumberless_ofMembers]

/-! ### Values that hold texts, lists and maps -/

@[simp] theorem text_ofText (s : String) : text? (ofText s) = some s := rfl

theorem list_map {α : Type} {read : Json → Option α} {write : α → Json}
    (hRead : ∀ x, read (write x) = some x) (xs : List α) :
    list? read (.list (xs.map write)) = some xs := by
  induction xs with
  | nil => rfl
  | cons x xs ih =>
    simp only [list?] at ih
    simp [list?, hRead, ih]

theorem list_ofTexts (texts : List String) : list? text? (ofTexts texts) = some texts :=
  list_map text_ofText texts

theorem entries_map {α : Type} {read : Json → Option α} {write : α → Json}
    (hRead : ∀ x, read (write x) = some x) (entries : List (String × α)) :
    entries? read (entries.map fun e => (some e.1, write e.2)) = some entries := by
  induction entries with
  | nil => rfl
  | cons e entries ih => simp [entries?, hRead, ih]

theorem dict_ofDict {α : Type} {read : Json → Option α} {write : α → Json}
    (hRead : ∀ x, read (write x) = some x) (d : Dict α) :
    dict? read (ofDict write d) = some d := by
  have hEntries := entries_map hRead d.entries
  simp [dict?, ofDict, ofMembers, Function.comp_def, hEntries]

end PodWorkspace.Json
