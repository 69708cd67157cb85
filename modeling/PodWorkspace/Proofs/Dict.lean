import Mathlib.Data.List.Sort
import PodWorkspace.Dict

/-! The laws of maps: what a lookup finds after an insertion or an erasure, and that a map is the map
of its entries. -/

namespace PodWorkspace.Dict

variable {α : Type}

theorem lookup_cons_eq_ite (e : String × α) (rest : List (String × α)) (k : String) :
    (e :: rest).lookup k = if k = e.1 then some e.2 else rest.lookup k := by
  rw [List.lookup_cons]
  by_cases hKey : k = e.1
  · simp [hKey]
  · simp [hKey, beq_eq_false_iff_ne.2 hKey]

theorem lookup_insertEntry (entries : List (String × α)) (key : String) (value : α) (k : String) :
    (insertEntry key value entries).lookup k = if k = key then some value else entries.lookup k := by
  induction entries with
  | nil => rw [insertEntry, lookup_cons_eq_ite]
  | cons e rest ih =>
    simp only [insertEntry]
    split
    · rw [lookup_cons_eq_ite]
    · split
      · rename_i hSame
        simp only [lookup_cons_eq_ite, ← hSame]
        split <;> rfl
      · rename_i hOther
        simp only [lookup_cons_eq_ite, ih]
        by_cases hKey : k = e.1
        · have hNe : k ≠ key := fun hEq => hOther (hEq.symm.trans hKey)
          rw [if_pos hKey, if_neg hNe, if_pos hKey]
        · rw [if_neg hKey, if_neg hKey]

@[simp] theorem entries_empty : (∅ : Dict α).entries = [] := rfl

theorem isEmpty_iff {d : Dict α} : d.isEmpty = true ↔ d = ∅ := by
  rw [isEmpty, List.isEmpty_iff, Dict.ext_iff]
  rfl

@[simp] theorem get?_empty (k : String) : (∅ : Dict α).get? k = none := rfl

/-- A lookup after an insertion. -/
theorem get?_insert (d : Dict α) (key : String) (value : α) (k : String) :
    (d.insert key value).get? k = if k = key then some value else d.get? k :=
  lookup_insertEntry d.entries key value k

@[simp] theorem get?_insert_self (d : Dict α) (key : String) (value : α) :
    (d.insert key value).get? key = some value := by
  simp [get?_insert]

theorem lookup_filter_keys (entries : List (String × α)) (key k : String) :
    (entries.filter fun e => e.1 != key).lookup k = if k = key then none else entries.lookup k := by
  induction entries with
  | nil => simp
  | cons e rest ih =>
    by_cases hOther : e.1 = key
    · rw [List.filter_cons_of_neg (by simp [hOther]), ih, lookup_cons_eq_ite, hOther]
      split <;> rfl
    · rw [List.filter_cons_of_pos (by simp [hOther]), lookup_cons_eq_ite, lookup_cons_eq_ite, ih]
      by_cases hKey : k = e.1
      · have hNe : k ≠ key := fun hEq => hOther (hKey.symm.trans hEq)
        rw [if_pos hKey, if_neg hNe, if_pos hKey]
      · rw [if_neg hKey, if_neg hKey]

/-- A lookup after an erasure. -/
theorem get?_erase (d : Dict α) (key k : String) :
    (d.erase key).get? k = if k = key then none else d.get? k :=
  lookup_filter_keys d.entries key k

/-- An entry that is there already is put where it is. -/
theorem insertEntry_of_lookup {key : String} {value : α} {entries : List (String × α)}
    (hSorted : entries.Pairwise fun a b => a.1 < b.1) (h : entries.lookup key = some value) :
    insertEntry key value entries = entries := by
  induction entries with
  | nil => cases h
  | cons e rest ih =>
    rw [List.pairwise_cons] at hSorted
    rw [lookup_cons_eq_ite] at h
    by_cases hKey : key = e.1
    · obtain rfl : e.2 = value := by simpa [hKey] using h
      have hNotLess : ¬key < e.1 := hKey ▸ String.lt_irrefl key
      rw [insertEntry, if_neg hNotLess, if_pos hKey, hKey]
    · rw [if_neg hKey] at h
      obtain ⟨before, after, rfl, -⟩ := List.lookup_eq_some_iff.1 h
      -- The entry is further down, where all keys are greater.
      have hLess : e.1 < key := hSorted.1 (key, value) (by simp)
      have hNotLess : ¬key < e.1 := fun hLt => String.lt_irrefl _ (String.lt_trans hLt hLess)
      rw [insertEntry, if_neg hNotLess, if_neg hKey, ih hSorted.2 h]

theorem insert_of_get? {d : Dict α} {key : String} {value : α} (h : d.get? key = some value) :
    d.insert key value = d :=
  ext (insertEntry_of_lookup d.sorted h)

theorem insertEntry_map {β : Type} (f : α → β) (key : String) (value : α)
    (entries : List (String × α)) :
    (insertEntry key value entries).map (fun e => (e.1, f e.2)) =
      insertEntry key (f value) (entries.map fun e => (e.1, f e.2)) := by
  induction entries with
  | nil => rfl
  | cons e rest ih =>
    simp only [insertEntry, List.map_cons]
    split
    · rfl
    · split
      · rfl
      · rw [List.map_cons, ih]

theorem mapValues_insert {β : Type} (f : α → β) (d : Dict α) (key : String) (value : α) :
    (d.insert key value).mapValues f = (d.mapValues f).insert key (f value) :=
  ext (insertEntry_map f key value d.entries)

theorem get?_mapValues {β : Type} (f : α → β) (d : Dict α) (key : String) :
    (d.mapValues f).get? key = (d.get? key).map f := by
  unfold get? mapValues
  dsimp only
  induction d.entries with
  | nil => rfl
  | cons e rest ih =>
    simp only [List.map_cons, lookup_cons_eq_ite, ih]
    split <;> rfl

/-- Among entries with different keys, a lookup finds each of them. -/
theorem lookup_eq_some_iff_mem {entries : List (String × α)} (h : (entries.map (·.1)).Nodup)
    {key : String} {value : α} : entries.lookup key = some value ↔ (key, value) ∈ entries := by
  constructor
  · intro hLookup
    obtain ⟨before, after, rfl, -⟩ := List.lookup_eq_some_iff.1 hLookup
    simp
  · intro hMem
    obtain ⟨before, after, rfl⟩ := List.append_of_mem hMem
    refine List.lookup_eq_some_iff.2 ⟨before, after, rfl, fun e hBefore => ?_⟩
    rw [List.map_append, List.nodup_append] at h
    have hOther : e.1 ≠ key := h.2.2 e.1 (List.mem_map_of_mem hBefore) key (by simp)
    simpa using hOther.symm

theorem nodup_keys (d : Dict α) : (d.entries.map (·.1)).Nodup := by
  rw [List.nodup_iff_pairwise_ne, List.pairwise_map]
  refine d.sorted.imp fun {a b} hLess => ?_
  intro hSame
  rw [hSame] at hLess
  exact String.lt_irrefl _ hLess

/-- A lookup finds the entries. -/
theorem get?_eq_some_iff {d : Dict α} {key : String} {value : α} :
    d.get? key = some value ↔ (key, value) ∈ d.entries :=
  lookup_eq_some_iff_mem d.nodup_keys

/-- Maps in which the same is found are equal. -/
theorem eq_of_get? {d e : Dict α} (h : ∀ key value, d.get? key = some value ↔ e.get? key = some value) :
    d = e := by
  have : Std.Irrefl fun a b : String × α => a.1 < b.1 := ⟨fun a => String.lt_irrefl a.1⟩
  have : Std.Antisymm fun a b : String × α => a.1 < b.1 :=
    ⟨fun a b hLess hMore => absurd (String.lt_trans hLess hMore) (String.lt_irrefl a.1)⟩
  refine ext (d.sorted.eq_of_mem_iff e.sorted fun entry => ?_)
  rw [← get?_eq_some_iff, h, get?_eq_some_iff]

/-- A key that is not there need not be erased. -/
theorem erase_of_get?_eq_none {d : Dict α} {key : String} (h : d.get? key = none) :
    d.erase key = d := by
  refine ext (List.filter_eq_self.2 fun e hMem => ?_)
  rw [bne_iff_ne]
  rintro rfl
  rw [get?_eq_some_iff.2 hMem] at h
  cases h

@[simp] theorem erase_erase (d : Dict α) (key : String) : (d.erase key).erase key = d.erase key :=
  erase_of_get?_eq_none (by rw [get?_erase, if_pos rfl])

/-- What is found after entries were left out was there before. -/
theorem get?_of_filter {d : Dict α} {p : String → α → Bool} {key : String} {value : α}
    (h : (d.filter p).get? key = some value) : d.get? key = some value :=
  get?_eq_some_iff.2 (List.mem_filter.1 (get?_eq_some_iff.1 h)).1

theorem mem_keys {d : Dict α} {key : String} : key ∈ d.keys ↔ (d.get? key).isSome = true := by
  rw [Option.isSome_iff_exists]
  simp only [get?_eq_some_iff, keys, List.mem_map]
  constructor
  · rintro ⟨⟨_, value⟩, hMem, rfl⟩
    exact ⟨value, hMem⟩
  · rintro ⟨value, hMem⟩
    exact ⟨(key, value), hMem, rfl⟩

/-- A map that binds some keys to one value. -/
theorem get?_ofList_map (keys : List String) (value : α) (k : String) :
    (ofList (keys.map fun key => (key, value))).get? k = if k ∈ keys then some value else none := by
  have hInsert (d : Dict α) :
      ((keys.map fun key => (key, value)).foldl (fun d e => d.insert e.1 e.2) d).get? k =
        if k ∈ keys then some value else d.get? k := by
    induction keys generalizing d with
    | nil => rfl
    | cons key keys ih =>
      rw [List.map_cons, List.foldl_cons, ih, get?_insert]
      by_cases hMem : k ∈ keys
      · simp [hMem]
      · simp [hMem]
  exact hInsert ∅

/-- Of several entries with a key, the last one that is inserted is found. -/
theorem get?_ofList (entries : List (String × α)) (k : String) :
    (ofList entries).get? k = entries.reverse.lookup k := by
  have hInsert (d : Dict α) : (entries.foldl (fun d e => d.insert e.1 e.2) d).get? k =
      (entries.reverse.lookup k).or (d.get? k) := by
    induction entries generalizing d with
    | nil => rfl
    | cons e entries ih =>
      rw [List.foldl_cons, ih, get?_insert, List.reverse_cons, List.lookup_append,
        lookup_cons_eq_ite, Option.or_assoc]
      by_cases hKey : k = e.1
      · simp [hKey]
      · simp [hKey]
  simpa [ofList] using hInsert ∅

/-- What is found for a key is the value of the last entry with it. -/
theorem get?_ofList_eq_some_iff {entries : List (String × α)} {key : String} {value : α} :
    (ofList entries).get? key = some value ↔ ∃ before after,
      entries = before ++ (key, value) :: after ∧ ∀ later ∈ after, later.1 ≠ key := by
  rw [get?_ofList, List.lookup_eq_some_iff]
  constructor
  · rintro ⟨after, before, hReverse, hAfter⟩
    refine ⟨before.reverse, after.reverse, ?_, fun later hMem => ?_⟩
    · rw [← List.reverse_reverse entries, hReverse]
      simp
    · have hOther := hAfter later (List.mem_reverse.1 hMem)
      exact Ne.symm (by simpa using hOther)
  · rintro ⟨before, after, rfl, hAfter⟩
    refine ⟨after.reverse, before.reverse, by simp, fun later hMem => ?_⟩
    simpa using (hAfter later (List.mem_reverse.1 hMem)).symm

/-- What is found after entries with different keys were inserted. -/
theorem get?_foldl_insert (more : List (String × α)) (d : Dict α) (k : String)
    (hSorted : more.Pairwise fun a b => a.1 < b.1) :
    (more.foldl (fun d e => d.insert e.1 e.2) d).get? k = (more.lookup k).or (d.get? k) := by
  induction more generalizing d with
  | nil => rfl
  | cons e more ih =>
    rw [List.pairwise_cons] at hSorted
    rw [List.foldl_cons, ih _ hSorted.2, get?_insert, lookup_cons_eq_ite]
    by_cases hKey : k = e.1
    · -- No later entry has this key.
      have hNone : more.lookup k = none := by
        rw [List.lookup_eq_none_iff]
        rintro ⟨key, value⟩ hMem
        rw [bne_iff_ne]
        rintro rfl
        exact String.lt_irrefl _ (hKey ▸ hSorted.1 _ hMem)
      simp [hKey ▸ hNone, hKey]
    · simp [hKey]

/-- A lookup after all entries of a map were inserted. -/
theorem get?_insertAll (d more : Dict α) (k : String) :
    (d.insertAll more).get? k = (more.get? k).or (d.get? k) :=
  get?_foldl_insert more.entries d k more.sorted

theorem insertEntry_of_lt {key : String} {value : α} {entries : List (String × α)}
    (h : ∀ e ∈ entries, e.1 < key) :
    insertEntry key value entries = entries ++ [(key, value)] := by
  induction entries with
  | nil => rfl
  | cons e rest ih =>
    have hHead := h e List.mem_cons_self
    have hLess : ¬key < e.1 := fun hLt => String.lt_irrefl _ (String.lt_trans hLt hHead)
    have hSame : key ≠ e.1 := fun hEq => String.lt_irrefl _ (hEq ▸ hHead)
    simp [insertEntry, hLess, hSame, ih fun e hMem => h e (List.mem_cons_of_mem _ hMem)]

theorem entries_foldl_insert (more : List (String × α)) :
    ∀ d : Dict α, ((d.entries ++ more).Pairwise fun a b => a.1 < b.1) →
      (more.foldl (fun d e => d.insert e.1 e.2) d).entries = d.entries ++ more := by
  induction more with
  | nil => simp
  | cons e more ih =>
    intro d hSorted
    have hBelow : ∀ a ∈ d.entries, a.1 < e.1 := fun a hMem =>
      (List.pairwise_append.1 hSorted).2.2 a hMem e List.mem_cons_self
    have hEntries : (d.insert e.1 e.2).entries = d.entries ++ [e] := insertEntry_of_lt hBelow
    rw [List.foldl_cons, ih _ (by simpa [hEntries] using hSorted), hEntries]
    simp

/-- A map is the map of its entries. -/
@[simp] theorem ofList_entries (d : Dict α) : ofList d.entries = d :=
  ext (by simpa [ofList] using entries_foldl_insert d.entries ∅ (by simpa using d.sorted))

/-- The order in which the entries of a map are inserted does not matter. -/
theorem ofList_of_perm {entries : List (String × α)} {d : Dict α} (h : entries.Perm d.entries) :
    ofList entries = d := by
  have hNodup : (entries.reverse.map (·.1)).Nodup :=
    (((List.reverse_perm entries).trans h).map _).nodup_iff.2 d.nodup_keys
  refine eq_of_get? fun key value => ?_
  rw [get?_ofList, lookup_eq_some_iff_mem hNodup, List.mem_reverse, h.mem_iff, get?_eq_some_iff]

end PodWorkspace.Dict
