/-! Finite maps with texts as keys, kept as entries in the order of their keys. `Dict.insert` puts
an entry in its place or replaces the one with the same key, so a map has one form and two maps
with the same entries are equal. -/

namespace PodWorkspace

/-- A finite map with texts as keys. -/
structure Dict (α : Type) where
  entries : List (String × α)
  sorted : entries.Pairwise fun a b => a.1 < b.1

namespace Dict

variable {α : Type}

@[ext] theorem ext {d e : Dict α} (h : d.entries = e.entries) : d = e := by
  cases d; cases e; simp_all

instance [DecidableEq α] : DecidableEq (Dict α) := fun d e =>
  if h : d.entries = e.entries then isTrue (ext h) else isFalse fun he => h (he ▸ rfl)

/-- The map without entries. -/
def empty : Dict α := ⟨[], .nil⟩

instance : EmptyCollection (Dict α) := ⟨empty⟩
instance : Inhabited (Dict α) := ⟨empty⟩

/-- The entries with `key` bound to `value`, in order when they were. -/
def insertEntry (key : String) (value : α) : List (String × α) → List (String × α)
  | [] => [(key, value)]
  | e :: rest =>
    if key < e.1 then (key, value) :: e :: rest
    else if key = e.1 then (key, value) :: rest
    else e :: insertEntry key value rest

theorem mem_insertEntry {key : String} {value : α} {entries : List (String × α)}
    {e : String × α} (h : e ∈ insertEntry key value entries) : e = (key, value) ∨ e ∈ entries := by
  induction entries with
  | nil => simpa [insertEntry] using h
  | cons f rest ih =>
    simp only [insertEntry] at h
    split at h
    · simpa using h
    · split at h
      · simp only [List.mem_cons] at h ⊢
        exact h.imp id .inr
      · simp only [List.mem_cons] at h ⊢
        exact h.elim (fun h => .inr (.inl h)) fun h => (ih h).imp id .inr

theorem sorted_insertEntry {key : String} {value : α} {entries : List (String × α)}
    (h : entries.Pairwise fun a b => a.1 < b.1) :
    (insertEntry key value entries).Pairwise fun a b => a.1 < b.1 := by
  induction entries with
  | nil => simp [insertEntry]
  | cons f rest ih =>
    rw [List.pairwise_cons] at h
    simp only [insertEntry]
    split
    · rename_i hlt
      refine List.pairwise_cons.2 ⟨fun e he => ?_, List.pairwise_cons.2 h⟩
      rcases List.mem_cons.1 he with rfl | he
      · exact hlt
      · exact String.lt_trans hlt (h.1 e he)
    · rename_i hlt
      split
      · rename_i heq
        exact List.pairwise_cons.2 ⟨fun e he => heq ▸ h.1 e he, h.2⟩
      · rename_i hne
        refine List.pairwise_cons.2 ⟨fun e he => ?_, ih h.2⟩
        rcases mem_insertEntry he with rfl | he
        · rcases String.le_total f.1 key with hle | hle
          · exact String.not_le.1 fun hle' => hne (String.le_antisymm hle' hle)
          · exact absurd (String.not_le.1 fun hle' => hne (String.le_antisymm hle hle')) hlt
        · exact h.1 e he

def insert (d : Dict α) (key : String) (value : α) : Dict α :=
  ⟨insertEntry key value d.entries, sorted_insertEntry d.sorted⟩

def single (key : String) (value : α) : Dict α :=
  ⟨[(key, value)], by simp⟩

/-- The map of a list of entries, in which a later entry replaces an earlier one. -/
def ofList (entries : List (String × α)) : Dict α :=
  entries.foldl (fun d e => d.insert e.1 e.2) ∅

/-- The map with all entries of `more`, which win over its own. -/
def insertAll (d more : Dict α) : Dict α :=
  more.entries.foldl (fun d e => d.insert e.1 e.2) d

def get? (d : Dict α) (key : String) : Option α :=
  d.entries.lookup key

def isEmpty (d : Dict α) : Bool :=
  d.entries.isEmpty

def keys (d : Dict α) : List String :=
  d.entries.map (·.1)

def mapValues {β : Type} (f : α → β) (d : Dict α) : Dict β where
  entries := d.entries.map fun e => (e.1, f e.2)
  sorted := by
    rw [List.pairwise_map]
    exact d.sorted

/-- The map without the entries that fail `p`. -/
def filter (p : String → α → Bool) (d : Dict α) : Dict α where
  entries := d.entries.filter fun e => p e.1 e.2
  sorted := d.sorted.filter _

/-- The map without `key`. -/
def erase (d : Dict α) (key : String) : Dict α :=
  d.filter fun k _ => k != key

end Dict

end PodWorkspace
