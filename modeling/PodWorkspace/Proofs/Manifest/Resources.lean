import PodWorkspace.Manifest.Resources
import PodWorkspace.Proofs.Manifest.KeyValues
import PodWorkspace.Proofs.Manifest.Quantity

/-! The amounts of resources that a user lists. In whatever order the entries stand, and whatever white
space and blank pieces stand around them, the amounts that are read are those that were listed. -/

namespace PodWorkspace.Manifest

variable {option piece key value : String} {requests limits amounts : Dict String}
  {entries : List (String × String)} {pieces : List String}

/-! ### Keys -/

namespace ResourceKey

/-- What stands before the first point of a key. -/
def kind : ResourceKey → String
  | .request _ => "requests"
  | .limit _ => "limits"

def resource : ResourceKey → String
  | .request resource | .limit resource => resource

/-- A key as it is written. -/
def text (k : ResourceKey) : String := k.kind ++ "." ++ k.resource

theorem kind_mem (k : ResourceKey) : k.kind ∈ ["requests", "limits"] := by
  cases k <;> simp [kind]

/-- The amounts with one more of them. -/
def put (amount : String) (sofar : Dict String × Dict String) :
    ResourceKey → Dict String × Dict String
  | .request resource => (sofar.1.insert resource amount, sofar.2)
  | .limit resource => (sofar.1, sofar.2.insert resource amount)

end ResourceKey

/-- A key is understood, whatever points the name of its resource has. -/
theorem resourceKey?_text {k : ResourceKey} (h : k.resource ≠ "") : resourceKey? k.text = some k := by
  have hKinds : ∀ kind ∈ ["requests", "limits"], '.' ∉ kind.toList := by decide
  have hCut : Text.cut '.' k.text = some (k.kind, k.resource) :=
    Text.cut_append (hKinds _ k.kind_mem) k.resource
  cases k with
  | request resource =>
    have hName : resource ≠ "" := h
    simp [resourceKey?, hCut, ResourceKey.kind, ResourceKey.resource, hName]
  | limit resource =>
    have hName : resource ≠ "" := h
    simp [resourceKey?, hCut, ResourceKey.kind, ResourceKey.resource, hName]

theorem addResource_text {k : ResourceKey} (hName : k.resource ≠ "")
    (hAmount : parseQuantity option value = .ok value) (sofar : Dict String × Dict String) :
    addResource option sofar (k.text, value) = .ok (k.put value sofar) := by
  rw [addResource, hAmount, resourceKey?_text hName]
  cases k <;> rfl

/-- The name of a resource as it can stand in a list. -/
structure IsResourceName (name : String) : Prop where
  ne_empty : name ≠ ""
  comma : ',' ∉ name.toList
  sign : '=' ∉ name.toList
  trimmed : Text.trim name = name

/-- Amounts that can be listed. -/
structure IsListable (option : String) (amounts : Dict String) : Prop where
  named : ∀ e ∈ amounts.entries, IsResourceName e.1
  accepted : ∀ e ∈ amounts.entries, ∃ amount, parseQuantity option e.2 = .ok amount
  trimmed : ∀ e ∈ amounts.entries, Text.trim e.2 = e.2

theorem IsListable.parseQuantity (h : IsListable option amounts) {e : String × String}
    (hMem : e ∈ amounts.entries) : parseQuantity option e.2 = .ok e.2 := by
  obtain ⟨amount, hAmount⟩ := h.accepted e hMem
  exact parseQuantity_eq_ok_iff.2 ⟨(parseQuantity_eq_ok_iff.1 hAmount).1, (h.trimmed e hMem).symm⟩

theorem trim_text {k : ResourceKey} (h : Text.trim k.resource = k.resource) :
    Text.trim k.text = k.text := by
  have hChars : k.text.toList = k.kind.toList ++ '.' :: k.resource.toList := by
    simp [ResourceKey.text]
  have hKinds : ∀ kind ∈ ["requests", "limits"], kind.toList.dropWhile Text.isBlank = kind.toList := by
    decide
  rw [← String.toList_inj, Text.trim, String.toList_ofList] at h ⊢
  rw [hChars, Text.trimChars_append_cons (by decide), hKinds _ k.kind_mem,
    Text.dropEndWhile_of_trimChars h]

theorem not_mem_text {k : ResourceKey} {c : Char} (hPoint : c ≠ '.') (hKind : c ∉ k.kind.toList)
    (h : c ∉ k.resource.toList) : c ∉ k.text.toList := by
  simp [ResourceKey.text, hPoint, hKind, h]

/-! ### Written entries -/

/-- A piece in which a key and its value are written, with any white space around both. -/
def Writes (piece key value : String) : Prop :=
  ∃ a b c d, piece = (a ++ key ++ b) ++ "=" ++ (c ++ value ++ d) ∧
    ∀ blank ∈ [a, b, c, d], Text.isAllBlank blank = true

/-- Entries that are written in their order, with blank pieces anywhere. -/
inductive LaysOut : List String → List (String × String) → Prop
  | nil : LaysOut [] []
  | blank {piece : String} {pieces : List String} {entries : List (String × String)}
      (hBlank : Text.isAllBlank piece = true) (hRest : LaysOut pieces entries) :
      LaysOut (piece :: pieces) entries
  | entry {piece key value : String} {pieces : List String} {entries : List (String × String)}
      (hWrites : Writes piece key value) (hRest : LaysOut pieces entries) :
      LaysOut (piece :: pieces) ((key, value) :: entries)

/-- An entry that can be written: its key and its value do not reach into other entries and have no white
space at their ends. -/
structure IsWritable (e : String × String) : Prop where
  key_ne_empty : e.1 ≠ ""
  key_comma : ',' ∉ e.1.toList
  key_sign : '=' ∉ e.1.toList
  key_trimmed : Text.trim e.1 = e.1
  value_comma : ',' ∉ e.2.toList
  value_trimmed : Text.trim e.2 = e.2

theorem Writes.assigns (h : Writes piece key value) (hEntry : IsWritable (key, value)) :
    Assigns piece key value := by
  obtain ⟨a, b, c, d, hPiece, hBlank⟩ := h
  simp only [List.forall_mem_cons] at hBlank
  obtain ⟨ha, hb, hc, hd, -⟩ := hBlank
  refine ⟨a ++ key ++ b, c ++ value ++ d, hPiece, ?_, ?_, ?_⟩
  · have hBefore : '=' ∉ a.toList := Text.not_mem_of_isAllBlank ha (by decide)
    have hAfter : '=' ∉ b.toList := Text.not_mem_of_isAllBlank hb (by decide)
    simp [hBefore, hAfter, hEntry.key_sign]
  · rw [Text.trim_pad ha hb, hEntry.key_trimmed]
  · rw [Text.trim_pad hc hd, hEntry.value_trimmed]

theorem Writes.comma_not_mem (h : Writes piece key value) (hEntry : IsWritable (key, value)) :
    ',' ∉ piece.toList := by
  obtain ⟨a, b, c, d, rfl, hBlank⟩ := h
  have hComma : ∀ blank ∈ [a, b, c, d], ',' ∉ blank.toList :=
    fun blank hMem => Text.not_mem_of_isAllBlank (hBlank blank hMem) (by decide)
  simp only [List.forall_mem_cons] at hComma
  obtain ⟨ha, hb, hc, hd, -⟩ := hComma
  simp [ha, hb, hc, hd, hEntry.key_comma, hEntry.value_comma]

theorem LaysOut.reads (h : LaysOut pieces entries) (hEntries : ∀ e ∈ entries, IsWritable e) :
    Reads pieces entries := by
  induction h with
  | nil => exact .nil
  | blank hBlank _ ih => exact .blank hBlank (ih hEntries)
  | entry hWrites _ ih =>
    obtain ⟨hEntry, hOthers⟩ := List.forall_mem_cons.1 hEntries
    exact .pair (hWrites.assigns hEntry) hEntry.key_ne_empty (ih hOthers)

theorem LaysOut.comma_not_mem (h : LaysOut pieces entries) (hEntries : ∀ e ∈ entries, IsWritable e) :
    ∀ piece ∈ pieces, ',' ∉ piece.toList := by
  induction h with
  | nil => simp
  | blank hBlank _ ih =>
    exact List.forall_mem_cons.2 ⟨Text.not_mem_of_isAllBlank hBlank (by decide), ih hEntries⟩
  | entry hWrites _ ih =>
    obtain ⟨hEntry, hOthers⟩ := List.forall_mem_cons.1 hEntries
    exact List.forall_mem_cons.2 ⟨hWrites.comma_not_mem hEntry, ih hOthers⟩

/-- Entries that are laid out are read as they are. -/
theorem LaysOut.parseKeyValues (h : LaysOut pieces entries)
    (hEntries : ∀ e ∈ entries, IsWritable e) :
    parseKeyValues option (Text.join "," pieces) = .ok (.ofList entries) := by
  have hReads := h.reads hEntries
  cases pieces with
  | nil =>
    cases h
    rfl
  | cons piece pieces =>
    have hPieces : Text.ArePieces ',' (Text.join "," (piece :: pieces)) (piece :: pieces) :=
      ⟨by simp, h.comma_not_mem hEntries, rfl⟩
    rw [parseKeyValues_eq, hPieces.eq_split, readPieces_eq_ok_iff.2 hReads]

/-! ### Listed amounts -/

/-- The entries that list amounts, which are requested or are limits. -/
def listed (key : String → ResourceKey) (amounts : Dict String) : List (String × String) :=
  amounts.entries.map fun e => ((key e.1).text, e.2)

theorem IsListable.isWritable (h : IsListable option amounts) {key : String → ResourceKey}
    (hKey : ∀ name, (key name).resource = name) : ∀ e ∈ listed key amounts, IsWritable e := by
  intro e hMem
  obtain ⟨⟨name, value⟩, hEntry, rfl⟩ := List.mem_map.1 hMem
  have hName : IsResourceName name := h.named (name, value) hEntry
  have hValue : Text.trim value = value := h.trimmed (name, value) hEntry
  have hAmount : IsAmount value.toList := by
    have hRead := (parseQuantity_eq_ok_iff.1 (h.parseQuantity hEntry)).1
    rwa [hValue] at hRead
  have hKinds : ∀ kind ∈ ["requests", "limits"], ',' ∉ kind.toList ∧ '=' ∉ kind.toList := by decide
  obtain ⟨hComma, hSign⟩ := hKinds _ (key name).kind_mem
  rw [← hKey name] at hName
  exact {
    key_ne_empty := by simp [ResourceKey.text]
    key_comma := not_mem_text (by decide) hComma hName.comma
    key_sign := not_mem_text (by decide) hSign hName.sign
    key_trimmed := trim_text hName.trimmed
    value_comma := hAmount.comma_not_mem
    value_trimmed := hValue }

theorem text_lt_text {k k' : ResourceKey} (hKind : k.kind = k'.kind) (h : k.resource < k'.resource) :
    k.text < k'.text := by
  rw [String.lt_iff] at h ⊢
  simp only [ResourceKey.text, hKind, String.toList_append]
  exact List.append_left_lt h

theorem limit_lt_request (resource resource' : String) :
    (ResourceKey.limit resource).text < (ResourceKey.request resource').text := by
  rw [String.lt_iff]
  simp only [ResourceKey.text, ResourceKey.kind, String.toList_append]
  exact List.Lex.rel (by decide)

theorem pairwise_listed (key : String → ResourceKey) {kind : String}
    (hKey : ∀ name, (key name).resource = name) (hKind : ∀ name, (key name).kind = kind)
    (amounts : Dict String) : (listed key amounts).Pairwise fun a b => a.1 < b.1 := by
  rw [listed, List.pairwise_map]
  refine amounts.sorted.imp fun {a b} hLess => text_lt_text ?_ ?_
  · rw [hKind, hKind]
  · rwa [hKey, hKey]

/-- The entries of both kinds in the order of their keys. -/
def listing (requests limits : Dict String) : Dict String where
  entries := listed .limit limits ++ listed .request requests
  sorted := by
    refine List.pairwise_append.2 ⟨pairwise_listed .limit (fun _ => rfl) (fun _ => rfl) limits,
      pairwise_listed .request (fun _ => rfl) (fun _ => rfl) requests, fun a hLimit b hRequest => ?_⟩
    obtain ⟨limit, -, rfl⟩ := List.mem_map.1 hLimit
    obtain ⟨request, -, rfl⟩ := List.mem_map.1 hRequest
    exact limit_lt_request limit.1 request.1

theorem foldlM_listed {key : String → ResourceKey} (hKey : ∀ name, (key name).resource = name)
    (h : IsListable option amounts) (sofar : Dict String × Dict String) :
    (listed key amounts).foldlM (addResource option) sofar =
      .ok (amounts.entries.foldl (fun sofar e => (key e.1).put e.2 sofar) sofar) := by
  have hAdd : ∀ e ∈ amounts.entries, ∀ sofar,
      addResource option sofar ((key e.1).text, e.2) = .ok ((key e.1).put e.2 sofar) := by
    intro e hMem sofar
    refine addResource_text ?_ (h.parseQuantity hMem) sofar
    rw [hKey]
    exact (h.named e hMem).ne_empty
  rw [listed]
  generalize amounts.entries = es at hAdd ⊢
  induction es generalizing sofar with
  | nil => rfl
  | cons e es ih =>
    obtain ⟨hFirst, hOthers⟩ := List.forall_mem_cons.1 hAdd
    rw [List.map_cons, List.foldlM_cons, hFirst]
    exact ih _ hOthers

theorem foldl_put_request (es : List (String × String)) (requests limits : Dict String) :
    es.foldl (fun sofar e => (ResourceKey.request e.1).put e.2 sofar) (requests, limits) =
      (es.foldl (fun d e => d.insert e.1 e.2) requests, limits) := by
  induction es generalizing requests with
  | nil => rfl
  | cons e es ih => exact ih (requests.insert e.1 e.2)

theorem foldl_put_limit (es : List (String × String)) (requests limits : Dict String) :
    es.foldl (fun sofar e => (ResourceKey.limit e.1).put e.2 sofar) (requests, limits) =
      (requests, es.foldl (fun d e => d.insert e.1 e.2) limits) := by
  induction es generalizing limits with
  | nil => rfl
  | cons e es ih => exact ih (limits.insert e.1 e.2)

theorem foldlM_listing (hRequests : IsListable option requests) (hLimits : IsListable option limits) :
    (listing requests limits).entries.foldlM (addResource option) (∅, ∅) = .ok (requests, limits) := by
  have hLimit : limits.entries.foldl (fun d e => d.insert e.1 e.2) ∅ = limits := Dict.ofList_entries limits
  have hRequest : requests.entries.foldl (fun d e => d.insert e.1 e.2) ∅ = requests :=
    Dict.ofList_entries requests
  rw [listing, List.foldlM_append, foldlM_listed (fun _ => rfl) hLimits, foldl_put_limit, hLimit]
  exact (foldlM_listed (fun _ => rfl) hRequests (∅, limits)).trans
    (by rw [foldl_put_request, hRequest])

theorem someIfNonempty_eq (d : Dict String) : someIfNonempty d = if d = ∅ then none else some d := by
  simp only [someIfNonempty, Dict.isEmpty_iff]

/-- Amounts that are listed are read as they were, in whatever order their entries stand and whatever
white space and blank pieces stand around them. -/
theorem parseResources_of_laysOut (hRequests : IsListable option requests)
    (hLimits : IsListable option limits)
    (hEntries : entries.Perm (listed .request requests ++ listed .limit limits))
    (hPieces : LaysOut pieces entries) : parseResources option (Text.join "," pieces) = .ok {
      requests := if requests = ∅ then none else some requests
      limits := if limits = ∅ then none else some limits } := by
  have hWritable : ∀ e ∈ entries, IsWritable e := by
    intro e hMem
    obtain hRequest | hLimit := List.mem_append.1 (hEntries.mem_iff.1 hMem)
    · exact hRequests.isWritable (fun _ => rfl) e hRequest
    · exact hLimits.isWritable (fun _ => rfl) e hLimit
  have hListing : Dict.ofList entries = listing requests limits :=
    Dict.ofList_of_perm (hEntries.trans List.perm_append_comm)
  rw [parseResources, hPieces.parseKeyValues hWritable, hListing]
  simp only [bind, Except.bind, foldlM_listing hRequests hLimits, someIfNonempty_eq]
  rfl

/-- The limit of a resource with a point and a slash in its name, and amounts of other resources, in
another order and with white space and blank pieces between them. -/
theorem parseResources_of_laysOut_gpu :
    parseResources "RESOURCES" " limits.nvidia.com/gpu=1 ,,requests.memory = 1Gi, \t,requests.cpu=500m" =
      .ok { requests := some (.ofList [("cpu", "500m"), ("memory", "1Gi")])
            limits := some (.single "nvidia.com/gpu" "1") } := by
  have hRequests : IsListable "RESOURCES" (.ofList [("cpu", "500m"), ("memory", "1Gi")]) := by
    have hEntries : (Dict.ofList [("cpu", "500m"), ("memory", "1Gi")]).entries =
        [("cpu", "500m"), ("memory", "1Gi")] := by decide +kernel
    refine ⟨?_, ?_, ?_⟩
    all_goals simp only [hEntries, List.forall_mem_cons]
    · exact ⟨⟨by decide, by decide, by decide, by decide⟩,
        ⟨by decide, by decide, by decide, by decide⟩, nofun⟩
    · exact ⟨⟨"500m", by decide +kernel⟩, ⟨"1Gi", by decide +kernel⟩, nofun⟩
    · exact ⟨by decide, by decide, nofun⟩
  have hLimits : IsListable "RESOURCES" (.single "nvidia.com/gpu" "1") := by
    refine ⟨?_, ?_, ?_⟩
    all_goals simp only [Dict.single, List.forall_mem_cons]
    · exact ⟨⟨by decide, by decide, by decide, by decide⟩, nofun⟩
    · exact ⟨⟨"1", by decide +kernel⟩, nofun⟩
    · exact ⟨by decide, nofun⟩
  have hPieces : LaysOut
      [" limits.nvidia.com/gpu=1 ", "", "requests.memory = 1Gi", " \t", "requests.cpu=500m"]
      [("limits.nvidia.com/gpu", "1"), ("requests.memory", "1Gi"), ("requests.cpu", "500m")] :=
    .entry ⟨" ", "", "", " ", by decide, by decide⟩ <| .blank (by decide) <|
      .entry ⟨"", " ", " ", "", by decide, by decide⟩ <| .blank (by decide) <|
        .entry ⟨"", "", "", "", by decide, by decide⟩ .nil
  have hRead := parseResources_of_laysOut hRequests hLimits (by decide +kernel) hPieces
  exact hRead

end PodWorkspace.Manifest
