import Mathlib.Data.String.Basic
import PodWorkspace.Proofs.Text.Blank
import PodWorkspace.WorkspaceName

/-! The name of an architecture detection pod is one that a cluster takes, whatever the id of the
workspace. What is cut off a long id can leave dashes at the cut, and an id can be nothing but dashes.
They are dropped back to the word before the id at most, and that word is short enough to stay whole. -/

namespace PodWorkspace.WorkspaceName

variable {w : WorkspaceName} {suffix : String} {c : Char} {cs : List Char}

def isSuffixChar (c : Char) : Bool := c.isLower || c.isDigit

/-- The characters of an id. -/
def isIdChar (c : Char) : Bool := isSuffixChar c || c == '-'

/-- A name of at most 32 characters, all of them as in an id, that begins with a letter and ends in a
single dash and a suffix. -/
structure IsDetectionName (suffix name : String) : Prop where
  length_le : name.length ≤ 32
  chars : ∀ c ∈ name.toList, isIdChar c = true
  starts : ∃ first rest, name.toList = first :: rest ∧ first.isLower = true
  ends : ∃ front last, name.toList = front ++ last :: '-' :: suffix.toList ∧ last ≠ '-'

/-! ### The suffix in bytes -/

theorem utf8Size_of_isSuffixChar (h : isSuffixChar c = true) : c.utf8Size = 1 := by
  rw [Char.utf8Size_eq_one_iff]
  rcases Bool.or_eq_true_iff.1 h with hLetter | hDigit
  · have hLast : c.val ≤ 'z'.val := of_decide_eq_true (Bool.and_eq_true_iff.1 hLetter).2
    exact UInt32.le_trans hLast (by decide)
  · have hLast : c.val ≤ '9'.val := of_decide_eq_true (Bool.and_eq_true_iff.1 hDigit).2
    exact UInt32.le_trans hLast (by decide)

theorem utf8Len_of_forall (h : ∀ c ∈ cs, c.utf8Size = 1) : String.utf8Len cs = cs.length := by
  induction cs with
  | nil => rfl
  | cons c cs ih =>
    obtain ⟨hFirst, hRest⟩ := List.forall_mem_cons.1 h
    rw [String.utf8Len_cons, ih hRest, hFirst, List.length_cons]

theorem utf8ByteSize_of_isSuffixChar (h : ∀ c ∈ suffix.toList, isSuffixChar c = true) :
    suffix.utf8ByteSize = suffix.length := by
  have hOne : ∀ c ∈ suffix.toList, c.utf8Size = 1 := fun c hMem => utf8Size_of_isSuffixChar (h c hMem)
  rw [← String.ofList_toList (s := suffix), String.utf8ByteSize_ofList, utf8Len_of_forall hOne,
    String.length_ofList]

/-! ### The parts of the name -/

/-- What of the id stands in the name, with the dash before it: as much as fits before a suffix of six
characters, without dashes at its end. -/
def idPart (w : WorkspaceName) : List Char :=
  Text.dropEndWhile (· == '-') ('-' :: w.id.toList.take 18)

theorem length_idPart_le (w : WorkspaceName) : w.idPart.length ≤ 19 := by
  have hCut : w.idPart.length ≤ ('-' :: w.id.toList.take 18).length :=
    (Text.dropEndWhile_prefix (· == '-') _).length_le
  rw [List.length_cons, List.length_take] at hCut
  omega

theorem isIdChar_of_mem_idPart (hId : ∀ c ∈ w.id.toList, isIdChar c = true) (hMem : c ∈ w.idPart) :
    isIdChar c = true := by
  rcases List.mem_cons.1 ((Text.dropEndWhile_prefix ..).subset hMem) with rfl | hTaken
  · rfl
  · exact hId c (List.mem_of_mem_take hTaken)

theorem toList_archPod (w : WorkspaceName) (hSize : suffix.utf8ByteSize = 6) :
    (w.archPod suffix).toList = "devpod".toList ++ w.idPart ++ '-' :: suffix.toList := by
  have hResource : w.resource = "devpod-" ++ w.id := rfl
  have hTaken : w.resource.toList.take 25 = "devpo".toList ++ 'd' :: '-' :: w.id.toList.take 18 := by
    simp [hResource]
  have hHead : Text.dropEndWhile (· == '-') (w.resource.toList.take 25) =
      "devpod".toList ++ w.idPart := by
    -- The last letter of the word is no dash, so the dashes that are dropped come after it.
    rw [hTaken, Text.dropEndWhile_append_cons (by rfl)]
    simp [idPart]
  have hBudget : archPodNameMax - (suffix.utf8ByteSize + 1) = 25 := by rw [hSize, archPodNameMax]
  rw [archPod, hBudget, hHead]
  simp

/-- The word before the id, with what is left of the id, does not end in a dash. -/
theorem exists_last_of_idPart (w : WorkspaceName) :
    ∃ front last, "devpod".toList ++ w.idPart = front ++ [last] ∧ last ≠ '-' := by
  rcases Text.dropEndWhile_eq_nil_or (· == '-') ('-' :: w.id.toList.take 18) with hNone | hSome
  · have hEmpty : w.idPart = [] := hNone
    exact ⟨"devpo".toList, 'd', by simp [hEmpty], by decide⟩
  · obtain ⟨front, last, hPart, hLast⟩ := hSome
    have hId : w.idPart = front ++ [last] := hPart
    exact ⟨"devpod".toList ++ front, last, by simp [hId], by simpa using hLast⟩

/-- The name of a detection pod is short enough, holds nothing that does not belong in a name, and has its
suffix after a single dash. -/
theorem isDetectionName_archPod (hId : ∀ c ∈ w.id.toList, isIdChar c = true)
    (hLength : suffix.length = 6) (hSuffix : ∀ c ∈ suffix.toList, isSuffixChar c = true) :
    IsDetectionName suffix (w.archPod suffix) := by
  have hName := w.toList_archPod ((utf8ByteSize_of_isSuffixChar hSuffix).trans hLength)
  constructor
  case length_le =>
    have hPart := w.length_idPart_le
    have hWord : "devpod".toList.length = 6 := by decide
    have hEnd : suffix.toList.length = 6 := by rw [String.length_toList, hLength]
    rw [← String.length_toList, hName, List.length_append, List.length_append, List.length_cons]
    omega
  case chars =>
    have hWord : "devpod".toList.all isIdChar = true := by decide
    intro c hMem
    rw [hName, List.mem_append, List.mem_append, List.mem_cons] at hMem
    rcases hMem with (hMem | hMem) | rfl | hMem
    · exact List.all_eq_true.1 hWord c hMem
    · exact isIdChar_of_mem_idPart hId hMem
    · rfl
    · rw [isIdChar, hSuffix c hMem, Bool.true_or]
  case starts =>
    exact ⟨'d', "evpod".toList ++ w.idPart ++ '-' :: suffix.toList, by simp [hName], by decide⟩
  case ends =>
    obtain ⟨front, last, hHead, hLast⟩ := w.exists_last_of_idPart
    exact ⟨front, last, by rw [hName, hHead, List.append_assoc]; rfl, hLast⟩

/-- The cut comes right after a dash of the id, which goes too. -/
theorem isDetectionName_archPod_of_cut :
    (∀ c ∈ "abcdefghijklmnopq-rstuvw".toList, isIdChar c = true) ∧ "zzzzzz".length = 6 ∧
      (∀ c ∈ "zzzzzz".toList, isSuffixChar c = true) ∧
      (⟨"abcdefghijklmnopq-rstuvw"⟩ : WorkspaceName).archPod "zzzzzz" =
        "devpod-abcdefghijklmnopq-zzzzzz" ∧
      IsDetectionName "zzzzzz" "devpod-abcdefghijklmnopq-zzzzzz" := by
  have hId : ∀ c ∈ "abcdefghijklmnopq-rstuvw".toList, isIdChar c = true :=
    List.all_eq_true.1 (by decide +kernel)
  have hLength : "zzzzzz".length = 6 := by decide +kernel
  have hSuffix : ∀ c ∈ "zzzzzz".toList, isSuffixChar c = true := List.all_eq_true.1 (by decide +kernel)
  have hName : (⟨"abcdefghijklmnopq-rstuvw"⟩ : WorkspaceName).archPod "zzzzzz" =
      "devpod-abcdefghijklmnopq-zzzzzz" := by decide +kernel
  exact ⟨hId, hLength, hSuffix, hName, hName ▸ isDetectionName_archPod hId hLength hSuffix⟩

/-- Of an id without letters or digits nothing is left. -/
example : (⟨"---"⟩ : WorkspaceName).archPod "abc123" = "devpod-abc123" := by decide +kernel

end PodWorkspace.WorkspaceName
