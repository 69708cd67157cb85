import PodWorkspace.Options.Basic
import PodWorkspace.Proofs.Text.Blank
import PodWorkspace.Proofs.Text.Decimal

/-! Which texts are durations, by their grammar: a zero alone, or segments one after the other, each a
number directly followed by a unit. Each turn of the reader takes one segment off, since no unit has a
character of a number in it. The deadline for a pod is read the same way, with a default for a blank
text. -/

namespace PodWorkspace

namespace Duration

variable {text raw : String} {total : Float} {cs number unit rest : List Char}

/-! ### The grammar -/

def IsUnit (cs : List Char) : Prop :=
  String.ofList cs ∈ ["ns", "us", "µs", "ms", "s", "m", "h"]

instance (cs : List Char) : Decidable (IsUnit cs) := inferInstanceAs (Decidable (_ ∈ _))

/-- A segment: a number directly followed by a unit. -/
def IsSegment (cs : List Char) : Prop :=
  ∃ number unit, cs = number ++ unit ∧ Text.IsDecimal number ∧ IsUnit unit

/-- Segments one after the other. -/
def Segmented (cs : List Char) (segments : List (List Char)) : Prop :=
  cs = segments.flatten ∧ ∀ segment ∈ segments, IsSegment segment

/-- A duration as it can be written: a zero alone, or at least one segment. -/
def IsWritten (s : String) : Prop :=
  s = "0" ∨ ∃ segments, segments ≠ [] ∧ Segmented s.toList segments

/-! ### Segments -/

theorem isNumber_iff (h : ∀ c ∈ cs, isNumberChar c = true) : isNumber cs = true ↔ Text.IsDecimal cs := by
  have hChars : ∀ c ∈ cs, Text.isDecimalChar c = true := h
  rw [Text.isDecimal_iff, and_iff_right hChars, isNumber, Bool.and_eq_true, decide_eq_true_eq]

theorem isSome_unitNanos_iff : (unitNanos? unit).isSome = true ↔ IsUnit unit := by
  unfold unitNanos? IsUnit
  split <;> simp_all

/-- A unit has characters, of which none can stand in a number. -/
theorem IsUnit.ne_nil_and_all (h : IsUnit unit) :
    unit ≠ [] ∧ ∀ c ∈ unit, (!isNumberChar c) = true := by
  have hUnits : ∀ u ∈ ["ns", "us", "µs", "ms", "s", "m", "h"],
      u.toList ≠ [] ∧ u.toList.all (!isNumberChar ·) = true := by decide
  simpa using hUnits _ h

theorem isNumberChar_of_isDecimal (h : Text.IsDecimal number) : ∀ c ∈ number, isNumberChar c = true :=
  h.isDecimalChar

theorem IsSegment.ne_nil (h : IsSegment cs) : cs ≠ [] := by
  obtain ⟨number, unit, rfl, hNumber, -⟩ := h
  simp [hNumber.ne_nil]

/-- A segment begins with a character of a number, which no unit goes on with. -/
theorem IsSegment.stopsAt (h : IsSegment cs) (rest : List Char) :
    Text.StopsAt (fun c => !isNumberChar c) (cs ++ rest) := by
  obtain ⟨number, unit, rfl, hNumber, -⟩ := h
  rw [List.append_assoc]
  exact Text.stopsAt_append (isNumberChar_of_isDecimal hNumber) hNumber.ne_nil (by simp)

theorem stopsAt_flatten {segments : List (List Char)} (h : ∀ segment ∈ segments, IsSegment segment) :
    Text.StopsAt (fun c => !isNumberChar c) segments.flatten := by
  cases segments with
  | nil => exact Text.stopsAt_nil
  | cons segment segments => exact (h segment List.mem_cons_self).stopsAt _

/-! ### The reader -/

/-- A turn of the reader takes a segment off, whatever text follows it that does not begin like a unit
goes on. -/
theorem sumSegments_append (hSegment : IsSegment cs) (hRest : Text.StopsAt (fun c => !isNumberChar c) rest) :
    ∃ nanos, sumSegments text total (cs ++ rest) = sumSegments text (total + nanos) rest := by
  obtain ⟨number, unit, rfl, hNumber, hUnit⟩ := hSegment
  obtain ⟨hSome, hLetters⟩ := hUnit.ne_nil_and_all
  obtain ⟨nanos, hNanos⟩ := Option.isSome_iff_exists.1 (isSome_unitNanos_iff.2 hUnit)
  have hChars := isNumberChar_of_isDecimal hNumber
  have hStops : Text.StopsAt isNumberChar (unit ++ rest) :=
    Text.stopsAt_append hLetters hSome (by simp)
  obtain ⟨c, digits, rfl⟩ := List.exists_cons_of_ne_nil hNumber.ne_nil
  obtain ⟨hFirst, hDigits⟩ := List.forall_mem_cons.1 hChars
  refine ⟨numberValue (c :: digits) * nanos, ?_⟩
  rw [List.append_assoc, List.cons_append, sumSegments]
  simp only [hFirst, if_true, Text.takeWhile_append_of_stopsAt hDigits hStops,
    Text.dropWhile_append_of_stopsAt hDigits hStops, (isNumber_iff hChars).2 hNumber,
    Text.takeWhile_append_of_stopsAt hLetters hRest, Text.dropWhile_append_of_stopsAt hLetters hRest,
    List.isEmpty_iff, hSome, if_false, hNanos]

/-- The reader accepts what consists of segments, and nothing else. -/
theorem exists_sumSegments_eq_ok_iff :
    (∃ sum, sumSegments text total cs = .ok sum) ↔ ∃ segments, Segmented cs segments := by
  constructor
  · rintro ⟨sum, hSum⟩
    fun_induction sumSegments text total cs with
    | case1 => exact ⟨[], rfl, nofun⟩
    | case2 => cases hSum
    | case3 => cases hSum
    | case4 total c rest hFirst number afterNumber hNumber unit hUnit nanos hNanos ih =>
      obtain ⟨segments, hRest, hSegments⟩ := ih hSum
      have hChars : ∀ d ∈ number, isNumberChar d = true :=
        List.forall_mem_cons.2 ⟨hFirst, fun d => List.mem_takeWhile_imp⟩
      have hSegment : IsSegment (number ++ unit) :=
        ⟨number, unit, rfl, (isNumber_iff hChars).1 hNumber, isSome_unitNanos_iff.1 (by simp [hNanos])⟩
      have hWhole : c :: rest = (number ++ unit) ++ segments.flatten := by
        rw [← hRest, List.append_assoc, List.takeWhile_append_dropWhile, List.cons_append,
          List.takeWhile_append_dropWhile]
      exact ⟨(number ++ unit) :: segments, hWhole, List.forall_mem_cons.2 ⟨hSegment, hSegments⟩⟩
    | case5 => cases hSum
    | case6 => cases hSum
  · rintro ⟨segments, rfl, hSegments⟩
    induction segments generalizing total with
    | nil => exact ⟨total, by simp [sumSegments]⟩
    | cons segment segments ih =>
      obtain ⟨hFirst, hOthers⟩ := List.forall_mem_cons.1 hSegments
      obtain ⟨nanos, hTurn⟩ : ∃ nanos, sumSegments text total (segment ++ segments.flatten) =
          sumSegments text (total + nanos) segments.flatten :=
        sumSegments_append hFirst (stopsAt_flatten hOthers)
      rw [List.flatten_cons, hTurn]
      exact ih hOthers

/-! ### Whole texts -/

/-- Of no segments there is nothing. -/
theorem Segmented.eq_nil_iff {segments : List (List Char)} (h : Segmented cs segments) :
    segments = [] ↔ cs = [] := by
  obtain ⟨rfl, hSegments⟩ := h
  rw [List.flatten_eq_nil_iff]
  constructor
  · rintro rfl
    simp
  · intro hEmpty
    cases segments with
    | nil => rfl
    | cons segment segments =>
      exact absurd (hEmpty segment List.mem_cons_self) (hSegments segment List.mem_cons_self).ne_nil

theorem not_isWritten_empty : ¬IsWritten "" := by
  rintro (hZero | ⟨segments, hSome, hSegments⟩)
  · exact absurd hZero (by decide)
  · exact hSome (hSegments.eq_nil_iff.2 rfl)

theorem isWritten_iff {s : String} (hSome : s ≠ "") (hZero : s ≠ "0") :
    IsWritten s ↔ ∃ segments, Segmented s.toList segments := by
  constructor
  · rintro (hEq | ⟨segments, -, hSegments⟩)
    · exact absurd hEq hZero
    · exact ⟨segments, hSegments⟩
  · rintro ⟨segments, hSegments⟩
    refine .inr ⟨segments, fun hNone => hSome ?_, hSegments⟩
    exact String.toList_eq_nil_iff.1 (hSegments.eq_nil_iff.1 hNone)

theorem exists_parse_eq_ok_iff : (∃ d, parse raw = .ok d) ↔ IsWritten (Text.trim raw) := by
  unfold parse
  dsimp only
  split
  · rename_i hEmpty
    simp [hEmpty, not_isWritten_empty]
  · rename_i hSome
    split
    · rename_i hZero
      exact iff_of_true ⟨_, rfl⟩ (.inl hZero)
    · rename_i hZero
      rw [isWritten_iff hSome hZero, ← exists_sumSegments_eq_ok_iff]
      cases sumSegments (Text.trim raw) 0.0 (Text.trim raw).toList <;> simp [Except.map]

end Duration

/-- A text is read as a duration when what is left of it without the white space around it is written as
one. As the deadline for a pod a text in which nothing is left stands for the default, and any other text
that is no duration is refused under the name of the option. -/
theorem parsePodTimeout_by_grammar (raw : String) : ∃ core, Text.IsCore raw core ∧
    ((∃ d, Duration.parse raw = .ok d) ↔ Duration.IsWritten core) ∧
    parsePodTimeout none = .ok defaultPodTimeout ∧
    (core = "" → parsePodTimeout (some raw) = .ok defaultPodTimeout) ∧
    (Duration.IsWritten core → ∃ d, Duration.parse raw = .ok d ∧ parsePodTimeout (some raw) = .ok d) ∧
    (core ≠ "" → ¬Duration.IsWritten core → ∃ e, Duration.parse raw = .error e ∧
      parsePodTimeout (some raw) = .error (.configuration "POD_TIMEOUT" e.message)) := by
  have hBlank : Text.trim raw = "" ↔ Text.isAllBlank raw = true := Text.trim_eq_empty_iff
  refine ⟨Text.trim raw, Text.isCore_trim raw, Duration.exists_parse_eq_ok_iff, rfl, ?_, ?_, ?_⟩
  · intro hEmpty
    simp [parsePodTimeout, hBlank.1 hEmpty]
  · intro hWritten
    have hSome : ¬Text.isAllBlank raw = true := fun hAll =>
      Duration.not_isWritten_empty (hBlank.2 hAll ▸ hWritten)
    obtain ⟨d, hRead⟩ := Duration.exists_parse_eq_ok_iff.2 hWritten
    exact ⟨d, hRead, by simp [parsePodTimeout, hSome, hRead]⟩
  · intro hSome hOther
    rw [Ne, hBlank] at hSome
    cases hRead : Duration.parse raw with
    | ok d => exact absurd (Duration.exists_parse_eq_ok_iff.1 ⟨d, hRead⟩) hOther
    | error e => exact ⟨e, rfl, by simp [parsePodTimeout, hSome, hRead]⟩

/-- A point may stand before or after the digits of a number, and `ms` is not minutes. -/
theorem parsePodTimeout_by_grammar_of_compound :
    parsePodTimeout (some " \t") = .ok defaultPodTimeout ∧
    (∃ d, Duration.parse " 1.h.5m30ms" = .ok d ∧ parsePodTimeout (some " 1.h.5m30ms") = .ok d) ∧
    ∃ e, Duration.parse "1h 30m" = .error e ∧
      parsePodTimeout (some "1h 30m") = .error (.configuration "POD_TIMEOUT" e.message) := by
  refine ⟨?_, ?_, ?_⟩
  · obtain ⟨core, hCore, -, -, hBlank, -⟩ := parsePodTimeout_by_grammar " \t"
    exact hBlank ((Text.isCore_iff.1 hCore).trans (by decide))
  · obtain ⟨core, hCore, -, -, -, hRead, -⟩ := parsePodTimeout_by_grammar " 1.h.5m30ms"
    obtain rfl : core = "1.h.5m30ms" := (Text.isCore_iff.1 hCore).trans (by decide)
    have hDigits (ds : List Char) (h : ds.all Char.isDigit = true) : ∀ c ∈ ds, c.isDigit = true :=
      List.all_eq_true.1 h
    refine hRead (.inr ⟨[['1', '.', 'h'], ['.', '5', 'm'], ['3', '0', 'm', 's']], by simp, by decide, ?_⟩)
    simp only [List.forall_mem_cons]
    exact ⟨⟨['1', '.'], ['h'], rfl, .pointed (hDigits ['1'] rfl) (hDigits [] rfl) (by simp), by decide⟩,
      ⟨['.', '5'], ['m'], rfl, .pointed (hDigits [] rfl) (hDigits ['5'] rfl) (by simp), by decide⟩,
      ⟨['3', '0'], ['m', 's'], rfl, .whole (hDigits ['3', '0'] rfl) (by simp), by decide⟩, nofun⟩
  · obtain ⟨core, hCore, hParse, -, -, -, hRefused⟩ := parsePodTimeout_by_grammar "1h 30m"
    have hError : Duration.parse "1h 30m" = .error (.unknownUnit "h " "1h 30m") := by decide +kernel
    obtain rfl : core = "1h 30m" := (Text.isCore_iff.1 hCore).trans (by decide)
    refine hRefused (by decide) fun hWritten => ?_
    obtain ⟨d, hOk⟩ := hParse.2 hWritten
    rw [hError] at hOk
    cases hOk

end PodWorkspace
