import PodWorkspace.Manifest.Quantity
import PodWorkspace.Proofs.Text.Blank
import PodWorkspace.Proofs.Text.Decimal

/-! Which texts are amounts, by their grammar: an optional sign, a number, and nothing or a unit or an
exponent. A text is read as an amount when what is left of it without the white space around it has this
form, and the amount is that rest. -/

namespace PodWorkspace.Manifest

variable {cs sign digits number scale rest : List Char} {option raw amount : String}

/-! ### The grammar -/

/-- A sign that may be left out. -/
inductive IsSign : List Char → Prop
  | absent : IsSign []
  | plus : IsSign ['+']
  | minus : IsSign ['-']

/-- What may follow the number of an amount: nothing, a unit, or an exponent of at least one digit. -/
inductive IsScale : List Char → Prop
  | absent : IsScale []
  | unit {unit : String} (hUnit : unit ∈
      ["n", "u", "m", "k", "M", "G", "T", "P", "E", "Ki", "Mi", "Gi", "Ti", "Pi", "Ei"]) :
      IsScale unit.toList
  | exponent {letter : Char} {sign digits : List Char} (hLetter : letter = 'e' ∨ letter = 'E')
      (hSign : IsSign sign) (hDigits : ∀ c ∈ digits, c.isDigit = true) (hSome : digits ≠ []) :
      IsScale (letter :: (sign ++ digits))

/-- An amount is a number with a sign before it and a scale after it, both of which may be left out. -/
def IsAmount (cs : List Char) : Prop :=
  ∃ sign number scale, cs = sign ++ number ++ scale ∧ IsSign sign ∧ Text.IsDecimal number ∧ IsScale scale

/-! ### Signs -/

theorem IsSign.comma_not_mem (h : IsSign sign) : ',' ∉ sign := by
  cases h <;> decide

/-- The characters of signs. -/
def isSignChar (c : Char) : Bool := c == '+' || c == '-'

/-- A sign that is there is dropped. -/
theorem exists_sign (cs : List Char) : ∃ sign, IsSign sign ∧ cs = sign ++ dropSign cs := by
  unfold dropSign
  split
  · exact ⟨['+'], .plus, rfl⟩
  · exact ⟨['-'], .minus, rfl⟩
  · exact ⟨[], .absent, rfl⟩

theorem dropSign_append (hSign : IsSign sign) (hRest : Text.StopsAt isSignChar rest) :
    dropSign (sign ++ rest) = rest := by
  cases hSign with
  | plus => rfl
  | minus => rfl
  | absent =>
    cases rest with
    | nil => rfl
    | cons c rest =>
      obtain ⟨hPlus, hMinus⟩ : c ≠ '+' ∧ c ≠ '-' := by
        simpa [isSignChar] using Text.stopsAt_cons.1 hRest
      simp [dropSign, hPlus, hMinus]

theorem isSignChar_eq_false_of_isDecimalChar (c : Char) (h : Text.isDecimalChar c = true) :
    isSignChar c = false := by
  rw [← Bool.not_eq_true]
  intro hSign
  obtain rfl | rfl : c = '+' ∨ c = '-' := by simpa [isSignChar] using hSign
  all_goals cases h

/-! ### Scales -/

theorem isExponent_cons {letter : Char} (h : letter = 'e' ∨ letter = 'E') (cs : List Char) :
    isExponent (letter :: cs) = (!(dropSign cs).isEmpty && (dropSign cs).all Char.isDigit) := by
  rcases h with rfl | rfl <;> rfl

theorem exists_letter_of_isExponent (h : isExponent cs = true) :
    ∃ letter rest, cs = letter :: rest ∧ (letter = 'e' ∨ letter = 'E') := by
  unfold isExponent at h
  split at h
  · exact ⟨'e', _, rfl, .inl rfl⟩
  · exact ⟨'E', _, rfl, .inr rfl⟩
  · cases h

/-- The digits of an exponent are what is left when its letter and its sign are dropped. -/
theorem isExponent_iff : isExponent cs = true ↔ ∃ letter sign digits, cs = letter :: (sign ++ digits) ∧
    (letter = 'e' ∨ letter = 'E') ∧ IsSign sign ∧ (∀ c ∈ digits, c.isDigit = true) ∧ digits ≠ [] := by
  constructor
  · intro h
    obtain ⟨letter, rest, rfl, hLetter⟩ := exists_letter_of_isExponent h
    obtain ⟨sign, hSign, hRest⟩ := exists_sign rest
    rw [isExponent_cons hLetter, Bool.and_eq_true, List.all_eq_true] at h
    exact ⟨letter, sign, dropSign rest, by rw [← hRest], hLetter, hSign, h.2, by simpa using h.1⟩
  · rintro ⟨letter, sign, digits, rfl, hLetter, hSign, hDigits, hSome⟩
    have hStops : Text.StopsAt isSignChar (digits ++ []) :=
      Text.stopsAt_append (fun c hMem => Text.isDecimalChar_of_isDigit (hDigits c hMem)) hSome
        isSignChar_eq_false_of_isDecimalChar
    rw [List.append_nil] at hStops
    rw [isExponent_cons hLetter, dropSign_append hSign hStops, Bool.and_eq_true, List.all_eq_true]
    exact ⟨by simpa using hSome, hDigits⟩

theorem isScale_iff : IsScale cs ↔
    (cs.isEmpty || quantityUnits.contains (String.ofList cs) || isExponent cs) = true := by
  simp only [Bool.or_eq_true, or_assoc, List.isEmpty_iff, List.contains_iff_mem]
  constructor
  · intro h
    cases h with
    | absent => exact .inl rfl
    | @unit unit hUnit => exact .inr (.inl (by rwa [String.ofList_toList]))
    | exponent hLetter hSign hDigits hSome =>
      exact .inr (.inr (isExponent_iff.2 ⟨_, _, _, rfl, hLetter, hSign, hDigits, hSome⟩))
  · rintro (rfl | hUnit | hExponent)
    · exact .absent
    · rw [← String.toList_ofList (l := cs)]
      exact .unit hUnit
    · obtain ⟨letter, sign, digits, rfl, hLetter, hSign, hDigits, hSome⟩ := isExponent_iff.1 hExponent
      exact .exponent hLetter hSign hDigits hSome

/-- A scale does not begin like a number goes on, although a unit and an exponent can begin alike. -/
theorem IsScale.stopsAt (h : IsScale scale) : Text.StopsAt Text.isDecimalChar scale := by
  cases h with
  | absent => exact Text.stopsAt_nil
  | unit hUnit =>
    have hUnits : ∀ unit ∈ quantityUnits, unit.toList.head?.all (!Text.isDecimalChar ·) = true := by
      decide
    simpa [Text.StopsAt, Option.all_eq_true] using hUnits _ hUnit
  | exponent hLetter => rcases hLetter with rfl | rfl <;> exact Text.stopsAt_cons.2 rfl

theorem IsScale.comma_not_mem (h : IsScale scale) : ',' ∉ scale := by
  cases h with
  | absent => simp
  | unit hUnit =>
    have hUnits : ∀ unit ∈ quantityUnits, ',' ∉ unit.toList := by decide
    exact hUnits _ hUnit
  | @exponent letter sign digits hLetter hSign hDigits =>
    have hFirst : ',' ≠ letter := by rcases hLetter with rfl | rfl <;> decide
    have hLast : ',' ∉ digits := fun hMem => by cases hDigits ',' hMem
    simp [hFirst, hSign.comma_not_mem, hLast]

/-! ### Whole amounts -/

/-- An amount has no comma, so it stands in one piece of a list. -/
theorem IsAmount.comma_not_mem (h : IsAmount cs) : ',' ∉ cs := by
  obtain ⟨sign, number, scale, rfl, hSign, hNumber, hScale⟩ := h
  have hChars : ',' ∉ number := fun hMem => by cases hNumber.isDecimalChar ',' hMem
  simp [hSign.comma_not_mem, hChars, hScale.comma_not_mem]

/-- A text without its sign is scanned for a number, and what the scan leaves is the scale. -/
theorem isQuantity_iff_scanned : isQuantity cs = true ↔
    Text.IsDecimal ((dropSign cs).takeWhile Text.isDecimalChar) ∧
      IsScale ((dropSign cs).dropWhile Text.isDecimalChar) := by
  have hChars : ∀ c ∈ (dropSign cs).takeWhile Text.isDecimalChar, Text.isDecimalChar c = true :=
    fun c => List.mem_takeWhile_imp
  rw [Text.isDecimal_iff, isScale_iff, and_iff_right hChars]
  show (_ && _ && _) = true ↔ _
  rw [Bool.and_eq_true, Bool.and_eq_true, decide_eq_true_eq]
  rfl

theorem isQuantity_iff : isQuantity cs = true ↔ IsAmount cs := by
  rw [isQuantity_iff_scanned]
  constructor
  · rintro ⟨hNumber, hScale⟩
    obtain ⟨sign, hSign, hWhole⟩ := exists_sign cs
    refine ⟨sign, _, _, ?_, hSign, hNumber, hScale⟩
    rw [List.append_assoc, List.takeWhile_append_dropWhile, ← hWhole]
  · rintro ⟨sign, number, scale, rfl, hSign, hNumber, hScale⟩
    have hChars := hNumber.isDecimalChar
    have hStops : Text.StopsAt isSignChar (number ++ scale) :=
      Text.stopsAt_append hChars hNumber.ne_nil isSignChar_eq_false_of_isDecimalChar
    rw [List.append_assoc, dropSign_append hSign hStops,
      Text.takeWhile_append_of_stopsAt hChars hScale.stopsAt,
      Text.dropWhile_append_of_stopsAt hChars hScale.stopsAt]
    exact ⟨hNumber, hScale⟩

theorem isQuantity_trimChars :
    isQuantity (Text.trimChars raw.toList) = true ↔ IsAmount (Text.trim raw).toList := by
  rw [isQuantity_iff, Text.trim, String.toList_ofList]

theorem parseQuantity_eq_ok_iff : parseQuantity option raw = .ok amount ↔
    IsAmount (Text.trim raw).toList ∧ amount = Text.trim raw := by
  rw [← isQuantity_trimChars]
  unfold parseQuantity
  split
  · rename_i hQuantity
    simp [hQuantity, eq_comm]
  · rename_i hOther
    simp [hOther]

theorem parseQuantity_eq_error_iff {f : Failure} : parseQuantity option raw = .error f ↔
    ¬IsAmount (Text.trim raw).toList ∧ f = .configuration option s!"invalid quantity '{raw}'" := by
  rw [← isQuantity_trimChars]
  unfold parseQuantity
  split
  · rename_i hQuantity
    simp [hQuantity]
  · rename_i hOther
    simp [hOther, eq_comm]

/-- A text is read as an amount when what is left of it without the white space around it has the form of
one. That rest is the amount, and any other text is named in the failure. -/
theorem parseQuantity_by_grammar (option raw : String) : ∃ core, Text.IsCore raw core ∧
    (∀ amount, parseQuantity option raw = .ok amount ↔ IsAmount core.toList ∧ amount = core) ∧
    ∀ f, parseQuantity option raw = .error f ↔
      ¬IsAmount core.toList ∧ f = .configuration option s!"invalid quantity '{raw}'" :=
  ⟨Text.trim raw, Text.isCore_trim raw, fun _ => parseQuantity_eq_ok_iff,
    fun _ => parseQuantity_eq_error_iff⟩

/-- An `E` is a unit, an exponent or the start of a unit. Digits of other scripts and a second sign or
point are refused. -/
example :
    (["1E", "1E5", "1Ei", "+.5Ki", "7.", "2e-0"].all fun s => isQuantity s.toList) = true ∧
      (["", ".", "1e", "1e5.0", "--1", "1..5", "٣", "10 Gi"].any fun s => isQuantity s.toList) = false := by
  decide

end PodWorkspace.Manifest
