import Mathlib.Data.Option.Basic
import PodWorkspace.Json.Reader
import PodWorkspace.Json.Writer

/-! What is written as JSON reads back. A text comes back through its escapes, whatever characters it
has; a value comes back with all that follows it left over. And what is written is one line, as all
control characters are escaped. Numbers are left out: no record of the provider holds one. -/

namespace PodWorkspace.Json

/-! ### String literals -/

/-- The control characters with an escape of their own. -/
def namedControls : List Char := ['\x08', '\x0c', '\n', '\r', '\t']

/-- The piece as which a character of a literal reads. -/
def piece (c : Char) : Piece :=
  if c.toNat < 0x20 ∧ c ∉ namedControls then .unit c.toNat else .char c

theorem codeUnit_hexDigits : ∀ n < 0x20,
    codeUnit? '0' '0' (hexDigit (n / 16)) (hexDigit (n % 16)) = some n := by
  decide

theorem readPieces_escape_of_special {c : Char} (h : c ∈ '"' :: '\\' :: namedControls)
    (rest : List Char) :
    readPieces (escape c ++ rest) =
      (readPieces rest).map fun (ps, after) => (piece c :: ps, after) := by
  simp only [namedControls, List.mem_cons, List.not_mem_nil, or_false] at h
  rcases h with rfl | rfl | rfl | rfl | rfl | rfl | rfl <;>
    simp [escape, readPieces, unescape?, piece, namedControls, Option.map_eq_bind]

theorem escape_of_not_special {c : Char} (h : c ∉ '"' :: '\\' :: namedControls) :
    escape c =
      if c.toNat < 0x20 then
        ['\\', 'u', '0', '0', hexDigit (c.toNat / 16), hexDigit (c.toNat % 16)]
      else [c] := by
  simp only [namedControls, List.mem_cons, List.not_mem_nil, or_false, not_or] at h
  simp [escape, h]

/-- A character reads back as one piece. -/
theorem readPieces_escape (c : Char) (rest : List Char) :
    readPieces (escape c ++ rest) =
      (readPieces rest).map fun (ps, after) => (piece c :: ps, after) := by
  by_cases hSpecial : c ∈ '"' :: '\\' :: namedControls
  · exact readPieces_escape_of_special hSpecial rest
  rw [escape_of_not_special hSpecial]
  simp only [List.mem_cons, not_or] at hSpecial
  obtain ⟨hQuote, hSlash, hNamed⟩ := hSpecial
  split
  · rename_i hLow
    simp [readPieces, codeUnit_hexDigits _ hLow, piece, hLow, hNamed, Option.map_eq_bind]
  · rename_i hLow
    simp [readPieces, hSlash, hLow, piece, Option.map_eq_bind]

theorem readPieces_escaped (cs rest : List Char) :
    readPieces (cs.flatMap escape ++ '"' :: rest) = some (cs.map piece, rest) := by
  induction cs with
  | nil => simp [readPieces]
  | cons c cs ih => simp [readPieces_escape, ih]

/-- A code unit below the surrogates stands for itself. -/
theorem joinPieces_unit {n : Nat} (h : n < 0xD800) (ps : List Piece) :
    joinPieces (.unit n :: ps) = (joinPieces ps).map (Char.ofNat n :: ·) := by
  have hSurrogate : ¬(0xD800 ≤ n ∧ n < 0xE000) := by omega
  have hHigh : ¬(0xD800 ≤ n ∧ n < 0xDC00) := by omega
  have hLow : ¬(0xDC00 ≤ n ∧ n < 0xE000) := by omega
  rcases ps with _ | ⟨c | m, ps⟩
  · simp [joinPieces, hSurrogate]
  · simp [joinPieces, hSurrogate]
  · rw [joinPieces, if_neg hHigh, if_neg hLow]

theorem joinPieces_piece (c : Char) (ps : List Piece) :
    joinPieces (piece c :: ps) = (joinPieces ps).map (c :: ·) := by
  unfold piece
  split
  · rename_i hUnit
    rw [joinPieces_unit (by omega), Char.ofNat_toNat]
  · rfl

theorem joinPieces_pieces (cs : List Char) : joinPieces (cs.map piece) = some cs := by
  induction cs with
  | nil => rfl
  | cons c cs ih => rw [List.map_cons, joinPieces_piece, ih, Option.map_some]

theorem renderText_some (s : String) :
    renderText (some s) = '"' :: (s.toList.flatMap escape ++ ['"']) := rfl

theorem renderText_none : renderText none = ['"', '\\', 'u', 'd', '8', '0', '0', '"'] := by decide

/-- A string literal reads back, that of half a surrogate pair as no text. -/
theorem readText_renderText (s : Option String) (rest : List Char) :
    ∃ cs, renderText s ++ rest = '"' :: cs ∧ readText cs = some (s, rest) := by
  cases s with
  | none =>
    -- The half of a pair before a closing quote, where no other half can follow.
    have hUnit : codeUnit? 'd' '8' '0' '0' = some 0xD800 := by decide
    refine ⟨['\\', 'u', 'd', '8', '0', '0', '"'] ++ rest, by rw [renderText_none]; rfl, ?_⟩
    simp [readText, readPieces, hUnit, joinPieces]
  | some s =>
    refine ⟨s.toList.flatMap escape ++ '"' :: rest, ?_, ?_⟩
    · rw [renderText_some]
      simp
    · simp [readText, readPieces_escaped, joinPieces_pieces]

/-! ### Values -/

mutual

/-- Whether no number stands in a value. -/
def isNumberless : Json → Bool
  | .null | .bool _ | .text _ => true
  | .number _ => false
  | .list items => areNumberless items
  | .object members => haveNumberless members

/-- Whether no number stands in the items of a list. -/
def areNumberless : List Json → Bool
  | [] => true
  | x :: xs => isNumberless x && areNumberless xs

/-- Whether no number stands in the members of an object. -/
def haveNumberless : List (Option String × Json) → Bool
  | [] => true
  | (_, x) :: ms => isNumberless x && haveNumberless ms

end

/-- How the text of a value begins: not with white space, and not like the end of a list. -/
theorem renderChars_eq_cons {v : Json} (h : v.isNumberless = true) :
    ∃ c cs, v.renderChars = c :: cs ∧ isSpace c = false ∧ c ≠ ']' := by
  cases v with
  | null => exact ⟨_, _, rfl, rfl, by decide⟩
  | bool b => cases b <;> exact ⟨_, _, rfl, rfl, by decide⟩
  | number literal => simp [isNumberless] at h
  | text s =>
    obtain ⟨cs, hText, -⟩ := readText_renderText s []
    exact ⟨'"', cs, by simpa [renderChars] using hText, rfl, by decide⟩
  | list items => cases items <;> exact ⟨_, _, rfl, rfl, by decide⟩
  | object members =>
    rcases members with _ | ⟨⟨name, x⟩, ms⟩ <;> exact ⟨_, _, rfl, rfl, by decide⟩

/-- Where a value stands there is no end of a list. -/
theorem dropWhile_renderChars_ne {v : Json} (h : v.isNumberless = true) (rest after : List Char) :
    (v.renderChars ++ rest).dropWhile isSpace ≠ ']' :: after := by
  obtain ⟨c, cs, hText, hSpace, hEnd⟩ := renderChars_eq_cons h
  simp [hText, hSpace, hEnd]

theorem readValue_list {fuel : Nat} {cs : List Char}
    (h : ∀ after, cs.dropWhile isSpace ≠ ']' :: after) :
    readValue (fuel + 1) ('[' :: cs) =
      (readValue fuel cs).bind fun (x, after) =>
        (readItems fuel after).map fun (xs, after) => (.list (x :: xs), after) := by
  simp [readValue, isSpace, Option.map_eq_bind]

theorem readValue_object {fuel : Nat} {cs : List Char}
    (h : ∀ after, cs.dropWhile isSpace ≠ '\x7d' :: after) :
    readValue (fuel + 1) ('\x7b' :: cs) =
      (readMember fuel cs).bind fun (m, after) =>
        (readMembers fuel after).map fun (ms, after) => (.object (m :: ms), after) := by
  simp [readValue, isSpace, Option.map_eq_bind]

/-- With enough fuel, all that is written reads back. -/
structure ReadsBack (fuel : Nat) : Prop where
  value : ∀ v rest, isNumberless v = true → v.renderChars.length ≤ fuel →
    readValue fuel (v.renderChars ++ rest) = some (v, rest)
  items : ∀ xs rest, areNumberless xs = true → (renderItems xs).length ≤ fuel →
    readItems fuel (renderItems xs ++ rest) = some (xs, rest)
  member : ∀ name v rest, isNumberless v = true → v.renderChars.length < fuel →
    readMember fuel (renderText name ++ ':' :: (v.renderChars ++ rest)) = some ((name, v), rest)
  members : ∀ ms rest, haveNumberless ms = true → (renderMembers ms).length ≤ fuel →
    readMembers fuel (renderMembers ms ++ rest) = some (ms, rest)

namespace ReadsBack

variable {fuel : Nat}

theorem value_succ (ih : ReadsBack fuel) (v : Json) (rest : List Char)
    (h : isNumberless v = true) (hFuel : v.renderChars.length ≤ fuel + 1) :
    readValue (fuel + 1) (v.renderChars ++ rest) = some (v, rest) := by
  cases v with
  | null => rfl
  | bool b => cases b <;> rfl
  | number literal => simp [isNumberless] at h
  | text s =>
    obtain ⟨cs, hText, hRead⟩ := readText_renderText s rest
    rw [renderChars, hText]
    simp [readValue, isSpace, hRead]
  | list items =>
    rcases items with _ | ⟨x, xs⟩
    · rfl
    simp only [isNumberless, areNumberless, Bool.and_eq_true] at h
    simp only [renderChars, List.length_cons, List.length_append] at hFuel
    have hHead := ih.value x (renderItems xs ++ rest) h.1 (by omega)
    have hTail := ih.items xs rest h.2 (by omega)
    simp only [renderChars, List.cons_append, List.append_assoc]
    rw [readValue_list (dropWhile_renderChars_ne h.1 _), hHead]
    simp [hTail]
  | object members =>
    rcases members with _ | ⟨⟨name, x⟩, ms⟩
    · rfl
    simp only [isNumberless, haveNumberless, Bool.and_eq_true] at h
    simp only [renderChars, List.length_cons, List.length_append] at hFuel
    have hHead := ih.member name x (renderMembers ms ++ rest) h.1 (by omega)
    have hTail := ih.members ms rest h.2 (by omega)
    obtain ⟨cs, hText, -⟩ :=
      readText_renderText name (':' :: (x.renderChars ++ (renderMembers ms ++ rest)))
    have hEnd : ∀ after, ('"' :: cs).dropWhile isSpace ≠ '\x7d' :: after := by
      simp [isSpace]
    simp only [renderChars, List.cons_append, List.append_assoc]
    rw [readValue_object (hText ▸ hEnd), hHead]
    simp [hTail]

theorem items_succ (ih : ReadsBack fuel) (xs : List Json) (rest : List Char)
    (h : areNumberless xs = true) (hFuel : (renderItems xs).length ≤ fuel + 1) :
    readItems (fuel + 1) (renderItems xs ++ rest) = some (xs, rest) := by
  cases xs with
  | nil => rfl
  | cons x xs =>
    simp only [areNumberless, Bool.and_eq_true] at h
    simp only [renderItems, List.length_cons, List.length_append] at hFuel
    have hHead := ih.value x (renderItems xs ++ rest) h.1 (by omega)
    have hTail := ih.items xs rest h.2 (by omega)
    simp [renderItems, readItems, isSpace, hHead, hTail]

theorem member_succ (ih : ReadsBack fuel) (name : Option String) (v : Json) (rest : List Char)
    (h : isNumberless v = true) (hFuel : v.renderChars.length < fuel + 1) :
    readMember (fuel + 1) (renderText name ++ ':' :: (v.renderChars ++ rest)) =
      some ((name, v), rest) := by
  have hValue := ih.value v rest h (by omega)
  obtain ⟨cs, hText, hRead⟩ := readText_renderText name (':' :: (v.renderChars ++ rest))
  rw [hText]
  simp [readMember, isSpace, hRead, hValue]

theorem members_succ (ih : ReadsBack fuel) (ms : List (Option String × Json)) (rest : List Char)
    (h : haveNumberless ms = true) (hFuel : (renderMembers ms).length ≤ fuel + 1) :
    readMembers (fuel + 1) (renderMembers ms ++ rest) = some (ms, rest) := by
  rcases ms with _ | ⟨⟨name, x⟩, ms⟩
  · rfl
  simp only [haveNumberless, Bool.and_eq_true] at h
  simp only [renderMembers, List.length_cons, List.length_append] at hFuel
  have hHead := ih.member name x (renderMembers ms ++ rest) h.1 (by omega)
  have hTail := ih.members ms rest h.2 (by omega)
  simp [renderMembers, readMembers, isSpace, hHead, hTail]

end ReadsBack

theorem readsBack (fuel : Nat) : ReadsBack fuel := by
  -- The readers hand each other one unit of fuel less, so all four go through one induction.
  induction fuel with
  | zero =>
    refine ⟨fun v rest h hFuel => ?_, fun xs rest h hFuel => ?_, fun _ _ _ _ hFuel => ?_,
      fun ms rest h hFuel => ?_⟩
    · obtain ⟨c, cs, hText, -⟩ := renderChars_eq_cons h
      simp [hText] at hFuel
    · cases xs <;> simp [renderItems] at hFuel
    · omega
    · rcases ms with _ | ⟨⟨_, _⟩, _⟩ <;> simp [renderMembers] at hFuel
  | succ fuel ih => exact ⟨ih.value_succ, ih.items_succ, ih.member_succ, ih.members_succ⟩

/-- A value without numbers reads back from its text. -/
theorem read_render {v : Json} (h : v.isNumberless = true) : read? v.render = some v := by
  have hRead := (readsBack (v.renderChars.length + 1)).value v [] h (by omega)
  rw [List.append_nil] at hRead
  simp [read?, readChars?, render, hRead]

/-! ### How objects are written -/

/-- A member of an object as it is written. -/
def memberChars (m : Option String × Json) : List Char :=
  renderText m.1 ++ ':' :: m.2.renderChars

theorem memberChars_append_renderMembers (m : Option String × Json)
    (ms : List (Option String × Json)) :
    memberChars m ++ renderMembers ms =
      [','].intercalate ((m :: ms).map memberChars) ++ ['\x7d'] := by
  induction ms generalizing m with
  | nil => simp [renderMembers]
  | cons other ms ih =>
    have hRest : renderMembers (other :: ms) = ',' :: (memberChars other ++ renderMembers ms) := by
      simp [renderMembers, memberChars]
    have hComma : [','].intercalate ((m :: other :: ms).map memberChars) =
        memberChars m ++ [','] ++ [','].intercalate ((other :: ms).map memberChars) :=
      List.intercalate_cons_cons
    rw [hRest, ih other, hComma]
    simp

/-- An object is its members in their order, with commas and nothing else between them. -/
theorem renderChars_object (ms : List (Option String × Json)) :
    (Json.object ms).renderChars =
      '\x7b' :: ([','].intercalate (ms.map memberChars) ++ ['\x7d']) := by
  cases ms with
  | nil => rfl
  | cons m ms =>
    rw [← memberChars_append_renderMembers, memberChars]
    simp [renderChars]

/-! ### Texts without control characters -/

/-- Whether there is no control character below U+0020 among some characters. -/
def HasNoControls (cs : List Char) : Prop := ∀ c ∈ cs, 0x20 ≤ c.toNat

@[simp] theorem hasNoControls_nil : HasNoControls [] := by simp [HasNoControls]

@[simp] theorem hasNoControls_append {first second : List Char} :
    HasNoControls (first ++ second) ↔ HasNoControls first ∧ HasNoControls second :=
  List.forall_mem_append

@[simp] theorem hasNoControls_cons {c : Char} {cs : List Char} :
    HasNoControls (c :: cs) ↔ 0x20 ≤ c.toNat ∧ HasNoControls cs :=
  List.forall_mem_cons

theorem le_toNat_hexDigit : ∀ n < 16, 0x20 ≤ (hexDigit n).toNat := by decide

/-- An escape has no control characters, and whatever is not escaped is none. -/
theorem hasNoControls_escape (c : Char) : HasNoControls (escape c) := by
  by_cases hSpecial : c ∈ '"' :: '\\' :: namedControls
  · simp only [namedControls, List.mem_cons, List.not_mem_nil, or_false] at hSpecial
    rcases hSpecial with rfl | rfl | rfl | rfl | rfl | rfl | rfl <;> simp [escape]
  rw [escape_of_not_special hSpecial]
  split
  · rename_i hLow
    have hHigh := le_toNat_hexDigit (c.toNat / 16) (by omega)
    have hLast := le_toNat_hexDigit (c.toNat % 16) (by omega)
    simp [hHigh, hLast]
  · rename_i hLow
    simpa using hLow

theorem hasNoControls_renderText (s : Option String) : HasNoControls (renderText s) := by
  cases s with
  | none => simp [renderText_none]
  | some s =>
    have hEscaped : HasNoControls (s.toList.flatMap escape) := by
      intro d hMem
      obtain ⟨c, -, hMem⟩ := List.mem_flatMap.1 hMem
      exact hasNoControls_escape c d hMem
    simp [renderText_some, hEscaped]

mutual

theorem hasNoControls_renderChars : ∀ {v : Json}, v.isNumberless = true →
    HasNoControls v.renderChars
  | .null, _ => by simp [renderChars]
  | .bool true, _ => by simp [renderChars]
  | .bool false, _ => by simp [renderChars]
  | .number _, h => by simp [isNumberless] at h
  | .text s, _ => hasNoControls_renderText s
  | .list [], _ => by simp [renderChars]
  | .list (x :: xs), h => by
    simp only [isNumberless, areNumberless, Bool.and_eq_true] at h
    simp [renderChars, hasNoControls_renderChars h.1, hasNoControls_renderItems h.2]
  | .object [], _ => by simp [renderChars]
  | .object ((name, x) :: ms), h => by
    simp only [isNumberless, haveNumberless, Bool.and_eq_true] at h
    simp [renderChars, hasNoControls_renderText, hasNoControls_renderChars h.1,
      hasNoControls_renderMembers h.2]

theorem hasNoControls_renderItems : ∀ {xs : List Json}, areNumberless xs = true →
    HasNoControls (renderItems xs)
  | [], _ => by simp [renderItems]
  | x :: xs, h => by
    simp only [areNumberless, Bool.and_eq_true] at h
    simp [renderItems, hasNoControls_renderChars h.1, hasNoControls_renderItems h.2]

theorem hasNoControls_renderMembers : ∀ {ms : List (Option String × Json)},
    haveNumberless ms = true → HasNoControls (renderMembers ms)
  | [], _ => by simp [renderMembers]
  | (name, x) :: ms, h => by
    simp only [haveNumberless, Bool.and_eq_true] at h
    simp [renderMembers, hasNoControls_renderText, hasNoControls_renderChars h.1,
      hasNoControls_renderMembers h.2]

end

end PodWorkspace.Json
