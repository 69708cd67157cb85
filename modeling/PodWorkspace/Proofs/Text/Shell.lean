import PodWorkspace.Text.Split

/-! How a POSIX shell reads a line that quotes nothing. It cuts the line into tokens: a word goes up to
white space or an operator, an operator as far as it can, and a word that begins with a number sign is
a comment. Some characters quote others or stand for something else, so that the shell does not take
them as they are. Words and operators that are put next to each other with spaces between them are read
back when none of them has a character with a meaning of its own. Fields come from the white space
alone. -/

namespace PodWorkspace.Text.Shell

/-- The white space at which text is split into fields. -/
def isSeparator (c : Char) : Bool := c == ' ' || c == '\t' || c == '\n'

/-- The fields of a text: what stands between its white space. -/
def fields (s : String) : List String :=
  ((s.toList.splitOnP isSeparator).filter (!·.isEmpty)).map String.ofList

def operators : List String :=
  ["&", "|", ";", "<", ">", "(", ")", "&&", "||", ";;", "<<", ">>", "<&", ">&", "<>", ">|", "<<-"]

def startsOperator (c : Char) : Bool := operators.contains (.singleton c)

/-- Whether a character quotes others, or has something put in its place. -/
def isActive (c : Char) : Bool := ['\\', '\'', '"', '$', '\x60', '*', '?', '['].contains c

inductive Token where
  | word (text : String)
  | operator (text : String)
  deriving DecidableEq, Repr

namespace Token

def text : Token → String
  | word w => w
  | operator op => op

/-- The token that begins with a character which no other one goes on with. -/
def starting (c : Char) : Token :=
  if startsOperator c then operator (.singleton c) else word (.singleton c)

/-- The token with one more character, if it goes on with that. -/
def extended? (c : Char) : Token → Option Token
  | word w => if isSeparator c || startsOperator c then none else some (word (w.push c))
  | operator op => if operators.contains (op.push c) then some (operator (op.push c)) else none

end Token

/-- The tokens of a text, of which `current` is the one that has begun before it. There are none when
the shell would not take a part of the text as it is. -/
def tokensFrom : Option Token → List Char → Option (List Token)
  | current, [] => some current.toList
  | current, c :: cs =>
    if isActive c then none
    else
      match current.bind (·.extended? c) with
      | some longer => tokensFrom (some longer) cs
      | none =>
        Option.map (current.toList ++ ·) <|
          if isSeparator c then tokensFrom none cs
          else if c = '#' then some []
          else if c = '~' then none
          else tokensFrom (some (.starting c)) cs

/-- The tokens of a line that the shell takes as it is. -/
def tokens? (line : String) : Option (List Token) := tokensFrom none line.toList

/-! ### Fields -/

/-- What a word between white space is: some text without white space. -/
structure IsField (w : String) : Prop where
  ne_empty : w ≠ ""
  noSeparator : ∀ c ∈ w.toList, isSeparator c = false

theorem fields_append_space (front back : String) :
    fields (front ++ " " ++ back) = fields front ++ fields back := by
  have hSpace : isSeparator ' ' = true := rfl
  have hList : (front ++ " " ++ back).toList = front.toList ++ ' ' :: back.toList := by simp
  rw [fields, hList, List.splitOnP_append_cons _ _ hSpace, List.filter_append, List.map_append]
  rfl

theorem fields_of_isField {w : String} (h : IsField w) : fields w = [w] := by
  have hNe : w.toList.isEmpty = false := by simpa using h.ne_empty
  rw [fields, List.splitOnP_eq_singleton h.noSeparator]
  simp [hNe]

/-- A text is cut at every separator, so none is left in a piece. -/
theorem all_of_mem_splitOnP {p : Char → Bool} {cs piece : List Char} (h : piece ∈ cs.splitOnP p) :
    piece.all (!p ·) = true := by
  induction cs generalizing piece with
  | nil =>
    obtain rfl : piece = [] := by simpa using h
    rfl
  | cons c cs ih =>
    obtain ⟨first, rest, hPieces⟩ := List.exists_cons_of_ne_nil (List.splitOnP_ne_nil p cs)
    rw [hPieces] at ih
    rw [List.splitOnP_cons_eq_if_modifyHead, hPieces] at h
    cases hc : p c with
    | true =>
      rw [if_pos hc] at h
      obtain rfl | hRest := List.mem_cons.1 h
      · rfl
      · exact ih hRest
    | false =>
      rw [hc, if_neg Bool.false_ne_true, List.modifyHead_cons] at h
      obtain rfl | hRest := List.mem_cons.1 h
      · simpa [hc] using ih List.mem_cons_self
      · exact ih (List.mem_cons_of_mem _ hRest)

theorem isField_of_mem_fields {s w : String} (h : w ∈ fields s) : IsField w := by
  obtain ⟨piece, hPiece, rfl⟩ := List.mem_map.1 h
  obtain ⟨hMem, hNe⟩ := List.mem_filter.1 hPiece
  exact ⟨by simpa using hNe, by simpa using all_of_mem_splitOnP hMem⟩

/-- Texts with spaces between them are the fields of the line when each of them is one. -/
theorem fields_join_iff (words : List String) :
    fields (join " " words) = words ↔ ∀ w ∈ words, IsField w := by
  refine ⟨fun h w hMem => isField_of_mem_fields (h ▸ hMem), fun h => ?_⟩
  induction words with
  | nil => rfl
  | cons w words ih =>
    have hFirst := fields_of_isField (h w List.mem_cons_self)
    cases words with
    | nil => exact hFirst
    | cons next words =>
      have hRest := ih fun v hMem => h v (List.mem_cons_of_mem _ hMem)
      have hJoin : join " " (w :: next :: words) = w ++ " " ++ join " " (next :: words) := rfl
      rw [hJoin, fields_append_space, hFirst, hRest]
      rfl

/-! ### Tokens -/

/-- Whether a character stands for itself wherever it is in a word. -/
def isBare (c : Char) : Bool := !isActive c && !isSeparator c && !startsOperator c

/-- Whether a word does not begin with a character that means something there only. -/
def opensBare : List Char → Bool
  | [] => true
  | c :: _ => c != '#' && c != '~'

/-- A word that the shell takes as it is. -/
structure IsWord (w : String) : Prop where
  ne_empty : w ≠ ""
  bare : ∀ c ∈ w.toList, isBare c = true
  opens : opensBare w.toList = true

/-- What the tokens of a line are. -/
def Token.IsSound : Token → Prop
  | .word w => IsWord w
  | .operator op => op ∈ operators

theorem isBare_iff {c : Char} : isBare c = true ↔
    isActive c = false ∧ isSeparator c = false ∧ startsOperator c = false := by
  simp [isBare, and_assoc]

theorem isBare_of_isDigit {c : Char} (h : c.isDigit = true) : isBare c = true := by
  have hRange : 48 ≤ c.toNat ∧ c.toNat ≤ 57 := by
    simpa [Char.isDigit, UInt32.le_iff_toNat_le] using h
  have hDigits : ∀ n < 58, 48 ≤ n → isBare (Char.ofNat n) = true := by decide
  rw [← Char.ofNat_toNat c]
  exact hDigits _ (by omega) hRange.1

theorem isSound_starting {c : Char} (hActive : isActive c = false) (hSpace : isSeparator c = false)
    (hOpens : opensBare [c] = true) : (Token.starting c).IsSound := by
  unfold Token.starting
  split
  · rename_i hOperator
    exact List.contains_iff_mem.1 hOperator
  · rename_i hWord
    have hBare : isBare c = true := isBare_iff.2 ⟨hActive, hSpace, by simpa using hWord⟩
    exact ⟨by simp, by simpa using hBare, by simpa using hOpens⟩

theorem isSound_extended {c : Char} {t longer : Token} (h : t.IsSound) (hActive : isActive c = false)
    (hLonger : t.extended? c = some longer) : longer.IsSound := by
  cases t with
  | word w =>
    obtain ⟨hNe, hBare, hOpens⟩ := h
    simp only [Token.extended?] at hLonger
    split at hLonger
    · cases hLonger
    · rename_i hInWord
      obtain rfl := Option.some.inj hLonger
      rw [Bool.or_eq_true, not_or, Bool.not_eq_true, Bool.not_eq_true] at hInWord
      have hc : isBare c = true := isBare_iff.2 ⟨hActive, hInWord⟩
      obtain ⟨first, rest, hFirst⟩ := List.exists_cons_of_ne_nil (mt String.toList_eq_nil_iff.1 hNe)
      refine ⟨by simp, fun d hd => ?_, ?_⟩
      · rw [String.toList_push, List.mem_append, List.mem_singleton] at hd
        obtain hOld | rfl := hd
        · exact hBare d hOld
        · exact hc
      · rw [hFirst] at hOpens
        rwa [String.toList_push, hFirst]
  | operator op =>
    simp only [Token.extended?] at hLonger
    split at hLonger
    · rename_i hOperator
      obtain rfl := Option.some.inj hLonger
      exact List.contains_iff_mem.1 hOperator
    · cases hLonger

/-- What the tokens are of a text that begins with the character `c`: the token that has begun before it
goes on with it, or ends there. -/
inductive FirstRead (current : Option Token) (c : Char) (cs : List Char) : List Token → Prop where
  | goesOn {t longer : Token} {ts : List Token} (hBegun : t ∈ current)
      (hLonger : t.extended? c = some longer) (hRest : tokensFrom (some longer) cs = some ts) :
      FirstRead current c cs ts
  | space {ts : List Token} (hRest : tokensFrom none cs = some ts) :
      FirstRead current c cs (current.toList ++ ts)
  | comment : FirstRead current c cs current.toList
  | begins {ts : List Token} (hSpace : isSeparator c = false) (hOpens : opensBare [c] = true)
      (hRest : tokensFrom (some (.starting c)) cs = some ts) :
      FirstRead current c cs (current.toList ++ ts)

theorem firstRead_of_tokensFrom {current : Option Token} {c : Char} {cs : List Char}
    {ts : List Token} (h : tokensFrom current (c :: cs) = some ts) :
    isActive c = false ∧ FirstRead current c cs ts := by
  rw [tokensFrom] at h
  cases hActive : isActive c with
  | true => simp [hActive] at h
  | false =>
    refine ⟨rfl, ?_⟩
    simp only [hActive, Bool.false_eq_true, if_false] at h
    cases hLonger : current.bind (·.extended? c) with
    | some longer =>
      rw [hLonger] at h
      obtain ⟨t, hBegun, hExtended⟩ := Option.bind_eq_some_iff.1 hLonger
      exact .goesOn hBegun hExtended h
    | none =>
      rw [hLonger] at h
      obtain ⟨rest, hRest, rfl⟩ := Option.map_eq_some_iff.1 h
      cases hSpace : isSeparator c with
      | true =>
        rw [if_pos hSpace] at hRest
        exact .space hRest
      | false =>
        rw [hSpace, if_neg Bool.false_ne_true] at hRest
        by_cases hComment : c = '#'
        · rw [if_pos hComment] at hRest
          obtain rfl := Option.some.inj hRest
          rw [List.append_nil]
          exact .comment
        · rw [if_neg hComment] at hRest
          by_cases hTilde : c = '~'
          · rw [if_pos hTilde] at hRest
            cases hRest
          · rw [if_neg hTilde] at hRest
            exact .begins hSpace (by simp [opensBare, hComment, hTilde]) hRest

/-- The tokens of a text are sound, since every character that is read keeps them so. -/
theorem isSound_of_mem_tokensFrom {current : Option Token} {cs : List Char} {ts : List Token}
    (hCurrent : ∀ t ∈ current, t.IsSound) (h : tokensFrom current cs = some ts) :
    ∀ t ∈ ts, t.IsSound := by
  induction cs generalizing current ts with
  | nil =>
    obtain rfl := Option.some.inj h
    simpa using hCurrent
  | cons c cs ih =>
    have hBegun : ∀ t ∈ current.toList, t.IsSound := by simpa using hCurrent
    obtain ⟨hActive, hFirst⟩ := firstRead_of_tokensFrom h
    cases hFirst with
    | goesOn hToken hLonger hRest =>
      have hSound := isSound_extended (hCurrent _ hToken) hActive hLonger
      exact ih (by simpa using hSound) hRest
    | space hRest => exact List.forall_mem_append.2 ⟨hBegun, ih (by simp) hRest⟩
    | comment => exact hBegun
    | begins hSpace hOpens hRest =>
      have hSound := isSound_starting hActive hSpace hOpens
      exact List.forall_mem_append.2 ⟨hBegun, ih (by simpa using hSound) hRest⟩

/-- A text at whose beginning no token goes on. -/
def Delimits (rest : List Char) : Prop := rest = [] ∨ ∃ cs, rest = ' ' :: cs

theorem extended?_space (t : Token) : t.extended? ' ' = none := by
  cases t with
  | word w => rfl
  | operator op =>
    have hOperators : ∀ op ∈ operators, ' ' ∉ op.toList := by decide
    have hNot : op.push ' ' ∉ operators := fun hMem => hOperators _ hMem (by simp)
    simp [Token.extended?, hNot]

theorem tokensFrom_none_space (cs : List Char) : tokensFrom none (' ' :: cs) = tokensFrom none cs := by
  have hActive : isActive ' ' = false := rfl
  have hSpace : isSeparator ' ' = true := rfl
  simp [tokensFrom, hActive, hSpace]

theorem tokensFrom_of_delimits {rest : List Char} (h : Delimits rest) (t : Token) :
    tokensFrom (some t) rest = (tokensFrom none rest).map (t :: ·) := by
  obtain rfl | ⟨cs, rfl⟩ := h
  · rfl
  · have hActive : isActive ' ' = false := rfl
    have hSpace : isSeparator ' ' = true := rfl
    rw [tokensFrom_none_space, tokensFrom]
    simp [hActive, hSpace, extended?_space]

/-- A word goes on with characters that stand for themselves. -/
theorem tokensFrom_word {more : List Char} (h : ∀ c ∈ more, isBare c = true) (w : String)
    (rest : List Char) : tokensFrom (some (.word w)) (more ++ rest) =
      tokensFrom (some (.word (w ++ String.ofList more))) rest := by
  induction more generalizing w with
  | nil => simp
  | cons c more ih =>
    obtain ⟨hActive, hSpace, hOperator⟩ := isBare_iff.1 (h c List.mem_cons_self)
    have hPush : w.push c ++ String.ofList more = w ++ String.ofList (c :: more) := by
      simp [← String.toList_inj]
    rw [List.cons_append, tokensFrom]
    simp only [hActive, Bool.false_eq_true, if_false, Option.bind_some, Token.extended?, hSpace,
      hOperator, Bool.or_self]
    rw [ih fun d hd => h d (List.mem_cons_of_mem _ hd), hPush]

/-- A character that means nothing on its own begins a token. -/
theorem tokensFrom_none_cons {c : Char} (hActive : isActive c = false) (hSpace : isSeparator c = false)
    (hOpens : opensBare [c] = true) (cs : List Char) :
    tokensFrom none (c :: cs) = tokensFrom (some (.starting c)) cs := by
  obtain ⟨hComment, hTilde⟩ : c ≠ '#' ∧ c ≠ '~' := by simpa [opensBare] using hOpens
  simp [tokensFrom, hActive, hSpace, hComment, hTilde]

theorem tokensFrom_none_word {w : String} (h : IsWord w) (rest : List Char) :
    tokensFrom none (w.toList ++ rest) = tokensFrom (some (.word w)) rest := by
  obtain ⟨hNe, hBare, hOpens⟩ := h
  obtain ⟨c, more, hList⟩ := List.exists_cons_of_ne_nil (mt String.toList_eq_nil_iff.1 hNe)
  rw [hList] at hBare hOpens
  obtain ⟨hActive, hSpace, hOperator⟩ := isBare_iff.1 (hBare c List.mem_cons_self)
  have hStarting : Token.starting c = .word (.singleton c) := by simp [Token.starting, hOperator]
  have hWord : String.singleton c ++ String.ofList more = w := by
    rw [← String.toList_inj, hList]
    simp
  rw [hList, List.cons_append, tokensFrom_none_cons hActive hSpace hOpens, hStarting,
    tokensFrom_word fun d hd => hBare d (List.mem_cons_of_mem _ hd), hWord]

theorem tokensFrom_none_operator {op : String} (h : op ∈ operators) (rest : List Char) :
    tokensFrom none (op.toList ++ rest) = tokensFrom (some (.operator op)) rest := by
  simp only [operators, List.mem_cons, List.not_mem_nil, or_false] at h
  -- After its first character each operator is read by computation.
  obtain rfl | rfl | rfl | rfl | rfl | rfl | rfl | rfl | rfl | rfl | rfl | rfl | rfl | rfl | rfl |
    rfl | rfl := h <;> exact (tokensFrom_none_cons rfl rfl rfl _).trans rfl

/-- A sound token that is not gone on with is read back. -/
theorem tokensFrom_text {t : Token} (h : t.IsSound) {rest : List Char} (hRest : Delimits rest) :
    tokensFrom none (t.text.toList ++ rest) = (tokensFrom none rest).map (t :: ·) := by
  rw [← tokensFrom_of_delimits hRest]
  cases t with
  | word w => exact tokensFrom_none_word h rest
  | operator op => exact tokensFrom_none_operator h rest

/-- Texts with spaces between them are read as tokens when each of them is one. -/
theorem tokens?_join_iff (ts : List Token) :
    tokens? (join " " (ts.map Token.text)) = some ts ↔ ∀ t ∈ ts, t.IsSound := by
  refine ⟨isSound_of_mem_tokensFrom (by simp), fun h => ?_⟩
  induction ts with
  | nil => rfl
  | cons t ts ih =>
    have hFirst := h t List.mem_cons_self
    cases ts with
    | nil =>
      have hRead := tokensFrom_text hFirst (.inl rfl)
      rw [List.append_nil] at hRead
      exact hRead
    | cons next ts =>
      have hRest := ih fun t' hMem => h t' (List.mem_cons_of_mem _ hMem)
      have hJoin : join " " ((t :: next :: ts).map Token.text) =
        t.text ++ " " ++ join " " ((next :: ts).map Token.text) := rfl
      have hLine : (t.text ++ " " ++ join " " ((next :: ts).map Token.text)).toList =
        t.text.toList ++ ' ' :: (join " " ((next :: ts).map Token.text)).toList := by simp
      rw [tokens?] at hRest ⊢
      rw [hJoin, hLine, tokensFrom_text hFirst (.inr ⟨_, rfl⟩), tokensFrom_none_space, hRest]
      rfl

example : tokens? "cp /a;b /c#d # e" =
    some [.word "cp", .word "/a", .operator ";", .word "b", .word "/c#d"] := rfl

end PodWorkspace.Text.Shell
