import TypedRows.Proofs.NumberReading

/-! The ways in which a token is read: what it is read from and what may follow it. -/

namespace TypedRows.Sql.Token

/-- The characters that are never the first of a number, an unquoted word or a mark. -/
def special : List Char :=
  [' ', '\x0b', '\x0c', '\t', '\n', '\r', '\'', '"', '`', '[', '?', '$']

/-- The letters that make a literal of their own with a quote after them. -/
def literalLetters : List Char := ['N', 'n', 'E', 'e', 'X', 'x']

def isTag (c : Char) : Bool := Text.isAlphanumeric c || c == '_'

def isHexDigit (c : Char) : Bool := (Text.hexValue? c).isSome

/-- What starts with `c` is no comment. -/
def NoComment (c : Char) (rest : List Char) : Prop :=
  (c = '-' → rest.head? ≠ some '-') ∧ (c = '/' → rest.head? ≠ some '*')

/-- The characters, the token at their start, and what is left of them. -/
inductive Read : List Char → Token → List Char → Prop where
  | space {c : Char} {rest : List Char} (h : c = ' ' ∨ c = '\x0b' ∨ c = '\x0c') :
      Read (c :: rest) .space rest
  | tab {rest : List Char} : Read ('\t' :: rest) .tab rest
  | newline {rest : List Char} : Read ('\n' :: rest) .newline rest
  | returned {rest : List Char} (h : rest.head? ≠ some '\n') : Read ('\r' :: rest) .newline rest
  | newlines {rest : List Char} : Read ('\r' :: '\n' :: rest) .newline rest
  | line {rest after : List Char} {text : String} (h : lineToken rest = (.lineComment text, after)) :
      Read ('-' :: '-' :: rest) (.lineComment text) after
  | block {rest body after : List Char} (h : commentBody 1 ' ' [] rest = some (body, after)) :
      Read ('/' :: '*' :: rest) (.blockComment (String.ofList body)) after
  | string {rest body after : List Char} (h : quotedBody '\'' [] rest = some (body, after)) :
      Read ('\'' :: rest) (.string (String.ofList body)) after
  | name {quote : QuoteMark} {rest body after : List Char} (hq : quote ≠ .single)
      (h : quotedBody quote.closing [] rest = some (body, after)) :
      Read (quote.opening :: rest) (.word (String.ofList body) (some quote)) after
  | national {c : Char} {rest body after : List Char} (hc : c = 'N' ∨ c = 'n')
      (h : backslashBody [] rest = some (body, after)) :
      Read (c :: '\'' :: rest) (.national (String.ofList body)) after
  | escaped {c : Char} {rest body after : List Char} (hc : c = 'E' ∨ c = 'e')
      (h : escapedBody [] rest = some (body, after)) :
      Read (c :: '\'' :: rest) (.escaped (String.ofList body)) after
  | hex {c : Char} {rest body after : List Char} (hc : c = 'X' ∨ c = 'x')
      (h : backslashBody [] rest = some (body, after)) :
      Read (c :: '\'' :: rest) (.hex (String.ofList body)) after
  | hexDigits {digits after : List Char} (inside : ∀ d ∈ digits, isHexDigit d = true)
      (stop : StopsAt isHexDigit after) :
      Read ('0' :: 'x' :: (digits ++ after)) (.hex (String.ofList digits)) after
  | number {whole fraction power after : List Char} (parts : Numeral whole fraction power after)
      (filled : whole ++ fraction ≠ [])
      (noHex : whole = ['0'] → fraction = [] → power = [] → after.head? ≠ some 'x')
      (stop : after.head? ≠ some 'L') :
      Read (whole ++ (fraction ++ (power ++ after)))
        (.number (String.ofList (whole ++ fraction ++ power)) false) after
  | long {whole fraction power after : List Char}
      (parts : Numeral whole fraction power ('L' :: after)) (filled : whole ++ fraction ≠ []) :
      Read (whole ++ (fraction ++ (power ++ 'L' :: after)))
        (.number (String.ofList (whole ++ fraction ++ power)) true) after
  | period {rest : List Char} (stop : StopsAt Char.isDigit rest) :
      Read ('.' :: rest) (.mark ".") rest
  | dollar {rest body after : List Char} (h : dollarBody false [] rest = some (body, after)) :
      Read ('$' :: '$' :: rest) (.dollar (String.ofList body) none) after
  | tagged {tag rest body after : List Char} (some : tag ≠ [])
      (inside : ∀ c ∈ tag, isTag c = true) (h : taggedBody tag none [] rest = .some (body, after)) :
      Read ('$' :: (tag ++ '$' :: rest))
        (.dollar (String.ofList body) (.some (String.ofList tag))) after
  | parameter {tag after : List Char} (inside : ∀ c ∈ tag, isTag c = true)
      (stop : StopsAt isTag after) (noFence : after.head? ≠ some '$') :
      Read ('$' :: (tag ++ after)) (.placeholder (String.ofList ('$' :: tag))) after
  | positional {digits after : List Char} (inside : ∀ c ∈ digits, Text.isNumeric c = true)
      (stop : StopsAt Text.isNumeric after) :
      Read ('?' :: (digits ++ after)) (.placeholder (String.ofList ('?' :: digits))) after
  | word {c : Char} {text after : List Char} (start : isNameStart c = true)
      (inside : ∀ d ∈ text, isNamePart d = true) (stop : StopsAt isNamePart after)
      (noLiteral : c ∈ literalLetters → (text ++ after).head? ≠ some '\'') :
      Read (c :: (text ++ after)) (.word (String.ofList (c :: text)) none) after
  | mark {c : Char} {rest after : List Char} {text : String} (ordinary : c ∉ special)
      (noDigit : c.isDigit = false) (noPeriod : c ≠ '.') (noName : isNameStart c = false)
      (noComment : NoComment c rest) (h : operator c rest = (.mark text, after)) :
      Read (c :: rest) (.mark text) after

theorem lineToken_eq (rest : List Char) :
    ∃ text after, lineToken rest = (.lineComment text, after) := by
  unfold lineToken
  dsimp only
  split
  · exact ⟨_, _, rfl⟩
  · exact ⟨_, _, rfl⟩

theorem operator_eq (c : Char) (rest : List Char) :
    ∃ text after, operator c rest = (.mark text, after) := by
  unfold operator
  split
  · exact ⟨_, _, rfl⟩
  · exact ⟨_, _, rfl⟩

theorem closed_eq_ok {fault : ScanError} {make : String → Token}
    {body : Option (List Char × List Char)} {token : Token} {after : List Char} :
    closed fault make body = .ok (token, after) ↔
      ∃ text, body = some (text, after) ∧ token = make (String.ofList text) := by
  cases body with
  | none => simp [closed]
  | some found =>
    obtain ⟨text, rest⟩ := found
    simp only [closed, Except.ok.injEq, Prod.mk.injEq, Option.some.injEq]
    constructor
    · rintro ⟨rfl, rfl⟩
      exact ⟨text, ⟨rfl, rfl⟩, rfl⟩
    · rintro ⟨_, ⟨rfl, rfl⟩, rfl⟩
      exact ⟨rfl, rfl⟩

/-- What a dollar and a tag are the start of. -/
def tagged (tag found : List Char) : Except ScanError (Token × List Char) :=
  match found with
  | '$' :: after =>
    closed .openDollar (.dollar · (some (String.ofList tag))) (taggedBody tag none [] after)
  | after => .ok (.placeholder (String.ofList ('$' :: tag)), after)

theorem dollarToken_of_tag {tag found : List Char} (inside : ∀ c ∈ tag, isTag c = true)
    (stop : StopsAt isTag found) (noFence : (tag ++ found).head? ≠ some '$') :
    dollarToken (tag ++ found) = tagged tag found := by
  have taken := takeWhile_of_stop inside stop
  unfold dollarToken
  split
  · rename_i same
    rw [same] at noFence
    exact absurd rfl noFence
  · change tagged ((tag ++ found).takeWhile isTag)
      ((tag ++ found).drop ((tag ++ found).takeWhile isTag).length) = _
    rw [taken, List.drop_left]

theorem read_dollar {rest after : List Char} {token : Token}
    (h : dollarToken rest = .ok (token, after)) : Read ('$' :: rest) token after := by
  by_cases fence : rest.head? = some '$'
  · obtain ⟨more, rfl⟩ := List.head?_eq_some_iff.mp fence
    change closed .openDollar (fun text => .dollar text none) _ = _ at h
    obtain ⟨body, hb, rfl⟩ := closed_eq_ok.mp h
    exact .dollar hb
  · obtain ⟨tag, found, rfl, _, _, inside, stop⟩ := exists_takeWhile isTag rest
    rw [dollarToken_of_tag inside stop fence] at h
    unfold tagged at h
    split at h
    · obtain ⟨body, hb, rfl⟩ := closed_eq_ok.mp h
      refine .tagged ?_ inside hb
      rintro rfl
      exact fence rfl
    · rename_i noDollar
      cases h
      refine .parameter inside stop fun next => ?_
      obtain ⟨more, same⟩ := List.head?_eq_some_iff.mp next
      exact noDollar more same

theorem tag_ne_dollar {tag found : List Char} (inside : ∀ c ∈ tag, isTag c = true)
    (apart : tag = [] → found.head? ≠ some '$') : (tag ++ found).head? ≠ some '$' := by
  cases tag with
  | nil => exact apart rfl
  | cons c more =>
    intro h
    cases h
    cases inside '$' List.mem_cons_self

theorem read_number {c : Char} {rest : List Char} (start : c.isDigit = true ∨ c = '.') :
    Read (c :: rest) (numberToken c rest).1 (numberToken c rest).2 := by
  unfold numberToken
  split
  · rename_i more
    obtain ⟨digits, after, rfl, taken, left, inside, stop⟩ := exists_takeWhile isHexDigit more
    change Read _ (.hex (String.ofList ((digits ++ after).takeWhile isHexDigit)))
      ((digits ++ after).drop ((digits ++ after).takeWhile isHexDigit).length)
    rw [taken, left]
    exact .hexDigits inside stop
  · rename_i noHex
    dsimp only
    rcases numberBody_cases (c :: rest) with ⟨rest', same, stop, body⟩ |
      ⟨whole, fraction, power, after, same, parts⟩
    · cases same
      rw [body, if_pos rfl]
      exact .period stop
    · have body := numberBody_of_numeral parts
      rw [← same] at body
      have filled := parts.filled_of_start same start
      have left : rest.drop ((whole ++ fraction ++ power).length - 1) = after := by
        obtain ⟨d, more, ds, _⟩ := parts.start filled
        have same' : c :: rest = d :: (more ++ after) := by
          rw [same, ← List.append_assoc, ← List.append_assoc, ds]
          rfl
        cases same'
        rw [ds]
        simp
      rw [body, if_neg parts.ne_period, left, same]
      split
      · exact .long parts filled
      · rename_i noLong
        refine .number parts filled ?_ ?_
        · rintro rfl rfl rfl hx
          obtain ⟨more, rfl⟩ := List.head?_eq_some_iff.mp hx
          cases same
          exact noHex more rfl rfl
        · intro hl
          obtain ⟨more, rfl⟩ := List.head?_eq_some_iff.mp hl
          exact noLong more rfl

theorem read_word {c : Char} {rest : List Char} (start : isNameStart c = true)
    (noLiteral : c ∈ literalLetters → rest.head? ≠ some '\'') :
    Read (c :: rest) (wordToken c rest).1 (wordToken c rest).2 := by
  obtain ⟨text, after, rfl, taken, left, inside, stop⟩ := exists_takeWhile isNamePart rest
  unfold wordToken
  dsimp only
  rw [taken, left]
  exact .word start inside stop noLiteral

/-- The token that starts with a character that is not special, comments and literals apart. -/
def ordinary (c : Char) (rest : List Char) : Token × List Char :=
  if c.isDigit ∨ c = '.' then numberToken c rest
  else if isNameStart c then wordToken c rest
  else operator c rest

theorem read_ordinary {c : Char} {rest : List Char} (plain : c ∉ special)
    (noComment : NoComment c rest) (noLiteral : c ∈ literalLetters → rest.head? ≠ some '\'') :
    Read (c :: rest) (ordinary c rest).1 (ordinary c rest).2 := by
  unfold ordinary
  split
  · exact read_number ‹_›
  · rename_i noNumber
    obtain ⟨noDigit, noPeriod⟩ := not_or.mp noNumber
    split
    · exact read_word ‹_› noLiteral
    · rename_i noName
      obtain ⟨text, after, same⟩ := operator_eq c rest
      rw [same]
      exact .mark plain (Bool.not_eq_true _ ▸ noDigit) noPeriod (Bool.not_eq_true _ ▸ noName)
        noComment same

theorem read_of_ordinary {c : Char} {rest after : List Char} {token : Token} (plain : c ∉ special)
    (noComment : NoComment c rest) (noLiteral : c ∈ literalLetters → rest.head? ≠ some '\'')
    (h : (if c.isDigit ∨ c = '.' then .ok (numberToken c rest)
      else if isNameStart c then .ok (wordToken c rest)
      else .ok (operator c rest) : Except ScanError (Token × List Char)) = .ok (token, after)) :
    Read (c :: rest) token after := by
  have same : ordinary c rest = (token, after) := by
    unfold ordinary
    split at h
    · rw [if_pos ‹_›]
      exact Except.ok.inj h
    · rw [if_neg ‹_›]
      split at h
      · rw [if_pos ‹_›]
        exact Except.ok.inj h
      · rw [if_neg ‹_›]
        exact Except.ok.inj h
  have read := read_ordinary plain noComment noLiteral
  rwa [same] at read

/-- Whatever is read is read in one of these ways. -/
theorem read_of_next {c : Char} {rest after : List Char} {token : Token}
    (h : next c rest = .ok (token, after)) : Read (c :: rest) token after := by
  unfold next at h
  split at h
  case h_1 => cases h; exact .space (.inl rfl)
  case h_2 => cases h; exact .space (.inr (.inl rfl))
  case h_3 => cases h; exact .space (.inr (.inr rfl))
  case h_4 => cases h; exact .tab
  case h_5 => cases h; exact .newline
  case h_6 => cases h; exact .newlines
  case h_7 =>
    rename_i alone
    cases h
    refine .returned fun h => ?_
    obtain ⟨more, same⟩ := List.head?_eq_some_iff.mp h
    exact alone more same
  case h_8 =>
    obtain ⟨body, hb, rfl⟩ := closed_eq_ok.mp h
    exact .string hb
  case h_9 =>
    obtain ⟨body, hb, rfl⟩ := closed_eq_ok.mp h
    exact @Read.name .double _ _ _ (fun h => by cases h) hb
  case h_10 =>
    obtain ⟨body, hb, rfl⟩ := closed_eq_ok.mp h
    exact @Read.name .backtick _ _ _ (fun h => by cases h) hb
  case h_11 =>
    obtain ⟨body, hb, rfl⟩ := closed_eq_ok.mp h
    exact @Read.name .bracket _ _ _ (fun h => by cases h) hb
  case h_12 =>
    rename_i line
    obtain ⟨text, left, same⟩ := lineToken_eq line
    rw [same] at h
    cases h
    exact .line same
  case h_13 =>
    obtain ⟨body, hb, rfl⟩ := closed_eq_ok.mp h
    exact .block hb
  case h_14 =>
    obtain ⟨digits, found, rfl, taken, left, inside, stop⟩ := exists_takeWhile Text.isNumeric rest
    dsimp only at h
    rw [taken, left] at h
    cases h
    exact .positional inside stop
  case h_15 => exact read_dollar h
  case h_16 =>
    have plain : c ∉ special := by simp_all [special]
    split at h
    · obtain ⟨body, hb, rfl⟩ := closed_eq_ok.mp h
      exact .national ‹_› hb
    split at h
    · obtain ⟨body, hb, rfl⟩ := closed_eq_ok.mp h
      exact .escaped ‹_› hb
    split at h
    · obtain ⟨body, hb, rfl⟩ := closed_eq_ok.mp h
      exact .hex ‹_› hb
    rename_i noN noE noX
    refine read_of_ordinary plain ⟨fun _ => by simp, fun _ => by simp⟩ ?_ h
    intro letter
    simp only [literalLetters, List.mem_cons, List.not_mem_nil, or_false] at letter
    simp_all
  case h_17 =>
    rename_i noQuote noReturn noLine noBlock
    have plain : c ∉ special := by simp_all [special]
    have head {d : Char} (no : ∀ more, rest = d :: more → False) : rest.head? ≠ some d := by
      intro hd
      obtain ⟨more, same⟩ := List.head?_eq_some_iff.mp hd
      exact no more same
    refine read_of_ordinary plain ⟨?_, ?_⟩ (fun _ => head noQuote) h
    · exact fun dash => head fun more => noLine more dash
    · exact fun slash => head fun more => noBlock more slash

theorem next_ordinary {c : Char} {rest : List Char} (plain : c ∉ special)
    (noComment : NoComment c rest) (noLiteral : c ∈ literalLetters → rest.head? ≠ some '\'') :
    next c rest = .ok (ordinary c rest) := by
  have choose : (if c.isDigit ∨ c = '.' then .ok (numberToken c rest)
      else if isNameStart c then .ok (wordToken c rest)
      else .ok (operator c rest) : Except ScanError (Token × List Char)) =
      .ok (ordinary c rest) := by
    unfold ordinary
    split
    · rfl
    · split <;> rfl
  unfold next
  split
  case h_12 => exact absurd rfl (noComment.1 rfl)
  case h_13 => exact absurd rfl (noComment.2 rfl)
  case h_16 =>
    have noLetter : c ∉ literalLetters := fun letter => noLiteral letter rfl
    simp only [literalLetters, List.mem_cons, List.not_mem_nil, or_false, not_or] at noLetter
    rw [if_neg (by simp [noLetter]), if_neg (by simp [noLetter]), if_neg (by simp [noLetter])]
    exact choose
  case h_17 => exact choose
  all_goals exact absurd (by decide) plain

theorem number_start {c : Char} (start : c.isDigit = true ∨ c = '.') :
    c ∉ special ∧ c ∉ literalLetters ∧ c ≠ '-' ∧ c ≠ '/' := by
  have apart : ∀ d ∈ special ++ literalLetters ++ ['-', '/'], d.isDigit = false ∧ d ≠ '.' :=
    forall_mem_of_all (by decide)
  have no : c ∉ special ++ literalLetters ++ ['-', '/'] := by
    intro member
    obtain ⟨noDigit, noPeriod⟩ := apart c member
    rcases start with digit | period
    · rw [digit] at noDigit
      cases noDigit
    · exact noPeriod period
  simp only [List.mem_append, List.mem_cons, List.not_mem_nil, or_false, not_or] at no
  exact ⟨no.1.1, no.1.2, no.2.1, no.2.2⟩

theorem next_of_digit {c : Char} (rest : List Char) (start : c.isDigit = true ∨ c = '.') :
    next c rest = .ok (numberToken c rest) := by
  obtain ⟨plain, noLetter, noDash, noSlash⟩ := number_start start
  rw [next_ordinary plain ⟨fun h => absurd h noDash, fun h => absurd h noSlash⟩
    fun h => absurd h noLetter]
  exact congrArg Except.ok (if_pos start)

theorem isDigit_eq_false_of_nameStart {c : Char} (start : isNameStart c = true) :
    c.isDigit = false := by
  change (decide (c.val ≥ 'A'.val ∧ c.val ≤ 'Z'.val) ||
    (decide (c.val ≥ 'a'.val) && decide (c.val ≤ 'z'.val)) || c == '_' ||
    (decide (0x7f ≤ c.val.toNat) && decide (c.val.toNat ≤ 0xffff))) = true at start
  simp only [Bool.or_eq_true, Bool.and_eq_true, decide_eq_true_eq, beq_iff_eq] at start
  simp only [Char.isDigit, Bool.and_eq_false_iff, decide_eq_false_iff_not]
  rcases start with ((h | h) | rfl) | h
  · simp only [UInt32.le_iff_toNat_le] at *
    have := h.1
    simp at *
    omega
  · simp only [UInt32.le_iff_toNat_le] at *
    simp at *
    omega
  · decide
  · simp only [UInt32.le_iff_toNat_le] at *
    simp at *
    omega

theorem nameStart_facts {c : Char} (start : isNameStart c = true) :
    c ∉ special ∧ c.isDigit = false ∧ c ≠ '.' ∧ c ≠ '-' ∧ c ≠ '/' := by
  have apart : ∀ d ∈ special ++ ['.', '-', '/'], isNameStart d = false :=
    forall_mem_of_all (by decide)
  have no : c ∉ special ++ ['.', '-', '/'] := by
    intro member
    rw [apart c member] at start
    cases start
  simp only [List.mem_append, List.mem_cons, List.not_mem_nil, or_false, not_or] at no
  exact ⟨no.1, isDigit_eq_false_of_nameStart start, no.2.1, no.2.2.1, no.2.2.2⟩

theorem next_of_nameStart {c : Char} {rest : List Char} (start : isNameStart c = true)
    (noLiteral : c ∈ literalLetters → rest.head? ≠ some '\'') :
    next c rest = .ok (wordToken c rest) := by
  obtain ⟨plain, noDigit, noPeriod, noDash, noSlash⟩ := nameStart_facts start
  rw [next_ordinary plain ⟨fun h => absurd h noDash, fun h => absurd h noSlash⟩ noLiteral]
  unfold ordinary
  rw [if_neg (by simp [noDigit, noPeriod]), if_pos start]

/-- A number with its digits, and with an `L` if that follows. -/
def suffixed (digits after : List Char) : Token × List Char :=
  match after with
  | 'L' :: after => (.number (String.ofList digits) true, after)
  | after => (.number (String.ofList digits) false, after)

theorem suffixed_of_stop {digits after : List Char} (stop : after.head? ≠ some 'L') :
    suffixed digits after = (.number (String.ofList digits) false, after) := by
  unfold suffixed
  split
  · exact absurd rfl stop
  · rfl

theorem numberToken_of_numeral {whole fraction power after : List Char} {c : Char}
    {rest : List Char} (parts : Numeral whole fraction power after)
    (same : whole ++ (fraction ++ (power ++ after)) = c :: rest)
    (filled : whole ++ fraction ≠ [])
    (noHex : whole = ['0'] → fraction = [] → power = [] → after.head? ≠ some 'x') :
    numberToken c rest = suffixed (whole ++ fraction ++ power) after := by
  unfold numberToken
  split
  · rename_i more
    exfalso
    have taken := takeWhile_of_stop parts.digits parts.fraction_stops
    rw [same] at taken
    have zero : whole = ['0'] := taken.symm
    subst zero
    have tail : fraction ++ (power ++ after) = 'x' :: more := (List.cons.inj same).2
    rcases parts.period with rfl | ⟨ds, rfl, _⟩
    · rcases parts.scale with rfl | scale
      · exact noHex rfl rfl rfl (congrArg List.head? tail)
      · obtain ⟨e, ds, rfl, letter⟩ := scale.head
        cases tail
        rcases letter with letter | letter <;> cases letter
    · cases tail
  · have body := numberBody_of_numeral parts
    rw [same] at body
    have left : rest.drop ((whole ++ fraction ++ power).length - 1) = after := by
      obtain ⟨d, more, ds, _⟩ := parts.start filled
      have same' : d :: (more ++ after) = c :: rest := by
        rw [← same, ← List.append_assoc, ← List.append_assoc, ds]
        rfl
      cases same'
      rw [ds]
      simp
    dsimp only
    rw [body, if_neg parts.ne_period, left]
    rfl

/-- What can be read in one of these ways is read so. -/
theorem next_of_read {cs after : List Char} {token : Token} (h : Read cs token after) :
    ∃ c rest, cs = c :: rest ∧ next c rest = .ok (token, after) := by
  cases h with
  | space h => rcases h with rfl | rfl | rfl <;> exact ⟨_, _, rfl, rfl⟩
  | tab => exact ⟨_, _, rfl, rfl⟩
  | newline => exact ⟨_, _, rfl, rfl⟩
  | returned h =>
    refine ⟨_, _, rfl, ?_⟩
    cases after with
    | nil => rfl
    | cons d more =>
      unfold next
      split <;> simp_all
  | newlines => exact ⟨_, _, rfl, rfl⟩
  | line h => exact ⟨_, _, rfl, congrArg Except.ok h⟩
  | block h => exact ⟨_, _, rfl, closed_eq_ok.mpr ⟨_, h, rfl⟩⟩
  | string h => exact ⟨_, _, rfl, closed_eq_ok.mpr ⟨_, h, rfl⟩⟩
  | @name quote rest body after hq h =>
    refine ⟨_, _, rfl, ?_⟩
    cases quote with
    | single => exact absurd rfl hq
    | double | backtick | bracket =>
      exact show nameToken _ rest = _ from closed_eq_ok.mpr ⟨_, h, rfl⟩
  | national hc h =>
    refine ⟨_, _, rfl, ?_⟩
    rcases hc with rfl | rfl <;> exact closed_eq_ok.mpr ⟨_, h, rfl⟩
  | escaped hc h =>
    refine ⟨_, _, rfl, ?_⟩
    rcases hc with rfl | rfl <;> exact closed_eq_ok.mpr ⟨_, h, rfl⟩
  | hex hc h =>
    refine ⟨_, _, rfl, ?_⟩
    rcases hc with rfl | rfl <;> exact closed_eq_ok.mpr ⟨_, h, rfl⟩
  | @hexDigits digits _ inside stop =>
    refine ⟨_, _, rfl, ?_⟩
    rw [next_of_digit _ (.inl rfl)]
    change Except.ok (hex (String.ofList ((digits ++ after).takeWhile isHexDigit)),
      (digits ++ after).drop ((digits ++ after).takeWhile isHexDigit).length) = _
    rw [takeWhile_of_stop inside stop, List.drop_left]
  | @number whole fraction power _ parts filled noHex stop =>
    -- the reader is given the first character apart from the others
    obtain ⟨c, more, same, start⟩ := parts.start filled
    have split : whole ++ (fraction ++ (power ++ after)) = c :: (more ++ after) := by
      rw [← List.cons_append, ← same, List.append_assoc, List.append_assoc]
    refine ⟨c, more ++ after, split, ?_⟩
    rw [next_of_digit _ start, numberToken_of_numeral parts split filled noHex,
      suffixed_of_stop stop]
  | @long whole fraction power _ parts filled =>
    obtain ⟨c, more, same, start⟩ := parts.start filled
    have split : whole ++ (fraction ++ (power ++ 'L' :: after)) = c :: (more ++ 'L' :: after) := by
      rw [← List.cons_append, ← same, List.append_assoc, List.append_assoc]
    refine ⟨c, more ++ 'L' :: after, split, ?_⟩
    rw [next_of_digit _ start,
      numberToken_of_numeral parts split filled fun _ _ _ h => by cases h]
    rfl
  | period stop =>
    refine ⟨_, _, rfl, ?_⟩
    rw [next_of_digit _ (.inr rfl)]
    have body : numberBody ('.' :: after) = ['.'] := by
      have found : fractionOf ('.' :: after) = ['.'] := by
        have none := takeWhile_of_stop (List.forall_mem_nil _) stop
        exact congrArg ('.' :: ·) none
      rw [numberBody_eq]
      simp only [List.takeWhile_cons, show Char.isDigit '.' = false from rfl, Bool.false_eq_true,
        if_false, List.length_nil, List.drop_zero, found, List.nil_append, if_true]
    have token : numberToken '.' after = (.mark ".", after) := by
      unfold numberToken
      split
      · rename_i h
        cases h
      · dsimp only
        rw [body, if_pos rfl]
    rw [token]
  | @dollar rest body _ h =>
    exact ⟨_, _, rfl, show closed .openDollar (fun text => .dollar text none) _ = _ from
      closed_eq_ok.mpr ⟨_, h, rfl⟩⟩
  | @tagged tag rest body _ some inside h =>
    refine ⟨_, _, rfl, ?_⟩
    change dollarToken (tag ++ '$' :: rest) = _
    rw [dollarToken_of_tag inside (stopsAt_cons.mpr rfl)
      (tag_ne_dollar inside fun none => absurd none some)]
    exact show closed .openDollar (fun text => .dollar text _) _ = _ from
      closed_eq_ok.mpr ⟨_, h, rfl⟩
  | @parameter tag _ inside stop noFence =>
    refine ⟨_, _, rfl, ?_⟩
    change dollarToken (tag ++ after) = _
    rw [dollarToken_of_tag inside stop (tag_ne_dollar inside fun _ => noFence)]
    unfold Token.tagged
    split
    · exact absurd rfl noFence
    · rfl
  | @positional digits _ inside stop =>
    refine ⟨_, _, rfl, ?_⟩
    change Except.ok (placeholder (String.ofList ('?' :: (digits ++ after).takeWhile Text.isNumeric)),
      (digits ++ after).drop ((digits ++ after).takeWhile Text.isNumeric).length) = _
    rw [takeWhile_of_stop inside stop, List.drop_left]
  | @word c text _ start inside stop noLiteral =>
    refine ⟨_, _, rfl, ?_⟩
    rw [next_of_nameStart start noLiteral, wordToken]
    rw [takeWhile_of_stop inside stop, List.drop_left]
  | @mark c rest _ text plain noDigit noPeriod noName noComment h =>
    refine ⟨_, _, rfl, ?_⟩
    have noLiteral : c ∈ literalLetters → rest.head? ≠ some '\'' := by
      intro letter
      have names : ∀ d ∈ literalLetters, isNameStart d = true := forall_mem_of_all (by decide)
      rw [names c letter] at noName
      cases noName
    rw [next_ordinary plain noComment noLiteral, ordinary, if_neg (by simp [noDigit, noPeriod]),
      if_neg (by simp [noName]), h]

end TypedRows.Sql.Token
