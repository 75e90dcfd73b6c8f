import TypedRows.Proofs.Rereading
import TypedRows.Sql.Lexeme

/-! The text of a token beside the characters it was read from. -/

namespace TypedRows.Text

def blankCodes : List Nat :=
  [0x9, 0xa, 0xb, 0xc, 0xd, 0x20, 0x85, 0xa0, 0x1680, 0x2000, 0x2001, 0x2002, 0x2003, 0x2004,
    0x2005, 0x2006, 0x2007, 0x2008, 0x2009, 0x200a, 0x2028, 0x2029, 0x202f, 0x205f, 0x3000]

theorem blankCodes_apart : ∀ n ∈ blankCodes, isAlphanumeric (Char.ofNat n) = false := by
  decide +kernel

theorem mem_blankCodes {c : Char} (h : isBlank c = true) : c.toNat ∈ blankCodes := by
  simp only [isBlank, Bool.or_eq_true, Bool.and_eq_true, decide_eq_true_eq, beq_iff_eq] at h
  simp only [blankCodes, List.mem_cons, List.not_mem_nil, or_false]
  omega

theorem isAlphanumeric_of_isBlank {c : Char} (h : isBlank c = true) : isAlphanumeric c = false := by
  have none := blankCodes_apart c.toNat (mem_blankCodes h)
  rwa [Char.ofNat_toNat] at none

end TypedRows.Text

namespace TypedRows.Sql.Token

theorem not_isTag_of_isBlank {c : Char} (h : Text.isBlank c = true) : isTag c = false := by
  have other : (c == '_') = false := by
    rw [beq_eq_false_iff_ne]
    rintro rfl
    cases h
  rw [isTag, Text.isAlphanumeric_of_isBlank h, other]
  rfl

theorem not_isNumeric_of_isBlank {c : Char} (h : Text.isBlank c = true) :
    Text.isNumeric c = false := by
  have none := Text.isAlphanumeric_of_isBlank h
  rw [Text.isAlphanumeric, Bool.or_eq_false_iff] at none
  exact none.2

/-- What is printed for a token is like what it was read from. -/
theorem Read.echo {cs after out : List Char} {token : Token} (h : Read cs token after)
    (sig : token.isTrivia = false)
    (next : (∃ c ∈ token.text.toList.getLast?, Text.isBlank c = true) ∨ Echo after out) :
    Echo cs (token.text.toList ++ out) := by
  -- a token that is printed as it was read
  have verbatim (text : List Char) (same : token.text.toList = text) (some : text ≠ []) :
      Echo (text ++ after) (token.text.toList ++ out) := by
    rw [same] at next ⊢
    exact Echo.append some next
  cases h with
  | space | tab | newline | returned | newlines | line | block => cases sig
  | string h =>
    rw [text_string]
    exact .head (by decide)
  | @name quote rest body _ hq h =>
    rw [text_name]
    exact .head (by cases quote <;> decide)
  | national hc h =>
    rw [text_national]
    exact .literal (by rcases hc with rfl | rfl <;> decide) (by decide)
  | escaped hc h =>
    rw [text_escaped]
    exact .literal (by rcases hc with rfl | rfl <;> decide) (by decide)
  | hex hc h =>
    rw [text_hex]
    exact .literal (by rcases hc with rfl | rfl <;> decide) (by decide)
  | hexDigits inside stop =>
    rw [text_hex]
    exact .literal (by decide) (by decide)
  | @number whole fraction power _ parts filled noHex stop =>
    have echo := verbatim (whole ++ fraction ++ power) String.toList_ofList
      (List.append_ne_nil_of_left_ne_nil filled _)
    simpa using echo
  | @long whole fraction power _ parts filled =>
    have echo := verbatim (whole ++ fraction ++ power ++ ['L']) (text_long _) (by simp)
    simpa using echo
  | period stop => exact verbatim ['.'] rfl (List.cons_ne_nil _ _)
  | dollar h =>
    rw [text_dollar]
    exact .head (by decide)
  | tagged some inside h =>
    rw [text_tagged]
    exact .head (by decide)
  | parameter inside stop noFence =>
    rw [text, String.toList_ofList]
    exact .head (by decide)
  | positional inside stop =>
    rw [text, String.toList_ofList]
    exact .head (by decide)
  | word start inside stop noLiteral => exact verbatim _ String.toList_ofList (List.cons_ne_nil _ _)
  | @mark c rest _ _ ordinary noDigit noPeriod noName noComment h =>
    obtain ⟨more, rfl, mark, alone, rfl⟩ := operator_cases h
    by_cases unequal : c :: more = ['!', '=']
    · cases unequal
      rw [text, String.toList_ofList]
      exact .unequal
    · have spelling : spelled (c :: more) = c :: more := if_neg unequal
      refine verbatim (c :: more) ?_ (List.cons_ne_nil _ _)
      rw [spelling]
      exact String.toList_ofList

theorem not_blank_of_isDigit {c : Char} (h : c.isDigit = true) : Text.isBlank c = false := by
  rw [Bool.eq_false_iff]
  intro blank
  have none := Text.isAlphanumeric_of_isBlank blank
  simp only [Char.isDigit, Bool.and_eq_true, decide_eq_true_eq, UInt32.le_iff_toNat_le] at h
  have small : c.toNat < 128 := Nat.lt_of_le_of_lt h.2 (by decide)
  rw [Text.isAlphanumeric, Bool.or_eq_false_iff, Text.isNumeric, if_pos small] at none
  simp only [Char.isDigit, Bool.and_eq_false_iff, decide_eq_false_iff_not,
    UInt32.le_iff_toNat_le] at none
  exact none.2.elim (absurd h.1) (absurd h.2)

theorem Numeral.not_blank {whole fraction power after : List Char}
    (h : Numeral whole fraction power after) :
    ∀ c ∈ whole ++ fraction ++ power, Text.isBlank c = false := by
  intro c member
  rw [List.mem_append, List.mem_append] at member
  rcases member with (member | member) | member
  · exact not_blank_of_isDigit (h.digits c member)
  · rcases h.period with rfl | ⟨more, rfl, inside⟩
    · cases member
    · cases member with
      | head => rfl
      | tail _ member => exact not_blank_of_isDigit (inside c member)
  · rcases h.scale with rfl | scale
    · cases member
    · cases scale with
      | mk letter signed some inside =>
        rw [List.mem_cons, List.mem_append] at member
        rcases member with rfl | member | member
        · rcases letter with rfl | rfl <;> rfl
        · rcases signed with rfl | rfl | rfl
          · cases member
          · cases member with
            | head => rfl
            | tail _ member => cases member
          · cases member with
            | head => rfl
            | tail _ member => cases member
        · exact not_blank_of_isDigit (inside c member)

theorem operatorTexts_not_blank {text : List Char} (h : text ∈ operatorTexts) {c : Char}
    (member : c ∈ text) : Text.isBlank c = false := by
  have all : ∀ c ∈ operatorTexts.flatten, Text.isBlank c = false := forall_mem_of_all (by decide)
  exact all c (List.mem_flatten_of_mem h member)

theorem blanks_special : ∀ c ∈ blanks, c ∈ special :=
  forall_mem_of_all (by decide)

/-- A single character that is a mark is no blank. -/
theorem not_blank_of_ordinary {c : Char} (ordinary : c ∉ special) (noName : isNameStart c = false) :
    Text.isBlank c = false := by
  rw [Bool.eq_false_iff]
  intro blank
  have code := Text.mem_blankCodes blank
  have all : ∀ n ∈ Text.blankCodes, Char.ofNat n ∈ special ∨ isNameStart (Char.ofNat n) = true := by
    decide
  rcases all _ code with member | name
  · rw [Char.ofNat_toNat] at member
    exact ordinary member
  · rw [Char.ofNat_toNat, noName] at name
    cases name

/-- Only an unquoted word can end with a blank, which is not one that is a token of its own. -/
theorem Read.text_end {cs after : List Char} {token : Token} (h : Read cs token after)
    (sig : token.isTrivia = false) {c : Char} (last : c ∈ token.text.toList.getLast?)
    (blank : Text.isBlank c = true) : c ∉ blanks ∧ ∃ name, token = .word name none := by
  have member := List.mem_of_getLast? last
  have no (h : Text.isBlank c = false) : c ∉ blanks ∧ ∃ name, token = .word name none := by
    rw [blank] at h
    cases h
  have ends (start : List Char) (d : Char) (same : token.text.toList = start ++ [d])
      (h : Text.isBlank d = false) : c ∉ blanks ∧ ∃ name, token = .word name none := by
    rw [same, List.getLast?_concat] at last
    cases last
    exact no h
  cases h with
  | space | tab | newline | returned | newlines | line | block => cases sig
  | @string rest body _ h => exact ends ('\'' :: body) '\'' (text_string _) rfl
  | @name quote rest body _ hq h =>
    exact ends (quote.opening :: body) quote.closing (text_name _ _) (by cases quote <;> rfl)
  | @national _ rest body _ hc h => exact ends ('N' :: '\'' :: body) '\'' (text_national _) rfl
  | @escaped _ rest body _ hc h => exact ends ('E' :: '\'' :: body) '\'' (text_escaped _) rfl
  | @hex _ rest body _ hc h => exact ends ('X' :: '\'' :: body) '\'' (text_hex _) rfl
  | @hexDigits digits _ inside stop =>
    exact ends ('X' :: '\'' :: digits) '\'' (text_hex _) rfl
  | number parts filled noHex stop =>
    rw [text, if_neg Bool.false_ne_true, String.toList_ofList] at member
    exact no (parts.not_blank c member)
  | @long whole fraction power _ parts filled =>
    exact ends (whole ++ fraction ++ power) 'L' (text_long _) rfl
  | period stop =>
    cases last
    exact no rfl
  | @dollar rest body _ h => exact ends ('$' :: '$' :: (body ++ ['$'])) '$' (by simp [text_dollar]) rfl
  | @tagged tag rest body _ some inside h =>
    exact ends ('$' :: (tag ++ '$' :: (body ++ '$' :: tag))) '$' (by simp [text_tagged]) rfl
  | parameter inside stop noFence =>
    rw [text, String.toList_ofList] at member
    cases member with
    | head => exact no rfl
    | tail _ member =>
      cases (not_isTag_of_isBlank blank).symm.trans (inside c member)
  | positional inside stop =>
    rw [text, String.toList_ofList] at member
    cases member with
    | head => exact no rfl
    | tail _ member =>
      cases (not_isNumeric_of_isBlank blank).symm.trans (inside c member)
  | word start inside stop noLiteral =>
    refine ⟨fun ascii => ?_, _, rfl⟩
    rw [text, String.toList_ofList] at member
    have all : ∀ d ∈ blanks, isNamePart d = false := forall_mem_of_all (by decide)
    cases member with
    | head =>
      have part : isNamePart c = true := by rw [isNamePart, start]; rfl
      exact Bool.eq_false_iff.mp (all c ascii) part
    | tail _ member => exact Bool.eq_false_iff.mp (all c ascii) (inside c member)
  | @mark c' rest _ _ ordinary noDigit noPeriod noName noComment h =>
    obtain ⟨more, rfl, mark, alone, rfl⟩ := operator_cases h
    rw [text, String.toList_ofList] at member
    unfold spelled at member
    split at member
    · exact no (@operatorTexts_not_blank ['<', '>'] (by decide) c member)
    · cases mark with
      | operator mark => exact no (operatorTexts_not_blank mark member)
      | single =>
        cases List.mem_singleton.mp member
        exact no (not_blank_of_ordinary ordinary noName)

/-- An unquoted word is read next. -/
def StartsWord (cs : List Char) : Prop := ∃ name after, Read cs (.word name none) after

theorem Read.word_start {cs after : List Char} {name : String}
    (h : Read cs (.word name none) after) :
    ∃ c rest, cs = c :: rest ∧ isNameStart c = true ∧
      (c ∈ literalLetters → rest.head? ≠ some '\'') := by
  cases h with
  | word start inside stop noLiteral => exact ⟨_, _, rfl, start, noLiteral⟩

theorem StartsWord.start {c : Char} {rest : List Char} (h : StartsWord (c :: rest)) :
    isNameStart c = true ∧ (c ∈ literalLetters → rest.head? ≠ some '\'') := by
  obtain ⟨name, after, read⟩ := h
  obtain ⟨d, more, same, start⟩ := read.word_start
  cases same
  exact start

/-- The text of a token does not start with a blank that is a token of its own, and with an unquoted
word only if the token is one. -/
theorem Read.text_start {cs after : List Char} {token : Token} (h : Read cs token after)
    (sig : token.isTrivia = false) :
    ∃ c more, token.text.toList = c :: more ∧ c ∉ blanks ∧
      ((∃ name, token = .word name none) ∨ isNameStart c = false ∨
        c ∈ literalLetters ∧ more.head? = some '\'') := by
  have apart {c : Char} (ordinary : c ∉ special) : c ∉ blanks := fun h => ordinary (blanks_special c h)
  have number {c : Char} (h : c.isDigit = true ∨ c = '.') : isNameStart c = false := by
    rw [Bool.eq_false_iff]
    intro start
    obtain ⟨_, noDigit, noPeriod, _⟩ := nameStart_facts start
    rcases h with digit | period
    · cases noDigit.symm.trans digit
    · exact noPeriod period
  cases h with
  | space | tab | newline | returned | newlines | line | block => cases sig
  | string h => exact ⟨'\'', _, text_string _, by decide, .inr (.inl rfl)⟩
  | @name quote rest body _ hq h =>
    refine ⟨quote.opening, _, text_name _ _, ?_, .inr (.inl ?_)⟩
    · cases quote <;> decide
    · cases quote <;> rfl
  | national hc h =>
    exact ⟨'N', _, text_national _, by decide, .inr (.inr ⟨by decide, rfl⟩)⟩
  | escaped hc h => exact ⟨'E', _, text_escaped _, by decide, .inr (.inr ⟨by decide, rfl⟩)⟩
  | hex hc h => exact ⟨'X', _, text_hex _, by decide, .inr (.inr ⟨by decide, rfl⟩)⟩
  | hexDigits inside stop => exact ⟨'X', _, text_hex _, by decide, .inr (.inr ⟨by decide, rfl⟩)⟩
  | number parts filled noHex stop =>
    obtain ⟨c, more, same, start⟩ := parts.start filled
    exact ⟨c, more, String.toList_ofList.trans same, apart (number_start start).1,
      .inr (.inl (number start))⟩
  | long parts filled =>
    obtain ⟨c, more, same, start⟩ := parts.start filled
    refine ⟨c, more ++ ['L'], ?_, apart (number_start start).1, .inr (.inl (number start))⟩
    rw [text_long, same]
    rfl
  | period stop => exact ⟨'.', [], rfl, by decide, .inr (.inl rfl)⟩
  | dollar h => exact ⟨'$', _, text_dollar _, by decide, .inr (.inl rfl)⟩
  | tagged some inside h => exact ⟨'$', _, text_tagged _ _, by decide, .inr (.inl rfl)⟩
  | parameter inside stop noFence =>
    exact ⟨'$', _, String.toList_ofList, by decide, .inr (.inl rfl)⟩
  | positional inside stop => exact ⟨'?', _, String.toList_ofList, by decide, .inr (.inl rfl)⟩
  | word start inside stop noLiteral =>
    exact ⟨_, _, String.toList_ofList, apart (nameStart_facts start).1, .inl ⟨_, rfl⟩⟩
  | @mark c rest _ _ ordinary noDigit noPeriod noName noComment h =>
    obtain ⟨more, rfl, mark, alone, rfl⟩ := operator_cases h
    by_cases unequal : c :: more = ['!', '=']
    · cases unequal
      exact ⟨'<', ['>'], String.toList_ofList, by decide, .inr (.inl rfl)⟩
    · have spelling : spelled (c :: more) = c :: more := if_neg unequal
      rw [spelling]
      exact ⟨c, more, String.toList_ofList, apart ordinary, .inr (.inl noName)⟩

theorem Read.startsWord {cs after out : List Char} {token : Token} (h : Read cs token after)
    (sig : token.isTrivia = false) (words : StartsWord (token.text.toList ++ out)) :
    StartsWord cs := by
  obtain ⟨c, more, same, _, first⟩ := h.text_start sig
  rw [same] at words
  obtain ⟨start, noLiteral⟩ := words.start
  rcases first with ⟨name, rfl⟩ | noName | ⟨letter, quote⟩
  · exact ⟨name, after, h⟩
  · cases noName.symm.trans start
  · refine absurd ?_ (noLiteral letter)
    obtain ⟨rest, rfl⟩ := List.head?_eq_some_iff.mp quote
    rfl

end TypedRows.Sql.Token
