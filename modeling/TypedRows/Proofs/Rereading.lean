import TypedRows.Proofs.EnclosedText
import TypedRows.Proofs.OperatorReading

/-! A printed token is read as itself. -/

namespace TypedRows.Sql.Token

/-- Whether the text of the token can be read as it stands: no mark in it ends it, no backslash
changes it. -/
def plain : Token → Bool
  | word name (some quote) => quote.closing ∉ name.toList
  | string value => '\'' ∉ value.toList
  | national value | escaped value | hex value => value.toList.all (· ∉ escapes)
  | _ => true

section Text

variable (body : List Char)

/-- A text between two marks. -/
theorem toList_between (opening closing : String) :
    (opening ++ String.ofList body ++ closing).toList =
      opening.toList ++ (body ++ closing.toList) := by
  rw [String.toList_append, String.toList_append, String.toList_ofList, List.append_assoc]

theorem text_string : (string (String.ofList body)).text.toList = '\'' :: (body ++ ['\'']) :=
  toList_between body "'" "'"

theorem text_name (quote : QuoteMark) : (word (String.ofList body) (some quote)).text.toList =
    quote.opening :: (body ++ [quote.closing]) := by
  change (String.singleton quote.opening ++ _ ++ String.singleton quote.closing).toList = _
  rw [toList_between, String.toList_singleton, String.toList_singleton]
  rfl

theorem text_national :
    (national (String.ofList body)).text.toList = 'N' :: '\'' :: (body ++ ['\'']) :=
  toList_between body "N'" "'"

theorem text_escaped :
    (escaped (String.ofList body)).text.toList = 'E' :: '\'' :: (body ++ ['\'']) :=
  toList_between body "E'" "'"

theorem text_hex : (hex (String.ofList body)).text.toList = 'X' :: '\'' :: (body ++ ['\'']) :=
  toList_between body "X'" "'"

theorem text_long : (number (String.ofList body) true).text.toList = body ++ ['L'] := by
  change (String.ofList body ++ "L").toList = _
  rw [String.toList_append, String.toList_ofList]
  rfl

theorem text_dollar :
    (dollar (String.ofList body) none).text.toList = '$' :: '$' :: (body ++ ['$', '$']) :=
  toList_between body "$$" "$$"

theorem text_tagged (tag : List Char) :
    (dollar (String.ofList body) (some (String.ofList tag))).text.toList =
      '$' :: (tag ++ '$' :: (body ++ '$' :: (tag ++ ['$']))) := by
  simp [text]

end Text

/-- What is printed after the token, where `after` was read. -/
structure Follows (token : Token) (after out : List Char) : Prop where
  echo : Echo after out ∨ StopsAt isNamePart out ∧
    ∃ name, token = .word name none ∧ ∃ c ∈ name.toList.getLast?, Text.isBlank c = true
  quote : ∀ value, token = .hex value → out.head? ≠ some '\''
  less : token = .mark "<" → out.head? ≠ some '<'

theorem Follows.alike {token : Token} {after out : List Char} (h : Follows token after out)
    (other : ∀ name, token ≠ .word name none) : Echo after out := by
  rcases h.echo with echo | ⟨_, name, same, _⟩
  · exact echo
  · exact absurd same (other name)

namespace Echo

variable {after out : List Char}

theorem noQuote (h : Echo after out) (stop : after.head? ≠ some '\'') : out.head? ≠ some '\'' :=
  h.head_ne (by decide) stop

theorem numeral {whole fraction power : List Char} (h : Echo after out)
    (parts : Numeral whole fraction power after) : Numeral whole fraction power out :=
  { parts with
    stop := h.stops parts.stop (by decide) (.inr (by decide))
    noPeriod := fun none none' => h.head_ne (by decide) (parts.noPeriod none none')
    noPower := fun none => h.exponent_eq_nil (parts.noPower none) }

end Echo

/-- Nothing lengthens a number before its `L`. -/
theorem Numeral.long {whole fraction power after : List Char}
    (parts : Numeral whole fraction power ('L' :: after)) (out : List Char) :
    Numeral whole fraction power ('L' :: out) := by
  refine { parts with stop := ?_, noPeriod := ?_, noPower := ?_ }
  · exact stopsAt_cons.mpr (by decide)
  · exact fun _ _ same => by cases same
  · intro _
    rw [exponent_cons_eq_nil]
    rintro ⟨h | h, _⟩ <;> cases h

theorem mark_again {c : Char} {rest after out : List Char} {text : String} (ordinary : c ∉ special)
    (noDigit : c.isDigit = false) (noPeriod : c ≠ '.') (noName : isNameStart c = false)
    (noComment : NoComment c rest) (h : operator c rest = (.mark text, after))
    (follows : Follows (.mark text) after out) : Read (text.toList ++ out) (.mark text) out := by
  obtain ⟨more, rfl, mark, alone, rfl⟩ := operator_cases h
  have echo := follows.alike fun name h => by cases h
  rw [String.toList_ofList]
  -- only `!=` is printed in another spelling than it was read in
  by_cases unequal : c :: more = ['!', '=']
  · have spelling : spelled (c :: more) = ['<', '>'] := if_pos unequal
    rw [spelling]
    have again : operator '<' ('>' :: out) = (.mark (String.ofList ['<', '>']), out) :=
      operator_of_mark (.operator (by decide)) rfl (not_grows_unequal out)
    exact .mark (by decide) rfl (by decide) rfl
      ⟨fun dash => absurd dash (by decide), fun slash => absurd slash (by decide)⟩ again
  · have spelling : spelled (c :: more) = c :: more := if_neg unequal
    rw [spelling] at follows ⊢
    have single : ¬Grows (c :: more) out := by
      intro grows
      refine alone (grows.of_echo (List.cons_ne_nil _ _) echo fun less => follows.less ?_)
      rw [less]
    have apart : NoComment c (more ++ out) := by
      cases more with
      | nil =>
        exact ⟨fun dash => echo.head_ne (by decide) (noComment.1 dash),
          fun slash => echo.head_ne (by decide) (noComment.2 slash)⟩
      | cons d more => exact noComment
    have again := operator_of_mark mark rfl single
    rw [spelling] at again
    exact .mark ordinary noDigit noPeriod noName apart again

/-- A word, what ended it, and what ends it now. -/
theorem word_again {c : Char} {text after out : List Char} (start : isNameStart c = true)
    (inside : ∀ d ∈ text, isNamePart d = true) (stop : StopsAt isNamePart after)
    (noLiteral : c ∈ literalLetters → (text ++ after).head? ≠ some '\'')
    (follows : Follows (.word (String.ofList (c :: text)) none) after out) :
    Read (c :: (text ++ out)) (.word (String.ofList (c :: text)) none) out := by
  rcases follows.echo with echo | ⟨stop', name, same, last, member, blank⟩
  · refine .word start inside (echo.stops stop (by decide) (.inl (by decide))) fun letter => ?_
    cases text with
    | nil => exact echo.noQuote (noLiteral letter)
    | cons d more => exact noLiteral letter
  · cases same
    rw [String.toList_ofList] at member
    refine .word start inside stop' fun letter => ?_
    cases text with
    | nil =>
      cases member
      have all : ∀ d ∈ literalLetters, Text.isBlank d = false := forall_mem_of_all (by decide)
      exact absurd blank (Bool.eq_false_iff.mp (all c letter))
    | cons d more => exact noLiteral letter

/-- A plain token is read as itself where it is printed. -/
theorem Read.again {cs after out : List Char} {token : Token} (h : Read cs token after)
    (sig : token.isTrivia = false) (plain : token.plain = true)
    (follows : Follows token after out) : Read (token.text.toList ++ out) token out := by
  cases h with
  | space | tab | newline | returned | newlines | line | block => cases sig
  | @string rest body _ h =>
    have echo := follows.alike fun name h => by cases h
    have read := quotedBody_of_plain [] (by simpa [Token.plain] using plain)
      (echo.head_ne (by decide) (quotedBody_stop h))
    simpa [text_string] using Read.string read
  | @name quote rest body _ hq h =>
    have echo := follows.alike fun name h => by cases h
    have apart : quote.closing ∉ '<' :: (blanks ++ capitals) := by
      cases quote <;> decide
    have read := quotedBody_of_plain [] (by simpa [Token.plain] using plain)
      (echo.head_ne apart (quotedBody_stop h))
    simpa [text_name] using Read.name hq read
  | @national c rest body _ hc h =>
    have echo := follows.alike fun name h => by cases h
    have read := backslashBody_of_plain [] (by simpa [Token.plain] using plain)
      (echo.noQuote (backslashBody_stop h))
    simpa [text_national] using Read.national (.inl rfl) read
  | @escaped c rest body _ hc h =>
    have echo := follows.alike fun name h => by cases h
    have read := escapedBody_of_plain [] (by simpa [Token.plain] using plain)
      (echo.noQuote (escapedBody_stop h))
    simpa [text_escaped] using Read.escaped (.inl rfl) read
  | hex hc h =>
    have read := backslashBody_of_plain [] (by simpa [Token.plain] using plain)
      (follows.quote _ rfl)
    simpa [text_hex] using Read.hex (.inl rfl) read
  | hexDigits inside stop =>
    have read := backslashBody_of_plain [] (by simpa [Token.plain] using plain)
      (follows.quote _ rfl)
    simpa [text_hex] using Read.hex (.inl rfl) read
  | number parts filled noHex stop =>
    have echo := follows.alike fun name h => by cases h
    have read := Read.number (echo.numeral parts) filled
      (fun whole fraction power => echo.head_ne (by decide) (noHex whole fraction power))
      (echo.head_ne (by decide) stop)
    simpa [text] using read
  | long parts filled =>
    have read := Read.long (parts.long out) filled
    rw [text_long]
    simpa using read
  | period stop =>
    have echo := follows.alike fun name h => by cases h
    exact .period (echo.stops stop (by decide) (.inr (by decide)))
  | dollar h =>
    obtain ⟨used, rfl, same, again⟩ := dollarBody_span h
    have read := again out
    simp only [List.reverse_nil, List.nil_append, Bool.false_eq_true, if_false] at same
    rw [same] at read
    simpa [text_dollar] using Read.dollar read
  | tagged some inside h =>
    obtain ⟨used, rfl, same, again⟩ := taggedBody_span (fits_none _ _) h
    have read := again out
    simp only [List.reverse_nil, List.nil_append] at same
    rw [same] at read
    simpa [text_tagged] using Read.tagged some inside read
  | parameter inside stop noFence =>
    have echo := follows.alike fun name h => by cases h
    have read := Read.parameter inside (echo.stops stop (by decide) (.inl (by decide)))
      (echo.head_ne (by decide) noFence)
    simpa [text] using read
  | positional inside stop =>
    have echo := follows.alike fun name h => by cases h
    have read := Read.positional inside (echo.stops stop (by decide) (.inr (by decide)))
    simpa [text] using read
  | word start inside stop noLiteral =>
    simpa [text] using word_again start inside stop noLiteral follows
  | mark ordinary noDigit noPeriod noName noComment h =>
    exact mark_again ordinary noDigit noPeriod noName noComment h follows

end TypedRows.Sql.Token
