import TypedRows.Proofs.LexemePrinting

/-! What must not be printed right after a lexeme, because the lexeme would be read differently. -/

namespace TypedRows.Sql

namespace Token

/-! How some tokens are read, told from the token. -/

theorem Read.word_split {cs after : List Char} {name : String}
    (h : Read cs (.word name none) after) : cs = name.toList ++ after ∧ StopsAt isNamePart after := by
  cases h with
  | word start inside stop noLiteral =>
    rw [String.toList_ofList]
    exact ⟨rfl, stop⟩

theorem Read.name_start {cs after : List Char} {name : String} {quote : QuoteMark}
    (h : Read cs (.word name (some quote)) after) : cs.head? = some quote.opening := by
  cases h with
  | name hq h => rfl

theorem Read.placeholder_start {cs after : List Char} {text : String}
    (h : Read cs (.placeholder text) after) : cs.head? = some '$' ∨ cs.head? = some '?' := by
  cases h with
  | parameter inside stop noFence => exact .inl rfl
  | positional inside stop => exact .inr rfl

/-- A mark of one character and what follows it. -/
theorem Read.mark_split {cs after : List Char} {c : Char} (other : c ≠ '.')
    (h : Read cs (.mark (String.singleton c)) after) : cs = c :: after ∧ ¬Grows [c] after := by
  generalize same : String.singleton c = text at h
  have same := congrArg String.toList same
  rw [String.toList_singleton] at same
  cases h with
  | period stop =>
    cases same
    exact absurd rfl other
  | mark ordinary noDigit noPeriod noName noComment h =>
    obtain ⟨more, rfl, mark, alone, rfl⟩ := operator_cases h
    rw [String.toList_ofList, spelled] at same
    split at same
    · cases same
    · cases same
      exact ⟨rfl, alone⟩

/-- A token printed with a quote first is a string. -/
theorem Read.string_of_quote {cs after : List Char} {token : Token} (h : Read cs token after)
    (sig : token.isTrivia = false) (head : token.text.toList.head? = some '\'') :
    ∃ value, token = .string value := by
  have echo : Echo cs (token.text.toList ++ []) := h.echo sig (.inr .stop)
  rw [List.append_nil] at echo
  obtain ⟨rest, rfl⟩ := List.head?_eq_some_iff.mp (echo.head_of_head head (by decide))
  obtain ⟨c, more, same, found⟩ := next_of_read h
  cases same
  obtain ⟨body, _, rfl⟩ := closed_eq_ok.mp (show closed .openString .string _ = _ from found)
  exact ⟨_, rfl⟩

/-- A token printed with a `<` first was read from one, except for the other spelling of `<>`. -/
theorem Read.less_start {cs after : List Char} {token : Token} (h : Read cs token after)
    (sig : token.isTrivia = false) (head : token.text.toList.head? = some '<') :
    cs.head? = some '<' ∨ token = .mark "<>" := by
  have echo : Echo cs (token.text.toList ++ []) := h.echo sig (.inr .stop)
  rw [List.append_nil] at echo
  rcases echo.head_cases head with blank | ⟨capital, _⟩ | ⟨_, unequal⟩ | same
  · exact absurd blank (by decide)
  · exact absurd capital (by decide)
  · right
    obtain ⟨rest, rfl⟩ := List.head?_eq_some_iff.mp unequal
    obtain ⟨c, rest, same, found⟩ := next_of_read h
    cases same
    have marked : next '!' rest = .ok (operator '!' rest) := next_ordinary (by decide)
      ⟨fun dash => absurd dash (by decide), fun slash => absurd slash (by decide)⟩
      fun letter => absurd letter (by decide)
    have found := marked.symm.trans found
    obtain ⟨text, left, marked⟩ := operator_eq '!' rest
    cases (congrArg Except.ok marked).symm.trans found
    obtain ⟨more, rfl, mark, alone, rfl⟩ := operator_cases marked
    have head : (spelled ('!' :: more)).head? = some '<' := by
      rw [← head, text, String.toList_ofList]
    unfold spelled at head ⊢
    split at head
    · rw [if_pos ‹_›]
    · cases head
  · exact .inl same

theorem backslashBody_keeps {acc cs body rest : List Char}
    (h : backslashBody acc cs = some (body, rest)) : acc.length ≤ body.length := by
  fun_induction backslashBody acc cs <;> grind

/-- A quote after a blob is read as a part of it. -/
theorem Read.quote_apart {digits out after : List Char} {token : Token}
    (plain : ∀ c ∈ digits, c ∉ escapes)
    (h : Read ((Token.hex (String.ofList digits)).text.toList ++ '\'' :: out) token after) :
    token ≠ .hex (String.ofList digits) := by
  rintro rfl
  rw [text_hex, List.cons_append, List.cons_append, List.append_assoc] at h
  obtain ⟨c, rest, same, found⟩ := next_of_read h
  cases same
  obtain ⟨body, hb, same⟩ := closed_eq_ok.mp (show closed .openString .hex _ = _ from found)
  have same : digits = body := String.ofList_injective (Token.hex.inj same)
  subst same
  rw [backslashBody_append [] plain] at hb
  have kept : backslashBody ('\'' :: (digits.reverse ++ [])) out = some (digits, after) := hb
  have longer := backslashBody_keeps kept
  simp only [List.length_cons, List.length_append, List.length_reverse, List.length_nil] at longer
  omega

end Token

namespace Lexeme

theorem token_of_kind {cs after : List Char} {lexeme : Lexeme} (h : Read cs lexeme after)
    (other : ∀ name, lexeme.kind ≠ .parameter name) :
    ∃ token, lexeme = ofToken token ∧ Token.Read cs token after := by
  cases h with
  | token h alone => exact ⟨_, rfl, h⟩
  | parameter hm h word => exact absurd rfl (other _)

theorem token_of_word {token : Token} {name : String} {quoted : Bool}
    (h : (ofToken token).kind = .word name quoted) :
    ∃ quote, token = .word name quote ∧ quote.isSome = quoted := by
  cases token with
  | word text quote =>
    cases h
    exact ⟨quote, rfl, rfl⟩
  | mark text => exact absurd h (ofMark_ne nofun (by simp [punctuation]))
  | placeholder text =>
    obtain ⟨name, same | same⟩ := kind_placeholder text <;> cases same.symm.trans h
  | _ => cases h

theorem token_of_string {token : Token} {value : String}
    (h : (ofToken token).kind = .string value) : token = .string value := by
  cases token with
  | string text =>
    cases h
    rfl
  | mark text => exact absurd h (ofMark_ne nofun (by simp [punctuation]))
  | placeholder text =>
    obtain ⟨name, same | same⟩ := kind_placeholder text <;> cases same.symm.trans h
  | _ => cases h

theorem token_of_blob {token : Token} {digits : String}
    (h : (ofToken token).kind = .blob digits) : token = .hex digits := by
  cases token with
  | hex value =>
    cases h
    rfl
  | mark text => exact absurd h (ofMark_ne nofun (by simp [punctuation]))
  | placeholder text =>
    obtain ⟨name, same | same⟩ := kind_placeholder text <;> cases same.symm.trans h
  | _ => cases h

theorem token_of_operator {token : Token} {text : String}
    (h : (ofToken token).kind = .operator text) :
    token = .mark text ∨ token.isTrivia = false ∧ token.text = text ∧
      ∃ c ∈ text.toList.head?, c ∈ ['N', 'E', '$'] := by
  cases token with
  | mark mark =>
    rcases ofMark_cases mark with same | member
    · cases same.symm.trans h
      exact .inl rfl
    · have all : ∀ entry ∈ punctuation, ∀ text, entry.2 ≠ .operator text := by
        simp [punctuation]
      exact absurd h (all _ member text)
  | national value =>
    cases h
    exact .inr ⟨rfl, rfl, 'N', by simp [Token.text], by decide⟩
  | escaped value =>
    cases h
    exact .inr ⟨rfl, rfl, 'E', by simp [Token.text], by decide⟩
  | dollar value tag =>
    cases h
    exact .inr ⟨rfl, rfl, '$', by cases tag <;> simp [Token.text], by decide⟩
  | placeholder text =>
    obtain ⟨name, same | same⟩ := kind_placeholder text <;> cases same.symm.trans h
  | _ => cases h

theorem token_of_less {token : Token} {text : String} (ht : text = "<" ∨ text = "<>")
    (h : (ofToken token).kind = .operator text) : token = .mark text := by
  rcases token_of_operator h with same | ⟨_, _, c, head, letter⟩
  · exact same
  · rcases ht with rfl | rfl <;> cases head <;> exact absurd letter (by decide)

theorem token_of_parameter {token : Token} {name : String}
    (h : (ofToken token).kind = .parameter name) : ∃ text, token = .placeholder text := by
  cases token with
  | placeholder text => exact ⟨text, rfl⟩
  | mark text => exact absurd h (ofMark_ne nofun (by simp [punctuation]))
  | _ => cases h

theorem marker_single {mark : String} (hm : mark = ":" ∨ mark = "@") :
    ∃ c ∈ [':', '@'], mark = String.singleton c := by
  rcases hm with rfl | rfl
  · exact ⟨':', by decide, rfl⟩
  · exact ⟨'@', by decide, rfl⟩

variable {cs after after' out : List Char} {lexeme lexeme' : Lexeme}

/-- A lexeme whose text is read as a plain one of the same kind is plain. -/
theorem Read.plain_of_kind (h : Read cs lexeme after)
    (h' : Read (lexeme.text.toList ++ out) lexeme' after') (same : lexeme'.kind = lexeme.kind)
    (plain : lexeme'.plain = true) : lexeme.plain = true := by
  cases hk : lexeme.kind with
  | word name quoted =>
    cases quoted with
    | false => rw [Lexeme.plain, hk]
    | true =>
      obtain ⟨token, rfl, read⟩ := token_of_kind h fun name h => by cases hk.symm.trans h
      obtain ⟨token', rfl, read'⟩ := token_of_kind h' fun name h =>
        by cases (same.trans hk).symm.trans h
      obtain ⟨quote, rfl, some⟩ := token_of_word hk
      obtain ⟨quote', rfl, some'⟩ := token_of_word (same.trans hk)
      obtain ⟨quote, rfl⟩ := Option.isSome_iff_exists.mp some
      obtain ⟨quote', rfl⟩ := Option.isSome_iff_exists.mp some'
      have opening := read'.name_start
      have shown : (ofToken (.word name (Option.some quote))).text.toList =
          quote.opening :: (name.toList ++ [quote.closing]) := by
        simp [ofToken, Token.text]
      rw [shown] at opening
      -- the mark is seen in what was printed, though not in the kind
      have equal : quote = quote' := by
        cases quote <;> cases quote' <;> first | rfl | cases opening
      rwa [equal]
  | string _ | blob _ | operator _ =>
    rw [Lexeme.plain, same, hk] at plain
    rw [Lexeme.plain, hk]
    exact plain
  | _ => rw [Lexeme.plain, hk]

/-- A quote after a blob is read as a part of it. -/
theorem Read.blob_apart (h : Read cs lexeme after) (plain : lexeme.plain = true)
    (h' : Read (lexeme.text.toList ++ out) lexeme' after') (same : lexeme'.kind = lexeme.kind)
    {digits : String} (hk : lexeme.kind = .blob digits) : out.head? ≠ some '\'' := by
  intro head
  obtain ⟨rest, rfl⟩ := List.head?_eq_some_iff.mp head
  obtain ⟨token, rfl, read⟩ := token_of_kind h fun name h => by cases hk.symm.trans h
  obtain ⟨token', rfl, read'⟩ := token_of_kind h' fun name h =>
    by cases (same.trans hk).symm.trans h
  cases token_of_blob hk
  cases token_of_blob (same.trans hk)
  have quiet : ∀ c ∈ digits.toList, c ∉ Token.escapes := by
    simpa [Lexeme.plain, ofToken] using plain
  rw [← String.ofList_toList (s := digits)] at read'
  exact read'.quote_apart quiet rfl

/-- A `<` after another one makes an operator with it. -/
theorem Read.less_apart (h' : Read (lexeme.text.toList ++ out) lexeme' after')
    (h : Read cs lexeme after) (same : lexeme'.kind = lexeme.kind)
    (hk : lexeme.kind = .operator "<") : out.head? ≠ some '<' := by
  obtain ⟨token, rfl, read⟩ := token_of_kind h fun name h => by cases hk.symm.trans h
  obtain ⟨token', rfl, read'⟩ := token_of_kind h' fun name h =>
    by cases (same.trans hk).symm.trans h
  cases token_of_less (.inl rfl) hk
  cases token_of_less (.inl rfl) (same.trans hk)
  obtain ⟨split, alone⟩ := Token.Read.mark_split (c := '<') (by decide) read'
  have split : '<' :: out = '<' :: after' := split
  intro head
  refine alone ⟨'<', ?_, by decide⟩
  rw [← (List.cons.inj split).2]
  exact head

/-- A word that ends with a blank goes on with the part of a name after it. -/
theorem Read.blank_apart (h : Read cs lexeme after) (sig : lexeme.isTrivia = false)
    (h' : Read (lexeme.text.toList ++ out) lexeme' after') (same : lexeme'.kind = lexeme.kind)
    (blank : lexeme.endsBlank = true) : Token.StopsAt Token.isNamePart out := by
  cases h with
  | token h alone =>
    obtain ⟨c, last, hc⟩ := endsBlank_iff.mp blank
    rw [isTrivia_ofToken] at sig
    obtain ⟨_, name, rfl⟩ := h.text_end sig last hc
    obtain ⟨token', rfl, read'⟩ := token_of_kind h' fun name h => by cases same.symm.trans h
    obtain ⟨quote, rfl, none⟩ := token_of_word same
    cases quote with
    | some quote => cases none
    | none =>
      obtain ⟨split, stop⟩ := read'.word_split
      rwa [← List.append_cancel_left split] at stop
  | @parameter mid _ mark name hm h word =>
    obtain ⟨c, hc, rfl⟩ := marker_single hm
    rw [String.toList_append, String.toList_singleton, List.append_assoc] at h'
    cases h' with
    | token read alone =>
      obtain ⟨text, rfl⟩ := token_of_parameter same
      rcases read.placeholder_start with start | start
      · cases start
        exact absurd hc (by decide)
      · cases start
        exact absurd hc (by decide)
    | @parameter mid' _ mark' name' hm' read word' =>
      cases same
      obtain ⟨c', hc', rfl⟩ := marker_single hm'
      have apart : c' ≠ '.' := by
        rintro rfl
        exact absurd hc' (by decide)
      obtain ⟨split, _⟩ := Token.Read.mark_split apart read
      have split : c :: (name.toList ++ out) = c' :: mid' := split
      obtain ⟨split', stop⟩ := word'.word_split
      rw [← (List.cons.inj split).2] at split'
      rwa [← List.append_cancel_left split'] at stop

/-! What is printed for a lexeme, told from its first character. -/

theorem Read.string_of_quote (h : Read cs lexeme after) (sig : lexeme.isTrivia = false)
    (head : lexeme.text.toList.head? = some '\'') : ∃ value, lexeme.kind = .string value := by
  cases h with
  | token h alone =>
    rw [isTrivia_ofToken] at sig
    obtain ⟨value, rfl⟩ := h.string_of_quote sig head
    exact ⟨value, rfl⟩
  | parameter hm h word =>
    obtain ⟨c, hc, rfl⟩ := marker_single hm
    rw [String.toList_append, String.toList_singleton] at head
    cases head
    exact absurd hc (by decide)

theorem Read.less_start (h : Read cs lexeme after) (sig : lexeme.isTrivia = false)
    (head : lexeme.text.toList.head? = some '<') :
    cs.head? = some '<' ∨ lexeme.kind = .operator "<>" := by
  cases h with
  | token h alone =>
    rw [isTrivia_ofToken] at sig
    rcases h.less_start sig head with less | rfl
    · exact .inl less
    · exact .inr rfl
  | parameter hm h word =>
    obtain ⟨c, hc, rfl⟩ := marker_single hm
    rw [String.toList_append, String.toList_singleton] at head
    cases head
    exact absurd hc (by decide)

/-- No `<` was read after a `<` of its own. -/
theorem Read.less_stop (h : Read cs lexeme after) (hk : lexeme.kind = .operator "<") :
    after.head? ≠ some '<' := by
  obtain ⟨token, rfl, read⟩ := token_of_kind h fun name h => by cases hk.symm.trans h
  cases token_of_less (.inl rfl) hk
  obtain ⟨_, alone⟩ := Token.Read.mark_split (c := '<') (by decide) read
  exact fun head => alone ⟨'<', head, by decide⟩

end Lexeme

end TypedRows.Sql
