import TypedRows.Proofs.LexemeReading

/-! When a lexeme is read again from its text, and what it weighs. -/

namespace TypedRows.Sql

/-- The weight of what a lexeme of this kind is printed as, comments apart. -/
def Kind.weight : Kind → Nat
  | .word text quoted => Token.weight text.toList + if quoted then 2 else 0
  | .number digits => Token.weight digits.toList
  | .string value => Token.weight value.toList + 2
  | .blob digits => Token.weight digits.toList + 3
  | .parameter name => Token.weight name.toList + 1
  | .positional text => Token.weight text.toList
  | .operator text => Token.weight text.toList
  | .openParen | .closeParen | .comma | .dot | .semicolon | .star => 1
  | .comment _ | .space => 0

namespace Lexeme

/-- What stands between the quotes of a national string or one with escapes. -/
def literalBody (text : List Char) : List Char :=
  match text with
  | 'N' :: '\'' :: body | 'E' :: '\'' :: body => body.dropLast
  | _ => []

/-- Whether the text of the lexeme can be read as it stands: no mark in it ends it, no backslash
changes it. -/
def plain (lexeme : Lexeme) : Bool :=
  match lexeme.kind with
  | .word name true => lexeme.text.toList.getLast?.all (· ∉ name.toList)
  | .string value => '\'' ∉ value.toList
  | .blob digits => digits.toList.all (· ∉ Token.escapes)
  | .operator text => (literalBody text.toList).all (· ∉ Token.escapes)
  | _ => true

def isComment (lexeme : Lexeme) : Bool :=
  match lexeme.kind with
  | .comment _ => true
  | _ => false

def startsBlank (lexeme : Lexeme) : Bool := lexeme.text.toList.head?.any Text.isBlank

def endsBlank (lexeme : Lexeme) : Bool := lexeme.text.toList.getLast?.any Text.isBlank

theorem endsBlank_iff {lexeme : Lexeme} :
    lexeme.endsBlank = true ↔ ∃ c ∈ lexeme.text.toList.getLast?, Text.isBlank c = true := by
  rw [endsBlank, Option.any_eq_true]
  rfl

/-- The marks that have a kind of their own. -/
def punctuation : List (String × Kind) :=
  [("(", .openParen), (")", .closeParen), (",", .comma), (".", .dot), (";", .semicolon),
    ("*", .star)]

theorem ofMark_cases (mark : String) :
    ofMark mark = .operator mark ∨ (mark, ofMark mark) ∈ punctuation := by
  unfold ofMark
  split
  case h_7 => exact .inl rfl
  all_goals exact .inr (by decide)

theorem punctuation_facts : ∀ entry ∈ punctuation, entry.2.isTrivia = false ∧ entry.2.weight = 1 ∧
    Token.weight entry.1.toList = 1 ∧ (Lexeme.mk entry.2 entry.1).plain = true := by
  decide

/-- No mark is of a kind that has a value, an operator apart. -/
theorem ofMark_ne {mark : String} {kind : Kind} (noOperator : ∀ text, kind ≠ .operator text)
    (other : ∀ entry ∈ punctuation, entry.2 ≠ kind) : ofMark mark ≠ kind := by
  rcases ofMark_cases mark with same | member
  · rw [same]
    exact fun h => noOperator mark h.symm
  · exact other _ member

theorem kind_placeholder (text : String) :
    ∃ name, (ofToken (.placeholder text)).kind = .parameter name ∨
      (ofToken (.placeholder text)).kind = .positional name := by
  unfold ofToken
  dsimp only
  split
  · exact ⟨_, .inl rfl⟩
  · exact ⟨_, .inr rfl⟩

theorem isTrivia_ofToken (token : Token) : (ofToken token).isTrivia = token.isTrivia := by
  cases token with
  | mark text =>
    rcases ofMark_cases text with same | member
    · exact congrArg Kind.isTrivia same
    · exact (punctuation_facts _ member).1
  | placeholder text =>
    obtain ⟨name, same | same⟩ := kind_placeholder text
    · exact congrArg Kind.isTrivia same
    · exact congrArg Kind.isTrivia same
  | _ => rfl

theorem plain_ofToken {cs after : List Char} {token : Token} (h : Token.Read cs token after) :
    (ofToken token).plain = token.plain := by
  cases h with
  | name hq h =>
    simp [plain, ofToken, Token.text_name, Token.plain, List.getLast?_cons]
  | national hc h => simp [plain, ofToken, Token.text_national, Token.plain, literalBody]
  | escaped hc h => simp [plain, ofToken, Token.text_escaped, Token.plain, literalBody]
  | dollar h => simp [plain, ofToken, Token.text_dollar, Token.plain, literalBody]
  | tagged some inside h => simp [plain, ofToken, Token.text_tagged, Token.plain, literalBody]
  | parameter inside stop noFence =>
    simp [plain, ofToken, Token.plain]
  | positional inside stop =>
    simp [plain, ofToken, Token.plain]
  | @mark c rest _ _ ordinary noDigit noPeriod noName noComment h =>
    obtain ⟨more, rfl, mark, alone, rfl⟩ := Token.operator_cases h
    rcases ofMark_cases (String.ofList (Token.spelled (c :: more))) with same | member
    · have body : literalBody (Token.spelled (c :: more)) = [] := by
        unfold Token.spelled
        split
        · rfl
        · unfold literalBody
          split
          · rename_i letter
            cases letter
            cases noName
          · rename_i letter
            cases letter
            cases noName
          · rfl
      simp [plain, ofToken, same, body, Token.plain]
    · exact (punctuation_facts _ member).2.2.2
  | _ => rfl

theorem kind_eq_space {token : Token} (hk : (ofToken token).kind = .space) :
    token = .space ∨ token = .tab ∨ token = .newline := by
  cases token with
  | space => exact .inl rfl
  | tab => exact .inr (.inl rfl)
  | newline => exact .inr (.inr rfl)
  | mark text =>
    have sig := isTrivia_ofToken (.mark text)
    rw [isTrivia, hk] at sig
    cases sig
  | placeholder text =>
    have sig := isTrivia_ofToken (.placeholder text)
    rw [isTrivia, hk] at sig
    cases sig
  | _ => cases hk

theorem Read.space_again {cs after : List Char} {lexeme : Lexeme} (h : Read cs lexeme after)
    (hk : lexeme.kind = .space) (out : List Char) :
    Read (lexeme.text.toList ++ out) lexeme out ∧
      ∃ c ∈ Token.blanks, lexeme.text.toList = [c] := by
  cases h with
  | token h alone =>
    rcases kind_eq_space hk with rfl | rfl | rfl
    · exact ⟨.token (.space (.inl rfl)) nofun, ' ', by decide, rfl⟩
    · exact ⟨.token .tab nofun, '\t', by decide, rfl⟩
    · exact ⟨.token .newline nofun, '\n', by decide, rfl⟩
  | parameter hm h word => cases hk

theorem Read.space_start {cs after : List Char} {lexeme : Lexeme} (h : Read cs lexeme after)
    (hk : lexeme.kind = .space) : ∃ c ∈ Token.blanks, cs.head? = some c := by
  cases h with
  | token h alone =>
    rcases kind_eq_space hk with rfl | rfl | rfl
    · cases h with
      | space h => rcases h with rfl | rfl | rfl <;> exact ⟨_, by decide, rfl⟩
    · cases h with
      | tab => exact ⟨'\t', by decide, rfl⟩
    · cases h with
      | newline => exact ⟨'\n', by decide, rfl⟩
      | returned | newlines => exact ⟨'\r', by decide, rfl⟩
  | parameter hm h word => cases hk

theorem Read.text_start {cs after : List Char} {lexeme : Lexeme} (h : Read cs lexeme after)
    (sig : lexeme.isTrivia = false) :
    ∃ c more, lexeme.text.toList = c :: more ∧ c ∉ Token.blanks := by
  cases h with
  | token h alone =>
    rw [isTrivia_ofToken] at sig
    obtain ⟨c, more, same, noBlank, _⟩ := h.text_start sig
    exact ⟨c, more, same, noBlank⟩
  | parameter hm h word =>
    rw [String.toList_append]
    rcases hm with rfl | rfl
    · exact ⟨':', _, rfl, by decide⟩
    · exact ⟨'@', _, rfl, by decide⟩

/-- The name of a parameter without its marker is not empty. -/
theorem word_getLast? {mid after : List Char} {name : String} (mark : String)
    (word : Token.Read mid (.word name none) after) :
    (mark ++ name).toList.getLast? = name.toList.getLast? := by
  obtain ⟨c, more, same, _⟩ := word.text_start rfl
  have same : name.toList = c :: more := same
  rw [String.toList_append, same, List.getLast?_append, List.getLast?_cons]
  rfl

theorem Read.text_end {cs after : List Char} {lexeme : Lexeme} (h : Read cs lexeme after)
    (sig : lexeme.isTrivia = false) {c : Char} (last : c ∈ lexeme.text.toList.getLast?) :
    c ∉ Token.blanks := by
  intro ascii
  have all : ∀ d ∈ Token.blanks, Text.isBlank d = true := forall_mem_of_all (by decide)
  cases h with
  | token h alone =>
    rw [isTrivia_ofToken] at sig
    exact (h.text_end sig last (all c ascii)).1 ascii
  | parameter hm h word =>
    rw [word_getLast? _ word] at last
    exact (word.text_end rfl last (all c ascii)).1 ascii

/-- What is printed for a lexeme is like what it was read from. -/
theorem Read.echo {cs after out : List Char} {lexeme : Lexeme} (h : Read cs lexeme after)
    (sig : lexeme.isTrivia = false) (next : lexeme.endsBlank = true ∨ Token.Echo after out) :
    Token.Echo cs (lexeme.text.toList ++ out) := by
  rw [endsBlank_iff] at next
  cases h with
  | token h alone =>
    rw [isTrivia_ofToken] at sig
    exact h.echo sig next
  | parameter hm h word =>
    rw [word_getLast? _ word] at next
    rw [String.toList_append, List.append_assoc]
    exact h.echo rfl (.inr (word.echo rfl next))

theorem Read.startsWord {cs after out : List Char} {lexeme : Lexeme} (h : Read cs lexeme after)
    (sig : lexeme.isTrivia = false) (words : Token.StartsWord (lexeme.text.toList ++ out)) :
    Token.StartsWord cs := by
  cases h with
  | token h alone =>
    rw [isTrivia_ofToken] at sig
    exact h.startsWord sig words
  | parameter hm h word =>
    rw [String.toList_append, List.append_assoc] at words
    exact h.startsWord rfl words

/-- What is printed after the lexeme, where `after` was read. -/
structure Follows (lexeme : Lexeme) (after out : List Char) : Prop where
  echo : Token.Echo after out ∨ Token.StopsAt Token.isNamePart out ∧ lexeme.endsBlank = true
  quote : ∀ digits, lexeme.kind = .blob digits → out.head? ≠ some '\''
  less : lexeme.kind = .operator "<" → out.head? ≠ some '<'
  word : lexeme.endsBlank = false → Token.StartsWord out → Token.StartsWord after

/-- A plain lexeme is read as itself where it is printed. -/
theorem Read.again {cs after out : List Char} {lexeme : Lexeme} (h : Read cs lexeme after)
    (sig : lexeme.isTrivia = false) (plain : lexeme.plain = true)
    (follows : Follows lexeme after out) : Read (lexeme.text.toList ++ out) lexeme out := by
  cases h with
  | token h alone =>
    rename_i token
    rw [isTrivia_ofToken] at sig
    rw [plain_ofToken h] at plain
    refine .token (h.again sig plain ⟨?_, ?_, ?_⟩) fun same words => ?_
    · refine follows.echo.imp id fun ⟨stop, blank⟩ => ⟨stop, ?_⟩
      obtain ⟨c, last, hc⟩ := endsBlank_iff.mp blank
      obtain ⟨_, name, rfl⟩ := h.text_end sig last hc
      exact ⟨name, rfl, c, last, hc⟩
    · rintro value rfl
      exact follows.quote value rfl
    · rintro rfl
      exact follows.less rfl
    · have solid : (ofToken token).endsBlank = false := by
        rcases same with rfl | rfl <;> rfl
      exact alone same (follows.word solid words)
  | @parameter mid _ mark name hm h word =>
    have last : Token.Echo after out ∨ Token.StopsAt Token.isNamePart out ∧
        ∃ c ∈ name.toList.getLast?, Text.isBlank c = true := by
      refine follows.echo.imp id fun ⟨stop, blank⟩ => ⟨stop, ?_⟩
      rwa [endsBlank_iff, word_getLast? _ word] at blank
    have echo : Token.Echo mid (name.toList ++ out) := by
      refine word.echo rfl ?_
      rcases last with echo | ⟨_, blank⟩
      · exact .inr echo
      · exact .inl blank
    have other : Token.mark mark ≠ .mark "<" := by
      rcases hm with rfl | rfl <;> decide
    -- the marker and the name are read one after the other
    have first := h.again rfl rfl ⟨.inl echo, nofun, fun less => absurd less other⟩
    have second := word.again rfl rfl
      ⟨last.imp id fun ⟨stop, blank⟩ => ⟨stop, name, rfl, blank⟩, nofun, nofun⟩
    rw [String.toList_append, List.append_assoc]
    exact .parameter hm first second

/-! What a lexeme weighs. -/

theorem weight_text (token : Token) (some : (ofToken token).isComment = false) :
    Token.weight token.text.toList = (ofToken token).kind.weight := by
  have quote : Token.charWeight '\'' = 1 := rfl
  cases token with
  | word text mark =>
    cases mark with
    | none => rfl
    | some mark =>
      have marks : Token.charWeight mark.opening = 1 ∧ Token.charWeight mark.closing = 1 := by
        cases mark <;> exact ⟨rfl, rfl⟩
      simp only [Token.text, ofToken, Kind.weight, String.toList_append, String.toList_singleton,
        Token.weight_append, Token.weight_cons, Token.weight_nil, marks, Option.isSome_some, if_true]
      omega
  | number digits long =>
    cases long with
    | false => rfl
    | true => simp [Token.text, ofToken, Kind.weight, show Token.charWeight 'L' = 0 from rfl]
  | string value =>
    simp [Token.text, ofToken, Kind.weight, quote]
    omega
  | hex value =>
    simp [Token.text, ofToken, Kind.weight, quote, show Token.charWeight 'X' = 1 from rfl]
    omega
  | placeholder text =>
    unfold ofToken Token.text
    dsimp only
    split
    · rename_i name same
      rw [same, Token.weight_cons, Kind.weight, String.toList_ofList,
        show Token.charWeight '$' = 1 from rfl, Nat.add_comm]
    · rfl
  | mark text =>
    rcases ofMark_cases text with same | member
    · exact (congrArg Kind.weight same).symm
    · obtain ⟨_, one, one', _⟩ := punctuation_facts _ member
      exact one'.trans one.symm
  | lineComment text | blockComment text => cases some
  | _ => rfl

theorem isComment_of_sig {lexeme : Lexeme} (sig : lexeme.isTrivia = false) :
    lexeme.isComment = false := by
  unfold isTrivia Kind.isTrivia at sig
  unfold isComment
  split at sig <;> simp_all

theorem weight_trivia {lexeme : Lexeme} (trivia : lexeme.isTrivia = true) :
    lexeme.kind.weight = 0 := by
  unfold isTrivia Kind.isTrivia at trivia
  split at trivia <;> simp_all [Kind.weight]

/-- What is printed for a lexeme weighs what its kind weighs. -/
theorem Read.weight_text {cs after : List Char} {lexeme : Lexeme} (h : Read cs lexeme after)
    (some : lexeme.isComment = false) :
    Token.weight lexeme.text.toList = lexeme.kind.weight := by
  cases h with
  | token h alone => exact Lexeme.weight_text _ some
  | @parameter mid _ mark name hm h word =>
    have one : Token.weight mark.toList = 1 := by
      rcases hm with rfl | rfl <;> rfl
    rw [String.toList_append, Token.weight_append, one, Kind.weight, Nat.add_comm]

/-- A lexeme weighs no more than what it was read from, and the same only if it is plain. -/
theorem Read.weight_le {cs after : List Char} {lexeme : Lexeme} (h : Read cs lexeme after) :
    lexeme.kind.weight + Token.weight after ≤ Token.weight cs ∧
      (lexeme.kind.weight + Token.weight after = Token.weight cs →
        lexeme.plain = true ∧ lexeme.isComment = false) := by
  cases h with
  | token h alone =>
    rename_i token
    cases trivia : (ofToken token).isTrivia with
    | true =>
      rw [weight_trivia trivia, Nat.zero_add]
      rw [isTrivia_ofToken] at trivia
      obtain ⟨le, space⟩ := h.weight_trivia trivia
      refine ⟨le, fun same => ?_⟩
      rcases space same with rfl | rfl | rfl <;> exact ⟨rfl, rfl⟩
    | false =>
      have some := isComment_of_sig trivia
      rw [isTrivia_ofToken] at trivia
      obtain ⟨le, plain⟩ := h.weight_le trivia
      rw [Lexeme.weight_text token some] at le plain
      rw [plain_ofToken h]
      exact ⟨le, fun same => ⟨plain same, some⟩⟩
  | @parameter mid _ mark name hm h word =>
    have one : Token.weight (Token.mark mark).text.toList = 1 := by
      rcases hm with rfl | rfl <;> rfl
    obtain ⟨le, _⟩ := h.weight_le rfl
    obtain ⟨le', _⟩ := word.weight_le rfl
    have text : Token.weight (Token.word name none).text.toList = Token.weight name.toList := rfl
    rw [one] at le
    rw [text] at le'
    rw [Kind.weight]
    exact ⟨by omega, fun _ => ⟨rfl, rfl⟩⟩

end Lexeme

end TypedRows.Sql
