import TypedRows.Proofs.LexemeSeparation
import TypedRows.Sql.Chunk

/-! The printed text of some lexemes, and what is read from it. -/

namespace TypedRows.Sql

namespace Lexeme

/-- Printed one right after the other, the two are read differently. -/
def clashes (first second : Lexeme) : Bool :=
  match first.kind, second.kind with
  | .blob _, .string _ => true
  | .operator text, .operator next => text == "<" && next == "<>"
  | _, _ => false

/-- After a blank no space is left for a comment. A word whose own last character is one goes on with
a name behind the comment. -/
def swallows (lexeme : Lexeme) (rest : List Lexeme) : Bool :=
  !lexeme.isTrivia && lexeme.endsBlank &&
    (rest.find? fun next => !next.isComment).any fun next =>
      next.text.toList.head?.any Token.isNamePart

end Lexeme

namespace Chunk

open Lexeme (Read Reads Follows)

/-- The lexemes that are neither blanks nor comments. -/
def significant (lexemes : List Lexeme) : List Lexeme := lexemes.filter fun lexeme => !lexeme.isTrivia

/-- What the significant lexemes are, with their values. -/
def kinds (lexemes : List Lexeme) : List Kind := (significant lexemes).map Lexeme.kind

/-- No lexeme runs into what is printed after it. -/
def apart : List Lexeme → Bool
  | [] => true
  | lexeme :: rest => !rest.head?.any lexeme.clashes && !lexeme.swallows rest && apart rest

section Cons

variable {lexeme : Lexeme} {rest : List Lexeme}

theorem kinds_trivia (h : lexeme.isTrivia = true) : kinds (lexeme :: rest) = kinds rest := by
  simp [kinds, significant, h]

theorem kinds_sig (h : lexeme.isTrivia = false) :
    kinds (lexeme :: rest) = lexeme.kind :: kinds rest := by
  simp [kinds, significant, h]

theorem clashes_trivia (h : lexeme.isTrivia = true) (other : Lexeme) :
    lexeme.clashes other = false ∧ other.clashes lexeme = false := by
  unfold Lexeme.isTrivia Kind.isTrivia at h
  unfold Lexeme.clashes
  split at h <;> simp_all

theorem apart_trivia (h : lexeme.isTrivia = true) : apart (lexeme :: rest) = apart rest := by
  have clash : rest.head?.any lexeme.clashes = false := by
    cases rest with
    | nil => rfl
    | cons next rest => exact (clashes_trivia h next).1
  rw [apart, clash, Lexeme.swallows, h]
  rfl

theorem plain_trivia (h : lexeme.isTrivia = true) : lexeme.plain = true := by
  unfold Lexeme.isTrivia Kind.isTrivia at h
  unfold Lexeme.plain
  split at h <;> simp_all

theorem isTrivia_cases (h : lexeme.isTrivia = true) :
    lexeme.isComment = true ∨ lexeme.kind = .space ∧ lexeme.isComment = false := by
  unfold Lexeme.isTrivia Kind.isTrivia at h
  unfold Lexeme.isComment
  split at h <;> simp_all

theorem charsFrom_comment (h : lexeme.isComment = true) (spaced : Bool) :
    charsFrom spaced (lexeme :: rest) =
      if spaced then charsFrom true rest else ' ' :: charsFrom true rest := by
  obtain ⟨kind, text⟩ := lexeme
  cases kind with
  | comment _ => rfl
  | _ => cases h

theorem charsFrom_text (h : lexeme.isComment = false) (spaced : Bool) {c : Char} {more : List Char}
    (same : lexeme.text.toList = c :: more) :
    charsFrom spaced (lexeme :: rest) =
      lexeme.text.toList ++ charsFrom lexeme.endsBlank rest := by
  obtain ⟨kind, text⟩ := lexeme
  have same : text.toList = c :: more := same
  cases kind with
  | comment _ => cases h
  | _ => simp only [charsFrom, Lexeme.endsBlank, same, List.getLast?_cons, Option.any_some]

end Cons

variable {cs after : List Char} {lexemes : List Lexeme}

/-- A lexeme that is printed is followed by what is printed for the rest. -/
theorem charsFrom_cons {lexeme : Lexeme} {mid : List Char} {rest : List Lexeme}
    (h : Read cs lexeme mid) (printed : lexeme.isComment = false) (spaced : Bool) :
    charsFrom spaced (lexeme :: rest) =
      lexeme.text.toList ++ charsFrom lexeme.endsBlank rest := by
  cases sig : lexeme.isTrivia with
  | true =>
    obtain comment | ⟨space, _⟩ := isTrivia_cases sig
    · cases comment.symm.trans printed
    · obtain ⟨_, c, _, text⟩ := h.space_again space []
      exact charsFrom_text printed spaced text
  | false =>
    obtain ⟨c, more, text, _⟩ := h.text_start sig
    exact charsFrom_text printed spaced text

theorem endsBlank_space {lexeme : Lexeme} (h : Read cs lexeme after) (hk : lexeme.kind = .space) :
    lexeme.endsBlank = true := by
  obtain ⟨_, c, blank, text⟩ := h.space_again hk []
  have all : ∀ d ∈ Token.blanks, Text.isBlank d = true := forall_mem_of_all (by decide)
  rw [Lexeme.endsBlank, text]
  exact all c blank

/-- What is printed for the lexemes is like what they were read from. -/
theorem echo_charsFrom (h : Reads cs lexemes after) :
    Token.Echo cs (charsFrom false lexemes) := by
  induction h with
  | nil => exact .stop
  | @cons cs mid after lexeme rest h next ih =>
    cases sig : lexeme.isTrivia with
    | true =>
      obtain comment | ⟨space, printed⟩ := isTrivia_cases sig
      · rw [charsFrom_comment comment]
        exact .blank (by decide)
      · rw [charsFrom_cons h printed]
        obtain ⟨_, c, blank, text⟩ := h.space_again space []
        rw [text]
        exact .blank blank
    | false =>
      rw [charsFrom_cons h (Lexeme.isComment_of_sig sig)]
      cases blank : lexeme.endsBlank with
      | true => exact h.echo sig (.inl blank)
      | false => exact h.echo sig (.inr ih)

/-- A printed character that is no blank starts the text of the first lexeme. -/
theorem head_charsFrom (h : Reads cs lexemes after) {d : Char} (other : d ∉ Token.blanks)
    (head : (charsFrom false lexemes).head? = some d) :
    ∃ lexeme mid rest, lexemes = lexeme :: rest ∧ Read cs lexeme mid ∧
      lexeme.isTrivia = false ∧ lexeme.text.toList.head? = some d := by
  cases h with
  | nil => cases head
  | @cons cs mid after lexeme rest h next =>
    cases sig : lexeme.isTrivia with
    | true =>
      obtain comment | ⟨space, printed⟩ := isTrivia_cases sig
      · rw [charsFrom_comment comment] at head
        cases head
        exact absurd (by decide) other
      · rw [charsFrom_cons h printed] at head
        obtain ⟨_, c, blank, text⟩ := h.space_again space []
        rw [text] at head
        cases head
        exact absurd blank other
    | false =>
      rw [charsFrom_cons h (Lexeme.isComment_of_sig sig)] at head
      obtain ⟨c, more, text, _⟩ := h.text_start sig
      rw [text] at head
      exact ⟨lexeme, mid, rest, rfl, h, sig, by rw [text]; exact head⟩

/-- After a blank the comments are not printed. -/
theorem head_charsFrom_spaced (h : Reads cs lexemes after) :
    (charsFrom true lexemes).head? =
      (lexemes.find? fun lexeme => !lexeme.isComment).bind fun lexeme =>
        lexeme.text.toList.head? := by
  induction h with
  | nil => rfl
  | @cons cs mid after lexeme rest h next ih =>
    cases comment : lexeme.isComment with
    | true =>
      rw [charsFrom_comment comment, if_pos rfl, List.find?_cons, comment]
      exact ih
    | false =>
      rw [charsFrom_cons h comment, List.find?_cons, comment]
      cases text : lexeme.text.toList with
      | cons c more =>
        simp [text]
      | nil =>
        cases sig : lexeme.isTrivia with
        | true =>
          obtain no | ⟨space, _⟩ := isTrivia_cases sig
          · cases no.symm.trans comment
          · obtain ⟨_, c, _, same⟩ := h.space_again space []
            cases text.symm.trans same
        | false =>
          obtain ⟨c, more, same, _⟩ := h.text_start sig
          cases text.symm.trans same

theorem startsWord_charsFrom (h : Reads cs lexemes after)
    (words : Token.StartsWord (charsFrom false lexemes)) : Token.StartsWord cs := by
  obtain ⟨name, left, read⟩ := id words
  obtain ⟨c, more, same, start, _⟩ := read.word_start
  have noBlank : c ∉ Token.blanks := fun blank =>
    (Token.nameStart_facts start).1 (Token.blanks_special c blank)
  obtain ⟨lexeme, mid, rest, rfl, first, sig, _⟩ := head_charsFrom h noBlank (by rw [same]; rfl)
  rw [charsFrom_cons first (Lexeme.isComment_of_sig sig)] at words
  exact first.startsWord sig words

/-- Only words and parameters end with a blank. -/
theorem kind_of_endsBlank {lexeme : Lexeme} (h : Read cs lexeme after)
    (sig : lexeme.isTrivia = false) (blank : lexeme.endsBlank = true) :
    ∃ name, lexeme.kind = .word name false ∨ lexeme.kind = .parameter name := by
  cases h with
  | token h alone =>
    obtain ⟨c, last, hc⟩ := Lexeme.endsBlank_iff.mp blank
    rw [Lexeme.isTrivia_ofToken] at sig
    obtain ⟨_, name, rfl⟩ := h.text_end sig last hc
    exact ⟨name, .inl rfl⟩
  | parameter hm h word => exact ⟨_, .inr rfl⟩

theorem endsBlank_of_blob {lexeme : Lexeme} (h : Read cs lexeme after)
    (sig : lexeme.isTrivia = false) {digits : String} (hk : lexeme.kind = .blob digits) :
    lexeme.endsBlank = false := by
  rw [Bool.eq_false_iff]
  intro blank
  obtain ⟨name, same | same⟩ := kind_of_endsBlank h sig blank <;> cases hk.symm.trans same

/-- What is printed after a lexeme that does not run into it. -/
theorem follows_of_apart {lexeme : Lexeme} {mid : List Char} {rest : List Lexeme}
    (h : Read cs lexeme mid) (next : Reads mid rest after) (sig : lexeme.isTrivia = false)
    (clash : rest.head?.any lexeme.clashes = false) (swallow : lexeme.swallows rest = false) :
    Follows lexeme mid (charsFrom lexeme.endsBlank rest) := by
  constructor
  · cases blank : lexeme.endsBlank with
    | false => exact .inl (echo_charsFrom next)
    | true =>
      refine .inr ⟨fun d head => ?_, rfl⟩
      rw [head_charsFrom_spaced next] at head
      obtain ⟨first, found, head⟩ := Option.bind_eq_some_iff.mp head
      rw [Lexeme.swallows, sig, blank, found] at swallow
      simpa [head] using swallow
  · intro digits hk head
    rw [endsBlank_of_blob h sig hk] at head
    obtain ⟨first, mid', more, rfl, read, sig', head⟩ := head_charsFrom next (by decide) head
    obtain ⟨value, hv⟩ := read.string_of_quote sig' head
    simp [Lexeme.clashes, hk, hv] at clash
  · intro hk head
    obtain ⟨token, rfl, read⟩ := Lexeme.token_of_kind h fun name h => by cases hk.symm.trans h
    cases Lexeme.token_of_less (.inl rfl) hk
    obtain ⟨first, mid', more, rfl, read', sig', head⟩ := head_charsFrom next (by decide) head
    rcases read'.less_start sig' head with less | hv
    · exact h.less_stop hk less
    · simp [Lexeme.clashes, hk, hv] at clash
  · intro solid words
    rw [solid] at words
    exact startsWord_charsFrom next words

/-- Plain lexemes that do not run into each other are read again. -/
theorem reads_charsFrom (h : Reads cs lexemes after) (plain : ∀ lexeme ∈ lexemes, lexeme.plain = true)
    (separate : apart lexemes = true) (spaced : Bool) :
    ∃ again, Reads (charsFrom spaced lexemes) again [] ∧ kinds again = kinds lexemes := by
  induction h generalizing spaced with
  | nil => exact ⟨[], .nil, rfl⟩
  | @cons cs mid after lexeme rest h next ih =>
    have plainRest (other : Lexeme) (member : other ∈ rest) : other.plain = true :=
      plain other (List.mem_cons_of_mem _ member)
    cases sig : lexeme.isTrivia with
    | true =>
      rw [apart_trivia sig] at separate
      obtain ⟨again, reads, same⟩ := ih plainRest separate true
      rw [kinds_trivia sig]
      obtain comment | ⟨space, printed⟩ := isTrivia_cases sig
      · rw [charsFrom_comment comment]
        cases spaced with
        | true => exact ⟨again, reads, same⟩
        | false =>
          have blank : Read (' ' :: charsFrom true rest) (Lexeme.ofToken .space) _ :=
            .token (.space (.inl rfl)) nofun
          exact ⟨_, .cons blank reads, same⟩
      · rw [charsFrom_cons h printed, endsBlank_space h space]
        obtain ⟨read, _⟩ := h.space_again space (charsFrom true rest)
        exact ⟨lexeme :: again, .cons read reads, by rw [kinds_trivia sig, same]⟩
    | false =>
      simp only [apart, Bool.and_eq_true, Bool.not_eq_true'] at separate
      obtain ⟨⟨clash, swallow⟩, separate⟩ := separate
      obtain ⟨again, reads, same⟩ := ih plainRest separate lexeme.endsBlank
      rw [charsFrom_cons h (Lexeme.isComment_of_sig sig)]
      have read := h.again sig (plain _ List.mem_cons_self) (follows_of_apart h next sig clash swallow)
      exact ⟨lexeme :: again, .cons read reads, by rw [kinds_sig sig, kinds_sig sig, same]⟩

/-- Two lexemes that clash are not read as they are. -/
theorem clashes_of_read {lexeme other first : Lexeme} {mid left out : List Char} {rest : List Lexeme}
    (h : Read cs lexeme mid) (next : Reads mid (first :: rest) after)
    (plain : lexeme.plain = true) (read : Read (lexeme.text.toList ++ out) other left)
    (same : other.kind = lexeme.kind)
    (printed : out = charsFrom lexeme.endsBlank (first :: rest)) : lexeme.clashes first = false := by
  rw [Bool.eq_false_iff]
  intro clash
  cases next with
  | @cons _ mid' _ _ _ h' next =>
    unfold Lexeme.clashes at clash
    split at clash
    · rename_i digits value hk hv
      obtain ⟨token, rfl, _⟩ := Lexeme.token_of_kind h' fun name h => by cases hv.symm.trans h
      cases Lexeme.token_of_string hv
      refine h.blob_apart plain read same hk ?_
      rw [printed, charsFrom_cons h' rfl]
      simp [Lexeme.ofToken, Token.text]
    · rename_i text text' hk hv
      simp only [Bool.and_eq_true, beq_iff_eq] at clash
      obtain ⟨rfl, rfl⟩ := clash
      obtain ⟨token, rfl, _⟩ := Lexeme.token_of_kind h' fun name h => by cases hv.symm.trans h
      cases Lexeme.token_of_less (.inr rfl) hv
      refine Read.less_apart read h same hk ?_
      rw [printed, charsFrom_cons h' rfl]
      rfl
    · cases clash

theorem swallows_of_read {lexeme other : Lexeme} {mid left : List Char} {rest : List Lexeme}
    (h : Read cs lexeme mid) (next : Reads mid rest after) (sig : lexeme.isTrivia = false)
    (read : Read (lexeme.text.toList ++ charsFrom lexeme.endsBlank rest) other left)
    (same : other.kind = lexeme.kind) : lexeme.swallows rest = false := by
  rw [Bool.eq_false_iff]
  intro swallow
  simp only [Lexeme.swallows, Bool.and_eq_true, Option.any_eq_true] at swallow
  obtain ⟨⟨_, blank⟩, first, found, d, head, part⟩ := swallow
  have stop := h.blank_apart sig read same blank
  rw [blank] at stop
  refine Bool.eq_false_iff.mp (stop d ?_) part
  rw [head_charsFrom_spaced next, found]
  exact head

theorem exists_cons_of_reads {again : List Lexeme} (h : Reads cs again []) (some : cs ≠ []) :
    ∃ first left rest, again = first :: rest ∧ Read cs first left ∧ Reads left rest [] := by
  cases h with
  | nil => exact absurd rfl some
  | cons h next => exact ⟨_, _, _, rfl, h, next⟩

theorem reads_tail {lexeme : Lexeme} {again : List Lexeme} {out : List Char}
    (read : Read cs lexeme out) (some : cs ≠ []) (h : Reads cs again []) :
    ∃ rest, again = lexeme :: rest ∧ Reads out rest [] := by
  obtain ⟨first, left, rest, rfl, read', tail⟩ := exists_cons_of_reads h some
  obtain ⟨rfl, rfl⟩ := read.unique read'
  exact ⟨rest, rfl, tail⟩

/-- Lexemes that are read again as plain ones of the same kinds are plain and do not run into each
other. -/
theorem plain_of_reads {again : List Lexeme} {spaced : Bool} (h : Reads cs lexemes after)
    (reads : Reads (charsFrom spaced lexemes) again []) (same : kinds again = kinds lexemes)
    (good : ∀ lexeme ∈ again, lexeme.plain = true ∧ lexeme.isComment = false) :
    (∀ lexeme ∈ lexemes, lexeme.plain = true) ∧ apart lexemes = true := by
  induction h generalizing spaced again with
  | nil => exact ⟨List.forall_mem_nil _, rfl⟩
  | @cons cs mid after lexeme rest h next ih =>
    cases sig : lexeme.isTrivia with
    | true =>
      rw [kinds_trivia sig] at same
      rw [apart_trivia sig]
      have step {again : List Lexeme} (reads : Reads (charsFrom true rest) again [])
          (same : kinds again = kinds rest)
          (good : ∀ lexeme ∈ again, lexeme.plain = true ∧ lexeme.isComment = false) :
          (∀ other ∈ lexeme :: rest, other.plain = true) ∧ apart rest = true := by
        obtain ⟨plain, separate⟩ := ih reads same good
        exact ⟨List.forall_mem_cons.mpr ⟨plain_trivia sig, plain⟩, separate⟩
      obtain comment | ⟨space, printed⟩ := isTrivia_cases sig
      · rw [charsFrom_comment comment] at reads
        cases spaced with
        | true => exact step reads same good
        | false =>
          have blank : Read (' ' :: charsFrom true rest) (Lexeme.ofToken .space) _ :=
            .token (.space (.inl rfl)) nofun
          obtain ⟨more, rfl, tail⟩ := reads_tail blank (List.cons_ne_nil _ _) reads
          exact step tail same fun other member => good other (List.mem_cons_of_mem _ member)
      · rw [charsFrom_cons h printed, endsBlank_space h space] at reads
        obtain ⟨blank, c, _, text⟩ := h.space_again space (charsFrom true rest)
        obtain ⟨more, rfl, tail⟩ := reads_tail blank (by simp [text]) reads
        rw [kinds_trivia sig] at same
        exact step tail same fun other member => good other (List.mem_cons_of_mem _ member)
    | false =>
      rw [charsFrom_cons h (Lexeme.isComment_of_sig sig)] at reads
      obtain ⟨c, more, text, noBlank⟩ := h.text_start sig
      obtain ⟨first, left, rest', rfl, read, _⟩ := exists_cons_of_reads reads (by simp [text])
      obtain ⟨plainFirst, printed⟩ := good first List.mem_cons_self
      have sigFirst : first.isTrivia = false := by
        rw [Bool.eq_false_iff]
        intro trivia
        obtain comment | ⟨space, _⟩ := isTrivia_cases trivia
        · cases comment.symm.trans printed
        · obtain ⟨d, blank, head⟩ := read.space_start space
          rw [text] at head
          cases head
          exact noBlank blank
      rw [kinds_sig sig, kinds_sig sigFirst] at same
      obtain ⟨kind, others⟩ := List.cons.inj same
      have plain := h.plain_of_kind read kind plainFirst
      have clash : rest.head?.any lexeme.clashes = false := by
        cases rest with
        | nil => rfl
        | cons second rest => exact clashes_of_read h next plain read kind rfl
      have swallow := swallows_of_read h next sig read kind
      -- nothing changes the reading of this lexeme, so that the rest is what was left of it
      have again := h.again sig plain (follows_of_apart h next sig clash swallow)
      obtain ⟨_, same', tail⟩ := reads_tail again (by simp [text]) reads
      cases same'
      obtain ⟨plainRest, separate⟩ := ih tail others fun other member =>
        good other (List.mem_cons_of_mem _ member)
      refine ⟨List.forall_mem_cons.mpr ⟨plain, plainRest⟩, ?_⟩
      rw [apart, clash, swallow, separate]
      rfl

end Chunk

end TypedRows.Sql
