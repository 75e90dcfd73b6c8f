import TypedRows.Proofs.ChunkPrinting
import TypedRows.Proofs.Trimming

/-! When the text of a statement is read as the statement. -/

namespace TypedRows.Sql.Chunk

open Lexeme (Read Reads)

def weight (lexemes : List Lexeme) : Nat := ((kinds lexemes).map Kind.weight).sum

variable {cs after : List Char} {lexemes : List Lexeme}

theorem weight_cons (lexeme : Lexeme) (rest : List Lexeme) :
    weight (lexeme :: rest) = lexeme.kind.weight + weight rest := by
  cases sig : lexeme.isTrivia with
  | true => rw [weight, kinds_trivia sig, Lexeme.weight_trivia sig, Nat.zero_add, weight]
  | false => rw [weight, kinds_sig sig, List.map_cons, List.sum_cons, weight]

theorem weight_charsFrom (h : Reads cs lexemes after) (spaced : Bool) :
    Token.weight (charsFrom spaced lexemes) = weight lexemes := by
  induction h generalizing spaced with
  | nil => rfl
  | @cons cs mid after lexeme rest h next ih =>
    rw [weight_cons]
    cases comment : lexeme.isComment with
    | true =>
      have trivia : lexeme.isTrivia = true := by
        unfold Lexeme.isComment at comment
        unfold Lexeme.isTrivia Kind.isTrivia
        split at comment <;> simp_all
      rw [charsFrom_comment comment, Lexeme.weight_trivia trivia]
      cases spaced with
      | true => rw [if_pos rfl, ih, Nat.zero_add]
      | false => rw [if_neg Bool.false_ne_true, Token.weight_cons, ih, Token.charWeight_blank (by decide)]
    | false => rw [charsFrom_cons h comment, Token.weight_append, h.weight_text comment, ih]

/-- Lexemes weigh no more than what they were read from, and the same only if they are plain and
none is a comment. -/
theorem weight_le_of_reads (h : Reads cs lexemes after) :
    weight lexemes + Token.weight after ≤ Token.weight cs ∧
      (weight lexemes + Token.weight after = Token.weight cs →
        ∀ lexeme ∈ lexemes, lexeme.plain = true ∧ lexeme.isComment = false) := by
  induction h with
  | nil => exact ⟨Nat.le_of_eq (Nat.zero_add _), fun _ => List.forall_mem_nil _⟩
  | cons h next ih =>
    obtain ⟨le, good⟩ := h.weight_le
    obtain ⟨le', good'⟩ := ih
    rw [weight_cons]
    exact ⟨by omega, fun same => List.forall_mem_cons.mpr ⟨good (by omega), good' (by omega)⟩⟩

/-- The lexemes from the first significant one to the last, between blanks and comments. -/
structure Core (chunk lead core trail : List Lexeme) (first last : Lexeme) : Prop where
  parts : chunk = lead ++ (core ++ trail)
  lead : ∀ lexeme ∈ lead, lexeme.isTrivia = true
  trail : ∀ lexeme ∈ trail, lexeme.isTrivia = true
  starts : ∃ more, core = first :: more
  ends : ∃ more, core = more ++ [last]
  sigFirst : first.isTrivia = false
  sigLast : last.isTrivia = false

theorem exists_first {chunk : List Lexeme} (some : ∃ lexeme ∈ chunk, lexeme.isTrivia = false) :
    ∃ lead first more, chunk = lead ++ first :: more ∧ first.isTrivia = false ∧
      ∀ lexeme ∈ lead, lexeme.isTrivia = true := by
  induction chunk with
  | nil =>
    obtain ⟨_, member, _⟩ := some
    cases member
  | cons lexeme chunk ih =>
    cases sig : lexeme.isTrivia with
    | false => exact ⟨[], lexeme, chunk, rfl, sig, List.forall_mem_nil _⟩
    | true =>
      obtain ⟨other, member, h⟩ := some
      cases member with
      | head => cases sig.symm.trans h
      | tail _ member =>
        obtain ⟨lead, first, more, rfl, hf, all⟩ := ih ⟨other, member, h⟩
        exact ⟨lexeme :: lead, first, more, rfl, hf, List.forall_mem_cons.mpr ⟨sig, all⟩⟩

theorem exists_core {chunk : Chunk} (h : chunk.hasContent = true) :
    ∃ lead core trail first last, Core chunk lead core trail first last := by
  obtain ⟨lexeme, member, sig⟩ := List.any_eq_true.mp h
  rw [Bool.not_eq_true'] at sig
  obtain ⟨lead, first, more, rfl, hf, hlead⟩ := exists_first ⟨lexeme, member, sig⟩
  have inside : first ∈ (first :: more).reverse := List.mem_reverse.mpr List.mem_cons_self
  obtain ⟨trail, last, before, same, hl, htrail⟩ := exists_first ⟨first, inside, hf⟩
  have split : first :: more = (before.reverse ++ [last]) ++ trail.reverse := by
    rw [← List.reverse_reverse (first :: more), same]
    simp
  refine ⟨lead, before.reverse ++ [last], trail.reverse, first, last, by rw [split], hlead, ?_, ?_,
    ⟨_, rfl⟩, hf, hl⟩
  · exact fun lexeme member => htrail lexeme (List.mem_reverse.mp member)
  · cases hb : before.reverse with
    | nil =>
      rw [hb] at split
      exact ⟨[], by rw [(List.cons.inj split).1]; rfl⟩
    | cons second rest =>
      rw [hb] at split
      exact ⟨rest ++ [last], by rw [(List.cons.inj split).1]; rfl⟩

/-- Blanks and comments are printed as blanks. -/
theorem charsFrom_trivia (h : Reads cs lexemes after)
    (trivia : ∀ lexeme ∈ lexemes, lexeme.isTrivia = true) (spaced : Bool) :
    ∀ c ∈ charsFrom spaced lexemes, c ∈ Token.blanks := by
  induction h generalizing spaced with
  | nil => exact List.forall_mem_nil _
  | @cons cs mid after lexeme rest h next ih =>
    obtain ⟨sig, others⟩ := List.forall_mem_cons.mp trivia
    obtain comment | ⟨space, printed⟩ := isTrivia_cases sig
    · rw [charsFrom_comment comment]
      cases spaced with
      | true => exact ih others true
      | false => exact List.forall_mem_cons.mpr ⟨by decide, ih others true⟩
    · rw [charsFrom_cons h printed]
      obtain ⟨_, c, blank, text⟩ := h.space_again space []
      rw [text]
      exact List.forall_mem_cons.mpr ⟨blank, ih others _⟩

theorem charsFrom_lead {lead : List Lexeme} (h : Reads cs (lead ++ lexemes) after)
    (trivia : ∀ lexeme ∈ lead, lexeme.isTrivia = true) :
    ∃ first, (∀ c ∈ first, c ∈ Token.blanks) ∧
      charsFrom true (lead ++ lexemes) = first ++ charsFrom true lexemes := by
  induction lead generalizing cs with
  | nil => exact ⟨[], List.forall_mem_nil _, rfl⟩
  | cons lexeme lead ih =>
    obtain ⟨sig, others⟩ := List.forall_mem_cons.mp trivia
    rw [List.cons_append] at h ⊢
    cases h with
    | cons h next =>
      obtain ⟨first, blank, same⟩ := ih next others
      obtain comment | ⟨space, printed⟩ := isTrivia_cases sig
      · exact ⟨first, blank, by rw [charsFrom_comment comment, if_pos rfl, same]⟩
      · obtain ⟨_, c, hc, text⟩ := h.space_again space []
        refine ⟨c :: first, List.forall_mem_cons.mpr ⟨hc, blank⟩, ?_⟩
        rw [charsFrom_cons h printed, endsBlank_space h space, same, text]
        rfl

theorem charsFrom_trail {core trail : List Lexeme} (h : Reads cs (core ++ trail) after)
    (trivia : ∀ lexeme ∈ trail, lexeme.isTrivia = true) (spaced : Bool) :
    ∃ last, (∀ c ∈ last, c ∈ Token.blanks) ∧
      charsFrom spaced (core ++ trail) = charsFrom spaced core ++ last := by
  induction core generalizing cs spaced with
  | nil => exact ⟨_, charsFrom_trivia h trivia spaced, rfl⟩
  | cons lexeme core ih =>
    rw [List.cons_append] at h ⊢
    cases h with
    | cons h next =>
      cases comment : lexeme.isComment with
      | true =>
        obtain ⟨last, blank, same⟩ := ih next true
        refine ⟨last, blank, ?_⟩
        rw [charsFrom_comment comment, charsFrom_comment comment, same]
        cases spaced <;> rfl
      | false =>
        obtain ⟨last, blank, same⟩ := ih next lexeme.endsBlank
        refine ⟨last, blank, ?_⟩
        rw [charsFrom_cons h comment, charsFrom_cons h comment, same, List.append_assoc]

theorem charsFrom_last {core : List Lexeme} {last : Lexeme} (h : Reads cs (core ++ [last]) after)
    (sig : last.isTrivia = false) (spaced : Bool) :
    ∃ before, charsFrom spaced (core ++ [last]) = before ++ last.text.toList := by
  induction core generalizing cs spaced with
  | nil =>
    cases h with
    | cons h next =>
      refine ⟨[], ?_⟩
      rw [List.nil_append, charsFrom_cons h (Lexeme.isComment_of_sig sig), charsFrom, List.append_nil]
      rfl
  | cons lexeme core ih =>
    rw [List.cons_append] at h ⊢
    cases h with
    | cons h next =>
      cases comment : lexeme.isComment with
      | true =>
        obtain ⟨before, same⟩ := ih next true
        rw [charsFrom_comment comment, same]
        cases spaced with
        | true => exact ⟨before, rfl⟩
        | false => exact ⟨' ' :: before, rfl⟩
      | false =>
        obtain ⟨before, same⟩ := ih next lexeme.endsBlank
        exact ⟨lexeme.text.toList ++ before,
          by rw [charsFrom_cons h comment, same, List.append_assoc]⟩

theorem significant_trivia (trivia : ∀ lexeme ∈ lexemes, lexeme.isTrivia = true) :
    significant lexemes = [] := by
  refine List.filter_eq_nil_iff.mpr fun lexeme member => ?_
  rw [trivia lexeme member]
  exact Bool.false_ne_true

theorem apart_lead {lead : List Lexeme} (trivia : ∀ lexeme ∈ lead, lexeme.isTrivia = true) :
    apart (lead ++ lexemes) = apart lexemes := by
  induction lead with
  | nil => rfl
  | cons lexeme lead ih =>
    obtain ⟨sig, others⟩ := List.forall_mem_cons.mp trivia
    rw [List.cons_append, apart_trivia sig, ih others]

theorem swallows_blank {lexeme : Lexeme} (next : Reads cs lexemes after)
    (blank : ∀ c ∈ charsFrom true lexemes, c ∈ Token.blanks) : lexeme.swallows lexemes = false := by
  rw [Bool.eq_false_iff]
  intro swallow
  simp only [Lexeme.swallows, Bool.and_eq_true, Option.any_eq_true] at swallow
  obtain ⟨_, first, found, d, head, part⟩ := swallow
  have printed := head_charsFrom_spaced next
  rw [found] at printed
  have all : ∀ c ∈ Token.blanks, Token.isNamePart c = false := forall_mem_of_all (by decide)
  refine Bool.eq_false_iff.mp (all d (blank d ?_)) part
  exact List.mem_of_mem_head? (printed.trans head)

/-- Nothing runs into the blanks and comments at the end. -/
theorem apart_trail {core trail : List Lexeme} {last : Lexeme}
    (h : Reads cs (core ++ last :: trail) after) (sig : last.isTrivia = false)
    (trivia : ∀ lexeme ∈ trail, lexeme.isTrivia = true) :
    apart (core ++ last :: trail) = apart (core ++ [last]) := by
  induction core generalizing cs with
  | nil =>
    have clash : trail.head?.any last.clashes = false := by
      cases trail with
      | nil => rfl
      | cons next trail => exact (clashes_trivia (trivia next List.mem_cons_self) last).2
    have swallow : last.swallows trail = false := by
      cases h with
      | cons h next => exact swallows_blank next (charsFrom_trivia next trivia true)
    have alone : apart [last] = true := by simp [apart, Lexeme.swallows]
    have rest := @apart_lead [] trail trivia
    rw [List.append_nil] at rest
    rw [List.nil_append, List.nil_append, alone, apart, clash, swallow, rest]
    rfl
  | cons lexeme core ih =>
    have head : (core ++ last :: trail).head? = (core ++ [last]).head? := by
      cases core <;> rfl
    have found : (core ++ last :: trail).find? (fun next => !next.isComment) =
        (core ++ [last]).find? fun next => !next.isComment := by
      have printed := Lexeme.isComment_of_sig sig
      rw [List.find?_append, List.find?_append, List.find?_cons, List.find?_cons, printed]
      rfl
    cases h with
    | cons h next =>
      rw [List.cons_append, List.cons_append, apart, apart, head, Lexeme.swallows, found, ih next,
        Lexeme.swallows]

/-- The text of the statement is read as the statement: each of its lexemes can be read as it
stands, none runs into the next one, and no blank of a name is lost at the ends. -/
def faithful (chunk : Chunk) : Bool :=
  chunk.all Lexeme.plain && apart chunk && !(significant chunk).head?.any Lexeme.startsBlank &&
    !(significant chunk).getLast?.any Lexeme.endsBlank

section Core

variable {chunk lead core trail : List Lexeme} {first last : Lexeme}

theorem Core.significant_eq (h : Core chunk lead core trail first last) :
    significant chunk = significant core := by
  rw [h.parts, significant, List.filter_append, List.filter_append]
  have none := significant_trivia h.lead
  have none' := significant_trivia h.trail
  unfold significant at none none' ⊢
  rw [none, none', List.nil_append, List.append_nil]

theorem Core.kinds_eq (h : Core chunk lead core trail first last) : kinds chunk = kinds core := by
  rw [kinds, h.significant_eq, kinds]

theorem Core.faithful_iff (h : Core chunk lead core trail first last) (reads : Reads cs chunk after) :
    faithful chunk = true ↔ (∀ lexeme ∈ core, lexeme.plain = true) ∧ apart core = true ∧
      first.startsBlank = false ∧ last.endsBlank = false := by
  have plain : (chunk.all Lexeme.plain = true) ↔ ∀ lexeme ∈ core, lexeme.plain = true := by
    rw [List.all_eq_true, h.parts]
    constructor
    · exact fun all lexeme member => all lexeme (by simp [member])
    · intro all lexeme member
      rcases List.mem_append.mp member with member | member
      · exact plain_trivia (h.lead lexeme member)
      · rcases List.mem_append.mp member with member | member
        · exact all lexeme member
        · exact plain_trivia (h.trail lexeme member)
  have separate : apart chunk = apart core := by
    obtain ⟨more, same⟩ := h.ends
    rw [h.parts] at reads
    obtain ⟨_, _, reads⟩ := reads.append
    rw [h.parts, apart_lead h.lead, same, List.append_assoc]
    rw [same, List.append_assoc] at reads
    exact apart_trail reads h.sigLast h.trail
  have head : (significant chunk).head? = some first := by
    obtain ⟨more, same⟩ := h.starts
    rw [h.significant_eq, same, significant, List.filter_cons, h.sigFirst]
    rfl
  have final : (significant chunk).getLast? = some last := by
    obtain ⟨more, same⟩ := h.ends
    rw [h.significant_eq, same, significant, List.filter_append, List.filter_cons, h.sigLast]
    simp
  rw [faithful, head, final, separate]
  simp only [Bool.and_eq_true, Bool.not_eq_true', Option.any_some, plain, and_assoc]

theorem Core.reads (h : Core chunk lead core trail first last) (reads : Reads cs chunk after) :
    ∃ cs after, Reads cs core after := by
  rw [h.parts] at reads
  obtain ⟨_, _, reads⟩ := reads.append
  obtain ⟨_, reads, _⟩ := reads.append
  exact ⟨_, _, reads⟩

theorem blank_of_mem_blanks {cs : List Char} (h : ∀ c ∈ cs, c ∈ Token.blanks) :
    ∀ c ∈ cs, Text.isBlank c = true := by
  have all : ∀ c ∈ Token.blanks, Text.isBlank c = true := forall_mem_of_all (by decide)
  exact fun c member => all c (h c member)

theorem Core.trimmed (h : Core chunk lead core trail first last) (reads : Reads cs chunk after) :
    Text.trimChars (charsFrom true chunk) = Text.trimChars (charsFrom true core) := by
  rw [h.parts] at reads ⊢
  obtain ⟨start, blank, same⟩ := charsFrom_lead reads h.lead
  obtain ⟨_, _, reads⟩ := reads.append
  obtain ⟨tail, blank', same'⟩ := charsFrom_trail reads h.trail true
  rw [same, same', Text.trimChars_append_left _ (blank_of_mem_blanks blank),
    Text.trimChars_append_right _ (blank_of_mem_blanks blank')]

/-- The first and the last printed character are those of the first and the last lexeme. -/
theorem Core.chars (h : Core chunk lead core trail first last) (reads : Reads cs core after) :
    (∃ c more, first.text.toList.head? = some c ∧ c ∉ Token.blanks ∧
      charsFrom true core = c :: more) ∧
    ∃ c more, last.text.toList.getLast? = some c ∧ c ∉ Token.blanks ∧
      charsFrom true core = more ++ [c] := by
  constructor
  · obtain ⟨more, rfl⟩ := h.starts
    cases reads with
    | cons read next =>
      obtain ⟨c, text, same, noBlank⟩ := read.text_start h.sigFirst
      rw [charsFrom_cons read (Lexeme.isComment_of_sig h.sigFirst), same]
      exact ⟨c, _, rfl, noBlank, rfl⟩
  · obtain ⟨more, rfl⟩ := h.ends
    obtain ⟨before, printed⟩ := charsFrom_last reads h.sigLast true
    obtain ⟨_, _, final⟩ := reads.append
    cases final with
    | cons read next =>
      obtain ⟨d, text, same, _⟩ := read.text_start h.sigLast
      have some : last.text.toList ≠ [] := by
        rw [same]
        exact List.cons_ne_nil _ _
      have ends := List.getLast?_eq_some_getLast some
      refine ⟨last.text.toList.getLast some, before ++ last.text.toList.dropLast, ends,
        read.text_end h.sigLast ends, ?_⟩
      rw [printed, List.append_assoc, List.dropLast_concat_getLast]

theorem charWeight_of_blank {c : Char} (blank : Text.isBlank c = true) (other : c ∉ Token.blanks) :
    0 < Token.charWeight c := by
  refine Token.charWeight_pos fun member => ?_
  cases member with
  | head => cases blank
  | tail _ member => exact other member

theorem weight_trimChars_le (cs : List Char) : Token.weight (Text.trimChars cs) ≤ Token.weight cs :=
  Token.weight_le_of_sublist (Text.trimChars_sublist cs)

/-- Whatever a trim takes from the ends of the lexemes is missed. -/
theorem Core.solid_of_weight (h : Core chunk lead core trail first last)
    (reads : Reads cs core after)
    (kept : Token.weight (charsFrom true core) ≤
      Token.weight (Text.trimChars (charsFrom true core))) :
    first.startsBlank = false ∧ last.endsBlank = false := by
  obtain ⟨⟨c, more, head, noBlank, same⟩, d, before, final, noBlank', same'⟩ := h.chars reads
  constructor
  · rw [Lexeme.startsBlank, head, Option.any_some, Bool.eq_false_iff]
    intro blank
    have lost := weight_trimChars_le more
    have some := charWeight_of_blank blank noBlank
    have trimmed := Text.trimChars_append_left more (List.forall_mem_singleton.mpr blank)
    rw [same, show c :: more = [c] ++ more from rfl, trimmed, Token.weight_append,
      Token.weight_cons] at kept
    omega
  · rw [Lexeme.endsBlank, final, Option.any_some, Bool.eq_false_iff]
    intro blank
    have lost := weight_trimChars_le before
    have some := charWeight_of_blank blank noBlank'
    have trimmed := Text.trimChars_append_right before (List.forall_mem_singleton.mpr blank)
    rw [same', trimmed, Token.weight_append, Token.weight_cons] at kept
    omega

theorem Core.solid (h : Core chunk lead core trail first last) (reads : Reads cs core after)
    (start : first.startsBlank = false) (final : last.endsBlank = false) :
    Text.trimChars (charsFrom true core) = charsFrom true core := by
  obtain ⟨⟨c, more, head, _, same⟩, d, before, tail, _, same'⟩ := h.chars reads
  rw [Lexeme.startsBlank, head, Option.any_some] at start
  rw [Lexeme.endsBlank, tail, Option.any_some] at final
  refine Text.trimChars_of_solid ?_ ?_
  · rw [same]
    intro e h
    cases h
    exact start
  · rw [same', List.getLast?_concat]
    intro e h
    cases h
    exact final

theorem Core.reads_iff (h : Core chunk lead core trail first last) (reads : Reads cs chunk after) :
    (∃ again, Reads (Text.trimChars (charsFrom true chunk)) again [] ∧ kinds again = kinds chunk) ↔
      faithful chunk = true := by
  obtain ⟨_, _, inner⟩ := h.reads reads
  rw [h.faithful_iff reads, h.trimmed reads, h.kinds_eq]
  constructor
  · rintro ⟨again, readsAgain, same⟩
    -- nothing is lost on the way, since the kinds and with them the weights are the same
    obtain ⟨le, good⟩ := weight_le_of_reads readsAgain
    have lighter := weight_trimChars_le (charsFrom true core)
    have printed := weight_charsFrom inner true
    rw [weight, same, ← weight, ← printed, Token.weight_nil] at le good
    obtain ⟨start, final⟩ := h.solid_of_weight inner (by omega)
    rw [h.solid inner start final] at readsAgain
    obtain ⟨plain, separate⟩ := plain_of_reads inner readsAgain same (good (by omega))
    exact ⟨plain, separate, start, final⟩
  · rintro ⟨plain, separate, start, final⟩
    rw [h.solid inner start final]
    exact reads_charsFrom inner plain separate true

end Core

theorem splitFrom_infix {acc rest : List Lexeme} {lead : Lead} {depth : Depth} {chunk : Chunk}
    (h : chunk ∈ splitFrom acc lead depth rest) :
    ∃ before after, acc.reverse ++ rest = before ++ (chunk ++ after) := by
  induction rest generalizing acc lead depth with
  | nil =>
    cases List.mem_singleton.mp h
    exact ⟨[], [], by simp⟩
  | cons lexeme rest ih =>
    have go {lead : Lead} {depth : Depth} (h : chunk ∈ splitFrom (lexeme :: acc) lead depth rest) :
        ∃ before after, acc.reverse ++ lexeme :: rest = before ++ (chunk ++ after) := by
      obtain ⟨before, after, same⟩ := ih h
      exact ⟨before, after, by rw [← same]; simp⟩
    rw [splitFrom] at h
    split at h
    · exact go h
    · dsimp only at h
      generalize (if lead = .trigger then depth.step (keyword? lexeme) else depth) = deep at h
      split at h
      · cases h with
        | head => exact ⟨[], lexeme :: rest, rfl⟩
        | tail _ member =>
          obtain ⟨before, after, same⟩ := ih member
          refine ⟨acc.reverse ++ lexeme :: before, after, ?_⟩
          rw [List.append_assoc, List.cons_append, ← same]
          rfl
      · exact go h

/-- The text of a statement without its comments is read as the significant lexemes of the
statement, kinds and values, exactly when the statement is faithful. -/
theorem scan_render_iff {sql : String} {lexemes : List Lexeme} {chunk : Chunk}
    (h : Lexeme.scan sql = .ok lexemes) (member : chunk ∈ split lexemes) :
    (∃ again, Lexeme.scan chunk.render = .ok again ∧ kinds again = kinds chunk) ↔
      faithful chunk = true := by
  obtain ⟨member, content⟩ := List.mem_filter.mp member
  obtain ⟨before, after, same⟩ := splitFrom_infix member
  have reads := Lexeme.scan_eq_ok.mp h
  rw [show lexemes = before ++ (chunk ++ after) from same] at reads
  obtain ⟨_, _, reads⟩ := reads.append
  obtain ⟨_, reads, _⟩ := reads.append
  obtain ⟨lead, core, trail, first, last, parts⟩ := exists_core content
  rw [← parts.reads_iff reads]
  simp only [Lexeme.scan_eq_ok, render, String.toList_ofList]

/-- A query with a doubled quote in a string. -/
def doubledQuote : List Lexeme :=
  [⟨.word "SELECT" false, "SELECT"⟩, ⟨.space, " "⟩, ⟨.string "it's", "'it's'"⟩]

theorem scan_doubledQuote : Lexeme.scan "SELECT 'it''s'" = .ok doubledQuote := by
  have word : Token.next 'S' "ELECT 'it''s'".toList =
      .ok (.word "SELECT" none, " 'it''s'".toList) := by rfl
  have blank : Token.next ' ' "'it''s'".toList = .ok (.space, "'it''s'".toList) := by rfl
  have string : Token.next '\'' "it''s'".toList = .ok (.string "it's", []) := by rfl
  exact Lexeme.scan_eq_ok.mpr (.cons (.token (Token.read_of_next word) nofun)
    (.cons (.token (Token.read_of_next blank) nofun)
      (.cons (.token (Token.read_of_next string) nofun) .nil)))

/-- The quote is printed once, so that the string is read as ended by it. -/
theorem scan_render_doubledQuote :
    Lexeme.scan "SELECT 'it''s'" = .ok doubledQuote ∧ doubledQuote ∈ split doubledQuote ∧
      ¬∃ again, Lexeme.scan (render doubledQuote) = .ok again ∧
        kinds again = kinds doubledQuote := by
  have member : doubledQuote ∈ split doubledQuote := by decide
  refine ⟨scan_doubledQuote, member, ?_⟩
  rw [scan_render_iff scan_doubledQuote member]
  decide

end TypedRows.Sql.Chunk
