import TypedRows.Proofs.ChunkPrinting

/-! Cutting a file into statements undoes joining them with semicolons. Of any file nothing is lost
by it but the semicolons between statements, and blanks and comments that stand alone. -/

namespace TypedRows.Sql.Chunk

/-- What a word in the body of a trigger has opened. -/
inductive Opening where
  | block
  | choice
  deriving DecidableEq

/-- The lexemes close what they open and all that is open before them, innermost first: an `END`
closes the innermost, no `BEGIN` stands within a `CASE`, and every semicolon within a block. -/
inductive Nested : List Opening → List Lexeme → Prop where
  | nil : Nested [] []
  | block {opened : List Opening} {lexeme : Lexeme} {rest : List Lexeme}
      (word : keyword? lexeme = some "BEGIN") (outside : .choice ∉ opened)
      (inner : Nested (.block :: opened) rest) : Nested opened (lexeme :: rest)
  | choice {opened : List Opening} {lexeme : Lexeme} {rest : List Lexeme}
      (word : keyword? lexeme = some "CASE") (inner : Nested (.choice :: opened) rest) :
      Nested opened (lexeme :: rest)
  | close {first : Opening} {opened : List Opening} {lexeme : Lexeme} {rest : List Lexeme}
      (word : keyword? lexeme = some "END") (after : Nested opened rest) :
      Nested (first :: opened) (lexeme :: rest)
  | semicolon {opened : List Opening} {lexeme : Lexeme} {rest : List Lexeme}
      (mark : lexeme.kind = .semicolon) (inside : .block ∈ opened) (after : Nested opened rest) :
      Nested opened (lexeme :: rest)
  | other {opened : List Opening} {lexeme : Lexeme} {rest : List Lexeme}
      (mark : lexeme.kind ≠ .semicolon)
      (word : ∀ w ∈ keyword? lexeme, w ∉ ["BEGIN", "CASE", "END"]) (after : Nested opened rest) :
      Nested opened (lexeme :: rest)

/-- The unquoted words among the significant lexemes, in upper case. -/
def keywords (chunk : Chunk) : List (Option String) := (significant chunk).map keyword?

/-- The first words are `CREATE TRIGGER`, with any number of `TEMP` and `TEMPORARY` between. -/
def IsTrigger (chunk : Chunk) : Prop :=
  ∃ between rest, keywords chunk = some "CREATE" :: (between ++ some "TRIGGER" :: rest) ∧
    ∀ word ∈ between, word = some "TEMP" ∨ word = some "TEMPORARY"

/-- A statement that stands by itself: a trigger whose body is well nested, or anything else
without semicolons. -/
structure Whole (chunk : Chunk) : Prop where
  content : hasContent chunk = true
  body : IsTrigger chunk ∧ Nested [] chunk ∨
    ¬IsTrigger chunk ∧ ∀ lexeme ∈ chunk, lexeme.kind ≠ .semicolon

/-- The lexemes are those of the pieces, with a semicolon between each two. -/
inductive Joined : List Chunk → List Lexeme → Prop where
  | nil : Joined [] []
  | last (piece : Chunk) : Joined [piece] piece
  | more {piece next : Chunk} {pieces : List Chunk} {mark : Lexeme} {rest : List Lexeme}
      (semicolon : mark.kind = .semicolon) (joined : Joined (next :: pieces) rest) :
      Joined (piece :: next :: pieces) (piece ++ mark :: rest)

/-- What may follow the last statement: nothing, or a semicolon and then blanks and comments. -/
inductive Ending : List Lexeme → Prop where
  | nothing : Ending []
  | semicolon {mark : Lexeme} {blank : List Lexeme} (semicolon : mark.kind = .semicolon)
      (trivia : ∀ lexeme ∈ blank, lexeme.isTrivia = true) : Ending (mark :: blank)

/-! What the first words show. -/

def leadAfter (lead : Lead) (chunk : Chunk) : Lead := (keywords chunk).foldl Lead.step lead

section Lead

variable {lead : Lead} {lexeme : Lexeme} {rest : List Lexeme}

theorem leadAfter_trivia (trivia : lexeme.isTrivia = true) :
    leadAfter lead (lexeme :: rest) = leadAfter lead rest := by
  simp [leadAfter, keywords, significant, trivia]

theorem leadAfter_sig (sig : lexeme.isTrivia = false) :
    leadAfter lead (lexeme :: rest) = leadAfter (lead.step (keyword? lexeme)) rest := by
  simp [leadAfter, keywords, significant, sig]

theorem foldl_other (words : List (Option String)) : words.foldl Lead.step .other = .other := by
  induction words with
  | nil => rfl
  | cons word rest ih => exact ih

theorem foldl_trigger (words : List (Option String)) :
    words.foldl Lead.step .trigger = .trigger := by
  induction words with
  | nil => rfl
  | cons word rest ih => exact ih

theorem step_start_of_ne {word : Option String} (other : word ≠ some "CREATE") :
    Lead.step .start word = .other := by
  unfold Lead.step
  split <;> simp_all

theorem step_create_of_ne {word : Option String} (temp : word ≠ some "TEMP")
    (temporary : word ≠ some "TEMPORARY") (trigger : word ≠ some "TRIGGER") :
    Lead.step .create word = .other := by
  unfold Lead.step
  split <;> simp_all

theorem foldl_create_iff (words : List (Option String)) :
    words.foldl Lead.step .create = .trigger ↔
      ∃ between rest, words = between ++ some "TRIGGER" :: rest ∧
        ∀ word ∈ between, word = some "TEMP" ∨ word = some "TEMPORARY" := by
  induction words with
  | nil => simp
  | cons word rest ih =>
    rw [List.foldl_cons]
    by_cases trigger : word = some "TRIGGER"
    · have ends : (rest.foldl Lead.step .trigger) = .trigger := foldl_trigger rest
      rw [trigger]
      exact iff_of_true ends ⟨[], rest, rfl, by simp⟩
    by_cases temp : word = some "TEMP" ∨ word = some "TEMPORARY"
    · have still : Lead.step .create word = .create := by
        rcases temp with rfl | rfl <;> rfl
      rw [still, ih]
      constructor
      · rintro ⟨between, after, rfl, all⟩
        exact ⟨word :: between, after, rfl, List.forall_mem_cons.mpr ⟨temp, all⟩⟩
      · rintro ⟨between, after, same, all⟩
        cases between with
        | nil => exact absurd (List.cons.inj same).1 trigger
        | cons first between =>
          obtain ⟨rfl, rfl⟩ := List.cons.inj same
          exact ⟨between, after, rfl, (List.forall_mem_cons.mp all).2⟩
    · rw [not_or] at temp
      rw [step_create_of_ne temp.1 temp.2 trigger, foldl_other]
      refine iff_of_false nofun ?_
      rintro ⟨between, after, same, all⟩
      cases between with
      | nil => exact trigger (List.cons.inj same).1
      | cons first between =>
        obtain ⟨rfl, rfl⟩ := List.cons.inj same
        exact not_or.mpr temp (List.forall_mem_cons.mp all).1

theorem isTrigger_iff (chunk : Chunk) : IsTrigger chunk ↔ leadAfter .start chunk = .trigger := by
  rw [IsTrigger, leadAfter]
  cases keywords chunk with
  | nil => simp
  | cons word rest =>
    rw [List.foldl_cons]
    by_cases create : word = some "CREATE"
    · rw [create]
      change _ ↔ rest.foldl Lead.step .create = .trigger
      rw [foldl_create_iff]
      simp only [List.cons.injEq, true_and]
    · rw [step_start_of_ne create, foldl_other]
      refine iff_of_false ?_ nofun
      rintro ⟨between, after, same, _⟩
      exact create (List.cons.inj same).1

/-- Before the word `TRIGGER` there is nothing that opens or closes. -/
theorem keyword_of_lead (sig : lexeme.isTrivia = false) (early : lead ≠ .trigger)
    (ends : leadAfter lead (lexeme :: rest) = .trigger) :
    ∃ word, keyword? lexeme = some word ∧ word ∈ ["CREATE", "TEMP", "TEMPORARY", "TRIGGER"] := by
  rw [leadAfter_sig sig] at ends
  have open' : lead.step (keyword? lexeme) ≠ .other := by
    intro other
    rw [other, leadAfter, foldl_other] at ends
    cases ends
  unfold Lead.step at open'
  split at open' <;> simp_all

end Lead

/-! Running over a statement. -/

section Run

variable {acc rest : List Lexeme} {lead : Lead} {depth : Depth} {lexeme : Lexeme}

theorem splitFrom_trivia (trivia : lexeme.isTrivia = true) :
    splitFrom acc lead depth (lexeme :: rest) = splitFrom (lexeme :: acc) lead depth rest := by
  rw [splitFrom, if_pos trivia]

/-- Before the word `TRIGGER` only semicolons cut. -/
theorem splitFrom_early (sig : lexeme.isTrivia = false) (mark : lexeme.kind ≠ .semicolon)
    (early : lead ≠ .trigger) : splitFrom acc lead depth (lexeme :: rest) =
      splitFrom (lexeme :: acc) (lead.step (keyword? lexeme)) depth rest := by
  simp [splitFrom, sig, mark, early]

theorem splitFrom_late (sig : lexeme.isTrivia = false)
    (kept : lexeme.kind ≠ .semicolon ∨ (depth.step (keyword? lexeme)).blocks ≠ 0) :
    splitFrom acc .trigger depth (lexeme :: rest) =
      splitFrom (lexeme :: acc) .trigger (depth.step (keyword? lexeme)) rest := by
  have kept' : ¬(lexeme.kind = .semicolon ∧ (depth.step (keyword? lexeme)).blocks = 0) := by
    rw [not_and_or]
    exact kept
  simp [splitFrom, sig, kept', Lead.step]

theorem keyword?_semicolon (mark : lexeme.kind = .semicolon) : keyword? lexeme = none := by
  rw [keyword?, mark]

theorem sig_of_semicolon (mark : lexeme.kind = .semicolon) : lexeme.isTrivia = false := by
  rw [Lexeme.isTrivia, mark]
  rfl

theorem sig_of_keyword {word : String} (h : keyword? lexeme = some word) :
    lexeme.isTrivia = false ∧ lexeme.kind ≠ .semicolon := by
  unfold keyword? at h
  unfold Lexeme.isTrivia
  split at h
  · rename_i kind
    rw [kind]
    exact ⟨rfl, nofun⟩
  · cases h

/-- Outside blocks a semicolon ends the statement. -/
theorem splitFrom_semicolon (mark : lexeme.kind = .semicolon) :
    splitFrom acc lead ⟨0, 0⟩ (lexeme :: rest) =
      acc.reverse :: splitFrom [] .start ⟨0, 0⟩ rest := by
  have still : Depth.step ⟨0, 0⟩ (keyword? lexeme) = ⟨0, 0⟩ := by
    rw [keyword?_semicolon mark]
    rfl
  simp [splitFrom, sig_of_semicolon mark, mark, still]

/-- Without semicolons and without a body nothing is cut. -/
theorem splitFrom_plain {piece : Chunk} (plain : ∀ lexeme ∈ piece, lexeme.kind ≠ .semicolon)
    (ends : leadAfter lead piece ≠ .trigger) : splitFrom acc lead depth (piece ++ rest) =
      splitFrom (piece.reverse ++ acc) (leadAfter lead piece) depth rest := by
  induction piece generalizing acc lead with
  | nil => rfl
  | cons lexeme piece ih =>
    obtain ⟨mark, plain⟩ := List.forall_mem_cons.mp plain
    rw [List.reverse_cons, List.append_assoc, List.cons_append, List.singleton_append]
    cases trivia : lexeme.isTrivia with
    | true =>
      rw [leadAfter_trivia trivia] at ends ⊢
      rw [splitFrom_trivia trivia, ih plain ends]
    | false =>
      have early : lead ≠ .trigger := by
        rintro rfl
        exact ends (foldl_trigger _)
      rw [leadAfter_sig trivia] at ends ⊢
      rw [splitFrom_early trivia mark early, ih plain ends]

/-- What is open, as the two depths count it: choices within blocks. -/
def Opening.ofDepth (depth : Depth) : List Opening :=
  List.replicate depth.cases .choice ++ List.replicate depth.blocks .block

theorem mem_ofDepth_block (depth : Depth) : .block ∈ Opening.ofDepth depth ↔ depth.blocks ≠ 0 := by
  simp [Opening.ofDepth]

theorem mem_ofDepth_choice (depth : Depth) :
    .choice ∈ Opening.ofDepth depth ↔ depth.cases ≠ 0 := by
  simp [Opening.ofDepth]

theorem ofDepth_block {depth : Depth} (outside : .choice ∉ Opening.ofDepth depth) :
    .block :: Opening.ofDepth depth = Opening.ofDepth (depth.step (some "BEGIN")) := by
  rw [mem_ofDepth_choice, not_not] at outside
  simp [Opening.ofDepth, Depth.step, outside, List.replicate_succ]

theorem ofDepth_choice (depth : Depth) :
    .choice :: Opening.ofDepth depth = Opening.ofDepth (depth.step (some "CASE")) := by
  simp [Opening.ofDepth, Depth.step, List.replicate_succ]

theorem ofDepth_close {first : Opening} {opened : List Opening} {depth : Depth}
    (same : first :: opened = Opening.ofDepth depth) :
    opened = Opening.ofDepth (depth.step (some "END")) := by
  obtain ⟨blocks, cases⟩ := depth
  cases cases with
  | succ cases =>
    simp only [Opening.ofDepth, List.replicate_succ, List.cons_append, List.cons.injEq] at same
    simp [Opening.ofDepth, Depth.step, same.2]
  | zero =>
    cases blocks with
    | zero => cases same
    | succ blocks =>
      simp only [Opening.ofDepth, List.replicate_succ, List.replicate_zero, List.nil_append,
        List.cons.injEq] at same
      simp [Opening.ofDepth, Depth.step, same.2]

theorem Depth.step_other {depth : Depth} {word : Option String}
    (other : ∀ w ∈ word, w ∉ ["BEGIN", "CASE", "END"]) : depth.step word = depth := by
  unfold Depth.step
  split <;> simp_all

theorem ofDepth_eq_nil {depth : Depth} (none : [] = Opening.ofDepth depth) : depth = ⟨0, 0⟩ := by
  obtain ⟨blocks, cases⟩ := depth
  simpa [Opening.ofDepth, and_comm] using none.symm

/-- Only the words before `TRIGGER` are met before a body. -/
theorem lead_of_body (sig : lexeme.isTrivia = false)
    (word : ∀ w ∈ keyword? lexeme, w ∈ ["BEGIN", "CASE", "END"])
    (ends : leadAfter lead (lexeme :: rest) = .trigger) : lead = .trigger := by
  by_contra early
  obtain ⟨w, found, member⟩ := keyword_of_lead sig early ends
  have body := word w found
  simp only [List.mem_cons, List.not_mem_nil, or_false] at member body
  rcases body with rfl | rfl | rfl <;> simp at member

/-- A body that is well nested is not cut, and afterwards nothing is open. -/
theorem splitFrom_nested {piece : Chunk} {opened : List Opening} (nested : Nested opened piece)
    (ends : leadAfter lead piece = .trigger) (level : opened = Opening.ofDepth depth) :
    splitFrom acc lead depth (piece ++ rest) =
      splitFrom (piece.reverse ++ acc) .trigger ⟨0, 0⟩ rest := by
  induction nested generalizing acc lead depth with
  | nil =>
    rw [show lead = .trigger from ends, ofDepth_eq_nil level]
    rfl
  | @block opened lexeme piece word outside _ ih =>
    obtain ⟨sig, mark⟩ := sig_of_keyword word
    obtain rfl := lead_of_body sig (by simp [word]) ends
    subst level
    rw [List.cons_append, splitFrom_late sig (.inl mark), word,
      ih (foldl_trigger _) (ofDepth_block outside)]
    simp
  | @choice opened lexeme piece word _ ih =>
    obtain ⟨sig, mark⟩ := sig_of_keyword word
    obtain rfl := lead_of_body sig (by simp [word]) ends
    subst level
    rw [List.cons_append, splitFrom_late sig (.inl mark), word,
      ih (foldl_trigger _) (ofDepth_choice depth)]
    simp
  | @close first opened lexeme piece word _ ih =>
    obtain ⟨sig, mark⟩ := sig_of_keyword word
    obtain rfl := lead_of_body sig (by simp [word]) ends
    rw [List.cons_append, splitFrom_late sig (.inl mark), word,
      ih (foldl_trigger _) (ofDepth_close level)]
    simp
  | @semicolon opened lexeme piece mark inside _ ih =>
    have sig := sig_of_semicolon mark
    have none := keyword?_semicolon mark
    obtain rfl := lead_of_body sig (by simp [none]) ends
    subst level
    have still : depth.step (keyword? lexeme) = depth := Depth.step_other (by simp [none])
    have kept := (mem_ofDepth_block depth).mp inside
    rw [List.cons_append, splitFrom_late sig (.inr (still.symm ▸ kept)), still,
      ih (foldl_trigger _) rfl]
    simp
  | @other opened lexeme piece mark word _ ih =>
    have still : depth.step (keyword? lexeme) = depth := Depth.step_other word
    rw [List.cons_append, List.reverse_cons, List.append_assoc, List.singleton_append]
    cases trivia : lexeme.isTrivia with
    | true =>
      rw [leadAfter_trivia trivia] at ends
      rw [splitFrom_trivia trivia, ih ends level]
    | false =>
      rw [leadAfter_sig trivia] at ends
      by_cases early : lead = .trigger
      · subst early
        rw [splitFrom_late trivia (.inl mark), still, ih (foldl_trigger _) level]
      · rw [splitFrom_early trivia mark early, ih ends level]

end Run

/-- A statement that stands by itself is run over without a cut. -/
theorem Whole.splitFrom {piece : Chunk} (whole : Whole piece) (rest : List Lexeme) :
    ∃ lead, Chunk.splitFrom [] .start ⟨0, 0⟩ (piece ++ rest) =
      Chunk.splitFrom piece.reverse lead ⟨0, 0⟩ rest := by
  rcases whole.body with ⟨trigger, nested⟩ | ⟨other, plain⟩
  · refine ⟨.trigger, ?_⟩
    rw [splitFrom_nested nested ((isTrigger_iff piece).mp trigger) rfl, List.append_nil]
  · refine ⟨leadAfter .start piece, ?_⟩
    rw [splitFrom_plain plain (mt (isTrigger_iff piece).mpr other), List.append_nil]

theorem splitFrom_blank {blank acc : List Lexeme} {lead : Lead} {depth : Depth}
    (trivia : ∀ lexeme ∈ blank, lexeme.isTrivia = true) :
    splitFrom acc lead depth blank = [acc.reverse ++ blank] := by
  induction blank generalizing acc with
  | nil => simp [splitFrom]
  | cons lexeme blank ih =>
    obtain ⟨here, later⟩ := List.forall_mem_cons.mp trivia
    rw [splitFrom_trivia here, ih later]
    simp

theorem hasContent_of_trivia {blank : Chunk} (trivia : ∀ lexeme ∈ blank, lexeme.isTrivia = true) :
    hasContent blank = false := by
  rw [hasContent, List.any_eq_false]
  intro lexeme member
  simp [trivia lexeme member]

/-- After the last statement there is no other. -/
theorem Ending.splitFrom {tail : List Lexeme} (ending : Ending tail) (acc : List Lexeme)
    (lead : Lead) :
    ∃ others, Chunk.splitFrom acc lead ⟨0, 0⟩ tail = acc.reverse :: others ∧
      others.filter hasContent = [] := by
  cases ending with
  | nothing => exact ⟨[], rfl, rfl⟩
  | @semicolon mark blank semicolon trivia =>
    refine ⟨[blank], ?_, ?_⟩
    · rw [splitFrom_semicolon semicolon, splitFrom_blank trivia]
      rfl
    · simp [hasContent_of_trivia trivia]

theorem split_of_joined {pieces : List Chunk} {lexemes tail : List Lexeme}
    (joined : Joined pieces lexemes) (whole : ∀ piece ∈ pieces, Whole piece)
    (ending : Ending tail) : split (lexemes ++ tail) = pieces := by
  rw [split]
  induction joined with
  | nil =>
    obtain ⟨others, cut, none⟩ := ending.splitFrom [] .start
    rw [List.nil_append, cut, List.filter_cons, none]
    rfl
  | last piece =>
    have here := whole piece List.mem_cons_self
    obtain ⟨lead, run⟩ := here.splitFrom tail
    obtain ⟨others, cut, none⟩ := ending.splitFrom piece.reverse lead
    rw [run, cut, List.reverse_reverse, List.filter_cons, none, here.content]
    rfl
  | @more piece next pieces mark rest semicolon _ ih =>
    obtain ⟨here, later⟩ := List.forall_mem_cons.mp whole
    obtain ⟨lead, run⟩ := here.splitFrom (mark :: (rest ++ tail))
    rw [List.append_assoc, List.cons_append, run, splitFrom_semicolon semicolon,
      List.reverse_reverse, List.filter_cons, here.content, ih later]
    rfl

/-- Wherever it is cut, there is at least one piece. -/
theorem exists_splitFrom (acc : List Lexeme) (lead : Lead) (depth : Depth) (rest : List Lexeme) :
    ∃ first others, splitFrom acc lead depth rest = first :: others := by
  induction rest generalizing acc lead depth with
  | nil => exact ⟨_, _, rfl⟩
  | cons lexeme rest ih =>
    rw [splitFrom]
    split
    · exact ih _ _ _
    · dsimp only
      generalize (if lead = .trigger then depth.step (keyword? lexeme) else depth) = deep
      split
      · exact ⟨_, _, rfl⟩
      · exact ih _ _ _

/-- The pieces are what stands between the semicolons at which it is cut. -/
theorem joined_splitFrom (acc : List Lexeme) (lead : Lead) (depth : Depth) (rest : List Lexeme) :
    Joined (splitFrom acc lead depth rest) (acc.reverse ++ rest) := by
  induction rest generalizing acc lead depth with
  | nil => simpa [splitFrom] using Joined.last acc.reverse
  | cons lexeme rest ih =>
    have go (lead : Lead) (depth : Depth) :
        Joined (splitFrom (lexeme :: acc) lead depth rest) (acc.reverse ++ lexeme :: rest) := by
      simpa using ih (lexeme :: acc) lead depth
    rw [splitFrom]
    split
    · exact go lead depth
    · dsimp only
      generalize (if lead = .trigger then depth.step (keyword? lexeme) else depth) = deep
      split
      · rename_i cut
        obtain ⟨next, others, later⟩ := exists_splitFrom [] .start ⟨0, 0⟩ rest
        have joined := ih [] .start ⟨0, 0⟩
        rw [later] at joined ⊢
        exact .more cut.1 joined
      · exact go _ _

theorem significant_append (a b : List Lexeme) :
    significant (a ++ b) = significant a ++ significant b :=
  List.filter_append a b

/-- Dropping the pieces without content drops nothing significant. -/
theorem significant_filter (pieces : List Chunk) :
    significant (pieces.filter hasContent).flatten = significant pieces.flatten := by
  induction pieces with
  | nil => rfl
  | cons piece pieces ih =>
    rw [List.flatten_cons, significant_append, ← ih]
    cases content : hasContent piece with
    | true => rw [List.filter_cons_of_pos content, List.flatten_cons, significant_append]
    | false =>
      have none : significant piece = [] := by
        rw [hasContent, List.any_eq_false] at content
        exact List.filter_eq_nil_iff.mpr content
      rw [List.filter_cons_of_neg (by simp [content]), none, List.nil_append]

/-- Statements that stand by themselves are what the text is cut into that they are joined to. Any
text is cut at some of its semicolons, and of the pieces those that have content are kept, so that
every significant lexeme but these semicolons stays in its place. -/
theorem split_eq_pieces :
    (∀ (pieces : List Chunk) (lexemes tail : List Lexeme), Joined pieces lexemes →
      (∀ piece ∈ pieces, Whole piece) → Ending tail → split (lexemes ++ tail) = pieces) ∧
    ∀ lexemes, ∃ pieces, Joined pieces lexemes ∧ split lexemes = pieces.filter hasContent ∧
      significant (split lexemes).flatten = significant pieces.flatten ∧
      ∀ piece ∈ split lexemes, significant piece ≠ [] := by
  constructor
  · intro pieces lexemes tail joined whole ending
    exact split_of_joined joined whole ending
  · intro lexemes
    refine ⟨_, joined_splitFrom [] .start ⟨0, 0⟩ lexemes, rfl, significant_filter _, ?_⟩
    intro piece member none
    have content := (List.mem_filter.mp member).2
    rw [hasContent, List.any_eq_true] at content
    obtain ⟨lexeme, inside, sig⟩ := content
    exact List.filter_eq_nil_iff.mp none lexeme inside sig

def wordLexeme (text : String) : Lexeme := ⟨.word text false, text⟩

def semicolonLexeme : Lexeme := ⟨.semicolon, ";"⟩

/-- A trigger with a choice and a semicolon in its body. -/
def triggerPiece : Chunk :=
  [wordLexeme "create", wordLexeme "Temp", wordLexeme "trigger", wordLexeme "begin",
    wordLexeme "case", wordLexeme "end", semicolonLexeme, wordLexeme "end"]

def selectPiece : Chunk :=
  [⟨.comment "-- end", "-- end\n"⟩, wordLexeme "select", ⟨.number "1", "1"⟩]

theorem split_triggerThenSelect :
    Whole triggerPiece ∧ Whole selectPiece ∧
      split (triggerPiece ++ semicolonLexeme :: selectPiece ++
        [semicolonLexeme, ⟨.space, " "⟩]) =
        [triggerPiece, selectPiece] := by
  have body : Nested [] (triggerPiece.drop 3) := by
    refine .block (by decide +kernel) (by decide) (.choice (by decide +kernel) ?_)
    refine .close (by decide +kernel) (.semicolon rfl (by decide) ?_)
    exact .close (by decide +kernel) .nil
  have trigger : Whole triggerPiece := by
    refine ⟨by decide, .inl ⟨⟨[some "TEMP"], keywords (triggerPiece.drop 3), ?_, by decide⟩, ?_⟩⟩
    · decide +kernel
    · exact .other (by decide) (by decide +kernel) (.other (by decide) (by decide +kernel)
        (.other (by decide) (by decide +kernel) body))
  have select : Whole selectPiece := by
    refine ⟨by decide, .inr ⟨?_, by decide⟩⟩
    rw [isTrigger_iff]
    decide +kernel
  refine ⟨trigger, select, ?_⟩
  refine split_eq_pieces.1 _ _ _ (.more rfl (.last selectPiece)) ?_ (.semicolon rfl (by decide))
  intro piece member
  rcases List.mem_pair.mp member with rfl | rfl
  · exact trigger
  · exact select

end TypedRows.Sql.Chunk
