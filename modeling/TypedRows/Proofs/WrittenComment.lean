import TypedRows.Annotations.Extract
import TypedRows.Proofs.BlockScanning

/-! Annotations written into the lines of a comment, and that they are read back from them. -/

namespace TypedRows.Comment

open Block

def stripOpening (cs : List Char) : List Char :=
  match cs with
  | '-' :: '-' :: rest => rest
  | '/' :: '*' :: rest => rest
  | _ => cs

def stripClosing (cs : List Char) : List Char :=
  match cs.reverse with
  | '/' :: '*' :: rest => rest.reverse
  | _ => cs

def stripStar (cs : List Char) : List Char :=
  match cs with
  | ['*'] => []
  | '*' :: c :: rest => if Text.isBlank c then c :: rest else '*' :: c :: rest
  | cs => cs

def contentOf (cs : List Char) : List Char :=
  stripStar ((stripClosing (stripOpening (Text.trimChars cs))).dropWhile Text.isBlank)

theorem content_eq (line : String) : content line = contentOf line.toList := rfl

/-- A text after which a line may end: it does not close the comment, and nothing is trimmed. -/
structure Ending (cs : List Char) : Prop where
  nonempty : cs ≠ []
  last : ∀ c ∈ cs.getLast?, Text.isBlank c = false
  unclosed : ¬ ['*', '/'] <:+ cs

/-- A text that stays as it is in whatever comment it stands. -/
structure Solid (cs : List Char) : Prop extends Ending cs where
  first : ∀ c ∈ cs.head?, Text.isBlank c = false ∧ c ∉ ['-', '/', '*']

theorem Solid.exists_cons {cs : List Char} (solid : Solid cs) :
    ∃ c rest, cs = c :: rest ∧ Text.isBlank c = false ∧ c ∉ ['-', '/', '*'] := by
  obtain ⟨c, rest, rfl⟩ := List.exists_cons_of_ne_nil solid.nonempty
  exact ⟨c, rest, rfl, solid.first c rfl⟩

/-- The star before the text of a line, which may be missing. -/
def IsStar (cs : List Char) : Prop :=
  cs = [] ∨ ∃ c gap, IsBlank (c :: gap) ∧ cs = '*' :: c :: gap

def openings : List (List Char) := [[], ['-', '-'], ['/', '*']]

def closings : List (List Char) := [[], ['*', '/']]

theorem openings_nil : [] ∈ openings := by decide

theorem closings_nil : [] ∈ closings := by decide

theorem isBlank_nil : IsBlank [] := by simp [IsBlank]

section Content

variable {opening closing indent star text trail : List Char}

theorem stripOpening_append (known : opening ∈ openings) {cs : List Char}
    (apart : opening = [] → ∀ c ∈ cs.head?, c ∉ ['-', '/']) :
    stripOpening (opening ++ cs) = cs := by
  simp only [openings, List.mem_cons, List.not_mem_nil, or_false] at known
  rcases known with rfl | rfl | rfl
  · have first := apart rfl
    rw [List.nil_append]
    unfold stripOpening
    split
    · exact absurd (first '-' rfl) (by decide)
    · exact absurd (first '/' rfl) (by decide)
    · rfl
  · rfl
  · rfl

theorem stripClosing_append (known : closing ∈ closings) {cs : List Char}
    (apart : closing = [] → ¬ ['*', '/'] <:+ cs) : stripClosing (cs ++ closing) = cs := by
  simp only [closings, List.mem_cons, List.not_mem_nil, or_false] at known
  rcases known with rfl | rfl
  · rw [List.append_nil]
    unfold stripClosing
    split
    · rename_i rest same
      have ends : cs = rest.reverse ++ ['*', '/'] := by
        rw [← List.reverse_reverse cs, same]
        simp
      exact absurd ⟨_, ends.symm⟩ (apart rfl)
    · rfl
  · unfold stripClosing
    simp

theorem IsStar.strip (known : IsStar star) (solid : Solid text) (rest : List Char) :
    ∃ lead, IsBlank lead ∧ stripStar (star ++ (text ++ rest)) = lead ++ (text ++ rest) := by
  obtain ⟨c, more, rfl, _, apart⟩ := solid.exists_cons
  rcases known with rfl | ⟨d, gap, blank, rfl⟩
  · refine ⟨[], isBlank_nil, ?_⟩
    simp at apart
    unfold stripStar
    split <;> simp_all
  · have own : Text.isBlank d = true := blank d List.mem_cons_self
    refine ⟨d :: gap, blank, ?_⟩
    simp [stripStar, own]

theorem IsStar.head (known : IsStar star) (solid : Solid text) (rest : List Char) :
    ∀ c ∈ (star ++ (text ++ rest)).head?, Text.isBlank c = false ∧ c ∉ ['-', '/'] := by
  obtain ⟨c, more, rfl, own, apart⟩ := solid.exists_cons
  rcases known with rfl | ⟨d, gap, blank, rfl⟩
  · intro e first
    cases first
    simp at apart
    simp [own, apart]
  · intro e first
    cases first
    decide

theorem Solid.unclosed_append (solid : Solid text) (start : List Char) :
    ¬ ['*', '/'] <:+ start ++ text := by
  intro ends
  have whole : text <:+ start ++ text := List.suffix_append _ _
  obtain ⟨c, more, rfl, _, apart⟩ := solid.exists_cons
  cases more with
  | nil =>
    obtain ⟨before, same⟩ := ends
    have last := congrArg List.getLast? same
    simp at last
    rw [← last] at apart
    exact apart (by decide)
  | cons d more =>
    have shorter : ['*', '/'].length ≤ (c :: d :: more).length := by simp
    exact solid.unclosed (List.suffix_of_suffix_length_le ends whole shorter)

/-- Trimming stops at a mark, and else at the text. -/
theorem trimChars_of_marks (ho : opening ∈ openings) (hc : closing ∈ closings)
    (solid : Solid text) (hs : IsStar star) (oi : opening = [] → indent = [])
    (ct : closing = [] → trail = []) :
    Text.trimChars (opening ++ (indent ++ (star ++ (text ++ (trail ++ closing))))) =
      opening ++ (indent ++ (star ++ (text ++ (trail ++ closing)))) := by
  apply Text.trimChars_of_solid
  · simp only [openings, List.mem_cons, List.not_mem_nil, or_false] at ho
    rcases ho with rfl | rfl | rfl
    · rw [oi rfl]
      intro c first
      exact (hs.head solid _ c first).1
    · intro c first
      cases first
      rfl
    · intro c first
      cases first
      rfl
  · simp only [closings, List.mem_cons, List.not_mem_nil, or_false] at hc
    obtain ⟨c, more, filled, _⟩ := solid.exists_cons
    rcases hc with rfl | rfl
    · rw [ct rfl, List.append_nil, List.append_nil]
      have last : (opening ++ (indent ++ (star ++ text))).getLast? = text.getLast? := by
        have nonempty : text ≠ [] := by simp [filled]
        simp only [← List.append_assoc]
        exact List.getLast?_append_of_ne_nil _ nonempty
      rw [last]
      exact solid.last
    · intro e last
      have slash : (opening ++ (indent ++ (star ++ (text ++ (trail ++ ['*', '/']))))).getLast? =
          some '/' := by
        simp [List.getLast?_append]
      rw [slash] at last
      cases last
      rfl

theorem trimChars_marked (ho : opening ∈ openings) (hc : closing ∈ closings) (solid : Solid text)
    (hs : IsStar star) (bi : IsBlank indent) (bt : IsBlank trail) :
    ∃ i r, IsBlank i ∧ IsBlank r ∧ (opening = [] → i = []) ∧ (closing = [] → r = []) ∧
      Text.trimChars (opening ++ (indent ++ (star ++ (text ++ (trail ++ closing))))) =
        opening ++ (i ++ (star ++ (text ++ (r ++ closing)))) := by
  have left : ∃ i, IsBlank i ∧ (opening = [] → i = []) ∧ ∀ rest,
      Text.trimChars (opening ++ (indent ++ rest)) = Text.trimChars (opening ++ (i ++ rest)) := by
    by_cases none : opening = []
    · refine ⟨[], isBlank_nil, fun _ => rfl, ?_⟩
      intro rest
      rw [none]
      exact Text.trimChars_append_left rest bi
    · exact ⟨indent, bi, fun e => absurd e none, fun _ => rfl⟩
  have right : ∃ r, IsBlank r ∧ (closing = [] → r = []) ∧ ∀ start,
      Text.trimChars (start ++ (trail ++ closing)) = Text.trimChars (start ++ (r ++ closing)) := by
    by_cases none : closing = []
    · refine ⟨[], isBlank_nil, fun _ => rfl, ?_⟩
      intro start
      rw [none, List.append_nil, List.append_nil, List.append_nil]
      exact Text.trimChars_append_right start bt
    · exact ⟨trail, bt, fun e => absurd e none, fun _ => rfl⟩
  obtain ⟨i, blank, oi, same⟩ := left
  obtain ⟨r, blank', ct, same'⟩ := right
  refine ⟨i, r, blank, blank', oi, ct, ?_⟩
  have ends := same' (opening ++ (i ++ (star ++ text)))
  simp only [List.append_assoc] at ends
  rw [same, ends]
  exact trimChars_of_marks ho hc solid hs oi ct

/-- The content of a marked line is its text between blanks. After it there are none unless the
comment is closed there. -/
theorem contentOf_text (ho : opening ∈ openings) (hc : closing ∈ closings) (solid : Solid text)
    (hs : IsStar star) (bi : IsBlank indent) (bt : IsBlank trail) :
    ∃ lead rest, IsBlank lead ∧ IsBlank rest ∧ (closing = [] → rest = []) ∧
      contentOf (opening ++ (indent ++ (star ++ (text ++ (trail ++ closing))))) =
        lead ++ (text ++ rest) := by
  obtain ⟨i, r, blank, blank', oi, ct, trimmed⟩ := trimChars_marked ho hc solid hs bi bt
  obtain ⟨lead, leading, stripped⟩ := hs.strip solid r
  refine ⟨lead, r, leading, blank', ct, ?_⟩
  have opened : stripOpening (opening ++ (i ++ (star ++ (text ++ (r ++ closing))))) =
      i ++ (star ++ (text ++ (r ++ closing))) := by
    apply stripOpening_append ho
    intro none c first
    rw [oi none, List.nil_append] at first
    exact (hs.head solid _ c first).2
  have closed : stripClosing (i ++ (star ++ (text ++ (r ++ closing)))) =
      i ++ (star ++ (text ++ r)) := by
    have before : closing = [] → ¬ ['*', '/'] <:+ i ++ (star ++ (text ++ r)) := by
      intro none
      rw [ct none, List.append_nil, ← List.append_assoc]
      exact solid.unclosed_append _
    have strip := stripClosing_append hc before
    simp only [List.append_assoc] at strip
    exact strip
  have indented : (i ++ (star ++ (text ++ r))).dropWhile Text.isBlank = star ++ (text ++ r) := by
    rw [List.dropWhile_append_of_pos blank]
    apply Text.dropWhile_of_head
    intro c first
    exact (hs.head solid _ c first).1
  rw [contentOf, trimmed, opened, closed, indented, stripped]

theorem contentOf_blank (ho : opening ∈ openings) (hc : closing ∈ closings)
    (blank : IsBlank text) : contentOf (opening ++ (text ++ closing)) = [] := by
  have none : (text ++ []).dropWhile Text.isBlank = [] := List.dropWhile_append_of_pos blank
  rw [List.append_nil] at none
  simp only [closings, List.mem_cons, List.not_mem_nil, or_false] at hc
  rcases hc with rfl | rfl
  · rw [contentOf, List.append_nil, Text.trimChars_append_right opening blank]
    simp only [openings, List.mem_cons, List.not_mem_nil, or_false] at ho
    rcases ho with rfl | rfl | rfl <;> rfl
  · by_cases unmarked : opening = []
    · rw [unmarked, contentOf, List.nil_append, Text.trimChars_append_left _ blank]
      rfl
    · have trimmed : Text.trimChars (opening ++ (text ++ ['*', '/'])) =
          opening ++ (text ++ ['*', '/']) := by
        apply Text.trimChars_of_solid
        · simp only [openings, List.mem_cons, List.not_mem_nil, or_false] at ho
          rcases ho with rfl | rfl | rfl
          · exact absurd rfl unmarked
          · intro c first
            cases first
            rfl
          · intro c first
            cases first
            rfl
        · intro c last
          rw [← List.append_assoc, List.getLast?_append] at last
          cases last
          rfl
      have opened : stripOpening (opening ++ (text ++ ['*', '/'])) = text ++ ['*', '/'] :=
        stripOpening_append ho fun e => absurd e unmarked
      have closed : stripClosing (text ++ ['*', '/']) = text := by simp [stripClosing]
      rw [contentOf, trimmed, opened, closed, none]
      rfl

theorem contentOf_pad {before after : List Char} (hb : IsBlank before) (ha : IsBlank after)
    (cs : List Char) : contentOf (before ++ (cs ++ after)) = contentOf cs := by
  rw [contentOf, Text.trimChars_append_left _ hb, Text.trimChars_append_right _ ha, contentOf]

end Content

/-- `-- text` -/
def Dashed (text : List Char) (line : String) : Prop :=
  ∃ before gap after, IsBlank before ∧ IsBlank gap ∧ IsBlank after ∧
    line.toList = before ++ ['-', '-'] ++ gap ++ text ++ after

/-- A line within a block comment, without the marks of the comment. -/
def Starred (text cs : List Char) : Prop :=
  ∃ before star after, IsBlank before ∧ IsStar star ∧ IsBlank after ∧
    cs = before ++ star ++ text ++ after

/-- The lines with something before the first. -/
def startWith (opening : List Char) : List (List Char) → List (List Char)
  | [] => []
  | line :: rest => (opening ++ line) :: rest

/-- The lines with something after the last. -/
def endWith (closing : List Char) : List (List Char) → List (List Char)
  | [] => []
  | [line] => [line ++ closing]
  | line :: rest => line :: endWith closing rest

/-- A comment with these texts: lines with dashes before them, or the lines of a block comment, of
which the first and the last may have no text. -/
inductive IsComment (texts : List (List Char)) : List String → Prop
  | dashes {lines : List String} : List.Forall₂ Dashed texts lines → IsComment texts lines
  | block {lines : List String} {inner above below : List (List Char)} {before after : List Char} :
      List.Forall₂ Starred texts inner → (∀ line ∈ above, IsBlank line) →
      (∀ line ∈ below, IsBlank line) → IsBlank before → IsBlank after →
      lines.map String.toList = startWith (before ++ ['/', '*'])
        (endWith (['*', '/'] ++ after) (above ++ inner ++ below)) → IsComment texts lines

/-- The contents of the lines show the texts; the first may be indented, too. -/
def Yields (texts lines : List (List Char)) : Prop :=
  ∃ lead content contents, IsBlank lead ∧
    lines.map contentOf = (lead ++ content) :: contents ∧ Shown texts (content :: contents)

section Yields

variable {text line lead trail before after : List Char} {texts lines : List (List Char)}

theorem yields_last (leading : IsBlank lead) (trailing : IsBlank trail)
    (same : contentOf line = lead ++ (text ++ trail)) : Yields [text] [line] := by
  refine ⟨lead, text ++ trail, [], leading, ?_, .last text trailing⟩
  rw [List.map_cons, List.map_nil, same]

theorem Yields.cons (leading : IsBlank lead) (same : contentOf line = lead ++ text)
    (h : Yields texts lines) : Yields (text :: texts) (line :: lines) := by
  obtain ⟨indent, content, contents, indented, shows, shown⟩ := h
  refine ⟨lead, text, (indent ++ content) :: contents, leading, ?_, .cons text indented shown⟩
  rw [List.map_cons, same, shows]

theorem contentOf_starred {opening closing : List Char} (ho : opening ∈ openings)
    (hc : closing ∈ closings) (hb : IsBlank before) (ha : IsBlank after) (solid : Solid text)
    (starred : Starred text line) :
    ∃ lead trail, IsBlank lead ∧ IsBlank trail ∧ (closing = [] → trail = []) ∧
      contentOf (before ++ (opening ++ line ++ closing ++ after)) = lead ++ (text ++ trail) := by
  obtain ⟨indent, star, rest, bi, hs, bt, rfl⟩ := starred
  obtain ⟨lead, trail, leading, trailing, ends, same⟩ := contentOf_text ho hc solid hs bi bt
  refine ⟨lead, trail, leading, trailing, ends, ?_⟩
  rw [contentOf_pad hb ha]
  simp only [List.append_assoc] at same ⊢
  exact same

theorem contentOf_dashed {line : String} (solid : Solid text) (dashed : Dashed text line) :
    ∃ lead, IsBlank lead ∧ contentOf line.toList = lead ++ text := by
  obtain ⟨before, gap, after, hb, hg, ha, same⟩ := dashed
  have starred : Starred text (gap ++ [] ++ text ++ after) :=
    ⟨gap, [], after, hg, .inl rfl, ha, rfl⟩
  have marked : ['-', '-'] ∈ openings := by decide
  obtain ⟨lead, trail, leading, _, ends, shows⟩ :=
    contentOf_starred marked closings_nil hb isBlank_nil solid starred
  refine ⟨lead, leading, ?_⟩
  rw [ends rfl] at shows
  simpa [same] using shows

theorem yields_dashed {lines : List String} (dashed : List.Forall₂ Dashed texts lines)
    (some : texts ≠ []) (solid : ∀ text ∈ texts, Solid text) :
    Yields texts (lines.map String.toList) := by
  induction dashed with
  | nil => exact absurd rfl some
  | @cons text line texts lines first others ih =>
    obtain ⟨lead, leading, same⟩ := contentOf_dashed (solid text List.mem_cons_self) first
    cases others with
    | nil =>
      exact yields_last leading isBlank_nil (by rw [same, List.append_nil])
    | cons next more =>
      exact (ih (by simp) fun t member => solid t (List.mem_cons_of_mem _ member)).cons leading same

theorem startWith_nil (lines : List (List Char)) : startWith [] lines = lines := by
  cases lines <;> rfl

theorem yields_starred {opening closing : List Char} {inner : List (List Char)}
    (starred : List.Forall₂ Starred texts inner) (some : texts ≠ [])
    (solid : ∀ text ∈ texts, Solid text) (ho : opening ∈ openings) (hc : closing ∈ closings)
    (hb : IsBlank before) (ha : IsBlank after) :
    Yields texts (startWith (before ++ opening) (endWith (closing ++ after) inner)) := by
  -- only the first line has the opening mark, so the lines after it are taken without one
  induction starred generalizing before opening with
  | nil => exact absurd rfl some
  | @cons text line texts lines first others ih =>
    have own := solid text List.mem_cons_self
    cases others with
    | nil =>
      obtain ⟨lead, trail, leading, trailing, _, shows⟩ :=
        contentOf_starred ho hc hb ha own first
      apply yields_last leading trailing
      simpa using shows
    | @cons next line' texts lines second others =>
      obtain ⟨lead, trail, leading, _, ends, shows⟩ :=
        contentOf_starred ho closings_nil hb isBlank_nil own first
      have rest := ih (by simp) (fun t member => solid t (List.mem_cons_of_mem _ member))
        openings_nil isBlank_nil
      rw [List.append_nil, startWith_nil] at rest
      refine Yields.cons leading ?_ rest
      rw [ends rfl] at shows
      simpa using shows

theorem endWith_append (closing : List Char) {ys : List (List Char)} (some : ys ≠ [])
    (xs : List (List Char)) : endWith closing (xs ++ ys) = xs ++ endWith closing ys := by
  induction xs with
  | nil => rfl
  | cons x xs ih =>
    rw [List.cons_append, endWith, ih]
    · rfl
    · simp [some]

theorem startWith_append (opening : List Char) {xs : List (List Char)} (some : xs ≠ [])
    (ys : List (List Char)) : startWith opening (xs ++ ys) = startWith opening xs ++ ys := by
  cases xs with
  | nil => exact absurd rfl some
  | cons x xs => rfl

theorem endWith_nil (lines : List (List Char)) : endWith [] lines = lines := by
  fun_induction endWith [] lines with
  | case1 => rfl
  | case2 line => rw [List.append_nil]
  | case3 line rest _ ih => rw [ih]

theorem endWith_ne_nil (closing : List Char) {lines : List (List Char)} (some : lines ≠ []) :
    endWith closing lines ≠ [] := by
  cases lines with
  | nil => exact absurd rfl some
  | cons line rest => cases rest <;> simp [endWith]

theorem contentOf_empty {opening closing : List Char} (ho : opening ∈ openings)
    (hc : closing ∈ closings) (hb : IsBlank before) (ha : IsBlank after) (blank : IsBlank line) :
    contentOf (before ++ opening ++ line ++ (closing ++ after)) = [] := by
  have own := contentOf_blank ho hc blank
  rw [← contentOf_pad hb ha] at own
  simpa using own

theorem contentOf_of_blank (blank : IsBlank line) : contentOf line = [] := by
  have own := contentOf_empty openings_nil closings_nil isBlank_nil isBlank_nil blank
  simpa using own

theorem contentOf_startWith {opening : List Char} (ho : opening ∈ openings) (hb : IsBlank before)
    (blank : ∀ line ∈ lines, IsBlank line) :
    ∀ line ∈ startWith (before ++ opening) lines, contentOf line = [] := by
  cases lines with
  | nil => simp [startWith]
  | cons first rest =>
    intro line member
    rcases List.mem_cons.mp member with rfl | member
    · have own := contentOf_empty ho closings_nil hb isBlank_nil (blank first List.mem_cons_self)
      simpa using own
    · exact contentOf_of_blank (blank line (List.mem_cons_of_mem _ member))

theorem contentOf_endWith {closing : List Char} (hc : closing ∈ closings) (ha : IsBlank after)
    (blank : ∀ line ∈ lines, IsBlank line) :
    ∀ line ∈ endWith (closing ++ after) lines, contentOf line = [] := by
  induction lines with
  | nil => simp [endWith]
  | cons first rest ih =>
    have others := ih fun l member => blank l (List.mem_cons_of_mem _ member)
    have own := blank first List.mem_cons_self
    cases rest with
    | nil =>
      intro line member
      simp only [endWith, List.mem_singleton] at member
      have empty := contentOf_empty openings_nil hc isBlank_nil ha own
      rw [List.nil_append, List.nil_append] at empty
      rw [member, empty]
    | cons next rest =>
      intro line member
      simp only [endWith, List.mem_cons] at member
      rcases member with rfl | member
      · exact contentOf_of_blank own
      · exact others line member

/-- The marks stand at the ends of the texts, or at the ends of the blank lines around them. -/
theorem IsComment.yields {lines : List String} (h : IsComment texts lines) (some : texts ≠ [])
    (solid : ∀ text ∈ texts, Solid text) :
    ∃ first inner last, (∀ line ∈ first, contentOf line = []) ∧ Yields texts inner ∧
      (∀ line ∈ last, contentOf line = []) ∧ lines.map String.toList = first ++ inner ++ last := by
  cases h with
  | dashes dashed =>
    exact ⟨[], _, [], by simp, yields_dashed dashed some solid, by simp, by simp⟩
  | @block inner above below before after starred ha hb before' after' marked =>
    have filled : inner ≠ [] := by
      rintro rfl
      cases starred
      exact some rfl
    have star : ['*', '/'] ∈ closings := by decide
    have slash : ['/', '*'] ∈ openings := by decide
    have closed : ∃ closing rest last, closing ∈ closings ∧ IsBlank rest ∧
        (∀ line ∈ last, contentOf line = []) ∧
        endWith (['*', '/'] ++ after) (above ++ inner ++ below) =
          above ++ (endWith (closing ++ rest) inner ++ last) := by
      by_cases none : below = []
      · refine ⟨_, after, [], star, after', by simp, ?_⟩
        rw [none, List.append_nil, List.append_nil, endWith_append _ filled]
      · refine ⟨[], [], _, closings_nil, isBlank_nil, contentOf_endWith star after' hb, ?_⟩
        rw [endWith_append _ none, List.append_assoc, List.append_nil, endWith_nil]
    obtain ⟨closing, rest, last, hc, trailing, hl, ends⟩ := closed
    rw [ends] at marked
    by_cases none : above = []
    · refine ⟨[], _, last, by simp, yields_starred starred some solid slash hc before' trailing,
        hl, ?_⟩
      rw [marked, none, List.nil_append, List.nil_append,
        startWith_append _ (endWith_ne_nil _ filled)]
    · have shows := yields_starred starred some solid openings_nil hc isBlank_nil trailing
      rw [List.append_nil, startWith_nil] at shows
      refine ⟨_, _, last, contentOf_startWith slash before' ha, shows, hl, ?_⟩
      rw [marked, startWith_append _ none, List.append_assoc]

/-- What the scanner sees of a comment: the texts, and nothing before and after them. -/
theorem IsComment.contents {lines : List String} (h : IsComment texts lines) (some : texts ≠ [])
    (solid : ∀ text ∈ texts, Solid text) :
    ∃ above lead content contents below, (∀ cs ∈ above, IsBlank cs) ∧ IsBlank lead ∧
      (∀ cs ∈ below, IsBlank cs) ∧ Shown texts (content :: contents) ∧
      lines.map Comment.content = above ++ (lead ++ content) :: contents ++ below := by
  have read : lines.map Comment.content = (lines.map String.toList).map contentOf := by
    rw [List.map_map]
    exact List.map_congr_left fun line _ => content_eq line
  obtain ⟨first, inner, last, hf, yields, hl, whole⟩ := h.yields some solid
  obtain ⟨lead, content, contents, leading, same, shown⟩ := yields
  have blank : ∀ {lines : List (List Char)}, (∀ line ∈ lines, contentOf line = []) →
      ∀ cs ∈ lines.map contentOf, IsBlank cs := by
    intro lines empty cs member
    obtain ⟨line, inside, rfl⟩ := List.mem_map.mp member
    rw [empty line inside]
    exact isBlank_nil
  refine ⟨first.map contentOf, lead, content, contents, last.map contentOf, blank hf, leading,
    blank hl, shown, ?_⟩
  rw [read, whole, List.map_append, List.map_append, same]

end Yields

end TypedRows.Comment
