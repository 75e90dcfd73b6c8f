import TypedRows.Annotations.Comment
import TypedRows.Proofs.WrittenBlock

/-! A block laid out over several lines, and how it is found in the contents of comment lines. -/

namespace TypedRows

open Block

def IsBlank (cs : List Char) : Prop := ∀ c ∈ cs, Text.isBlank c = true

/-- A new line that may be indented. -/
def IsBreak (cs : List Char) : Prop := ∃ indent, IsBlank indent ∧ cs = '\n' :: indent

/-- A line is made of pieces with spaces between them. -/
def lineOf (pieces : List (List Char)) : List Char := List.intercalate [' '] pieces

namespace Block

theorem Joined.prefix_head {gap : List Char → Prop} {piece cs : List Char}
    {pieces : List (List Char)} (start : List Char) (h : Joined gap (piece :: pieces) cs) :
    Joined gap ((start ++ piece) :: pieces) (start ++ cs) := by
  cases h with
  | last => exact .last _
  | cons space joined =>
    rw [← List.append_assoc]
    exact .cons space joined

theorem Joined.append {gap : List Char → Prop} {xs ys : List (List Char)} {a s b : List Char}
    (hx : Joined gap xs a) (space : gap s) (hy : Joined gap ys b) :
    Joined gap (xs ++ ys) (a ++ (s ++ b)) := by
  induction hx with
  | last piece => exact .cons space hy
  | cons between _ ih =>
    simp only [List.append_assoc, List.cons_append]
    exact .cons between ih

theorem joined_lineOf {pieces : List (List Char)} (some : pieces ≠ []) :
    Joined IsGap pieces (lineOf pieces) := by
  induction pieces with
  | nil => exact absurd rfl some
  | cons piece rest ih =>
    cases rest with
    | nil =>
      rw [lineOf, List.intercalate_singleton]
      exact .last piece
    | cons next rest =>
      rw [lineOf, List.intercalate_cons_cons, List.append_assoc]
      exact .cons (.inl rfl) (ih (by simp))

theorem joined_flatten {layout : List (List (List Char))} {cs : List Char}
    (full : ∀ line ∈ layout, line ≠ []) (h : Joined IsBreak (layout.map lineOf) cs) :
    Joined IsGap layout.flatten cs := by
  induction layout generalizing cs with
  | nil => cases h
  | cons line rest ih =>
    have own := joined_lineOf (full line List.mem_cons_self)
    cases rest with
    | nil =>
      cases h with
      | last =>
        rw [List.flatten_cons, List.flatten_nil, List.append_nil]
        exact own
      | cons _ none => cases none
    | cons next rest =>
      obtain ⟨between, tail, ⟨indent, blank, rfl⟩, joined, rfl⟩ := h.of_cons (by simp)
      have others := ih (fun l member => full l (List.mem_cons_of_mem _ member)) joined
      exact own.append (.inr ⟨indent, blank, rfl⟩) others

end Block

namespace Comment

/-- Text that leaves the state of a scanner within a block as it was. -/
def Neutral (cs : List Char) : Prop :=
  ∀ acc rest, scanLine (some ⟨acc, 1, false, false⟩) (cs ++ rest) =
    scanLine (some ⟨cs.reverse ++ acc, 1, false, false⟩) rest

theorem neutral_nil : Neutral [] := fun _ _ => rfl

theorem Neutral.append {xs ys : List Char} (hx : Neutral xs) (hy : Neutral ys) :
    Neutral (xs ++ ys) := by
  intro acc rest
  rw [List.append_assoc, hx, hy, List.reverse_append, List.append_assoc]

theorem neutral_char {c : Char} (plain : c ∉ ['"', '{', '}']) : Neutral [c] := by
  intro acc rest
  simp at plain
  simp [scanLine, OpenBlock.add, plain]

theorem neutral_chars {cs : List Char} (plain : ∀ c ∈ cs, c ∉ ['"', '{', '}']) : Neutral cs := by
  induction cs with
  | nil => exact neutral_nil
  | cons c cs ih =>
    have first := neutral_char (plain c List.mem_cons_self)
    exact first.append (ih fun d member => plain d (List.mem_cons_of_mem _ member))

theorem scanLine_escape (acc rest : List Char) (c : Char) :
    scanLine (some ⟨acc, 1, true, false⟩) (escape c ++ rest) =
      scanLine (some ⟨(escape c).reverse ++ acc, 1, true, false⟩) rest := by
  unfold escape
  split
  · simp [scanLine, OpenBlock.add]
  · simp [scanLine, OpenBlock.add]
  · simp [scanLine, OpenBlock.add]
  · simp [scanLine, OpenBlock.add]
  · simp [scanLine, OpenBlock.add]
  · rename_i quote slash _ _ _
    have notQuote : c ≠ '"' := fun same => quote same
    have notSlash : c ≠ '\\' := fun same => slash same
    simp [scanLine, OpenBlock.add, notQuote, notSlash]

theorem scanLine_escapes (cs acc rest : List Char) :
    scanLine (some ⟨acc, 1, true, false⟩) (cs.flatMap escape ++ rest) =
      scanLine (some ⟨(cs.flatMap escape).reverse ++ acc, 1, true, false⟩) rest := by
  induction cs generalizing acc with
  | nil => rfl
  | cons c cs ih =>
    rw [List.flatMap_cons, List.append_assoc, scanLine_escape, ih, List.reverse_append,
      List.append_assoc]

theorem neutral_quote (s : String) : Neutral (quote s) := by
  intro acc rest
  have opening : ∀ more, scanLine (some ⟨acc, 1, false, false⟩) ('"' :: more) =
      scanLine (some ⟨'"' :: acc, 1, true, false⟩) more := fun _ => rfl
  have closing : ∀ text, scanLine (some ⟨text, 1, true, false⟩) ('"' :: rest) =
      scanLine (some ⟨'"' :: text, 1, false, false⟩) rest := fun _ => rfl
  rw [quote, List.cons_append, List.cons_append, opening, List.append_assoc, scanLine_escapes,
    List.singleton_append, closing]
  simp

theorem neutral_join {pieces : List (List Char)} {gap : List Char} (space : Neutral gap)
    (all : ∀ piece ∈ pieces, Neutral piece) : Neutral (List.intercalate gap pieces) := by
  induction pieces with
  | nil => exact neutral_nil
  | cons piece rest ih =>
    have first := all piece List.mem_cons_self
    have others := ih fun p member => all p (List.mem_cons_of_mem _ member)
    cases rest with
    | nil =>
      rw [List.intercalate_singleton]
      exact first
    | cons next rest =>
      rw [List.intercalate_cons_cons]
      exact (first.append space).append others

theorem neutral_writes {v : Value} {cs : List Char} (h : Writes v cs) : Neutral cs := by
  cases h with
  | null => exact neutral_chars (forall_mem_of_all (by decide))
  | truth => exact neutral_chars (forall_mem_of_all (by decide))
  | falsity => exact neutral_chars (forall_mem_of_all (by decide))
  | quoted s => exact neutral_quote s
  | bare bare _ =>
    apply neutral_chars
    intro c member
    have plain := bare.plain c member
    simp at plain
    simp [plain]
  | list items =>
    have space : Neutral [',', ' '] := neutral_chars (forall_mem_of_all (by decide))
    have opening : Neutral ['['] := neutral_char (by decide)
    have closing : Neutral [']'] := neutral_char (by decide)
    have quotes : ∀ piece ∈ items.map quote, Neutral piece := by
      intro piece member
      obtain ⟨s, _, rfl⟩ := List.mem_map.mp member
      exact neutral_quote s
    exact (opening.append (neutral_join space quotes)).append closing

theorem neutral_entry {entry : String × Value} {cs : List Char} (h : WritesEntry entry cs) :
    Neutral cs := by
  obtain ⟨value, written, rfl⟩ := h
  have sign : Neutral [' ', '=', ' '] := neutral_chars (forall_mem_of_all (by decide))
  have both := ((neutral_quote entry.1).append sign).append (neutral_writes written)
  rw [List.append_assoc] at both
  exact both

theorem neutral_withCommas {pieces : List (List Char)} (all : ∀ piece ∈ pieces, Neutral piece) :
    ∀ piece ∈ withCommas pieces, Neutral piece := by
  fun_induction withCommas pieces with
  | case1 => simp
  | case2 piece => exact all
  | case3 piece rest _ ih =>
    intro p member
    rcases List.mem_cons.mp member with rfl | member
    · have comma : Neutral [','] := neutral_char (by decide)
      exact (all piece List.mem_cons_self).append comma
    · exact ih (fun q inside => all q (List.mem_cons_of_mem _ inside)) p member

def scanContents (block : Option OpenBlock) : List (List Char) → List String × Option OpenBlock
  | [] => ([], block)
  | content :: rest =>
    let (found, last) := scanLine block content
    let last := last.map fun b => { b with text := '\n' :: b.text }
    let (more, last) := scanContents last rest
    (found ++ more, last)

theorem scanLines_eq (block : Option OpenBlock) (lines : List String) :
    scanLines block lines = scanContents block (lines.map content) := by
  induction lines generalizing block with
  | nil => rfl
  | cons line rest ih => simp [scanLines, scanContents, ih]

theorem scanLine_blank {cs : List Char} (blank : IsBlank cs) (rest : List Char) :
    scanLine none (cs ++ rest) = scanLine none rest := by
  induction cs with
  | nil => rfl
  | cons c cs ih =>
    have apart : c ≠ '@' := by
      rintro rfl
      cases blank '@' List.mem_cons_self
    have others := ih fun d member => blank d (List.mem_cons_of_mem _ member)
    rw [List.cons_append, ← others]
    simp [scanLine, apart]

theorem scanContents_blank {contents : List (List Char)} (blank : ∀ cs ∈ contents, IsBlank cs)
    (rest : List (List Char)) :
    scanContents none (contents ++ rest) = scanContents none rest := by
  induction contents with
  | nil => rfl
  | cons cs contents ih =>
    have own := scanLine_blank (blank cs List.mem_cons_self) []
    rw [List.append_nil, scanLine] at own
    have others := ih fun d member => blank d (List.mem_cons_of_mem _ member)
    simp [scanContents, own, others]

/-- The contents of lines with these texts: each but the first may be indented, and blanks may
follow the last. -/
inductive Shown : List (List Char) → List (List Char) → Prop
  | last (text : List Char) {trail : List Char} : IsBlank trail → Shown [text] [text ++ trail]
  | cons (text : List Char) {texts contents : List (List Char)} {indent content : List Char} :
      IsBlank indent → Shown texts (content :: contents) →
      Shown (text :: texts) (text :: (indent ++ content) :: contents)

/-- The texts of lines of which the last ends the block. -/
inductive Closing : List (List Char) → Prop
  | last {text : List Char} : Neutral text → Closing [text ++ ['}']]
  | cons {text : List Char} {texts : List (List Char)} : Neutral text → Closing texts →
      Closing (text :: texts)

theorem neutral_blank {cs : List Char} (blank : IsBlank cs) : Neutral cs := by
  apply neutral_chars
  intro c member mark
  have solid : Text.isBlank c = true := blank c member
  simp at mark
  rcases mark with rfl | rfl | rfl <;> cases solid

theorem scanContents_neutral {start : List Char} (neutral : Neutral start) (acc content : List Char)
    (rest : List (List Char)) :
    scanContents (some ⟨acc, 1, false, false⟩) ((start ++ content) :: rest) =
      scanContents (some ⟨start.reverse ++ acc, 1, false, false⟩) (content :: rest) := by
  rw [scanContents, neutral acc content, scanContents]

/-- An open block goes on until its closing brace. What follows that must be blank. -/
theorem scanContents_shown {texts contents below : List (List Char)} (shown : Shown texts contents)
    (closing : Closing texts) (blank : ∀ cs ∈ below, IsBlank cs) (acc : List Char) :
    ∃ cs, Joined IsBreak texts cs ∧
      scanContents (some ⟨acc, 1, false, false⟩) (contents ++ below) =
        ([String.ofList (acc.reverse ++ cs)], none) := by
  have rest : scanContents none below = ([], none) := by
    have all := scanContents_blank blank []
    rw [List.append_nil] at all
    exact all
  -- what was read of the block so far grows by a line at each step
  induction shown generalizing acc with
  | last text trailing =>
    rename_i trail
    refine ⟨text, .last text, ?_⟩
    cases closing with
    | cons _ none => cases none
    | @last text neutral =>
      have after := scanLine_blank trailing []
      rw [List.append_nil, scanLine] at after
      have brace : ∀ body, scanLine (some ⟨body, 1, false, false⟩) ('}' :: trail) =
          ([String.ofList ('}' :: body).reverse], none) := by
        intro body
        simp [scanLine, OpenBlock.add, after]
      rw [List.append_assoc, List.singleton_append, List.cons_append, List.nil_append, scanContents,
        neutral, brace]
      simp [rest]
  | @cons text texts contents indent content indented more ih =>
    cases closing with
    | last _ => cases more
    | cons neutral closing =>
      obtain ⟨cs, joined, scanned⟩ := ih closing (indent.reverse ++ '\n' :: (text.reverse ++ acc))
      refine ⟨text ++ ('\n' :: indent ++ cs), .cons ⟨indent, indented, rfl⟩ joined, ?_⟩
      have own := neutral acc []
      rw [List.append_nil] at own
      rw [List.cons_append, scanContents, own]
      simp only [scanLine, Option.map_some, List.nil_append]
      rw [List.cons_append] at scanned
      rw [List.cons_append, scanContents_neutral (neutral_blank indented), scanned]
      simp

/-- The first line holds the mark of a block, before which only blanks may stand. -/
theorem scanContents_block {first indent content : List Char} {texts contents : List (List Char)}
    {above below : List (List Char)} (shown : Shown (first :: texts) (content :: contents))
    (closing : Closing (first :: texts)) (before : ∀ cs ∈ above, IsBlank cs)
    (indented : IsBlank indent) (after : ∀ cs ∈ below, IsBlank cs) :
    ∃ cs, Joined IsBreak (first :: texts) cs ∧
      scanContents none (above ++ (indent ++ '@' :: '@' :: '{' :: content) :: contents ++ below) =
        ([String.ofList ('{' :: cs)], none) := by
  obtain ⟨cs, joined, scanned⟩ := scanContents_shown shown closing after ['{']
  refine ⟨cs, joined, ?_⟩
  have opening : ∀ rest, scanContents none ((indent ++ '@' :: '@' :: '{' :: content) :: rest) =
      scanContents (some ⟨['{'], 1, false, false⟩) (content :: rest) := by
    intro rest
    rw [scanContents, scanLine_blank indented, scanContents]
    rfl
  rw [List.append_assoc, scanContents_blank before, List.cons_append, opening]
  exact scanned

theorem neutral_lineOf {pieces : List (List Char)} (neutral : ∀ piece ∈ pieces, Neutral piece) :
    Neutral (lineOf pieces) := by
  have space : Neutral [' '] := neutral_char (by decide)
  exact neutral_join space neutral

theorem lineOf_closing {pieces : List (List Char)} (neutral : ∀ piece ∈ pieces, Neutral piece) :
    ∃ text, Neutral text ∧ lineOf (pieces ++ [['}']]) = text ++ ['}'] := by
  induction pieces with
  | nil => exact ⟨[], neutral_nil, rfl⟩
  | cons piece rest ih =>
    obtain ⟨text, others, same⟩ := ih fun p member => neutral p (List.mem_cons_of_mem _ member)
    have first := neutral piece List.mem_cons_self
    have space : Neutral [' '] := neutral_char (by decide)
    refine ⟨piece ++ [' '] ++ text, (first.append space).append others, ?_⟩
    rw [lineOf] at same
    rw [lineOf, List.cons_append, List.intercalate_cons_of_ne_nil (by simp), same]
    simp

theorem closing_of_layout {layout : List (List (List Char))} {pieces : List (List Char)}
    (full : ∀ line ∈ layout, line ≠ []) (whole : layout.flatten = pieces ++ [['}']])
    (neutral : ∀ piece ∈ pieces, Neutral piece) : Closing (layout.map lineOf) := by
  induction layout generalizing pieces with
  | nil => simp at whole
  | cons line rest ih =>
    rw [List.flatten_cons] at whole
    -- the closing brace is on this line only if no other line follows
    rcases List.eq_nil_or_concat rest.flatten with empty | ⟨others, final, same⟩
    · have none : rest = [] := by
        cases rest with
        | nil => rfl
        | cons next _ =>
          simp only [List.flatten_cons, List.append_eq_nil_iff] at empty
          exact absurd empty.1 (full next (by simp))
      rw [empty, List.append_nil] at whole
      obtain ⟨text, own, closed⟩ := lineOf_closing neutral
      rw [none, whole, List.map_cons, List.map_nil, closed]
      exact .last own
    · rw [List.concat_eq_append] at same
      rw [same, ← List.append_assoc] at whole
      obtain ⟨rfl, last⟩ := List.append_inj' whole rfl
      cases last
      have own := neutral_lineOf fun p member => neutral p (List.mem_append_left _ member)
      refine .cons own (ih ?_ same ?_)
      · intro l member
        exact full l (List.mem_cons_of_mem _ member)
      · intro p member
        exact neutral p (List.mem_append_right _ member)

end Comment

end TypedRows
