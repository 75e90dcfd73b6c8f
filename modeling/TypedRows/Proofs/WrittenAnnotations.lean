import TypedRows.Proofs.Outcome
import TypedRows.Proofs.WrittenComment

/-! Annotations that are written into a comment are read back from it. -/

namespace TypedRows

open Block Comment

namespace Comment

theorem ending_snoc {c : Char} (solid : Text.isBlank c = false) (apart : c ≠ '/')
    (cs : List Char) : Ending (cs ++ [c]) := by
  constructor
  · simp
  · intro d last
    rw [List.getLast?_append] at last
    cases last
    exact solid
  · rintro ⟨before, same⟩
    have last := congrArg List.getLast? same
    simp at last
    exact apart last.symm

/-- The blank before a text is no part of a mark at its end. -/
theorem Ending.space {cs : List Char} (h : Ending cs) (before : List Char) :
    Ending (before ++ ' ' :: cs) := by
  obtain ⟨c, more, filled⟩ := List.exists_cons_of_ne_nil h.nonempty
  constructor
  · simp
  · have last : (before ++ ' ' :: cs).getLast? = cs.getLast? := by
      rw [← List.singleton_append, ← List.append_assoc]
      exact List.getLast?_append_of_ne_nil _ h.nonempty
    rw [last]
    exact h.last
  · intro ends
    have whole : ' ' :: cs <:+ before ++ ' ' :: cs := List.suffix_append _ _
    have shorter : ['*', '/'].length ≤ (' ' :: cs).length := by simp [filled]
    rcases List.suffix_cons_iff.mp (List.suffix_of_suffix_length_le ends whole shorter) with
      same | inside
    · cases same
    · exact h.unclosed inside

theorem Ending.solid {c : Char} {rest : List Char} (h : Ending (c :: rest))
    (own : Text.isBlank c = false ∧ c ∉ ['-', '/', '*']) : Solid (c :: rest) := by
  refine ⟨h, ?_⟩
  intro d first
  cases first
  exact own

theorem Ending.of_writes {v : Value} {cs : List Char} (h : Writes v cs) : Ending cs := by
  cases h with
  | null => exact ending_snoc (by decide) (by decide) ['n', 'u', 'l']
  | truth => exact ending_snoc (by decide) (by decide) ['t', 'r', 'u']
  | falsity => exact ending_snoc (by decide) (by decide) ['f', 'a', 'l', 's']
  | quoted s => exact ending_snoc (by decide) (by decide) _
  | list items => exact ending_snoc (by decide) (by decide) _
  | bare bare _ =>
    constructor
    · exact bare.nonempty
    · exact (Text.solid_of_trimChars bare.trimmed).2
    · intro ends
      exact bare.unmarked ends.isInfix

theorem solid_entry {entry : String × Value} {cs : List Char} (h : WritesEntry entry cs) :
    Solid cs ∧ Solid (cs ++ [',']) := by
  obtain ⟨value, written, rfl⟩ := h
  have ends := (Ending.of_writes written).space (quote entry.1 ++ [' ', '='])
  simp only [List.append_assoc, List.cons_append, List.nil_append] at ends
  have mark : Text.isBlank '"' = false ∧ '"' ∉ ['-', '/', '*'] := by decide
  have comma : Ending (quote entry.1 ++ ' ' :: '=' :: ' ' :: value ++ [',']) :=
    ending_snoc (by decide) (by decide) _
  exact ⟨ends.solid mark, comma.solid mark⟩

theorem solid_withCommas {written : List (String × Value)} {pieces : List (List Char)}
    (h : List.Forall₂ WritesEntry written pieces) : ∀ piece ∈ withCommas pieces, Solid piece := by
  induction h with
  | nil => simp [withCommas]
  | @cons entry piece written pieces first others ih =>
    obtain ⟨alone, comma⟩ := solid_entry first
    cases others with
    | nil =>
      simp only [withCommas, List.mem_singleton, forall_eq]
      exact alone
    | cons second rest =>
      simp only [withCommas, List.mem_cons] at ih ⊢
      rintro p (rfl | member)
      · exact comma
      · exact ih p member

theorem solid_lineOf {pieces : List (List Char)} (some : pieces ≠ [])
    (solid : ∀ piece ∈ pieces, Solid piece) : Solid (lineOf pieces) := by
  induction pieces with
  | nil => exact absurd rfl some
  | cons piece rest ih =>
    have own := solid piece List.mem_cons_self
    cases rest with
    | nil =>
      rw [lineOf, List.intercalate_singleton]
      exact own
    | cons next rest =>
      have others := ih (by simp) fun p member => solid p (List.mem_cons_of_mem _ member)
      have ends := others.toEnding.space piece
      rw [lineOf, List.intercalate_cons_cons, List.append_assoc]
      refine ⟨ends, ?_⟩
      intro c first
      rw [List.head?_append_of_ne_nil _ own.nonempty] at first
      exact own.first c first

end Comment

def blockPieces (entries : List (List Char)) : List (List Char) :=
  ['@', '@', '{'] :: withCommas entries ++ [['}']]

/-- The lines are a comment that holds the annotations as a block, each piece of which may begin a
new line. -/
def WrittenAs (map : Annotations) (lines : List String) : Prop :=
  ∃ (entries : List (List Char)) (layout : List (List (List Char))),
    List.Forall₂ WritesEntry map.entries entries ∧ layout.flatten = blockPieces entries ∧
      (∀ line ∈ layout, line ≠ []) ∧ IsComment (layout.map lineOf) lines

namespace Comment

theorem solid_blockPieces {map : Annotations} {entries : List (List Char)}
    (written : List.Forall₂ WritesEntry map.entries entries) :
    ∀ piece ∈ blockPieces entries, Solid piece := by
  intro piece member
  simp only [blockPieces, List.cons_append, List.mem_cons, List.mem_append, List.not_mem_nil,
    or_false] at member
  rcases member with rfl | inside | rfl
  · exact (ending_snoc (by decide) (by decide) ['@', '@']).solid (by decide)
  · exact solid_withCommas written piece inside
  · exact (ending_snoc (by decide) (by decide) []).solid (by decide)

theorem solid_layout {layout : List (List (List Char))} (full : ∀ line ∈ layout, line ≠ [])
    (solid : ∀ piece ∈ layout.flatten, Solid piece) : ∀ text ∈ layout.map lineOf, Solid text := by
  intro text member
  obtain ⟨line, inside, rfl⟩ := List.mem_map.mp member
  exact solid_lineOf (full line inside) fun piece within =>
    solid piece (List.mem_flatten.mpr ⟨line, inside, within⟩)

theorem neutral_entries {written : List (String × Value)} {entries : List (List Char)}
    (h : List.Forall₂ WritesEntry written entries) : ∀ piece ∈ entries, Neutral piece := by
  induction h with
  | nil => simp
  | cons first _ ih => exact List.forall_mem_cons.mpr ⟨neutral_entry first, ih⟩

theorem layout_of_block {layout : List (List (List Char))} {entries : List (List Char)}
    (full : ∀ line ∈ layout, line ≠ []) (whole : layout.flatten = blockPieces entries) :
    ∃ more rest, layout = (['@', '@', '{'] :: more) :: rest ∧
      more ++ rest.flatten = withCommas entries ++ [['}']] := by
  cases layout with
  | nil => cases whole
  | cons line rest =>
    cases line with
    | nil => exact absurd rfl (full [] List.mem_cons_self)
    | cons piece more =>
      rw [List.flatten_cons, blockPieces, List.cons_append, List.cons_append] at whole
      obtain ⟨rfl, others⟩ := List.cons.inj whole
      exact ⟨more, rest, rfl, others⟩

theorem lineOf_cons (start piece : List Char) (more : List (List Char)) :
    lineOf ((start ++ piece) :: more) = start ++ lineOf (piece :: more) := by
  cases more with
  | nil => simp [lineOf]
  | cons next more => simp [lineOf, List.intercalate_cons_cons]

theorem Shown.of_append {start text : List Char} {texts contents : List (List Char)}
    (h : Shown ((start ++ text) :: texts) contents) :
    ∃ content others, contents = (start ++ content) :: others ∧
      Shown (text :: texts) (content :: others) := by
  cases h with
  | last _ trailing =>
    rename_i trail
    exact ⟨text ++ trail, [], by rw [List.append_assoc], .last text trailing⟩
  | cons _ indented shown => exact ⟨text, _, rfl, .cons text indented shown⟩

/-- The scanner finds the block of a comment, with a space or a new line between its pieces. -/
theorem blocks_of_written {map : Annotations} {lines : List String} (h : WrittenAs map lines) :
    ∃ cs entries, List.Forall₂ WritesEntry map.entries entries ∧
      Joined IsGap (['{'] :: withCommas entries ++ [['}']]) cs ∧
      blocks lines = .ok [String.ofList cs] := by
  obtain ⟨entries, layout, written, whole, full, comment⟩ := h
  have solid := solid_layout full (whole ▸ solid_blockPieces written)
  obtain ⟨more, rest, rfl, others⟩ := layout_of_block full whole
  obtain ⟨above, lead, content, contents, below, before, leading, after, shown, same⟩ :=
    comment.contents (by simp) solid
  -- the mark stands before the block that is left when it is taken off the first line
  have marked : lineOf (['@', '@', '{'] :: more) = ['@', '@', '{'] ++ lineOf ([] :: more) :=
    lineOf_cons ['@', '@', '{'] [] more
  rw [List.map_cons, marked] at shown
  obtain ⟨content', contents', found, shown⟩ := shown.of_append
  obtain ⟨rfl, rfl⟩ := List.cons.inj found
  have full' : ∀ line ∈ ([] :: more) :: rest, line ≠ [] := by
    intro line member
    rcases List.mem_cons.mp member with rfl | member
    · simp
    · exact full line (List.mem_cons_of_mem _ member)
  have whole' : (([] :: more) :: rest).flatten = ([] :: withCommas entries) ++ [['}']] := by
    rw [List.flatten_cons, List.cons_append, others]
    rfl
  have neutral : ∀ piece ∈ [] :: withCommas entries, Neutral piece := by
    intro piece member
    rcases List.mem_cons.mp member with rfl | member
    · exact neutral_nil
    · exact neutral_withCommas (neutral_entries written) piece member
  have closing := closing_of_layout full' whole' neutral
  obtain ⟨cs, joined, scanned⟩ := scanContents_block shown closing before leading after
  have pieces := joined_flatten full' joined
  rw [whole', List.cons_append] at pieces
  refine ⟨'{' :: cs, entries, written, pieces.prefix_head ['{'], ?_⟩
  have scan : scanLines none lines = ([String.ofList ('{' :: cs)], none) := by
    rw [scanLines_eq, same]
    exact scanned
  rw [blocks, scan]

end Comment

/-- Annotations written into a comment are read back, in their order. -/
theorem Annotations.ofComments_written {map : Annotations} {lines : List String}
    (h : WrittenAs map lines) : Annotations.ofComments lines = .ok map := by
  obtain ⟨cs, entries, written, joined, found⟩ := blocks_of_written h
  have parsed : Annotations.parseBlock (String.ofList cs) = .ok map := by
    rw [parseBlock, Block.parse, String.toList_ofList, parseChars_written written joined]
    rfl
  rw [ofComments, bind_of_ok found, List.foldlM_cons, bind_assoc, bind_of_ok parsed,
    OrderedMap.empty_putAll]
  rfl

theorem Annotations.ofComments_written_lines : Annotations.ofComments
      ["/*", " * @@\x7b", " * \"type\" = HashMap<String, i64>,",
        " * \"mark\\\"\" = \"\x7d */ @@\x7b\\n\",",
        " * \"tags\" = [\"x\", \"-- y\"], \"none\" = null",
        " * \x7d", " */"] =
    .ok ⟨[("type", .text "HashMap<String, i64>"), ("mark\"", .text "\x7d */ @@\x7b\n"),
      ("tags", .list ["x", "-- y"]), ("none", .null)], by decide⟩ := by
  apply ofComments_written
  have space : IsBlank [' '] := by simp [IsBlank, Text.isBlank]
  have star (text : List Char) : Starred text (' ' :: '*' :: ' ' :: text) :=
    ⟨[' '], ['*', ' '], [], space, .inr ⟨' ', [], space, rfl⟩, isBlank_nil, by simp⟩
  have starred (texts : List (List Char)) :
      List.Forall₂ Starred texts (texts.map fun text => ' ' :: '*' :: ' ' :: text) :=
    List.forall₂_map_right_iff.mpr (List.forall₂_same.mpr fun text _ => star text)
  have entries : List.Forall₂ WritesEntry
      [("type", .text "HashMap<String, i64>"), ("mark\"", .text "\x7d */ @@\x7b\n"),
        ("tags", .list ["x", "-- y"]), ("none", .null)] _ :=
    .cons ⟨_, .bare (by decide +kernel) (by decide), rfl⟩ (.cons ⟨_, .quoted _, rfl⟩
      (.cons ⟨_, .list _, rfl⟩ (.cons ⟨_, .null, rfl⟩ .nil)))
  refine ⟨_, [[['@', '@', '{']], [_], [_], [_, _], [['}']]], entries, rfl, by simp, ?_⟩
  have empty : ∀ line ∈ [([] : List Char)], IsBlank line := by simp [isBlank_nil]
  have last : ∀ line ∈ [[' ']], IsBlank line := by simp [space]
  exact .block (starred _) empty last isBlank_nil isBlank_nil (by decide +kernel)

end TypedRows
