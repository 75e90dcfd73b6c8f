import TypedRows.Annotations.Extract
import TypedRows.Proofs.MapLookup
import TypedRows.Proofs.Outcome

/-! Comment lines read one list after the other. A scanner may keep its marks for quotes, escapes
and braces from block to block: where no block is open they are as they were at the start. So what
is found in two lists of lines is what is found in each. -/

namespace TypedRows

namespace Comment

/-- The state of a scanner that clears no mark for quotes or escapes when a block ends. -/
structure Registers where
  /-- The text of the open block, last character first. -/
  text : Option (List Char)
  depth : Nat
  quoted : Bool
  escaped : Bool
  deriving DecidableEq

namespace Registers

def start : Registers := ⟨none, 0, false, false⟩

def take (r : Registers) (c : Char) : Registers :=
  let r := { r with text := r.text.map (c :: ·) }
  if r.quoted then
    if r.escaped then { r with escaped := false }
    else if c = '\\' then { r with escaped := true }
    else if c = '"' then { r with quoted := false }
    else r
  else if c = '"' then { r with quoted := true }
  else if c = '{' then { r with depth := r.depth + 1 }
  else if c = '}' then { r with depth := r.depth - 1 }
  else r

/-- Whether a block ends with the character. -/
def closes (r : Registers) (c : Char) : Bool :=
  !r.quoted && c == '}' && r.depth - 1 == 0

/-- The blocks that end in a line. The mark of a block resets the depth and nothing else. -/
def scanLine : Registers → List Char → List String × Registers
  | r, [] => ([], r)
  | ⟨none, _, quoted, escaped⟩, '@' :: '@' :: '{' :: rest =>
    scanLine (take ⟨some [], 0, quoted, escaped⟩ '{') rest
  | ⟨none, depth, quoted, escaped⟩, _ :: rest => scanLine ⟨none, depth, quoted, escaped⟩ rest
  | ⟨some text, depth, quoted, escaped⟩, c :: rest =>
    let r : Registers := ⟨some text, depth, quoted, escaped⟩
    if r.closes c then
      let (found, last) := scanLine { r.take c with text := none } rest
      (String.ofList (c :: text).reverse :: found, last)
    else scanLine (r.take c) rest

def scanLines (r : Registers) : List String → List String × Registers
  | [] => ([], r)
  | line :: rest =>
    let (found, last) := scanLine r (content line)
    let (more, last) := scanLines { last with text := last.text.map ('\n' :: ·) } rest
    (found ++ more, last)

/-- The blocks in the lines, each with its braces. -/
def blocks (lines : List String) : Except AnnotationsError (List String) :=
  match scanLines start lines with
  | (found, ⟨none, _, _, _⟩) => .ok found
  | (_, ⟨some text, _, _, _⟩) => .error (.openBlock (String.ofList text.reverse))

/-- The state with no mark left over from earlier blocks. -/
def ofBlock : Option OpenBlock → Registers
  | none => start
  | some b => ⟨some b.text, b.depth, b.quoted, b.escaped⟩

end Registers

/-- Some brace is still open, and nothing is escaped outside quotes. -/
structure OpenBlock.Unended (b : OpenBlock) : Prop where
  depth : b.depth ≠ 0
  escaped : b.escaped = true → b.quoted = true

section Blocks

open Registers

variable {b : OpenBlock}

theorem OpenBlock.unended_start : start.Unended := ⟨Nat.one_ne_zero, id⟩

theorem OpenBlock.add_text (b : OpenBlock) (c : Char) : (b.add c).text = c :: b.text := by
  unfold add
  split_ifs <;> rfl

theorem take_ofBlock (b : OpenBlock) (c : Char) :
    (ofBlock (some b)).take c = ofBlock (some (b.add c)) := by
  unfold ofBlock take OpenBlock.add
  dsimp only
  split_ifs <;> rfl

theorem OpenBlock.Unended.add (h : b.Unended) {c : Char} (more : (b.add c).depth ≠ 0) :
    (b.add c).Unended := by
  refine ⟨more, ?_⟩
  have marked := h.escaped
  unfold OpenBlock.add
  split_ifs <;> simp_all

theorem closes_iff (h : b.Unended) (c : Char) :
    (ofBlock (some b)).closes c = true ↔ (b.add c).depth = 0 := by
  have deep := h.depth
  unfold ofBlock closes OpenBlock.add
  split_ifs <;> simp_all

/-- The brace that ends a block is not quoted, and nothing before it is escaped. -/
theorem OpenBlock.Unended.ended (h : b.Unended) {c : Char} (last : (b.add c).depth = 0) :
    { ofBlock (some (b.add c)) with text := none } = Registers.start := by
  have deep := h.depth
  have marked := h.escaped
  revert last
  unfold ofBlock OpenBlock.add Registers.start
  split_ifs <;> simp_all

/-- The scanner that clears no marks is the one that starts every block anew. -/
theorem scanLine_ofBlock {block : Option OpenBlock} (open' : ∀ b ∈ block, b.Unended)
    (cs : List Char) :
    Registers.scanLine (ofBlock block) cs =
      ((scanLine block cs).1, ofBlock (scanLine block cs).2) ∧
    ∀ b ∈ (scanLine block cs).2, b.Unended := by
  fun_induction scanLine block cs with
  | case1 block =>
    cases block <;> exact ⟨by rw [ofBlock, Registers.scanLine], open'⟩
  | case2 rest ih =>
    obtain ⟨same, after⟩ := ih fun b member => Option.mem_some.mp member ▸ OpenBlock.unended_start
    exact ⟨same, after⟩
  | case3 c rest other ih =>
    obtain ⟨same, after⟩ := ih open'
    refine ⟨?_, after⟩
    rw [← same, ofBlock, start, Registers.scanLine]
    exact other
  | case4 b c rest last ended found after scanned ih =>
    have h := open' b rfl
    obtain ⟨same, after⟩ := ih nofun
    have step : (ofBlock (some b)).scanLine (c :: rest) =
        (String.ofList (c :: b.text).reverse :: (Registers.start.scanLine rest).1,
          (Registers.start.scanLine rest).2) := by
      rw [← h.ended ended, ← take_ofBlock, ofBlock, Registers.scanLine]
      exact if_pos ((closes_iff h c).mpr ended)
    rw [scanned] at same after
    rw [ofBlock] at same
    rw [step, same, ← b.add_text c]
    exact ⟨rfl, after⟩
  | case5 b c rest last more ih =>
    have h := open' b rfl
    obtain ⟨same, after⟩ := ih fun b member => Option.mem_some.mp member ▸ h.add more
    have step : (ofBlock (some b)).scanLine (c :: rest) = (ofBlock (some last)).scanLine rest := by
      rw [← take_ofBlock, ofBlock, Registers.scanLine]
      exact if_neg fun closed => more ((closes_iff h c).mp closed)
    rw [step]
    exact ⟨same, after⟩

theorem scanLines_ofBlock {block : Option OpenBlock} (open' : ∀ b ∈ block, b.Unended)
    (lines : List String) :
    Registers.scanLines (ofBlock block) lines =
      ((scanLines block lines).1, ofBlock (scanLines block lines).2) := by
  induction lines generalizing block with
  | nil => rfl
  | cons line rest ih =>
    obtain ⟨same, after⟩ := scanLine_ofBlock open' (content line)
    rw [Registers.scanLines, scanLines, same]
    have next : ∀ b ∈ (scanLine block (content line)).2.map
        fun b => { b with text := '\n' :: b.text }, b.Unended := by
      intro b member
      obtain ⟨before, found, rfl⟩ := Option.map_eq_some_iff.mp member
      obtain ⟨deep, marked⟩ := after before found
      exact ⟨deep, marked⟩
    have broken : ∀ block : Option OpenBlock,
        { ofBlock block with text := (ofBlock block).text.map ('\n' :: ·) } =
          ofBlock (block.map fun b => { b with text := '\n' :: b.text }) := by
      intro block
      cases block <;> rfl
    dsimp only
    rw [broken, ih next]

theorem blocks_registers (lines : List String) : Registers.blocks lines = blocks lines := by
  have same := @scanLines_ofBlock none nofun lines
  rw [ofBlock] at same
  rw [Registers.blocks, same, blocks]
  obtain ⟨found, last⟩ := scanLines none lines
  cases last <;> rfl

theorem ofBlock_text {block : Option OpenBlock} (none : (ofBlock block).text = none) :
    block = .none := by
  cases block with
  | none => rfl
  | some b => cases none

theorem getLast?_tail {c d : Char} {rest : List Char} (apart : (c :: rest).getLast? ≠ some d) :
    rest.getLast? ≠ some d := by
  intro last
  rw [List.getLast?_cons, last] at apart
  exact apart rfl

/-- The scanner goes on where it was, unless the mark of a block could begin at the end. -/
theorem scanLine_append {block : Option OpenBlock} {xs : List Char}
    (apart : xs.getLast? ≠ some '@') (ys : List Char) :
    scanLine block (xs ++ ys) =
      ((scanLine block xs).1 ++ (scanLine (scanLine block xs).2 ys).1,
        (scanLine (scanLine block xs).2 ys).2) := by
  fun_induction scanLine block xs with
  | case1 block => rfl
  | case2 rest ih => exact ih (getLast?_tail (getLast?_tail (getLast?_tail apart)))
  | case3 c rest other ih =>
    have unmarked : ∀ more, c = '@' → rest ++ ys = '@' :: '{' :: more → False := by
      rintro more rfl same
      match rest with
      | [] => exact apart rfl
      | [d] =>
        cases same
        exact apart rfl
      | d :: e :: more' =>
        cases same
        exact other more' rfl rfl
    rw [List.cons_append, scanLine]
    · exact ih (getLast?_tail apart)
    · exact unmarked
  | case4 b c rest last ended found after scanned ih =>
    rw [List.cons_append, scanLine]
    dsimp only
    rw [if_pos ended, ih (getLast?_tail apart), scanned]
    rfl
  | case5 b c rest last more ih =>
    rw [List.cons_append, scanLine]
    dsimp only
    rw [if_neg more, ih (getLast?_tail apart)]

theorem scanLines_append (block : Option OpenBlock) (first second : List String) :
    scanLines block (first ++ second) =
      ((scanLines block first).1 ++ (scanLines (scanLines block first).2 second).1,
        (scanLines (scanLines block first).2 second).2) := by
  induction first generalizing block with
  | nil => rfl
  | cons line rest ih =>
    rw [List.cons_append, scanLines, scanLines]
    dsimp only
    rw [ih, List.append_assoc]

theorem scanLines_of_blocks {lines found : List String} (h : blocks lines = .ok found) :
    scanLines none lines = (found, none) := by
  unfold blocks at h
  split at h
  · rename_i scanned
    cases h
    exact scanned
  · cases h

theorem blocks_append {first found : List String} (h : blocks first = .ok found)
    (second : List String) : blocks (first ++ second) = (found ++ ·) <$> blocks second := by
  rw [blocks, scanLines_append, scanLines_of_blocks h, blocks]
  obtain ⟨more, last⟩ := scanLines none second
  cases last <;> rfl

end Blocks

end Comment

namespace Annotations

/-- What the blocks say may be laid over other annotations in the end. -/
theorem foldlM_putAll (m acc : Annotations) (blocks : List String) :
    (blocks.foldlM (fun acc block => return acc.putAll (← parseBlock block).entries)
      (m.putAll acc.entries) : Except AnnotationsError Annotations) =
    (fun n => m.putAll n.entries) <$>
      blocks.foldlM (fun acc block => return acc.putAll (← parseBlock block).entries) acc := by
  induction blocks generalizing acc with
  | nil => rfl
  | cons block rest ih =>
    rw [List.foldlM_cons, List.foldlM_cons]
    cases parseBlock block with
    | error e => rfl
    | ok map =>
      have next := ih (acc.putAll map.entries)
      rw [OrderedMap.putAll_putAll] at next
      exact next

open Comment in
/-- Of two lists of lines, of which the first is read, the blocks are found one after the other, and
the entries of the second are laid over those of the first: values given again win, and keys keep
their place. An error of the second list is the error of both. The scanner need not clear its marks
for that: after the first list, and wherever a line has no block open, they are as at the start. -/
theorem ofComments_append {first : List String} {m : Annotations}
    (read : ofComments first = .ok m) (second : List String) :
    (∃ found, blocks first = .ok found ∧
      blocks (first ++ second) = (found ++ ·) <$> blocks second) ∧
    ofComments (first ++ second) = (fun n => m.putAll n.entries) <$> ofComments second ∧
    (∀ n : Annotations,
      (m.putAll n.entries).keys = m.keys ++ n.keys.filter (!m.contains ·) ∧
      ∀ key, (m.putAll n.entries).get? key = (n.get? key).or (m.get? key)) ∧
    (∀ lines, Registers.blocks lines = blocks lines) ∧
    (Registers.scanLines .start first).2 = .start ∧
    ∀ xs, xs.getLast? ≠ some '@' → (Registers.scanLine .start xs).2.text = none →
      (Registers.scanLine .start xs).2 = .start ∧
      ∀ ys, Registers.scanLine .start (xs ++ ys) =
        ((Registers.scanLine .start xs).1 ++ (Registers.scanLine .start ys).1,
          (Registers.scanLine .start ys).2) := by
  obtain ⟨found, scanned, run⟩ := bind_eq_ok read
  have line : ∀ cs, Registers.scanLine .start cs =
      ((scanLine none cs).1, Registers.ofBlock (scanLine none cs).2) := fun cs =>
    (@scanLine_ofBlock none nofun cs).1
  refine ⟨⟨found, scanned, blocks_append scanned second⟩, ?_, fun n => ⟨?_, ?_⟩, blocks_registers,
    ?_, ?_⟩
  · rw [ofComments, blocks_append scanned, ofComments]
    cases blocks second with
    | error e => rfl
    | ok more =>
      have laid := foldlM_putAll m .empty more
      change (found ++ more).foldlM _ _ = _
      rw [List.foldlM_append, run]
      exact laid
  · exact OrderedMap.keys_putAll m n.nodup
  · exact OrderedMap.get?_putAll_entries m n
  · have lines := @scanLines_ofBlock none nofun first
    rw [scanLines_of_blocks scanned] at lines
    exact congrArg Prod.snd lines
  · intro xs apart closed
    rw [line] at closed
    refine ⟨?_, fun ys => ?_⟩
    · rw [line, ofBlock_text closed]
      rfl
    · rw [line xs, line (xs ++ ys), line ys, scanLine_append apart, ofBlock_text closed]

/-- Two blocks on one line, with braces, an escaped quote and the mark of a block between quotes. -/
def quotedLines : List String :=
  ["@@\x7bnote = \"\x7d \\\" @@\x7b\", notNull\x7d @@\x7bfield = a\x7d"]

def escapedLines : List String := ["@@\x7bfield = b,", "adapter = \"\\\\\"\x7d"]

theorem ofComments_append_quoted :
    ofComments quotedLines = .ok
      ⟨[("note", .text "\x7d \" @@\x7b"), ("notNull", .text ""), ("field", .text "a")],
        by decide⟩ ∧
    ofComments escapedLines = .ok ⟨[("field", .text "b"), ("adapter", .text "\\")], by decide⟩ ∧
    ofComments (quotedLines ++ escapedLines) = .ok
      ⟨[("note", .text "\x7d \" @@\x7b"), ("notNull", .text ""), ("field", .text "b"),
        ("adapter", .text "\\")], by decide⟩ := by
  have first : ofComments quotedLines = .ok
      ⟨[("note", .text "\x7d \" @@\x7b"), ("notNull", .text ""), ("field", .text "a")],
        by decide⟩ := by
    with_unfolding_all rfl
  have second : ofComments escapedLines =
      .ok ⟨[("field", .text "b"), ("adapter", .text "\\")], by decide⟩ := by
    with_unfolding_all rfl
  refine ⟨first, second, ?_⟩
  rw [(ofComments_append first escapedLines).2.1, second]
  rfl

end Annotations

end TypedRows
