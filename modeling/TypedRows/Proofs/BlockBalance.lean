import TypedRows.Annotations.Comment
import TypedRows.Proofs.CommentStreams
import TypedRows.Proofs.Trimming
import TypedRows.Proofs.WrittenComment

/-! Where a block ends. The scanner of comment lines and the reader of a block go through quoted
texts each in its own way; but what the scanner cuts out is balanced, and of a balanced text the
reader never finds that a brace is missing or that something follows the last one. -/

namespace TypedRows

namespace Block

/-- Where in a block a character stands: outside of quotes, between them, or after a backslash
there. -/
inductive Zone where
  | plain
  | quoted
  | escaped
  deriving DecidableEq

namespace Zone

/-- The zone after a character. The newlines between the lines of a block are no part of it. -/
def next (zone : Zone) (c : Char) : Zone :=
  if c = '\n' then zone
  else
    match zone with
    | plain => if c = '"' then quoted else plain
    | quoted => if c = '\\' then escaped else if c = '"' then plain else quoted
    | escaped => quoted

/-- How many more braces are open after a character. -/
def change : Zone → Char → Int
  | plain, '{' => 1
  | plain, '}' => -1
  | _, _ => 0

end Zone

/-- The braces opened in a text less those closed, without those between quotes. -/
def braceDepth (zone : Zone) : List Char → Int
  | [] => 0
  | c :: rest => zone.change c + braceDepth (zone.next c) rest

/-- The braces of a text close with its last character and not before. -/
structure Balanced (cs : List Char) : Prop where
  opening : cs.head? = some '{'
  within : ∀ start, start <+: cs → start ≠ [] → start ≠ cs → 1 ≤ braceDepth .plain start
  whole : braceDepth .plain cs = 0

/-- With this many braces open, those of the text close with its last character and not before. -/
def Closes (depth : Int) (zone : Zone) : List Char → Prop
  | [] => depth = 0
  | c :: rest => 1 ≤ depth ∧ Closes (depth + zone.change c) (zone.next c) rest

section Closes

variable {depth : Int} {zone : Zone} {c : Char} {cs rest : List Char}

theorem closes_iff_braceDepth : Closes depth zone cs ↔ depth + braceDepth zone cs = 0 ∧
    ∀ start, start <+: cs → start ≠ cs → 1 ≤ depth + braceDepth zone start := by
  induction cs generalizing depth zone with
  | nil =>
    simp only [Closes, braceDepth, Int.add_zero, List.prefix_nil]
    exact ⟨fun h => ⟨h, fun start same other => absurd same other⟩, And.left⟩
  | cons c rest ih =>
    rw [Closes, ih, braceDepth, ← Int.add_assoc]
    constructor
    · rintro ⟨deep, whole, within⟩
      refine ⟨whole, fun start before other => ?_⟩
      cases start with
      | nil => simpa [braceDepth] using deep
      | cons d more =>
        obtain ⟨rfl, shorter⟩ := List.cons_prefix_cons.mp before
        rw [braceDepth, ← Int.add_assoc]
        exact within more shorter fun same => other (same ▸ rfl)
    · rintro ⟨whole, within⟩
      refine ⟨?_, whole, fun start before other => ?_⟩
      · simpa [braceDepth] using within [] List.nil_prefix (List.cons_ne_nil c rest).symm
      · have inside := within (c :: start) (List.cons_prefix_cons.mpr ⟨rfl, before⟩)
          fun same => other (List.cons.inj same).2
        rwa [braceDepth, ← Int.add_assoc] at inside

theorem balanced_iff : Balanced cs ↔ ∃ body, cs = '{' :: body ∧ Closes 1 .plain body := by
  have opened : ∀ body, braceDepth .plain ('{' :: body) = 1 + braceDepth .plain body :=
    fun _ => rfl
  constructor
  · rintro ⟨opening, within, whole⟩
    obtain ⟨body, rfl⟩ := List.head?_eq_some_iff.mp opening
    refine ⟨body, rfl, closes_iff_braceDepth.mpr ⟨whole, fun start before other => ?_⟩⟩
    exact within ('{' :: start) (List.cons_prefix_cons.mpr ⟨rfl, before⟩) (List.cons_ne_nil _ _)
      fun same => other (List.cons.inj same).2
  · rintro ⟨body, rfl, closes⟩
    obtain ⟨whole, within⟩ := closes_iff_braceDepth.mp closes
    refine ⟨rfl, fun start before some' other => ?_, whole⟩
    obtain ⟨d, more, rfl⟩ := List.exists_cons_of_ne_nil some'
    obtain ⟨rfl, shorter⟩ := List.cons_prefix_cons.mp before
    exact within more shorter fun same => other (same ▸ rfl)

theorem Closes.ne_nil (h : Closes 1 zone cs) : cs ≠ [] := by
  rintro rfl
  cases h

/-- Nothing follows when all braces are closed. -/
theorem Closes.eq_nil (h : Closes 0 zone cs) : cs = [] := by
  cases cs with
  | nil => rfl
  | cons c rest => exact absurd h.1 (by decide)

theorem Closes.brace (h : Closes 1 .plain ('}' :: rest)) : rest = [] := by
  have closed : Closes 0 .plain rest := h.2
  exact closed.eq_nil

/-- The marks that the scanner looks for outside of quotes. -/
def marks : List Char := ['"', '{', '}']

theorem closes_plain (other : c ∉ marks) : Closes 1 .plain (c :: rest) ↔ Closes 1 .plain rest := by
  simp only [marks, List.mem_cons, List.not_mem_nil, or_false, not_or] at other
  have same : Zone.next .plain c = .plain := by
    unfold Zone.next
    split_ifs <;> simp_all
  have none : Zone.change .plain c = 0 := by
    unfold Zone.change
    split <;> simp_all
  rw [Closes, same, none]
  exact and_iff_right (by decide)

theorem closes_opening : Closes 1 .plain ('"' :: rest) ↔ Closes 1 .quoted rest :=
  and_iff_right (by decide)

theorem closes_closing : Closes 1 .quoted ('"' :: rest) ↔ Closes 1 .plain rest :=
  and_iff_right (by decide)

theorem closes_quoted (other : c ∉ ['"', '\\']) :
    Closes 1 .quoted (c :: rest) ↔ Closes 1 .quoted rest := by
  simp only [List.mem_cons, List.not_mem_nil, or_false, not_or] at other
  have same : Zone.next .quoted c = .quoted := by
    unfold Zone.next
    split_ifs <;> simp_all
  rw [Closes, same]
  exact and_iff_right (by decide)

theorem closes_escape (oneLine : c ≠ '\n') :
    Closes 1 .quoted ('\\' :: c :: rest) ↔ Closes 1 .quoted rest := by
  have back : Zone.next .escaped c = .quoted := if_neg oneLine
  have escape : Closes 1 .quoted ('\\' :: c :: rest) ↔ 1 ≤ (1 : Int) ∧ 1 ≤ (1 : Int) ∧
      Closes 1 (Zone.next .escaped c) rest := Iff.rfl
  rw [escape, back]
  simp

theorem closes_dropWhile {p : Char → Bool} (other : ∀ c ∈ marks, p c = false) :
    Closes 1 .plain (cs.dropWhile p) ↔ Closes 1 .plain cs := by
  induction cs with
  | nil => rfl
  | cons c rest ih =>
    rw [List.dropWhile_cons]
    split
    · rename_i skipped
      have unmarked : c ∉ marks := fun mark => by simp [other c mark] at skipped
      rw [ih, closes_plain unmarked]
    · rfl

theorem Closes.skip {p : Char → Bool} (h : Closes 1 .plain cs) (other : ∀ c ∈ marks, p c = false)
    (skipped : cs.dropWhile p = rest) : Closes 1 .plain rest :=
  skipped ▸ (closes_dropWhile other).mpr h

end Closes

end Block

namespace Comment

open Block

/-- Where the next character of the block stands. -/
def OpenBlock.zone (b : OpenBlock) : Zone :=
  if b.quoted then if b.escaped then .escaped else .quoted else .plain

/-- The rest of an open block closes its braces just if the block does as a whole. -/
structure OpenBlock.Sound (b : OpenBlock) : Prop extends b.Unended where
  closes : ∃ body, b.text.reverse = '{' :: body ∧
    ∀ rest, Closes b.depth b.zone rest → Closes 1 .plain (body ++ rest)

theorem OpenBlock.sound_start : start.Sound where
  toUnended := unended_start
  closes := ⟨[], rfl, fun _ => id⟩

variable {b : OpenBlock} {c : Char}

theorem OpenBlock.add_quoted (text : List Char) (depth : Nat) (c : Char) :
    add ⟨text, depth, true, false⟩ c =
      if c = '\\' then ⟨c :: text, depth, true, true⟩
      else if c = '"' then ⟨c :: text, depth, false, false⟩
      else ⟨c :: text, depth, true, false⟩ := rfl

theorem OpenBlock.add_plain (text : List Char) (depth : Nat) (c : Char) :
    add ⟨text, depth, false, false⟩ c =
      if c = '"' then ⟨c :: text, depth, true, false⟩
      else if c = '{' then ⟨c :: text, depth + 1, false, false⟩
      else if c = '}' then ⟨c :: text, depth - 1, false, false⟩
      else ⟨c :: text, depth, false, false⟩ := rfl

/-- The scanner keeps track of the quotes and counts the braces. -/
theorem OpenBlock.Unended.add_eq (h : b.Unended) (oneLine : c ≠ '\n') :
    (b.add c).zone = b.zone.next c ∧ ((b.add c).depth : Int) = b.depth + b.zone.change c := by
  have deep := h.depth
  have marked := h.escaped
  obtain ⟨text, depth, quoted, escaped⟩ := b
  match quoted, escaped with
  | true, true => exact ⟨(if_neg oneLine).symm, (Int.add_zero _).symm⟩
  | true, false =>
    have stays : OpenBlock.zone ⟨text, depth, true, false⟩ = .quoted := rfl
    have none : Zone.change .quoted c = 0 := rfl
    rw [stays, none, Int.add_zero, Zone.next, if_neg oneLine, OpenBlock.add_quoted]
    split_ifs <;> exact ⟨rfl, rfl⟩
  | false, true => cases marked rfl
  | false, false =>
    have stays : OpenBlock.zone ⟨text, depth, false, false⟩ = .plain := rfl
    rw [stays, Zone.next, if_neg oneLine, OpenBlock.add_plain]
    dsimp only at deep ⊢
    split_ifs with quote opens ends
    · exact ⟨rfl, by rw [quote]; rfl⟩
    · exact ⟨rfl, by rw [opens]; rfl⟩
    · refine ⟨rfl, ?_⟩
      rw [ends]
      change ((depth - 1 : Nat) : Int) = depth + -1
      omega
    · refine ⟨rfl, ?_⟩
      unfold Zone.change
      split <;> simp_all

theorem OpenBlock.Unended.closes_add (h : b.Unended) (oneLine : c ≠ '\n') {rest : List Char}
    (closes : Closes (b.add c).depth (b.add c).zone rest) :
    Closes b.depth b.zone (c :: rest) := by
  have deep := h.depth
  obtain ⟨zone, count⟩ := h.add_eq oneLine
  rw [zone, count] at closes
  exact ⟨by omega, closes⟩

theorem OpenBlock.Sound.add (h : b.Sound) (oneLine : c ≠ '\n') (more : (b.add c).depth ≠ 0) :
    (b.add c).Sound := by
  obtain ⟨body, text, closes⟩ := h.closes
  refine ⟨h.toUnended.add more, body ++ [c], ?_, fun rest after => ?_⟩
  · rw [b.add_text, List.reverse_cons, text, List.cons_append]
  · rw [List.append_assoc]
    exact closes _ (h.closes_add oneLine after)

/-- A block may go on in the next line. -/
theorem OpenBlock.Sound.newline (h : b.Sound) :
    OpenBlock.Sound { b with text := '\n' :: b.text } := by
  obtain ⟨body, text, closes⟩ := h.closes
  have deep := h.depth
  have same : b.zone.next '\n' = b.zone := if_pos rfl
  have none : b.zone.change '\n' = 0 := by
    cases b.zone <;> rfl
  refine ⟨⟨h.depth, h.escaped⟩, body ++ ['\n'], ?_, fun rest after => ?_⟩
  · rw [List.reverse_cons, text, List.cons_append]
  · rw [List.append_assoc]
    refine closes _ ⟨by omega, ?_⟩
    rw [same, none, Int.add_zero]
    exact after

theorem OpenBlock.Sound.balanced (h : b.Sound) (oneLine : c ≠ '\n')
    (last : (b.add c).depth = 0) : Balanced (b.add c).text.reverse := by
  obtain ⟨body, text, closes⟩ := h.closes
  refine balanced_iff.mpr ⟨body ++ [c], ?_, closes _ (h.closes_add oneLine ?_)⟩
  · rw [b.add_text, List.reverse_cons, text, List.cons_append]
  · rw [last]
    exact Int.natCast_zero

theorem scanLine_balanced {block : Option OpenBlock} {cs : List Char} (oneLine : '\n' ∉ cs)
    (sound : ∀ b ∈ block, b.Sound) :
    (∀ text ∈ (scanLine block cs).1, Balanced text.toList) ∧
      ∀ b ∈ (scanLine block cs).2, b.Sound := by
  fun_induction scanLine block cs with
  | case1 block => exact ⟨by simp, sound⟩
  | case2 rest ih =>
    have rest' : '\n' ∉ rest := fun inside => oneLine (by simp [inside])
    exact ih rest' fun b member => Option.mem_some.mp member ▸ OpenBlock.sound_start
  | case3 c rest other ih => exact ih (List.not_mem_of_not_mem_cons oneLine) sound
  | case4 b c rest last ended found after scanned ih =>
    obtain ⟨first, others⟩ := List.ne_and_not_mem_of_not_mem_cons oneLine
    obtain ⟨balanced, after'⟩ := ih others (by simp)
    rw [scanned] at balanced after'
    refine ⟨fun text member => ?_, after'⟩
    rcases List.mem_cons.mp member with rfl | member
    · rw [String.toList_ofList]
      exact (sound b rfl).balanced first.symm ended
    · exact balanced text member
  | case5 b c rest last more ih =>
    obtain ⟨first, others⟩ := List.ne_and_not_mem_of_not_mem_cons oneLine
    exact ih others fun b' member =>
      Option.mem_some.mp member ▸ (sound b rfl).add first.symm more

theorem stripOpening_subset (cs : List Char) : stripOpening cs ⊆ cs := by
  unfold stripOpening
  split
  · exact fun c member => by simp [member]
  · exact fun c member => by simp [member]
  · exact List.Subset.refl cs

theorem stripClosing_subset (cs : List Char) : stripClosing cs ⊆ cs := by
  unfold stripClosing
  split
  · rename_i rest same
    intro c member
    rw [← List.mem_reverse, same]
    exact List.mem_cons_of_mem _ (List.mem_cons_of_mem _ (List.mem_reverse.mp member))
  · exact List.Subset.refl cs

theorem stripStar_subset (cs : List Char) : stripStar cs ⊆ cs := by
  unfold stripStar
  split
  · exact List.nil_subset _
  · split
    · exact List.subset_cons_self _ _
    · exact List.Subset.refl _
  · exact List.Subset.refl cs

theorem content_subset (line : String) : content line ⊆ line.toList := by
  rw [content_eq, contentOf]
  calc stripStar ((stripClosing (stripOpening (Text.trimChars line.toList))).dropWhile
          Text.isBlank)
      ⊆ (stripClosing (stripOpening (Text.trimChars line.toList))).dropWhile Text.isBlank :=
        stripStar_subset _
    _ ⊆ stripClosing (stripOpening (Text.trimChars line.toList)) :=
        (List.dropWhile_sublist _).subset
    _ ⊆ stripOpening (Text.trimChars line.toList) := stripClosing_subset _
    _ ⊆ Text.trimChars line.toList := stripOpening_subset _
    _ ⊆ line.toList := (Text.trimChars_sublist _).subset

theorem scanLines_balanced {block : Option OpenBlock} {lines : List String}
    (oneLine : ∀ line ∈ lines, '\n' ∉ line.toList) (sound : ∀ b ∈ block, b.Sound) :
    ∀ text ∈ (scanLines block lines).1, Balanced text.toList := by
  induction lines generalizing block with
  | nil => simp [scanLines]
  | cons line rest ih =>
    have inside : '\n' ∉ content line :=
      fun member => oneLine line List.mem_cons_self (content_subset line member)
    obtain ⟨balanced, after⟩ := scanLine_balanced inside sound
    have broken : ∀ b ∈ (scanLine block (content line)).2.map
        fun b => { b with text := '\n' :: b.text }, b.Sound := by
      intro b member
      obtain ⟨before, found, rfl⟩ := Option.map_eq_some_iff.mp member
      exact (after before found).newline
    have others := ih (fun l member => oneLine l (List.mem_cons_of_mem _ member)) broken
    intro text member
    rw [scanLines] at member
    rcases List.mem_append.mp member with member | member
    · exact balanced text member
    · exact others text member

end Comment

namespace Block

/-- The faults that say how a block was cut out, and nothing about its entries. -/
def cutFaults : List BlockFault := [.noOpening, .unbalancedBraces, .textAfterClosing]

/-- What was read leaves such a rest; a fault lies in what was read. -/
def Leaves {α : Type} (rest : List Char → Prop) : Read α → Prop
  | .ok (_, cs) => rest cs
  | .error fault => fault ∉ cutFaults

section Leaves

variable {α β : Type} {P Q : List Char → Prop} {r : Read α}

theorem Leaves.mono (h : Leaves P r) (weaker : ∀ cs, P cs → Q cs) : Leaves Q r := by
  cases r with
  | error fault => exact h
  | ok read => exact weaker _ h

theorem Leaves.map {f : α → β} (h : Leaves P r) :
    Leaves P (r.map fun (a, rest) => (f a, rest)) := by
  cases r <;> exact h

theorem leaves_error {fault : BlockFault} (other : fault ∉ cutFaults) :
    Leaves P (.error fault : Read α) := other

theorem Leaves.of_ok {a : α} {rest : List Char} (h : Leaves P r) (ok : r = .ok (a, rest)) :
    P rest := by
  rw [ok] at h
  exact h

theorem Leaves.of_error {fault : BlockFault} (h : Leaves P r) (error : r = .error fault) :
    fault ∉ cutFaults := by
  rw [error] at h
  exact h

end Leaves

section Reading

variable {cs : List Char}

theorem unquoted_of_hexValue? {c : Char} {n : Nat} (h : Text.hexValue? c = some n) :
    c ∉ ['"', '\\'] := by
  intro mark
  simp only [List.mem_cons, List.not_mem_nil, or_false] at mark
  rcases mark with rfl | rfl <;> cases h

theorem unquoted_of_digitsValue? {radix acc n : Nat} {digits : List Char}
    (h : Text.digitsValue? radix acc digits = some n) : ∀ c ∈ digits, c ∉ ['"', '\\'] := by
  fun_induction Text.digitsValue? radix acc digits with
  | case1 acc => exact nofun
  | case2 acc c rest d value small ih =>
    exact List.forall_mem_cons.mpr ⟨unquoted_of_hexValue? value, ih h⟩
  | case3 | case4 => cases h

theorem unquoted_of_digits {radix n : Nat} {digits : List Char}
    (h : (if digits.isEmpty then none
      else (Text.digitsValue? radix 0 digits).filter (· < Nat.pow 2 32)) = some n) :
    ∀ c ∈ digits, c ∉ ['"', '\\'] := by
  split at h
  · cases h
  · exact unquoted_of_digitsValue? (Option.filter_eq_some_iff.mp h).1

/-- The digits of a code point are no marks. -/
theorem unquoted_of_word32? {radix n : Nat} {digits : List Char}
    (h : Text.word32? radix digits = some n) : ∀ c ∈ digits, c ∉ ['"', '\\'] := by
  unfold Text.word32? at h
  dsimp only at h
  split at h
  · exact List.forall_mem_cons.mpr ⟨by decide, unquoted_of_digits h⟩
  · exact unquoted_of_digits h

theorem quoted_leaves {acc : List Char} (h : Closes 1 .quoted cs) :
    Leaves (Closes 1 .plain) (quoted acc cs) := by
  fun_induction quoted acc cs with
  | case1 acc => exact absurd rfl h.ne_nil
  | case2 acc rest => exact closes_closing.mp h
  | case3 | case5 | case6 => exact leaves_error (by decide)
  | case4 acc a b c d rest char point ih =>
    obtain ⟨n, value, _⟩ := Option.bind_eq_some_iff.mp point
    have digits := unquoted_of_word32? value
    rw [closes_escape (by decide), closes_quoted (digits a (by simp)),
      closes_quoted (digits b (by simp)), closes_quoted (digits c (by simp)),
      closes_quoted (digits d (by simp))] at h
    exact ih h
  | case7 acc c rest _ _ char escape ih =>
    have oneLine : c ≠ '\n' := by
      rintro rfl
      cases escape
    exact ih ((closes_escape oneLine).mp h)
  | case8 => exact leaves_error (by simp [cutFaults])
  | case9 acc c rest quote ending _ _ more ih =>
    have other : c ∉ ['"', '\\'] := by
      intro mark
      simp only [List.mem_cons, List.not_mem_nil, or_false] at mark
      rcases mark with same | same
      · exact quote same
      · cases rest with
        | nil => exact ending same rfl
        | cons d rest => exact more d rest same rfl
    exact ih ((closes_quoted other).mp h)

/-- A bare text goes on beyond a closing brace only if that is none of its stops. -/
theorem bare_leaves {stops acc : List Char} {angles : Nat} (h : Closes 1 .plain cs) :
    Leaves (fun rest => Closes 1 .plain rest ∨ rest = [] ∧ '}' ∉ stops)
      (bare stops angles acc cs) := by
  fun_induction bare stops angles acc cs with
  | case1 => exact absurd rfl h.ne_nil
  | case2 angles acc rest ih => exact ih ((closes_plain (by decide)).mp h)
  | case3 angles acc rest _ ih => exact ih ((closes_plain (by decide)).mp h)
  | case4 => exact leaves_error (by simp [cutFaults])
  | case5 angles acc c rest =>
    unfold bare.finish
    split
    · exact leaves_error (by decide)
    · exact .inl h
  | case6 angles acc c rest _ _ opening going ih =>
    by_cases brace : c = '}'
    · rw [brace] at h going
      rw [h.brace]
      unfold bare bare.finish
      split
      · exact leaves_error (by decide)
      · rename_i closed
        exact .inr ⟨rfl, fun inside => going ⟨inside, .inl (by omega)⟩⟩
    · have other : c ∉ marks := by
        simp only [marks, List.mem_cons, List.not_mem_nil, or_false]
        tauto
      exact ih ((closes_plain other).mp h)

theorem endsKey_marks : ∀ c ∈ marks, (!endsKey c) = false :=
  forall_mem_of_all (by decide)

theorem isBlank_marks : ∀ c ∈ marks, Text.isBlank c = false :=
  forall_mem_of_all (by decide)

theorem isInlineBlank_marks : ∀ c ∈ marks, isInlineBlank c = false :=
  forall_mem_of_all (by decide)

theorem isBlank_or_comma_marks : ∀ c ∈ marks, (Text.isBlank c || c == ',') = false :=
  forall_mem_of_all (by decide)

theorem key_leaves (h : Closes 1 .plain cs) : Leaves (Closes 1 .plain) (key cs) := by
  unfold key
  split
  · exact quoted_leaves (closes_opening.mp h)
  · dsimp only
    split
    · exact leaves_error (by decide)
    · have same : (cs.takeWhile (!endsKey ·) ++ cs.dropWhile (!endsKey ·)).drop
          (cs.takeWhile (!endsKey ·)).length = cs.dropWhile (!endsKey ·) := List.drop_left
      rw [List.takeWhile_append_dropWhile] at same
      exact h.skip endsKey_marks same.symm

/-- An element may run on to the end of the block, as no closing brace stops it. -/
theorem element_leaves (h : Closes 1 .plain cs) :
    Leaves (fun rest => Closes 1 .plain rest ∨ rest = []) (element cs) := by
  unfold element
  split
  · exact (quoted_leaves (closes_opening.mp h)).mono fun _ => .inl
  · have read := @bare_leaves cs [',', ']', '\n'] [] 0 h
    split
    · rename_i text rest found
      split
      · exact leaves_error (by decide)
      · exact (read.of_ok found).imp_right And.left
    · rename_i fault found
      exact leaves_error (read.of_error found)

/-- What follows an element that ran on to the end is nothing, and that is no separator. -/
theorem Closes.separator {after rest : List Char} {item : String} {c : Char}
    (h : Closes 1 .plain cs) (found : element cs = .ok (item, after))
    (sign : after.dropWhile Text.isBlank = c :: rest) : Closes 1 .plain (c :: rest) := by
  rcases (element_leaves h).of_ok found with more | rfl
  · exact more.skip isBlank_marks sign
  · cases sign

theorem elements_leaves {acc : List String} (h : Closes 1 .plain cs) :
    Leaves (Closes 1 .plain) (elements acc cs) := by
  fun_induction elements acc cs with
  | case1 | case4 | case7 => exact leaves_error (by simp [cutFaults])
  | case2 acc cs rest first => exact (closes_plain (by decide)).mp (h.skip isBlank_marks first)
  | case3 acc cs c rest _ first fault found =>
    exact leaves_error ((element_leaves (h.skip isBlank_marks first)).of_error found)
  | case5 acc cs c rest _ first item after found rest' sign ih =>
    have separated := (h.skip isBlank_marks first).separator found sign
    exact ih ((closes_plain (by decide)).mp separated)
  | case6 acc cs c rest _ first item after found rest' sign =>
    have separated := (h.skip isBlank_marks first).separator found sign
    exact (closes_plain (by decide)).mp separated

theorem value_leaves (h : Closes 1 .plain cs) : Leaves (Closes 1 .plain) (value cs) := by
  unfold value
  split
  · exact (quoted_leaves (closes_opening.mp h)).map
  · exact (elements_leaves ((closes_plain (by decide)).mp h)).map
  · exact leaves_error (by decide)
  · refine ((bare_leaves h).mono fun rest after => ?_).map
    exact after.resolve_right fun ended => ended.2 (by decide)

theorem assigned_leaves (h : Closes 1 .plain cs) : Leaves (Closes 1 .plain) (assigned cs) := by
  unfold assigned
  split
  · rename_i rest sign
    have after := (closes_plain (by decide)).mp (h.skip isInlineBlank_marks sign)
    exact value_leaves (after.skip isInlineBlank_marks rfl)
  · rename_i rest sign
    have after := (closes_plain (by decide)).mp (h.skip isInlineBlank_marks sign)
    exact value_leaves (after.skip isInlineBlank_marks rfl)
  · exact h.skip isInlineBlank_marks rfl

/-- The entries of a block end with its closing brace. -/
theorem entries_leaves {acc : Annotations} (h : Closes 1 .plain cs) :
    Leaves (· = []) (entries acc cs) := by
  fun_induction entries acc cs with
  | case1 acc cs none => exact absurd rfl (h.skip isBlank_or_comma_marks none).ne_nil
  | case2 acc cs rest last => exact (h.skip isBlank_or_comma_marks last).brace
  | case3 acc cs c rest _ first fault found =>
    exact leaves_error ((key_leaves (h.skip isBlank_or_comma_marks first)).of_error found)
  | case4 acc cs c rest _ first name afterKey named fault found =>
    have keyed := (key_leaves (h.skip isBlank_or_comma_marks first)).of_ok named
    exact leaves_error ((assigned_leaves keyed).of_error found)
  | case5 acc cs c rest _ first name afterKey named v afterValue valued none =>
    have keyed := (key_leaves (h.skip isBlank_or_comma_marks first)).of_ok named
    have after := (assigned_leaves keyed).of_ok valued
    exact absurd rfl (after.skip isInlineBlank_marks none).ne_nil
  | case6 acc cs c rest _ first name afterKey named v afterValue valued d more _ _ ih =>
    have keyed := (key_leaves (h.skip isBlank_or_comma_marks first)).of_ok named
    have after := (assigned_leaves keyed).of_ok valued
    exact ih (after.skip isInlineBlank_marks rfl)
  | case7 => exact leaves_error (by simp [cutFaults])

theorem parseChars_balanced (h : Balanced cs) {fault : BlockFault}
    (failed : parseChars cs = .error fault) : fault ∉ cutFaults := by
  obtain ⟨body, rfl, closes⟩ := balanced_iff.mp h
  have read := @entries_leaves body .empty closes
  have started : ('{' :: body).dropWhile Text.isBlank = '{' :: body := rfl
  unfold parseChars at failed
  rw [started] at failed
  cases found : entries .empty body with
  | error fault' =>
    simp only [found, Except.error.injEq] at failed
    exact failed ▸ read.of_error found
  | ok result =>
    have ended := read.of_ok found
    simp [found, ended] at failed

end Reading

end Block

namespace Comment

open Block

/-- Each block that is found is balanced, and a fault in reading it lies in one of its entries. -/
theorem blocks_balanced {lines found : List String}
    (oneLine : ∀ line ∈ lines, '\n' ∉ line.toList) (h : blocks lines = .ok found) :
    ∀ block ∈ found, Balanced block.toList ∧
      ∀ fault, parse block = .error fault →
        fault ∉ [.noOpening, .unbalancedBraces, .textAfterClosing] := by
  intro block member
  have scanned := scanLines_of_blocks h
  have balanced := @scanLines_balanced none lines oneLine (by simp)
  rw [scanned] at balanced
  have own := balanced block member
  exact ⟨own, fun fault failed => parseChars_balanced own failed⟩

theorem blocks_balanced_across_lines :
    blocks ["-- @@\x7b a = \"\x7d\\\"\", b = [x,", "-- y] \x7d @@\x7b c = <\x7d \x7d"] =
        .ok ["\x7b a = \"\x7d\\\"\", b = [x,\ny] \x7d", "\x7b c = <\x7d"] ∧
      Balanced "\x7b a = \"\x7d\\\"\", b = [x,\ny] \x7d".toList ∧
      ∀ fault, parse "\x7b c = <\x7d" = .error fault →
        fault ∉ [.noOpening, .unbalancedBraces, .textAfterClosing] := by
  have found : blocks ["-- @@\x7b a = \"\x7d\\\"\", b = [x,", "-- y] \x7d @@\x7b c = <\x7d \x7d"] =
      .ok ["\x7b a = \"\x7d\\\"\", b = [x,\ny] \x7d", "\x7b c = <\x7d"] := by decide
  have each := blocks_balanced (by decide) found
  exact ⟨found, (each _ List.mem_cons_self).1,
    (each _ (List.mem_cons_of_mem _ List.mem_cons_self)).2⟩

end Comment

end TypedRows
