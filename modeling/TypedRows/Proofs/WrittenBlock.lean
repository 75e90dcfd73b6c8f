import TypedRows.Annotations.Block
import TypedRows.Proofs.MapLookup
import TypedRows.Proofs.Trimming
import Mathlib.Data.List.Infix

/-! Annotations as they are written in a block, and that a block is read as what was written. -/

namespace TypedRows.Block

def escape : Char → List Char
  | '"' => ['\\', '"']
  | '\\' => ['\\', '\\']
  | '\n' => ['\\', 'n']
  | '\r' => ['\\', 'r']
  | '\t' => ['\\', 't']
  | c => [c]

def quote (s : String) : List Char :=
  '"' :: s.toList.flatMap escape ++ ['"']

/-- Whether angle brackets nest, with `depth` of them open before, and all commas are in them. -/
def nests : Nat → List Char → Bool
  | depth, [] => depth == 0
  | depth, c :: rest =>
    if c = '<' then nests (depth + 1) rest
    else if c = '>' then 0 < depth && nests (depth - 1) rest
    else (c ≠ ',' || 0 < depth) && nests depth rest

structure IsBare (cs : List Char) : Prop where
  nonempty : cs ≠ []
  trimmed : Text.trimChars cs = cs
  plain : ∀ c ∈ cs, c ∉ ['"', '{', '}', '[', ']', '\n']
  nested : nests 0 cs = true
  unmarked : ¬ ['*', '/'] <:+: cs

instance (cs : List Char) : Decidable (IsBare cs) :=
  decidable_of_iff (cs ≠ [] ∧ Text.trimChars cs = cs ∧
      (cs.all fun c => decide (c ∉ ['"', '{', '}', '[', ']', '\n'])) = true ∧
      nests 0 cs = true ∧ ¬ ['*', '/'] <:+: cs)
    ⟨fun ⟨a, b, c, d, e⟩ => ⟨a, b, forall_mem_of_all c, d, e⟩,
      fun ⟨a, b, c, d, e⟩ => ⟨a, b, by simpa using c, d, e⟩⟩

inductive Writes : Value → List Char → Prop
  | null : Writes .null ['n', 'u', 'l', 'l']
  | truth : Writes (.bool true) ['t', 'r', 'u', 'e']
  | falsity : Writes (.bool false) ['f', 'a', 'l', 's', 'e']
  | quoted (s : String) : Writes (.text s) (quote s)
  | bare {s : String} : IsBare s.toList → s ∉ ["null", "true", "false"] →
      Writes (.text s) s.toList
  | list (items : List String) :
      Writes (.list items) ('[' :: List.intercalate [',', ' '] (items.map quote) ++ [']'])

/-- `key = value` -/
def WritesEntry (entry : String × Value) (cs : List Char) : Prop :=
  ∃ value, Writes entry.2 value ∧ cs = quote entry.1 ++ ' ' :: '=' :: ' ' :: value

section Quoted

variable (acc rest : List Char)

theorem quoted_escape (c : Char) : quoted acc (escape c ++ rest) = quoted (c :: acc) rest := by
  unfold escape
  split
  · simp [quoted, escaped?]
  · simp [quoted, escaped?]
  · simp [quoted, escaped?]
  · simp [quoted, escaped?]
  · simp [quoted, escaped?]
  · rename_i quote slash _ _ _
    rw [List.singleton_append, quoted.eq_def]
    split <;> simp_all

theorem quoted_escapes (cs : List Char) :
    quoted acc (cs.flatMap escape ++ '"' :: rest) =
      .ok (String.ofList (acc.reverse ++ cs), rest) := by
  induction cs generalizing acc with
  | nil => simp [quoted]
  | cons c cs ih =>
    rw [List.flatMap_cons, List.append_assoc, quoted_escape, ih]
    simp

theorem quoted_quote (s : String) :
    quoted [] (s.toList.flatMap escape ++ '"' :: rest) = .ok (s, rest) := by
  rw [quoted_escapes]
  simp

end Quoted

theorem key_quote (s : String) (rest : List Char) : key (quote s ++ rest) = .ok (s, rest) := by
  simp only [quote, List.cons_append, List.append_assoc, key]
  exact quoted_quote rest s

theorem element_quote (s : String) (rest : List Char) :
    element (quote s ++ rest) = .ok (s, rest) := by
  simp only [quote, List.cons_append, List.append_assoc, element]
  exact quoted_quote rest s

section Bare

/-- What ends a bare value of an entry. -/
def stops : List Char := [',', '}', '\n']

theorem bare_append {depth : Nat} {cs : List Char}
    (plain : ∀ c ∈ cs, c ∉ ['"', '{', '}', '[', ']', '\n']) (nested : nests depth cs = true)
    (acc rest : List Char) :
    bare stops depth acc (cs ++ rest) = bare stops 0 (cs.reverse ++ acc) rest := by
  induction cs generalizing depth acc with
  | nil =>
    have closed : depth = 0 := by simpa [nests] using nested
    rw [closed]
    rfl
  | cons c cs ih =>
    have own := plain c List.mem_cons_self
    have others := fun d member => plain d (List.mem_cons_of_mem _ member)
    rw [nests] at nested
    rw [List.cons_append, bare, List.reverse_cons, List.append_assoc, List.singleton_append]
    by_cases opens : c = '<'
    · rw [if_pos opens] at nested ⊢
      exact ih others nested _
    by_cases closes : c = '>'
    · rw [if_neg opens, if_pos closes, Bool.and_eq_true] at nested
      rw [if_neg opens, if_pos closes]
      exact ih others nested.2 _
    rw [if_neg opens, if_neg closes, Bool.and_eq_true] at nested
    obtain ⟨inside, nested⟩ := nested
    rw [if_neg opens, if_neg closes, if_neg, if_neg]
    · exact ih others nested _
    · rintro ⟨stop, outside⟩
      simp [stops] at own stop inside outside
      grind
    · simp at own
      grind

/-- Blanks before the end of an entry belong to the bare value. -/
theorem bare_blanks {blanks rest : List Char} {c : Char}
    (inline : ∀ b ∈ blanks, isInlineBlank b = true) (stop : c ∈ stops) (acc : List Char) :
    bare stops 0 acc (blanks ++ c :: rest) =
      .ok (String.ofList (Text.trimChars (blanks.reverse ++ acc).reverse), c :: rest) := by
  induction blanks generalizing acc with
  | nil =>
    have apart : c ≠ '<' ∧ c ≠ '>' ∧ ¬ (c = '{' ∨ c = '[' ∨ c = '"') := by
      simp only [stops, List.mem_cons, List.not_mem_nil, or_false] at stop
      rcases stop with rfl | rfl | rfl <;> decide
    rw [List.nil_append, bare, if_neg apart.1, if_neg apart.2.1, if_neg apart.2.2,
      if_pos ⟨stop, .inl rfl⟩]
    rfl
  | cons b blanks ih =>
    have blank := inline b List.mem_cons_self
    have apart : b ≠ '<' ∧ b ≠ '>' ∧ ¬ (b = '{' ∨ b = '[' ∨ b = '"') ∧ b ∉ stops := by
      simp only [isInlineBlank, Bool.or_eq_true, beq_iff_eq] at blank
      rcases blank with (rfl | rfl) | rfl <;> decide
    rw [List.cons_append, bare, if_neg apart.1, if_neg apart.2.1, if_neg apart.2.2.1,
      if_neg fun h => apart.2.2.2 h.1, ih fun d member => inline d (List.mem_cons_of_mem _ member)]
    simp

theorem isBlank_of_isInlineBlank {c : Char} (inline : isInlineBlank c = true) :
    Text.isBlank c = true := by
  simp only [isInlineBlank, Bool.or_eq_true, beq_iff_eq] at inline
  rcases inline with (rfl | rfl) | rfl <;> decide

theorem bare_of_isBare {cs blanks rest : List Char} {c : Char} (h : IsBare cs)
    (inline : ∀ b ∈ blanks, isInlineBlank b = true) (stop : c ∈ stops) :
    bare stops 0 [] (cs ++ (blanks ++ c :: rest)) = .ok (String.ofList cs, c :: rest) := by
  have blank : ∀ b ∈ blanks, Text.isBlank b = true := fun b member =>
    isBlank_of_isInlineBlank (inline b member)
  rw [bare_append h.plain h.nested, bare_blanks inline stop, List.append_nil, List.reverse_append,
    List.reverse_reverse, List.reverse_reverse, Text.trimChars_append_right cs blank, h.trimmed]

end Bare

theorem elements_close {cs rest : List Char} (acc : List String)
    (next : cs.dropWhile Text.isBlank = ']' :: rest) :
    elements acc cs = .ok (acc.reverse, rest) := by
  unfold elements
  split <;> simp_all

theorem dropWhile_quote {p : Char → Bool} (apart : p '"' = false) (s : String)
    (rest : List Char) : (quote s ++ rest).dropWhile p = quote s ++ rest := by
  apply Text.dropWhile_of_head
  intro c first
  cases first
  exact apart

/-- After an element of a list the next delimiter decides. -/
theorem elements_quote (acc : List String) {blanks : List Char}
    (blank : ∀ b ∈ blanks, Text.isBlank b = true) (s : String) (after : List Char) :
    elements acc (blanks ++ (quote s ++ after)) = match after.dropWhile Text.isBlank with
      | [] => .error .openList
      | ',' :: rest => elements (s :: acc) rest
      | ']' :: rest => .ok ((s :: acc).reverse, rest)
      | d :: _ => .error (.inList d) := by
  have item := element_quote s after
  have next : (blanks ++ (quote s ++ after)).dropWhile Text.isBlank = quote s ++ after := by
    rw [List.dropWhile_append_of_pos blank, dropWhile_quote rfl]
  rw [← next] at item
  rw [elements]
  split
  · rename_i first
    cases next.symm.trans first
  · rename_i first
    cases next.symm.trans first
  · rename_i first
    split
    · rename_i read
      rw [← first, item] at read
      cases read
    · rename_i read
      rw [← first, item] at read
      cases read
      split <;> rename_i found <;> simp only [found]

theorem elements_quotes (items acc : List String) {blanks : List Char}
    (blank : ∀ b ∈ blanks, Text.isBlank b = true) (rest : List Char) :
    elements acc (blanks ++ (List.intercalate [',', ' '] (items.map quote) ++ ']' :: rest)) =
      .ok (acc.reverse ++ items, rest) := by
  induction items generalizing acc blanks with
  | nil =>
    rw [elements_close acc]
    · rw [List.append_nil]
    · rw [List.dropWhile_append_of_pos blank]
      rfl
  | cons s items ih =>
    cases items with
    | nil =>
      rw [List.map_cons, List.map_nil, List.intercalate_singleton, elements_quote acc blank]
      simp [Text.isBlank]
    | cons t items =>
      have space : ∀ b ∈ [' '], Text.isBlank b = true := forall_mem_of_all (by decide)
      have step := ih (s :: acc) space
      rw [List.map_cons, List.map_cons, List.intercalate_cons_cons, List.append_assoc,
        List.append_assoc, elements_quote acc blank]
      simpa [Text.isBlank] using step

/-- What ends the value of an entry: blanks, and then a comma, a newline or the closing brace. -/
def Ends (cs : List Char) : Prop :=
  ∃ blanks c rest, (∀ b ∈ blanks, isInlineBlank b = true) ∧ c ∈ stops ∧ cs = blanks ++ c :: rest

theorem stop_not_inline {c : Char} (stop : c ∈ stops) : isInlineBlank c = false := by
  simp only [stops, List.mem_cons, List.not_mem_nil, or_false] at stop
  rcases stop with rfl | rfl | rfl <;> rfl

theorem value_bare {cs : List Char} (h : IsBare cs) (after : List Char) :
    value (cs ++ after) =
      (bare stops 0 [] (cs ++ after)).map fun (text, rest) => (ofBare text, rest) := by
  cases cs with
  | nil => exact absurd rfl h.nonempty
  | cons c cs =>
    have plain := h.plain c List.mem_cons_self
    simp at plain
    rw [List.cons_append]
    unfold value
    split <;> simp_all
    rfl

theorem bare_of_ends {cs after : List Char} (h : IsBare cs) (ends : Ends after) :
    ∃ rest, value (cs ++ after) = .ok (ofBare (String.ofList cs), rest) ∧
      rest.dropWhile isInlineBlank = after.dropWhile isInlineBlank := by
  obtain ⟨blanks, c, rest, inline, stop, rfl⟩ := ends
  refine ⟨c :: rest, ?_, ?_⟩
  · rw [value_bare h, bare_of_isBare h inline stop]
    rfl
  · rw [List.dropWhile_append_of_pos inline]

theorem value_quote (s : String) (after : List Char) :
    value (quote s ++ after) = .ok (.text s, after) := by
  simp only [quote, List.cons_append, List.append_assoc, List.nil_append, value]
  rw [quoted_quote]
  rfl

theorem value_list (items : List String) (after : List Char) :
    value ('[' :: List.intercalate [',', ' '] (items.map quote) ++ [']'] ++ after) =
      .ok (.list items, after) := by
  have none : ∀ b ∈ ([] : List Char), Text.isBlank b = true := by simp
  have read := elements_quotes items [] none after
  rw [List.nil_append] at read
  simp only [List.cons_append, List.append_assoc, List.nil_append, value]
  rw [read]
  rfl

/-- A value is read as it was written, up to the blanks after it. -/
theorem value_of_writes {v : Value} {cs after : List Char} (h : Writes v cs) (ends : Ends after) :
    ∃ rest, value (cs ++ after) = .ok (v, rest) ∧
      rest.dropWhile isInlineBlank = after.dropWhile isInlineBlank := by
  cases h with
  | null => exact bare_of_ends (by decide) ends
  | truth => exact bare_of_ends (by decide) ends
  | falsity => exact bare_of_ends (by decide) ends
  | quoted s => exact ⟨after, value_quote s after, rfl⟩
  | list items => exact ⟨after, value_list items after, rfl⟩
  | @bare s bare other =>
    have text : ofBare (String.ofList s.toList) = .text s := by
      rw [String.ofList_toList]
      unfold ofBare
      split <;> simp_all
    rw [← text]
    exact bare_of_ends bare ends

theorem Writes.first {v : Value} {cs : List Char} (h : Writes v cs) :
    ∃ c rest, cs = c :: rest ∧ Text.isBlank c = false := by
  cases h with
  | null => exact ⟨_, _, rfl, rfl⟩
  | truth => exact ⟨_, _, rfl, rfl⟩
  | falsity => exact ⟨_, _, rfl, rfl⟩
  | quoted s => exact ⟨_, _, rfl, rfl⟩
  | list items => exact ⟨_, _, rfl, rfl⟩
  | @bare s bare other =>
    obtain ⟨c, rest, same⟩ := List.exists_cons_of_ne_nil bare.nonempty
    refine ⟨c, rest, same, ?_⟩
    have solid := (Text.solid_of_trimChars bare.trimmed).1
    rw [same] at solid
    exact solid c rfl

theorem assigned_of_writes {v : Value} {cs after : List Char} (h : Writes v cs)
    (ends : Ends after) :
    ∃ rest, assigned (' ' :: '=' :: ' ' :: cs ++ after) = .ok (v, rest) ∧
      rest.dropWhile isInlineBlank = after.dropWhile isInlineBlank := by
  obtain ⟨rest, read, same⟩ := value_of_writes h ends
  refine ⟨rest, ?_, same⟩
  have start : (' ' :: cs ++ after).dropWhile isInlineBlank = cs ++ after := by
    obtain ⟨c, more, rfl, solid⟩ := h.first
    have inline : isInlineBlank c = false := by
      rw [Bool.eq_false_iff]
      intro blank
      rw [isBlank_of_isInlineBlank blank] at solid
      cases solid
    simp [isInlineBlank] at inline
    simp [isInlineBlank, inline]
  have sign : (' ' :: '=' :: ' ' :: cs ++ after).dropWhile isInlineBlank =
      '=' :: (' ' :: cs ++ after) := rfl
  rw [assigned, sign]
  simp only [start, read]

def isBetween (c : Char) : Bool := Text.isBlank c || c == ','

theorem entries_close {between rest : List Char} (acc : Annotations)
    (skipped : ∀ c ∈ between, isBetween c = true) :
    entries acc (between ++ '}' :: rest) = .ok (acc, rest) := by
  have next : (between ++ '}' :: rest).dropWhile isBetween = '}' :: rest := by
    rw [List.dropWhile_append_of_pos skipped]
    rfl
  rw [entries]
  split
  · rename_i first
    cases next.symm.trans first
  · rename_i first
    cases next.symm.trans first
    rfl
  · rename_i other first
    cases next.symm.trans first
    exact (other rfl).elim

theorem entries_entry {entry : String × Value} {between cs after : List Char} (acc : Annotations)
    (skipped : ∀ c ∈ between, isBetween c = true) (h : WritesEntry entry cs) (ends : Ends after) :
    entries acc (between ++ (cs ++ after)) =
      entries (acc.put entry.1 entry.2) (after.dropWhile isInlineBlank) := by
  obtain ⟨text, written, rfl⟩ := h
  obtain ⟨rest, read, same⟩ := assigned_of_writes written ends
  have next : (between ++ (quote entry.1 ++ ' ' :: '=' :: ' ' :: text ++ after)).dropWhile
      isBetween = quote entry.1 ++ (' ' :: '=' :: ' ' :: text ++ after) := by
    rw [List.dropWhile_append_of_pos skipped, List.append_assoc, dropWhile_quote rfl]
  have name := key_quote entry.1 (' ' :: '=' :: ' ' :: text ++ after)
  rw [← next] at name
  obtain ⟨blanks, c, tail, inline, stop, rfl⟩ := ends
  have last : (blanks ++ c :: tail).dropWhile isInlineBlank = c :: tail := by
    rw [List.dropWhile_append_of_pos inline, List.dropWhile_cons, stop_not_inline stop]
    rfl
  rw [last] at same
  rw [entries]
  split
  · rename_i first
    cases next.symm.trans first
  · rename_i first
    cases next.symm.trans first
  · rename_i first
    split
    · rename_i found
      rw [← first] at found
      cases name.symm.trans found
    · rename_i found
      rw [← first] at found
      cases name.symm.trans found
      split
      · rename_i found'
        cases read.symm.trans found'
      · rename_i found'
        cases read.symm.trans found'
        have ends' : c = ',' ∨ c = '\n' ∨ c = '}' := by
          simp only [stops, List.mem_cons, List.not_mem_nil, or_false] at stop
          grind
        simp only [same, last, if_pos ends']

/-- Pieces one after the other with a gap between any two. -/
inductive Joined (gap : List Char → Prop) : List (List Char) → List Char → Prop
  | last (piece : List Char) : Joined gap [piece] piece
  | cons {piece between cs : List Char} {pieces : List (List Char)} : gap between →
      Joined gap pieces cs → Joined gap (piece :: pieces) (piece ++ (between ++ cs))

theorem Joined.of_cons {gap : List Char → Prop} {piece cs : List Char}
    {pieces : List (List Char)} (h : Joined gap (piece :: pieces) cs) (more : pieces ≠ []) :
    ∃ between rest, gap between ∧ Joined gap pieces rest ∧ cs = piece ++ (between ++ rest) := by
  cases h with
  | last => exact absurd rfl more
  | cons space joined => exact ⟨_, _, space, joined, rfl⟩

/-- A space, or a new line that may be indented. -/
def IsGap (cs : List Char) : Prop :=
  cs = [' '] ∨ ∃ indent, (∀ c ∈ indent, Text.isBlank c = true) ∧ cs = '\n' :: indent

/-- All entries but the last have a comma after them. -/
def withCommas : List (List Char) → List (List Char)
  | [] => []
  | [piece] => [piece]
  | piece :: rest => (piece ++ [',']) :: withCommas rest

theorem IsGap.between {cs : List Char} (gap : IsGap cs) : ∀ c ∈ cs, isBetween c = true := by
  rcases gap with rfl | ⟨indent, blank, rfl⟩
  · exact forall_mem_of_all (by decide)
  · intro c member
    rcases List.mem_cons.mp member with rfl | member
    · rfl
    · rw [isBetween, blank c member, Bool.true_or]

theorem IsGap.ends {cs rest : List Char} (gap : IsGap cs) : Ends (cs ++ '}' :: rest) := by
  have none : ∀ b ∈ ([] : List Char), isInlineBlank b = true := by simp
  rcases gap with rfl | ⟨indent, blank, rfl⟩
  · exact ⟨[' '], '}', rest, forall_mem_of_all (by decide), by decide, rfl⟩
  · exact ⟨[], '\n', indent ++ '}' :: rest, none, by decide, rfl⟩

theorem entries_gap {gap rest : List Char} (acc : Annotations) (h : IsGap gap) :
    entries acc ((gap ++ '}' :: rest).dropWhile isInlineBlank) = .ok (acc, rest) := by
  have none : ∀ c ∈ ([] : List Char), isBetween c = true := by simp
  have between := h.between
  rcases h with rfl | ⟨indent, blank, rfl⟩
  · exact entries_close acc none
  · exact entries_close acc between

theorem entries_written {written : List (String × Value)} {pieces : List (List Char)}
    (h : List.Forall₂ WritesEntry written pieces) {between cs : List Char}
    (skipped : ∀ c ∈ between, isBetween c = true)
    (joined : Joined IsGap (withCommas pieces ++ [['}']]) cs) (acc : Annotations) :
    entries acc (between ++ cs) = .ok (acc.putAll written, []) := by
  -- what stands before an entry is the comma and the gap after the one before it
  induction h generalizing between cs acc with
  | nil =>
    cases joined with
    | last => exact entries_close acc skipped
    | cons _ rest => cases rest
  | @cons entry piece written pieces first others ih =>
    cases pieces with
    | nil =>
      cases others
      obtain ⟨gap, rest, space, last, rfl⟩ := joined.of_cons (by simp)
      cases last with
      | last =>
        rw [entries_entry acc skipped first space.ends]
        exact entries_gap _ space
      | cons _ rest => cases rest
    | cons next pieces =>
      obtain ⟨gap, rest, space, others, rfl⟩ := joined.of_cons (by simp)
      have comma : Ends (',' :: (gap ++ rest)) :=
        ⟨[], ',', gap ++ rest, by simp, by decide, rfl⟩
      have skipped' : ∀ c ∈ ',' :: gap, isBetween c = true := by
        intro c member
        rcases List.mem_cons.mp member with rfl | member
        · rfl
        · exact space.between c member
      have step := ih skipped' others (acc.put entry.1 entry.2)
      rw [List.append_assoc, List.singleton_append, entries_entry acc skipped first comma]
      exact step

theorem parseChars_written {map : Annotations} {pieces : List (List Char)}
    (h : List.Forall₂ WritesEntry map.entries pieces) {cs : List Char}
    (joined : Joined IsGap (['{'] :: withCommas pieces ++ [['}']]) cs) :
    parseChars cs = .ok map := by
  obtain ⟨gap, rest, space, inner, rfl⟩ := joined.of_cons (by simp)
  have read := entries_written h space.between inner .empty
  rw [OrderedMap.empty_putAll] at read
  have opening : (['{'] ++ (gap ++ rest)).dropWhile Text.isBlank = '{' :: (gap ++ rest) := rfl
  rw [parseChars, opening]
  simp only [read]
  rfl

end TypedRows.Block
