import TypedRows.Text.Blank

/-! What trimming a text keeps. -/

namespace TypedRows

theorem forall_mem_of_all {α : Type} {P : α → Prop} [DecidablePred P] {members : List α}
    (h : (members.all fun a => decide (P a)) = true) : ∀ a ∈ members, P a :=
  fun a member => of_decide_eq_true (List.all_eq_true.mp h a member)

namespace Text

theorem dropWhileEnd_append {p : Char → Bool} (cs : List Char) {last : List Char}
    (all : ∀ c ∈ last, p c = true) : dropWhileEnd p (cs ++ last) = dropWhileEnd p cs := by
  unfold dropWhileEnd
  rw [List.reverse_append, List.dropWhile_append_of_pos]
  exact fun c member => all c (List.mem_reverse.mp member)

theorem trimChars_append_left {first : List Char} (cs : List Char)
    (all : ∀ c ∈ first, isBlank c = true) : trimChars (first ++ cs) = trimChars cs := by
  rw [trimChars, List.dropWhile_append_of_pos all, trimChars]

theorem trimChars_append_right (cs : List Char) {last : List Char}
    (all : ∀ c ∈ last, isBlank c = true) : trimChars (cs ++ last) = trimChars cs := by
  unfold trimChars
  rw [List.dropWhile_append]
  split
  · rename_i empty
    have none : (last ++ []).dropWhile isBlank = [] := List.dropWhile_append_of_pos all
    rw [List.append_nil] at none
    rw [List.isEmpty_iff.mp empty, none]
  · exact dropWhileEnd_append _ all

theorem dropWhileEnd_sublist (p : Char → Bool) (cs : List Char) :
    (dropWhileEnd p cs).Sublist cs := by
  rw [← List.reverse_sublist, dropWhileEnd, List.reverse_reverse]
  exact List.dropWhile_sublist _

theorem trimChars_sublist (cs : List Char) : (trimChars cs).Sublist cs :=
  (dropWhileEnd_sublist _ _).trans (List.dropWhile_sublist _)

theorem dropWhile_of_head {p : Char → Bool} {cs : List Char} (first : ∀ c ∈ cs.head?, p c = false) :
    cs.dropWhile p = cs := by
  cases cs with
  | nil => rfl
  | cons c rest => rw [List.dropWhile_cons, first c rfl, if_neg Bool.false_ne_true]

theorem head_dropWhile {p : Char → Bool} (cs : List Char) :
    ∀ c ∈ (cs.dropWhile p).head?, p c = false := by
  intro c first
  have stopped := List.head?_dropWhile_not p cs
  rw [Option.mem_def.mp first] at stopped
  exact stopped

theorem trimChars_of_solid {cs : List Char} (first : ∀ c ∈ cs.head?, isBlank c = false)
    (last : ∀ c ∈ cs.getLast?, isBlank c = false) : trimChars cs = cs := by
  rw [trimChars, dropWhile_of_head first, dropWhileEnd, dropWhile_of_head, List.reverse_reverse]
  rwa [List.head?_reverse]

/-- A text that trimming keeps has no blank at either end. -/
theorem solid_of_trimChars {cs : List Char} (trimmed : trimChars cs = cs) :
    (∀ c ∈ cs.head?, isBlank c = false) ∧ ∀ c ∈ cs.getLast?, isBlank c = false := by
  constructor
  · have shorter : (trimChars cs).Sublist (cs.dropWhile isBlank) := dropWhileEnd_sublist _ _
    rw [trimmed] at shorter
    have same := (List.dropWhile_sublist isBlank).eq_of_length_le shorter.length_le
    rw [← same]
    exact head_dropWhile cs
  · rw [← trimmed, trimChars, dropWhileEnd, List.getLast?_reverse]
    exact head_dropWhile _

end Text

end TypedRows
