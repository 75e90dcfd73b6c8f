import TypedRows.Proofs.Lookahead

/-! The operator at the start of some characters is the longest one that fits them. -/

namespace TypedRows.Sql.Token

def operatorTexts : List (List Char) := operators.map String.toList

theorem operatorTexts_distinct : operatorTexts.Pairwise fun first second => ¬first <+: second := by
  decide

/-- An operator of more than two characters grows out of shorter ones. -/
theorem take_mem_operatorTexts : ∀ text ∈ operatorTexts, ∀ n ≤ text.length, 2 ≤ n →
    text.take n ∈ operatorTexts := by
  decide

theorem two_le_length : ∀ text ∈ operatorTexts, 2 ≤ text.length := by
  decide

/-- Only `<<` is an operator that ends with a `<`. -/
theorem last_apart : ∀ text ∈ operatorTexts,
    (text.getLast?.all fun d => d ∉ blanks ++ capitals ∧ (d = '<' → text = ['<', '<'])) = true := by
  decide

theorem prefix_of_find {texts : List (List Char)} {cs text other : List Char}
    (distinct : texts.Pairwise fun first second => ¬first <+: second)
    (found : texts.find? (·.isPrefixOf cs) = some text) (member : other ∈ texts)
    (fits : other <+: cs) : other <+: text := by
  induction distinct with
  | nil => cases member
  | @cons first rest no _ ih =>
    rw [List.find?_cons] at found
    by_cases hit : first <+: cs
    · rw [List.isPrefixOf_iff_prefix.mpr hit] at found
      cases found
      cases member with
      | head => exact List.prefix_refl _
      | tail _ member =>
        rcases List.prefix_or_prefix_of_prefix hit fits with shorter | longer
        · exact absurd shorter (no other member)
        · exact longer
    · have miss : first.isPrefixOf cs = false :=
        Bool.eq_false_iff.mpr fun h => hit (List.isPrefixOf_iff_prefix.mp h)
      rw [miss] at found
      cases member with
      | head => exact absurd fits hit
      | tail _ member => exact ih found member

/-- The text with the character after it is an operator too. -/
def Grows (text after : List Char) : Prop :=
  ∃ d ∈ after.head?, text ++ [d] ∈ operatorTexts

theorem prefix_of_not_grows {text after other : List Char} (some : text ≠ [])
    (alone : ¬Grows text after) (member : other ∈ operatorTexts) (fits : other <+: text ++ after) :
    other <+: text := by
  rcases List.prefix_or_prefix_of_prefix fits (List.prefix_append text after) with shorter | longer
  · exact shorter
  · obtain ⟨more, rfl⟩ := longer
    cases more with
    | nil => simp
    | cons d more =>
      exfalso
      refine alone ⟨d, ?_, ?_⟩
      · obtain ⟨rest, rfl⟩ := (List.prefix_append_right_inj text).mp fits
        rfl
      · have size : 0 < text.length := List.length_pos_iff.mpr some
        have grown := take_mem_operatorTexts _ member (text.length + 1) (by simp) (by omega)
        rwa [List.take_length_add_append] at grown

/-- What is read as one mark. -/
inductive Mark : List Char → Prop where
  | operator {text : List Char} (h : text ∈ operatorTexts) : Mark text
  | single (c : Char) : Mark [c]

theorem Mark.ne_nil {text : List Char} (h : Mark text) : text ≠ [] := by
  cases h with
  | operator h =>
    rintro rfl
    have := two_le_length [] h
    simp at this
  | single c => exact List.cons_ne_nil _ _

/-- Both spellings of `<>` are printed the same. -/
def spelled (text : List Char) : List Char := if text = ['!', '='] then ['<', '>'] else text

theorem operator_of_find {text after : List Char} {c : Char} {more : List Char}
    (same : text = c :: more)
    (found : operatorTexts.find? (·.isPrefixOf (text ++ after)) = some text) :
    operator c (more ++ after) = (.mark (String.ofList (spelled text)), after) := by
  subst same
  rw [operatorTexts, List.find?_map, Option.map_eq_some_iff] at found
  obtain ⟨op, found, hop⟩ := found
  have found : (operators.find? fun o => o.toList.isPrefixOf (c :: (more ++ after))) = some op :=
    found
  unfold operator
  rw [found]
  have len : op.length - 1 = more.length := by
    rw [← String.length_toList, hop]
    rfl
  change (Token.mark (if op = "!=" then "<>" else op), (more ++ after).drop (op.length - 1)) = _
  rw [len, List.drop_left, ← hop]
  unfold spelled
  by_cases unequal : op = "!="
  · rw [if_pos unequal, if_pos (by rw [unequal]; rfl)]
  · have differ : op.toList ≠ ['!', '='] := fun h => unequal (String.toList_inj.mp h)
    rw [if_neg unequal, if_neg differ, String.ofList_toList]

theorem operator_of_none {c : Char} {after : List Char}
    (none : operatorTexts.find? (·.isPrefixOf (c :: after)) = none) :
    operator c after = (.mark (String.ofList (spelled [c])), after) := by
  rw [operatorTexts, List.find?_map, Option.map_eq_none_iff] at none
  have none : (operators.find? fun o => o.toList.isPrefixOf (c :: after)) = .none := none
  unfold operator
  rw [none]
  have spelling : spelled [c] = [c] := if_neg (by simp)
  rw [spelling]
  rfl

/-- A mark that does not grow is read. -/
theorem operator_of_mark {text after : List Char} {c : Char} {more : List Char} (h : Mark text)
    (same : text = c :: more) (alone : ¬Grows text after) :
    operator c (more ++ after) = (.mark (String.ofList (spelled text)), after) := by
  cases found : operatorTexts.find? (·.isPrefixOf (text ++ after)) with
  | none =>
    cases h with
    | operator member =>
      have no := List.find?_eq_none.mp found text member
      exact absurd (List.isPrefixOf_iff_prefix.mpr (List.prefix_append _ _)) no
    | single d =>
      cases same
      exact operator_of_none found
  | some other =>
    have member := List.mem_of_find?_eq_some found
    have hit := List.find?_some found
    have fits := List.isPrefixOf_iff_prefix.mp hit
    have shorter := prefix_of_not_grows h.ne_nil alone member fits
    cases h with
    | operator member' =>
      have longer := prefix_of_find operatorTexts_distinct found member' (List.prefix_append _ _)
      have equal : other = text :=
        shorter.eq_of_length (Nat.le_antisymm shorter.length_le longer.length_le)
      rw [equal] at found
      exact operator_of_find same found
    | single d =>
      have size := two_le_length other member
      have := shorter.length_le
      simp at this
      omega

/-- Whatever is read as a mark does not grow. -/
theorem operator_cases {c : Char} {rest after : List Char} {text : String}
    (h : operator c rest = (.mark text, after)) :
    ∃ more, rest = more ++ after ∧ Mark (c :: more) ∧ ¬Grows (c :: more) after ∧
      text = String.ofList (spelled (c :: more)) := by
  cases found : operatorTexts.find? (·.isPrefixOf (c :: rest)) with
  | none =>
    cases (operator_of_none found).symm.trans h
    refine ⟨[], rfl, .single c, ?_, rfl⟩
    rintro ⟨d, hd, member⟩
    obtain ⟨more, rfl⟩ := List.head?_eq_some_iff.mp hd
    refine List.find?_eq_none.mp found _ member (List.isPrefixOf_iff_prefix.mpr ⟨more, rfl⟩)
  | some mark =>
    have member := List.mem_of_find?_eq_some found
    have hit := List.find?_some found
    obtain ⟨left, same⟩ := List.isPrefixOf_iff_prefix.mp hit
    obtain ⟨d, more, rfl⟩ := List.exists_cons_of_ne_nil (Mark.operator member).ne_nil
    cases same
    cases (operator_of_find rfl found).symm.trans h
    refine ⟨more, rfl, .operator member, ?_, rfl⟩
    rintro ⟨d, hd, grown⟩
    obtain ⟨rest, rfl⟩ := List.head?_eq_some_iff.mp hd
    have fits : (c :: more) ++ [d] <+: (c :: more) ++ d :: rest := ⟨rest, by simp⟩
    have shorter := (prefix_of_find operatorTexts_distinct found grown fits).length_le
    simp only [List.length_append, List.length_cons, List.length_nil] at shorter
    omega

/-- What is printed after a mark does not make it grow, a `<` after a `<` apart. -/
theorem Grows.of_echo {text source out : List Char} (some : text ≠ []) (h : Echo source out)
    (less : text = ['<'] → out.head? ≠ .some '<') (grows : Grows text out) : Grows text source := by
  obtain ⟨d, hd, member⟩ := grows
  obtain ⟨c, more, rfl⟩ := List.exists_cons_of_ne_nil some
  have ends := last_apart _ member
  rw [List.getLast?_concat, Option.all_some, decide_eq_true_eq] at ends
  obtain ⟨apart, twice⟩ := ends
  refine ⟨d, h.head_of_head hd ?_, member⟩
  rw [List.mem_cons, not_or]
  refine ⟨?_, apart⟩
  rintro rfl
  have same := twice rfl
  simp only [List.cons_append, List.cons.injEq, List.append_eq_singleton_iff, List.cons_ne_nil,
    and_true, and_false, or_false] at same
  obtain ⟨rfl, rfl⟩ := same
  exact less rfl hd

theorem not_grows_unequal (out : List Char) : ¬Grows ['<', '>'] out := by
  rintro ⟨d, _, member⟩
  have last : ∀ text ∈ operatorTexts, ['<', '>'] <+: text → text = ['<', '>'] := by decide
  have same := last _ member ⟨[d], rfl⟩
  cases same

end TypedRows.Sql.Token
