import TypedRows.Proofs.TokenReading

/-! The texts between two marks, and how they are read again when the marks are put around them. -/

namespace TypedRows.Sql.Token

theorem quotedBody_stop {close : Char} {acc cs body rest : List Char}
    (h : quotedBody close acc cs = some (body, rest)) : rest.head? ≠ some close := by
  fun_induction quotedBody close acc cs with
  | case1 => cases h
  | case2 acc rest' ih => exact ih h
  | case3 acc d rest' other =>
    cases h
    exact fun same => other (Option.some.inj same)
  | case4 =>
    cases h
    exact fun same => by cases same
  | case5 acc c rest' other ih => exact ih h

/-- A text without its closing mark is read back, unless that mark follows at once. -/
theorem quotedBody_of_plain {close : Char} (acc : List Char) {body out : List Char}
    (plain : close ∉ body) (stop : out.head? ≠ some close) :
    quotedBody close acc (body ++ close :: out) = some (acc.reverse ++ body, out) := by
  induction body generalizing acc with
  | nil =>
    rw [List.nil_append, List.append_nil, quotedBody.eq_def]
    cases out with
    | nil => simp
    | cons d more =>
      have other : d ≠ close := fun same => stop (congrArg some same)
      simp [other]
  | cons c body ih =>
    obtain ⟨other, plain⟩ := not_or.mp (fun h => plain (List.mem_cons.mpr h))
    rw [List.cons_append, quotedBody.eq_def]
    dsimp only
    rw [if_neg (Ne.symm other), ih _ plain]
    simp

/-- The characters that stand for something else inside a string with backslashes. -/
def escapes : List Char := ['\'', '\\']

theorem backslashBody_stop {acc cs body rest : List Char}
    (h : backslashBody acc cs = some (body, rest)) : rest.head? ≠ some '\'' := by
  fun_induction backslashBody acc cs with
  | case1 => cases h
  | case2 acc rest' ih => exact ih h
  | case3 acc rest' other =>
    cases h
    intro same
    obtain ⟨more, rfl⟩ := List.head?_eq_some_iff.mp same
    exact other more rfl
  | case4 acc c rest' ih => exact ih h
  | case5 => cases h
  | case6 acc c rest' _ _ _ _ ih => exact ih h

theorem backslashBody_append (acc : List Char) {body cs : List Char}
    (plain : ∀ c ∈ body, c ∉ escapes) :
    backslashBody acc (body ++ cs) = backslashBody (body.reverse ++ acc) cs := by
  induction body generalizing acc with
  | nil => rfl
  | cons c body ih =>
    have apart := plain c List.mem_cons_self
    have rest := ih (c :: acc) fun d member => plain d (List.mem_cons_of_mem _ member)
    rw [List.cons_append, backslashBody.eq_def]
    split <;> simp_all [escapes]

theorem backslashBody_of_plain (acc : List Char) {body out : List Char}
    (plain : ∀ c ∈ body, c ∉ escapes) (stop : out.head? ≠ some '\'') :
    backslashBody acc (body ++ '\'' :: out) = some (acc.reverse ++ body, out) := by
  rw [backslashBody_append acc plain, backslashBody.eq_def]
  split <;> grind

theorem escapedBody_stop {acc cs body rest : List Char}
    (h : escapedBody acc cs = some (body, rest)) : rest.head? ≠ some '\'' := by
  fun_induction escapedBody acc cs with
  | case3 acc rest' other =>
    cases h
    intro same
    obtain ⟨more, rfl⟩ := List.head?_eq_some_iff.mp same
    exact other more rfl
  | _ => simp_all

theorem escapedBody_of_plain (acc : List Char) {body out : List Char}
    (plain : ∀ c ∈ body, c ∉ escapes) (stop : out.head? ≠ some '\'') :
    escapedBody acc (body ++ '\'' :: out) = some (acc.reverse ++ body, out) := by
  induction body generalizing acc with
  | nil =>
    rw [List.nil_append, List.append_nil, escapedBody.eq_def]
    split <;> grind
  | cons c body ih =>
    have apart := plain c List.mem_cons_self
    have rest := ih (c :: acc) fun d member => plain d (List.mem_cons_of_mem _ member)
    rw [List.cons_append, escapedBody.eq_def]
    split <;> simp_all [escapes]

/-- The body is read again, with its closing fence, whatever follows. -/
theorem dollarBody_span {half : Bool} {acc cs body rest : List Char}
    (h : dollarBody half acc cs = some (body, rest)) :
    ∃ used, cs = used ++ rest ∧
      acc.reverse ++ (if half then ['$'] else []) ++ used = body ++ ['$', '$'] ∧
      ∀ out, dollarBody half acc (used ++ out) = some (body, out) := by
  induction cs generalizing half acc with
  | nil => cases h
  | cons c cs ih =>
    -- the step to the next character, shared by the cases in which the reading goes on
    have go (half' : Bool) (acc' : List Char)
        (kept : acc'.reverse ++ (if half' then ['$'] else []) =
          acc.reverse ++ (if half then ['$'] else []) ++ [c])
        (step : ∀ more, dollarBody half acc (c :: more) = dollarBody half' acc' more) :
        ∃ used, c :: cs = used ++ rest ∧
          acc.reverse ++ (if half then ['$'] else []) ++ used = body ++ ['$', '$'] ∧
          ∀ out, dollarBody half acc (used ++ out) = some (body, out) := by
      rw [step] at h
      obtain ⟨used, rfl, text, again⟩ := ih h
      refine ⟨c :: used, rfl, ?_, fun out => ?_⟩
      · rw [← text, kept]
        simp
      · rw [List.cons_append, step]
        exact again out
    cases half with
    | true =>
      by_cases dollar : c = '$'
      · simp only [dollarBody, if_true, dollar, Option.some.injEq, Prod.mk.injEq] at h
        obtain ⟨rfl, rfl⟩ := h
        exact ⟨['$'], by rw [dollar]; rfl, by simp, fun out => rfl⟩
      · exact go false (c :: '$' :: acc) (by simp) fun more => by
          rw [dollarBody, if_pos rfl, if_neg dollar]
    | false =>
      by_cases dollar : c = '$'
      · exact go true acc (by simp [dollar]) fun more => by
          rw [dollarBody, if_neg Bool.false_ne_true, if_pos dollar]
      · exact go false (c :: acc) (by simp) fun more => by
          rw [dollarBody, if_neg Bool.false_ne_true, if_neg dollar]

/-- While the characters fit the tag, they and the dollar before them have been kept. -/
def Fits (tag : List Char) (due : Option (List Char)) (acc : List Char) : Prop :=
  ∀ left, due = some left → ∃ met before, tag = met ++ left ∧ acc = met.reverse ++ '$' :: before

theorem fits_none (tag acc : List Char) : Fits tag none acc := fun _ h => by cases h

theorem taggedBody_span {tag : List Char} {due : Option (List Char)} {acc cs body rest : List Char}
    (fits : Fits tag due acc) (h : taggedBody tag due acc cs = some (body, rest)) :
    ∃ used, cs = used ++ rest ∧ acc.reverse ++ used = body ++ '$' :: (tag ++ ['$']) ∧
      ∀ out, taggedBody tag due acc (used ++ out) = some (body, out) := by
  induction cs generalizing due acc with
  | nil => cases h
  | cons c cs ih =>
    -- the step to the next character, shared by the cases in which the reading goes on
    have go (due' : Option (List Char)) (fits' : Fits tag due' (c :: acc))
        (step : ∀ more, taggedBody tag due acc (c :: more) = taggedBody tag due' (c :: acc) more) :
        ∃ used, c :: cs = used ++ rest ∧ acc.reverse ++ used = body ++ '$' :: (tag ++ ['$']) ∧
          ∀ out, taggedBody tag due acc (used ++ out) = some (body, out) := by
      rw [step] at h
      obtain ⟨used, rfl, text, again⟩ := ih fits' h
      refine ⟨c :: used, rfl, ?_, fun out => ?_⟩
      · rw [← text]
        simp
      · rw [List.cons_append, step]
        exact again out
    match due with
    | none =>
      by_cases dollar : c = '$'
      · refine go (some tag) ?_ fun more => by rw [taggedBody, if_pos dollar]
        intro left same
        cases same
        exact ⟨[], acc, rfl, by rw [dollar]; rfl⟩
      · exact go none (fits_none _ _) fun more => by rw [taggedBody, if_neg dollar]
    | some [] =>
      by_cases dollar : c = '$'
      · obtain ⟨met, before, same, rfl⟩ := fits [] rfl
        rw [List.append_nil] at same
        subst same
        rw [taggedBody, if_pos dollar] at h
        simp only [Option.some.injEq, Prod.mk.injEq] at h
        obtain ⟨rfl, rfl⟩ := h
        have dropped : (tag.reverse ++ '$' :: before).drop (tag.length + 1) = before := by
          simp [List.drop_append]
        refine ⟨['$'], by rw [dollar]; rfl, ?_, fun out => rfl⟩
        rw [dropped]
        simp
      · exact go none (fits_none _ _) fun more => by rw [taggedBody, if_neg dollar]
    | some (t :: left) =>
      by_cases same : c = t
      · refine go (some left) ?_ fun more => by rw [taggedBody, if_pos same]
        intro left' hl
        cases hl
        obtain ⟨met, before, rfl, rfl⟩ := fits _ rfl
        exact ⟨met ++ [t], before, by simp, by simp [same]⟩
      · exact go none (fits_none _ _) fun more => by rw [taggedBody, if_neg same]

end TypedRows.Sql.Token
