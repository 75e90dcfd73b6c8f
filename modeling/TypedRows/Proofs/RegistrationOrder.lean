import TypedRows.Proofs.SharedShape

/-! Statements with one shared result may be registered in any order. The registry compares each of
them with the first one only; that is enough, since to be compatible is an equivalence. -/

namespace TypedRows

/-- Results that differ in the order and the letter case of what they list, if at all. -/
structure SharedResult.Matches (a b : SharedResult) : Prop where
  id : a.id = b.id
  fields : Compatible a.fields b.fields
  implements : ∀ trait, trait ∈ a.implements ↔ trait ∈ b.implements

namespace SharedResults

open SharedResult

def outcomes (results : SharedResults) : List Call → List (Except Error SharedResult)
  | [] => []
  | call :: rest => (call.outcome results).1 :: outcomes (call.after results) rest

def callsIn (space : String) (statements : List TypedStatement) : List Call :=
  statements.map fun statement => ⟨statement, space⟩

/-- A registry that was empty accepts all of the statements. -/
def AllAccepted (space : String) (statements : List TypedStatement) : Prop :=
  ∀ outcome ∈ outcomes empty (callsIn space statements), outcome.isOk = true

-- How a call is answered once the result has its fields.
def Answers (fields : List Field) (call : Call) (outcome : Except Error SharedResult) : Prop :=
  (disagreement? fields call.statement.fields = none ∧ outcome.isOk = true) ∨
  (disagreement? fields call.statement.fields ≠ none ∧
    ∃ conflict, outcome = .error (.sharedResult conflict))

variable {results : SharedResults} {key : ResultKey} {space name : String}
  {statements : List TypedStatement}

theorem outcome_of_absent {call : Call} (named : call.key? = some key)
    (absent : results.get? key = none) : (call.outcome results).1.isOk = true := by
  have agreed : results.agree key call.statement = .ok () := by
    rw [agree_eq_ok_iff]
    intro result known
    rw [absent] at known
    cases known
  rw [outcome_of_named named, agreed]
  rfl

theorem outcome_of_known {call : Call} {result : SharedResult} (named : call.key? = some key)
    (known : results.get? key = some result) :
    Answers result.fields call (call.outcome results).1 := by
  rw [outcome_of_named named]
  by_cases agreed : disagreement? result.fields call.statement.fields = none
  · left
    have accepted : results.agree key call.statement = .ok () := by
      rw [agree_eq_ok_iff]
      intro other known'
      rw [known] at known'
      cases known'
      exact agreed
    rw [accepted]
    exact ⟨agreed, rfl⟩
  · right
    obtain ⟨conflict, refused, _⟩ := agree_of_disagreement known agreed
    rw [refused]
    exact ⟨agreed, conflict, rfl⟩

/-- The fields of a result stay, so every later call is compared with the same fields. -/
theorem outcomes_of_known {result : SharedResult} (known : results.get? key = some result)
    {calls : List Call} (named : ∀ call ∈ calls, call.key? = some key) :
    List.Forall₂ (Answers result.fields) calls (outcomes results calls) := by
  induction calls generalizing results result with
  | nil => exact .nil
  | cons call rest ih =>
    obtain ⟨first, others⟩ := List.forall_mem_cons.mp named
    obtain ⟨later, next, fields⟩ := fields_after call known
    have tail := ih next others
    rw [fields] at tail
    exact .cons (outcome_of_known first known) tail

theorem key?_callsIn (space : String)
    (named : ∀ s ∈ statements, s.overrides.queryResult = some name) :
    ∀ call ∈ callsIn space statements, call.key? = some ⟨space, name⟩ := by
  intro call member
  obtain ⟨s, hs, rfl⟩ := List.mem_map.mp member
  simp [Call.key?, named s hs]

/-- On an empty registry the first statement is accepted, and each later one is compared with
it. -/
theorem outcomes_callsIn (space : String) {first : TypedStatement} {rest : List TypedStatement}
    (named : ∀ s ∈ first :: rest, s.overrides.queryResult = some name) :
    ∃ own tail, outcomes empty (callsIn space (first :: rest)) = own :: tail ∧ own.isOk = true ∧
      List.Forall₂ (Answers first.fields) (callsIn space rest) tail := by
  have keys := key?_callsIn space named
  obtain ⟨ofFirst, ofRest⟩ := List.forall_mem_cons.mp keys
  have absent : empty.get? ⟨space, name⟩ = none := rfl
  have accepted := outcome_of_absent ofFirst absent
  refine ⟨_, _, rfl, accepted, ?_⟩
  rcases after_cases ⟨first, space⟩ empty ⟨space, name⟩ with ⟨_, _, _, next⟩ | ⟨refused, _⟩
  · exact outcomes_of_known next ofRest
  · exact absurd ⟨accepted, ofFirst⟩ refused

theorem Answers.isOk_iff {fields : List Field} {call : Call} {outcome : Except Error SharedResult}
    (answers : Answers fields call outcome) :
    outcome.isOk = true ↔ disagreement? fields call.statement.fields = none := by
  rcases answers with ⟨agreed, ok⟩ | ⟨differ, conflict, rfl⟩
  · exact iff_of_true ok agreed
  · exact iff_of_false Bool.false_ne_true differ

section Answered

variable {fields : List Field} {calls : List Call} {answered : List (Except Error SharedResult)}

theorem allOk_iff (answers : List.Forall₂ (Answers fields) calls answered) :
    (∀ outcome ∈ answered, outcome.isOk = true) ↔
      ∀ call ∈ calls, disagreement? fields call.statement.fields = none := by
  induction answers with
  | nil => simp
  | cons answer _ ih => rw [List.forall_mem_cons, List.forall_mem_cons, ih, answer.isOk_iff]

theorem exists_conflict_of_answers (answers : List.Forall₂ (Answers fields) calls answered)
    (refused : ¬ ∀ outcome ∈ answered, outcome.isOk = true) :
    ∃ conflict, .error (.sharedResult conflict) ∈ answered := by
  induction answers with
  | nil => simp at refused
  | @cons call outcome _ _ answer _ ih =>
    rcases answer with ⟨_, ok⟩ | ⟨_, conflict, rfl⟩
    · rw [List.forall_mem_cons, not_and] at refused
      obtain ⟨conflict, member⟩ := ih (refused ok)
      exact ⟨conflict, List.mem_cons_of_mem _ member⟩
    · exact ⟨conflict, List.mem_cons_self⟩

end Answered

theorem allAccepted_cons {first : TypedStatement} {rest : List TypedStatement}
    (named : ∀ s ∈ first :: rest, s.overrides.queryResult = some name) :
    AllAccepted space (first :: rest) ↔
      ∀ t ∈ rest, disagreement? first.fields t.fields = none := by
  obtain ⟨own, tail, all, accepted, answers⟩ := outcomes_callsIn space named
  rw [AllAccepted, all, List.forall_mem_cons, allOk_iff answers]
  simp [accepted, callsIn]

/-- A refusal among statements with one result is a conflict about the fields. -/
theorem exists_conflict (named : ∀ s ∈ statements, s.overrides.queryResult = some name)
    (refused : ¬ AllAccepted space statements) :
    ∃ conflict, .error (.sharedResult conflict) ∈ outcomes empty (callsIn space statements) := by
  cases statements with
  | nil =>
    apply absurd _ refused
    intro outcome member
    cases member
  | cons first rest =>
    obtain ⟨own, tail, all, accepted, answers⟩ := outcomes_callsIn space named
    rw [AllAccepted, all, List.forall_mem_cons, not_and] at refused
    obtain ⟨conflict, member⟩ := exists_conflict_of_answers answers (refused accepted)
    exact ⟨conflict, all ▸ List.mem_cons_of_mem _ member⟩

theorem acceptedOf_of_ok {calls : List Call}
    (ok : ∀ outcome ∈ outcomes results calls, outcome.isOk = true) :
    acceptedOf results calls = calls := by
  induction calls generalizing results with
  | nil => rfl
  | cons call rest ih =>
    rw [outcomes, List.forall_mem_cons] at ok
    have taken : call.accepted results = true := ok.1
    rw [acceptedOf, if_pos taken, ih ok.2]

theorem under_callsIn (named : ∀ s ∈ statements, s.overrides.queryResult = some name) :
    under ⟨space, name⟩ (callsIn space statements) = callsIn space statements := by
  apply List.filter_eq_self.mpr
  intro call member
  exact decide_eq_true (key?_callsIn space named call member)

/-- A registry that has accepted all statements holds what all of them say. -/
theorem tells_callsIn (named : ∀ s ∈ statements, s.overrides.queryResult = some name)
    (accepted : AllAccepted space statements) :
    (run empty (callsIn space statements)).get? ⟨space, name⟩ =
        resultOf ⟨space, name⟩ (callsIn space statements) ∧
      (run empty (callsIn space statements)).excludedOf ⟨space, name⟩ =
        excludedBy (callsIn space statements) := by
  have tells := tells_run (callsIn space statements)
  rw [acceptedOf_of_ok accepted] at tells
  have result := tells.result ⟨space, name⟩
  have excluded := tells.excluded ⟨space, name⟩
  rw [under_callsIn named] at result excluded
  exact ⟨result, excluded⟩

theorem pairwise_of_first {first : TypedStatement} {rest : List TypedStatement}
    (distinct : ∀ s ∈ first :: rest, DistinctNames s.fields)
    (compatible : ∀ t ∈ rest, Compatible first.fields t.fields) :
    ∀ s ∈ first :: rest, ∀ t ∈ first :: rest, Compatible s.fields t.fields := by
  have ofFirst : ∀ t ∈ first :: rest, ∀ field, traits? first.fields field =
      traits? t.fields field := by
    intro t member
    rcases List.mem_cons.mp member with rfl | later
    · exact fun _ => rfl
    · exact (compatible_iff (distinct first List.mem_cons_self) (distinct t member)).mp
        (compatible t later)
  intro s hs t ht
  rw [compatible_iff (distinct s hs) (distinct t ht)]
  intro field
  exact (ofFirst s hs field).symm.trans (ofFirst t ht field)

theorem allAccepted_iff (space : String)
    (named : ∀ s ∈ statements, s.overrides.queryResult = some name)
    (distinct : ∀ s ∈ statements, DistinctNames s.fields) :
    AllAccepted space statements ↔
      ∀ s ∈ statements, ∀ t ∈ statements, Compatible s.fields t.fields := by
  cases statements with
  | nil => simp [AllAccepted, callsIn, outcomes]
  | cons first rest =>
    rw [allAccepted_cons named]
    constructor
    · intro agreed
      apply pairwise_of_first distinct
      intro t member
      exact (disagreement?_of_distinct (distinct first List.mem_cons_self)
        (distinct t (List.mem_cons_of_mem _ member))).mp (agreed t member)
    · intro compatible t member
      have later := List.mem_cons_of_mem first member
      exact (disagreement?_of_distinct (distinct first List.mem_cons_self) (distinct t later)).mpr
        (compatible first List.mem_cons_self t later)

theorem mem_excludedBy {field : String} : field ∈ excludedBy (callsIn space statements) ↔
    ∃ s ∈ statements, field ∈ s.overrides.excludeOverrideFields := by
  simp [excludedBy, callsIn, Call.excludes]

theorem resultOf_callsIn (key : ResultKey) (space : String) (first : TypedStatement)
    (rest : List TypedStatement) :
    ∃ result, resultOf key (callsIn space (first :: rest)) = some result ∧
      result.id = key.namespace ++ "::" ++ key.name ∧ result.fields = first.fields ∧
      ∀ trait, trait ∈ result.implements ↔
        ∃ s ∈ first :: rest, trait ∈ s.overrides.implements := by
  refine ⟨_, rfl, rfl, rfl, ?_⟩
  intro trait
  simp [Call.implements]

/-- Statements whose field names are distinct can be registered under one name if and only if they
are pairwise compatible. So any order will do, and comes to the same result; and if two of them are
not compatible, some statement is refused with a conflict in every order. -/
theorem register_perm (named : ∀ s ∈ statements, s.overrides.queryResult = some name)
    (distinct : ∀ s ∈ statements, DistinctNames s.fields) :
    (AllAccepted space statements ↔
      ∀ s ∈ statements, ∀ t ∈ statements, Compatible s.fields t.fields) ∧
    ∀ order, order.Perm statements →
      (AllAccepted space statements →
        AllAccepted space order ∧
        (statements ≠ [] → ∃ a b,
          (run empty (callsIn space statements)).get? ⟨space, name⟩ = some a ∧
          (run empty (callsIn space order)).get? ⟨space, name⟩ = some b ∧ a.Matches b) ∧
        ∀ field, field ∈ (run empty (callsIn space statements)).excludedOf ⟨space, name⟩ ↔
          field ∈ (run empty (callsIn space order)).excludedOf ⟨space, name⟩) ∧
      ((∃ s ∈ statements, ∃ t ∈ statements, ¬ Compatible s.fields t.fields) →
        ∃ conflict, .error (.sharedResult conflict) ∈ outcomes empty (callsIn space order)) := by
  have exact_condition := allAccepted_iff space named distinct
  refine ⟨exact_condition, ?_⟩
  intro order perm
  have named' : ∀ s ∈ order, s.overrides.queryResult = some name := fun s member =>
    named s (perm.mem_iff.mp member)
  have distinct' : ∀ s ∈ order, DistinctNames s.fields := fun s member =>
    distinct s (perm.mem_iff.mp member)
  have same : AllAccepted space order ↔ AllAccepted space statements := by
    rw [exact_condition, allAccepted_iff space named' distinct']
    simp only [perm.mem_iff]
  constructor
  · intro accepted
    have accepted' := same.mpr accepted
    obtain ⟨result, excluded⟩ := tells_callsIn named accepted
    obtain ⟨result', excluded'⟩ := tells_callsIn named' accepted'
    refine ⟨accepted', ?_, ?_⟩
    · intro nonempty
      obtain ⟨first, rest, rfl⟩ := List.exists_cons_of_ne_nil nonempty
      have nonempty' : order ≠ [] := fun none => by simp [none] at perm
      obtain ⟨first', rest', rfl⟩ := List.exists_cons_of_ne_nil nonempty'
      obtain ⟨a, ha, id, fields, implements⟩ :=
        resultOf_callsIn ⟨space, name⟩ space first rest
      obtain ⟨b, hb, id', fields', implements'⟩ :=
        resultOf_callsIn ⟨space, name⟩ space first' rest'
      refine ⟨a, b, result.trans ha, result'.trans hb, ?_⟩
      constructor
      · rw [id, id']
      · rw [fields, fields']
        exact exact_condition.mp accepted first List.mem_cons_self first'
          (perm.mem_iff.mp List.mem_cons_self)
      · intro trait
        rw [implements, implements']
        simp only [perm.mem_iff]
    · intro field
      rw [excluded, excluded', mem_excludedBy, mem_excludedBy]
      simp only [perm.mem_iff]
  · rintro ⟨s, hs, t, ht, differ⟩
    apply exists_conflict named'
    intro accepted
    exact differ (exact_condition.mp (same.mp accepted) s hs t ht)

def namedField (name type : String) : Field :=
  { extraField with name, propertyType := type }

-- The same fields in another order and letter case, and one of another type.
def leftStatement : TypedStatement :=
  rowsStatement "a" [namedField "x" "i64", namedField "y" "String"] ["I"] ["x"]

def rightStatement : TypedStatement :=
  rowsStatement "b" [namedField "Y" "String", namedField "x" "i64"] ["J", "I"] []

def clashingStatement : TypedStatement :=
  rowsStatement "c" [namedField "Y" "Text", namedField "x" "i64"] [] []

theorem foldLower_Y : Text.foldLower "Y" = "y" ∧ Text.foldLower "y" = "y" ∧
    Text.foldLower "x" = "x" := by
  simp only [Text.foldLower_eq_iff]
  decide

theorem register_perm_reversed :
    AllAccepted "n" [rightStatement, leftStatement] ∧
    (∃ a b, (run empty (callsIn "n" [leftStatement, rightStatement])).get? ⟨"n", "rows"⟩ = some a ∧
      (run empty (callsIn "n" [rightStatement, leftStatement])).get? ⟨"n", "rows"⟩ = some b ∧
      a.Matches b) ∧
    ∃ conflict, .error (.sharedResult conflict) ∈
      outcomes empty (callsIn "n" [clashingStatement, leftStatement, rightStatement]) := by
  obtain ⟨upper, lower, other⟩ := foldLower_Y
  have named : ∀ s ∈ [leftStatement, rightStatement, clashingStatement],
      s.overrides.queryResult = some "rows" := by decide
  have distinct : ∀ s ∈ [leftStatement, rightStatement, clashingStatement],
      DistinctNames s.fields := by
    simp [DistinctNames, leftStatement, rightStatement, clashingStatement, rowsStatement,
      namedField, upper, lower, other]
  have inside : ∀ s ∈ [leftStatement, rightStatement],
      s ∈ [leftStatement, rightStatement, clashingStatement] := fun s member =>
    List.mem_append_left [clashingStatement] member
  have same : Compatible leftStatement.fields rightStatement.fields := by
    constructor
    · intro name
      simp [leftStatement, rightStatement, rowsStatement, namedField, Text.sameName, upper, lower,
        or_comm]
    · simp [leftStatement, rightStatement, rowsStatement, namedField, Text.sameName, upper, lower,
        other]
  have differ : ¬ Compatible leftStatement.fields clashingStatement.fields := by
    intro compatible
    have equal := compatible.traits (namedField "y" "String")
      (List.mem_cons_of_mem _ List.mem_cons_self) (namedField "Y" "Text") List.mem_cons_self
      (Text.sameName_iff.mpr (lower.trans upper.symm))
    exact absurd equal.2 (by decide)
  obtain ⟨condition, orders⟩ := @register_perm "n" "rows" [leftStatement, rightStatement]
    (fun s member => named s (inside s member)) (fun s member => distinct s (inside s member))
  obtain ⟨_, clashes⟩ := @register_perm "n" "rows" _ named distinct
  have accepted : AllAccepted "n" [leftStatement, rightStatement] := by
    apply condition.mpr
    apply pairwise_of_first (fun s member => distinct s (inside s member))
    simpa using same
  obtain ⟨all, result, _⟩ := (orders [rightStatement, leftStatement] (.swap _ _ _)).1 accepted
  refine ⟨all, result (List.cons_ne_nil _ _), ?_⟩
  have moved : [clashingStatement, leftStatement, rightStatement].Perm
      [leftStatement, rightStatement, clashingStatement] :=
    (List.Perm.swap _ _ _).trans (.cons _ (.swap _ _ _))
  have last : clashingStatement ∈ [leftStatement, rightStatement, clashingStatement] :=
    List.mem_append_right [leftStatement, rightStatement] List.mem_cons_self
  exact (clashes _ moved).2 ⟨leftStatement, List.mem_cons_self, clashingStatement, last, differ⟩

end SharedResults

end TypedRows
