import TypedRows.Proofs.SharedRun

/-! The shape that statements with one shared result have in common: the names of the fields in
whatever letter case, and for each name the nullability and the type. A later statement is checked
against the first one only, field by field; what the check comes to is told here by lookups. -/

namespace TypedRows

/-- What statements that share a result must say alike of a field. -/
def Field.traits (field : Field) : Bool × String := (field.notNull, field.propertyType)

namespace SharedResult

/-- No two fields have one name, in whatever letter case. -/
def DistinctNames (fields : List Field) : Prop :=
  (fields.map fun f => Text.foldLower f.name).Nodup

/-- The fields have the same names in whatever letter case, and those of one name have the same
nullability and type. -/
structure Compatible (xs ys : List Field) : Prop where
  names : ∀ name, (∃ x ∈ xs, Text.sameName x.name name = true) ↔
    ∃ y ∈ ys, Text.sameName y.name name = true
  traits : ∀ x ∈ xs, ∀ y ∈ ys, Text.sameName x.name y.name = true →
    x.notNull = y.notNull ∧ x.propertyType = y.propertyType

def traits? (fields : List Field) (name : String) : Option (Bool × String) :=
  (fieldNamed? fields name).map Field.traits

variable {xs ys : List Field} {f g : Field} {name : String}

theorem fieldNamed?_congr {a b : String} (same : Text.sameName a b = true) (fields : List Field) :
    fieldNamed? fields a = fieldNamed? fields b := by
  have folded : Text.foldLower a = Text.foldLower b := Text.sameName_iff.mp same
  simp only [fieldNamed?, Text.sameName, folded]

theorem fieldNamed?_eq_some (found : fieldNamed? xs name = some f) :
    f ∈ xs ∧ Text.sameName f.name name = true := by
  unfold fieldNamed? at found
  constructor
  · exact List.mem_of_find?_eq_some found
  · simpa using List.find?_some found

theorem isSome_fieldNamed?_iff :
    (fieldNamed? xs name).isSome = true ↔ ∃ x ∈ xs, Text.sameName x.name name = true := by
  simp [fieldNamed?]

theorem isSome_traits?_iff :
    (traits? xs name).isSome = true ↔ ∃ x ∈ xs, Text.sameName x.name name = true := by
  rw [traits?, Option.isSome_map, isSome_fieldNamed?_iff]

theorem difference?_eq_none_iff : difference? f g = none ↔ f.traits = g.traits := by
  unfold difference?
  by_cases filled : f.notNull = g.notNull <;> by_cases type : f.propertyType = g.propertyType <;>
    simp [Field.traits, filled, type]

/-- A list of fields passes the check against `xs` if it has a field to every name in `xs` and no
other names, and what it has to a field of `xs` has the same traits. -/
theorem disagreement?_eq_none : disagreement? xs ys = none ↔
    (∀ f ∈ xs, ∃ g, fieldNamed? ys f.name = some g ∧ g.traits = f.traits) ∧
      ∀ g ∈ ys, (fieldNamed? xs g.name).isSome = true := by
  have parts : disagreement? xs ys = none ↔
      (∀ f ∈ xs, (fieldNamed? ys f.name).isSome = true) ∧
      (∀ g ∈ ys, (fieldNamed? xs g.name).isSome = true) ∧
      ∀ f ∈ xs, (fieldNamed? ys f.name).bind (difference? f) = none := by
    simp [disagreement?, and_assoc, Option.isSome_iff_ne_none]
  rw [parts]
  constructor
  · rintro ⟨missing, added, different⟩
    refine ⟨fun f member => ?_, added⟩
    obtain ⟨g, theirs⟩ := Option.isSome_iff_exists.mp (missing f member)
    have equal := different f member
    rw [theirs, Option.bind_some, difference?_eq_none_iff] at equal
    exact ⟨g, theirs, equal.symm⟩
  · rintro ⟨found, added⟩
    refine ⟨fun f member => ?_, added, fun f member => ?_⟩
    · obtain ⟨g, theirs, _⟩ := found f member
      exact Option.isSome_iff_exists.mpr ⟨g, theirs⟩
    · obtain ⟨g, theirs, equal⟩ := found f member
      rw [theirs, Option.bind_some, difference?_eq_none_iff, equal]

/-- A list of fields passes the check against `xs` if each name has the same traits in both, and no
two fields of `xs` with one name differ. -/
theorem disagreement?_eq_none_iff : disagreement? xs ys = none ↔
    (∀ name, traits? xs name = traits? ys name) ∧ ∀ f ∈ xs, traits? xs f.name = some f.traits := by
  rw [disagreement?_eq_none]
  constructor
  · rintro ⟨found, added⟩
    have same : ∀ name, traits? xs name = traits? ys name := by
      intro name
      cases ours : fieldNamed? xs name with
      | none =>
        cases theirs : fieldNamed? ys name with
        | none => rw [traits?, traits?, ours, theirs]
        | some g =>
          obtain ⟨member, named⟩ := fieldNamed?_eq_some theirs
          have present := added g member
          rw [fieldNamed?_congr named, ours] at present
          cases present
      | some f =>
        obtain ⟨member, named⟩ := fieldNamed?_eq_some ours
        obtain ⟨g, theirs, equal⟩ := found f member
        rw [fieldNamed?_congr named] at theirs
        rw [traits?, traits?, ours, theirs, Option.map_some, Option.map_some, equal]
    refine ⟨same, ?_⟩
    intro f member
    obtain ⟨g, theirs, equal⟩ := found f member
    rw [same, traits?, theirs, Option.map_some, equal]
  · rintro ⟨same, own⟩
    constructor
    · intro f member
      have theirs := own f member
      rw [same] at theirs
      exact Option.map_eq_some_iff.mp theirs
    · intro g member
      have present : (traits? ys g.name).isSome = true :=
        isSome_traits?_iff.mpr ⟨g, member, Text.sameName_refl _⟩
      rw [← same, isSome_traits?_iff] at present
      exact isSome_fieldNamed?_iff.mpr present

theorem fieldNamed?_of_mem (distinct : DistinctNames xs) (member : f ∈ xs)
    (named : Text.sameName f.name name = true) : fieldNamed? xs name = some f := by
  have present := isSome_fieldNamed?_iff.mpr ⟨f, member, named⟩
  obtain ⟨g, found⟩ := Option.isSome_iff_exists.mp present
  obtain ⟨member', named'⟩ := fieldNamed?_eq_some found
  have folded : Text.foldLower g.name = Text.foldLower f.name :=
    (Text.sameName_iff.mp named').trans (Text.sameName_iff.mp named).symm
  rw [found, List.inj_on_of_nodup_map distinct member' member folded]

theorem traits?_of_mem (distinct : DistinctNames xs) (member : f ∈ xs)
    (named : Text.sameName f.name name = true) : traits? xs name = some f.traits := by
  rw [traits?, fieldNamed?_of_mem distinct member named, Option.map_some]

/-- Where names are distinct, to be compatible is to give every name the same traits; so it is an
equivalence. -/
theorem compatible_iff (distinct : DistinctNames xs) (distinct' : DistinctNames ys) :
    Compatible xs ys ↔ ∀ name, traits? xs name = traits? ys name := by
  constructor
  · intro compatible name
    cases ours : fieldNamed? xs name with
    | none =>
      have absent : ¬ (traits? ys name).isSome = true := by
        rw [isSome_traits?_iff, ← compatible.names, ← isSome_fieldNamed?_iff, ours]
        simp
      rw [Option.not_isSome_iff_eq_none] at absent
      rw [absent, traits?, ours, Option.map_none]
    | some f =>
      obtain ⟨member, named⟩ := fieldNamed?_eq_some ours
      obtain ⟨g, member', named'⟩ := (compatible.names name).mp ⟨f, member, named⟩
      have equal := compatible.traits f member g member'
        (Text.sameName_trans named (Text.sameName_comm _ _ ▸ named'))
      rw [traits?_of_mem distinct member named, traits?_of_mem distinct' member' named',
        Field.traits, Field.traits, equal.1, equal.2]
  · intro same
    constructor
    · intro name
      rw [← isSome_traits?_iff, ← isSome_traits?_iff, same]
    · intro x member y member' named
      have equal := same y.name
      rw [traits?_of_mem distinct member named,
        traits?_of_mem distinct' member' (Text.sameName_refl _), Option.some.injEq] at equal
      exact Prod.mk.inj equal

theorem disagreement?_of_distinct (distinct : DistinctNames xs) (distinct' : DistinctNames ys) :
    disagreement? xs ys = none ↔ Compatible xs ys := by
  rw [disagreement?_eq_none_iff, compatible_iff distinct distinct']
  have own : ∀ f ∈ xs, traits? xs f.name = some f.traits := fun f member =>
    traits?_of_mem distinct member (Text.sameName_refl _)
  exact and_iff_left own

end SharedResult

namespace SharedResults

open SharedResult

variable {results : SharedResults} {key : ResultKey} {call : Call} {result : SharedResult}

theorem agree_eq_ok_iff {statement : TypedStatement} :
    results.agree key statement = .ok () ↔
      ∀ result, results.get? key = some result →
        disagreement? result.fields statement.fields = none := by
  unfold agree
  cases results.get? key with
  | none => simp
  | some result =>
    simp only [Option.some.injEq, forall_eq', check]
    cases disagreement? result.fields statement.fields <;> simp

/-- A statement that disagrees with the result is refused with a conflict about that result. -/
theorem agree_of_disagreement {statement : TypedStatement} (known : results.get? key = some result)
    (differ : disagreement? result.fields statement.fields ≠ none) :
    ∃ conflict, results.agree key statement = .error (.sharedResult conflict) ∧
      conflict.result = result.name ∧ conflict.namespace = result.namespace := by
  unfold agree
  rw [known]
  simp only [check]
  cases found : disagreement? result.fields statement.fields with
  | none => exact absurd found differ
  | some said => exact ⟨_, rfl, rfl, rfl⟩

theorem outcome_of_named (named : call.key? = some key) (results : SharedResults) :
    call.outcome results = match results.agree key call.statement with
      | .ok () => (.ok (results.shared key call.statement), results.enter key call.statement)
      | .error e => (.error e, results) := by
  obtain ⟨name, given, rfl⟩ := Option.map_eq_some_iff.mp named
  exact run_registration results given

/-- What a call does to the result of a key: it is accepted under the key and agrees with what is
there, or the result of the key stays. -/
theorem after_cases (call : Call) (results : SharedResults) (key : ResultKey) :
    (call.accepted results = true ∧ call.key? = some key ∧
      results.agree key call.statement = .ok () ∧
      (call.after results).get? key = some (results.shared key call.statement)) ∨
    (¬ (call.accepted results = true ∧ call.key? = some key) ∧
      (call.after results).get? key = results.get? key) := by
  rcases call_cases call results with ⟨refused, same⟩ | ⟨taken, k, named, next⟩
  · right
    rw [same, refused]
    simp
  · by_cases here : k = key
    · subst here
      left
      have agreed : results.agree k call.statement = .ok () := by
        rw [Call.accepted, outcome_of_named named] at taken
        cases agreed : results.agree k call.statement with
        | ok _ => rfl
        | error e =>
          rw [agreed] at taken
          cases taken
      refine ⟨taken, named, agreed, ?_⟩
      rw [next]
      exact OrderedMap.get?_put_self _ _ _
    · right
      have other : key ≠ k := fun e => here e.symm
      constructor
      · rw [named]
        simp [here]
      · rw [next]
        exact OrderedMap.get?_put_of_ne _ _ other

theorem fields_after (call : Call) (known : results.get? key = some result) :
    ∃ later, (call.after results).get? key = some later ∧ later.fields = result.fields := by
  rcases after_cases call results key with ⟨_, _, _, next⟩ | ⟨_, same⟩
  · refine ⟨_, next, ?_⟩
    rw [shared, known]
    rfl
  · exact ⟨result, same.trans known, rfl⟩

/-- Every call accepted under a name gives the names of its fields the traits that the result there
gives them. -/
theorem traits_of_known (known : results.get? key = some result) (calls : List Call) :
    ∀ call ∈ under key (acceptedOf results calls), ∀ name,
      traits? result.fields name = traits? call.statement.fields name := by
  induction calls generalizing results result with
  | nil => simp [acceptedOf, under]
  | cons first rest ih =>
    obtain ⟨later, next, fields⟩ := fields_after first known
    have others := ih next
    rw [fields] at others
    intro call member name
    rw [acceptedOf] at member
    split at member
    · rename_i taken
      rw [under, List.filter_cons] at member
      split at member
      · rename_i named
        rcases List.mem_cons.mp member with rfl | member
        · rcases after_cases call results key with ⟨_, _, agreed, _⟩ | ⟨refused, _⟩
          · have equal := agree_eq_ok_iff.mp agreed result known
            exact (disagreement?_eq_none_iff.mp equal).1 name
          · exact absurd ⟨taken, of_decide_eq_true named⟩ refused
        · exact others call member name
      · exact others call member name
    · exact others call member name

/-- Any two calls accepted under a name give each field name the same traits. -/
theorem traits_of_accepted (absent : results.get? key = none) (calls : List Call) :
    ∀ a ∈ under key (acceptedOf results calls), ∀ b ∈ under key (acceptedOf results calls),
      ∀ name, traits? a.statement.fields name = traits? b.statement.fields name := by
  induction calls generalizing results with
  | nil => simp [acceptedOf, under]
  | cons first rest ih =>
    rw [acceptedOf]
    rcases after_cases first results key with ⟨taken, named, _, next⟩ | ⟨refused, same⟩
    · -- the first accepted call defines the fields, and all others agree with it
      have fields : (results.shared key first.statement).fields = first.statement.fields := by
        rw [shared, absent]
        rfl
      have others := traits_of_known next rest
      rw [fields] at others
      have all : ∀ call ∈ under key (first :: acceptedOf (first.after results) rest), ∀ name,
          traits? first.statement.fields name = traits? call.statement.fields name := by
        intro call member name
        rw [under, List.filter_cons, if_pos (decide_eq_true named)] at member
        rcases List.mem_cons.mp member with rfl | member
        · rfl
        · exact others call member name
      rw [if_pos taken]
      intro a ha b hb name
      exact (all a ha name).symm.trans (all b hb name)
    · have rest' := ih (same.trans absent)
      split
      · rename_i taken
        have skipped : under key (first :: acceptedOf (first.after results) rest) =
            under key (acceptedOf (first.after results) rest) := by
          rw [under, List.filter_cons, if_neg]
          · rfl
          · simpa using fun named => refused ⟨taken, named⟩
        rw [skipped]
        exact rest'
      · exact rest'

end SharedResults

end TypedRows
