import TypedRows.Proofs.NestedQueries
import TypedRows.Proofs.Nullability
import TypedRows.Proofs.RenamedParameters
import TypedRows.Proofs.StatementReads

/-! What is inferred of a parameter that is no operand of an expression. It is an integer if it
limits the rows of the outermost query, and a text of no known type otherwise, also where it limits
the rows of a query inside. -/

namespace TypedRows

open Sql

namespace Sql

/-- The parameters among the operands of an expression. Parentheses and a collation stand around
what is an operand of something else. -/
def Expr.operandParameters : Expr → List String
  | .nested _ | .collate _ _ => []
  | e => e.children.filterMap Expr.parameter?

/-- The parameters among the operands of the expressions that are met in a query. -/
def Query.operandParameters (query : Query) : List String :=
  (query.visits.filterMap Visit.expr?).flatMap Expr.operandParameters

/-- The parameters that are the limit or the offset of a query itself. -/
def Query.limitParameters (query : Query) : List String :=
  (query.limit.toList ++ query.offset.toList).filterMap Expr.parameter?

theorem Query.mem_operandParameters {query : Query} {e : Expr} {name : String}
    (met : Visit.expr e ∈ query.visits) (operand : name ∈ e.operandParameters) :
    name ∈ query.operandParameters :=
  List.mem_flatMap.mpr ⟨e, List.mem_filterMap.mpr ⟨_, met, rfl⟩, operand⟩

namespace Hint

theorem mem_compared {e value : Expr} {entry : String × Hint} (h : entry ∈ compared e value) :
    value.parameter? = some entry.1 := by
  rw [compared] at h
  split at h
  · rename_i named
    cases List.mem_singleton.mp h
    exact named
  · cases h

/-- What is compared is an operand. -/
theorem mem_ofExpr {e : Expr} {entry : String × Hint} (h : entry ∈ ofExpr e) :
    entry.1 ∈ e.operandParameters := by
  have operand : ∀ {value : Expr}, value ∈ e.children → value.parameter? = some entry.1 →
      entry.1 ∈ e.children.filterMap Expr.parameter? :=
    fun member named => List.mem_filterMap.mpr ⟨_, member, named⟩
  cases e with
  | binary op left right =>
    rw [ofExpr] at h
    split at h
    · rcases List.mem_append.mp h with h | h
      · exact operand (by simp [Expr.children]) (mem_compared h)
      · exact operand (by simp [Expr.children]) (mem_compared h)
    · cases h
  | isDistinct negated left right =>
    rcases List.mem_append.mp h with h | h
    · exact operand (by simp [Expr.children]) (mem_compared h)
    · exact operand (by simp [Expr.children]) (mem_compared h)
  | like op negated any x pattern escape =>
    rw [ofExpr] at h
    split at h
    · cases h
    · exact operand (by simp [Expr.children]) (mem_compared h)
  | between negated x low high =>
    rcases List.mem_append.mp h with h | h
    · exact operand (by simp [Expr.children]) (mem_compared h)
    · exact operand (by simp [Expr.children]) (mem_compared h)
  | inList negated x list =>
    obtain ⟨value, member, h⟩ := List.mem_flatMap.mp h
    exact operand (List.mem_cons_of_mem _ member) (mem_compared h)
  | _ => cases h

theorem mem_ofLimits {query : Query} {entry : String × Hint} :
    entry ∈ ofLimits query ↔ entry.2 = .limit ∧ entry.1 ∈ query.limitParameters := by
  obtain ⟨name, hint⟩ := entry
  rw [ofLimits, Query.limitParameters, List.mem_flatMap, List.mem_filterMap]
  constructor
  · rintro ⟨e, member, h⟩
    split at h
    · rename_i named
      cases List.mem_singleton.mp h
      exact ⟨rfl, e, member, named⟩
    · cases h
  · rintro ⟨rfl, e, member, named⟩
    exact ⟨e, member, by rw [named]; exact List.mem_cons_self⟩

end Hint

namespace Statement

variable {query : Query} {name : String}

theorem get?_hints_of_unused (unused : name ∉ query.operandParameters) :
    (select query).hints.get? name =
      if name ∈ query.limitParameters then some .limit else none := by
  have met : (query.visits.flatMap Hint.ofVisit).find? (·.1 = name) = none := by
    refine List.find?_eq_none.mpr fun entry member named => unused ?_
    obtain ⟨visit, met, member⟩ := List.mem_flatMap.mp member
    cases visit with
    | relation _ => cases member
    | expr e =>
      rw [← of_decide_eq_true named]
      exact Query.mem_operandParameters met (Hint.mem_ofExpr member)
  change (OrderedMap.empty.putAllNew ([] ++ query.visits.flatMap Hint.ofVisit ++
    Hint.ofLimits query)).get? name = _
  rw [OrderedMap.get?_putAllNew, List.nil_append, List.find?_append, met, Option.none_or]
  change ((Hint.ofLimits query).find? (·.1 = name)).map Prod.snd = _
  by_cases limits : name ∈ query.limitParameters
  · rw [if_pos limits]
    have there : ((Hint.ofLimits query).find? (·.1 = name)).isSome = true :=
      List.find?_isSome.mpr ⟨(name, .limit), Hint.mem_ofLimits.mpr ⟨rfl, limits⟩, by simp⟩
    obtain ⟨entry, found⟩ := Option.isSome_iff_exists.mp there
    rw [found, Option.map_some, (Hint.mem_ofLimits.mp (List.mem_of_find?_eq_some found)).1]
  · rw [if_neg limits, Option.map_eq_none_iff, List.find?_eq_none]
    intro entry member named
    rw [← of_decide_eq_true named] at limits
    exact limits (Hint.mem_ofLimits.mp member).2

theorem get?_casts_of_unused (unused : name ∉ query.operandParameters) :
    (select query).casts.get? name = none := by
  rw [casts_eq, OrderedMap.get?_putAllNew]
  change (List.find? _ (query.visits.filterMap castIn?)).map _ = _
  rw [Option.map_eq_none_iff, List.find?_eq_none]
  intro entry member named
  obtain ⟨visit, met, cast⟩ := List.mem_filterMap.mp member
  unfold castIn? at cast
  split at cast
  · obtain ⟨own, parameter, rfl⟩ := Option.map_eq_some_iff.mp cast
    refine unused (Query.mem_operandParameters met ?_)
    rw [← of_decide_eq_true named]
    exact List.mem_filterMap.mpr ⟨_, List.mem_cons_self, parameter⟩
  · cases cast

end Statement

end Sql

namespace Parameter

variable {context : Context} {names : Names} {name : String} {parameter : Parameter}

theorem names_of_ofHint {hint : Option Hint}
    (read : ofHint context names name hint = .ok parameter) :
    parameter.name = name ∧ parameter.propertyName = Naming.snakeCase name := by
  cases hint with
  | none =>
    cases read
    exact ⟨rfl, rfl⟩
  | some hint =>
    cases hint with
    | limit =>
      cases read
      exact ⟨rfl, rfl⟩
    | column ref assigned =>
      rw [ofHint, ofColumn_eq] at read
      split at read
      · cases read
        exact ⟨rfl, rfl⟩
      · obtain ⟨overrides, _, read⟩ := bind_eq_ok read
        cases read
        exact ⟨rfl, rfl⟩

theorem names_of_infer {casts : OrderedMap String String} {hints : OrderedMap String Hint}
    (read : infer context names casts hints name = .ok parameter) :
    parameter.name = name ∧ parameter.propertyName = Naming.snakeCase name := by
  obtain ⟨hinted, first, read⟩ := bind_eq_ok read
  have named := names_of_ofHint first
  split at read
  · cases read
    exact named
  · cases read
    exact named

end Parameter

namespace TypedStatement

variable {context : Context} {place : Place} {item : ScriptItem} {statement : TypedStatement}

/-- The parameters of a statement are inferred with the names of its shape. -/
theorem exists_shape (analysed : analyse context place item = .ok statement) :
    ∃ shape, Shape.ofStatement context.catalog place.name item.statement = .ok shape ∧
      statement.aliases = shape.aliases ∧
      Parameter.all context ⟨statement.aliases, statement.target⟩ item =
        .ok statement.parameters := by
  rw [analyse_eq] at analysed
  obtain ⟨shape, shaped, analysed⟩ := bind_eq_ok analysed
  obtain ⟨drafted, _, analysed⟩ := bind_eq_ok analysed
  obtain ⟨nested, _, analysed⟩ := bind_eq_ok analysed
  obtain ⟨parameters, all, analysed⟩ := bind_eq_ok analysed
  cases analysed
  exact ⟨shape, shaped, rfl, mapError_eq_ok.mp all⟩

/-- Each parameter of a statement is found under its name, as it is inferred. -/
theorem exists_inferred (analysed : analyse context place item = .ok statement) {name : String}
    (member : name ∈ item.parameters) :
    ∃ parameter, Parameter.infer context ⟨statement.aliases, statement.target⟩
        item.statement.casts item.statement.hints name = .ok parameter ∧
      statement.parameter? name = some parameter := by
  obtain ⟨_, _, _, all⟩ := exists_shape analysed
  have each := mapM_eq_ok all
  obtain ⟨parameter, inside, inferred⟩ :=
    exists_of_mem_left each (List.mem_eraseDups.mpr member)
  refine ⟨parameter, inferred, ?_⟩
  have named := (Parameter.names_of_infer inferred).1
  have there : (statement.parameters.find? fun p => p.name == name).isSome = true :=
    List.find?_isSome.mpr ⟨parameter, inside, beq_iff_eq.mpr named⟩
  obtain ⟨found, first⟩ := Option.isSome_iff_exists.mp there
  -- a parameter found under the same name was inferred from the same data
  obtain ⟨own, _, same⟩ := exists_of_mem_right each (List.mem_of_find?_eq_some first)
  have key : own = name := (Parameter.names_of_infer same).1.symm.trans
    (beq_iff_eq.mp (List.find?_some (p := fun p : Parameter => p.name == name) first))
  rw [key, inferred] at same
  cases same
  exact first

/-- A parameter of a query that is no operand of an expression is an integer just if it limits the
rows of the outermost query, and an unknown text otherwise. So the parameters that limit the rows of
inner queries are integers just if they limit those of the outermost query too. -/
theorem analyse_limits {query : Query} (selected : item.statement = .select query)
    (analysed : analyse context place item = .ok statement) :
    (∀ name ∈ item.parameters, name ∉ query.operandParameters →
      statement.parameter? name = some
        (if name ∈ query.limitParameters then
          { Parameter.unknown name with sqlType := some "INTEGER", propertyType := "i64" }
        else .unknown name)) ∧
    ((∀ inner ∈ query.queries, ∀ name ∈ inner.limitParameters,
        name ∈ item.parameters → name ∉ query.operandParameters →
        ∃ parameter, statement.parameter? name = some parameter ∧
          parameter.sqlType = some "INTEGER" ∧ parameter.propertyType = "i64") ↔
      ∀ inner ∈ query.queries, ∀ name ∈ inner.limitParameters,
        name ∈ item.parameters → name ∉ query.operandParameters →
        name ∈ query.limitParameters) := by
  have unused : ∀ name ∈ item.parameters, name ∉ query.operandParameters →
      statement.parameter? name = some
        (if name ∈ query.limitParameters then
          { Parameter.unknown name with sqlType := some "INTEGER", propertyType := "i64" }
        else .unknown name) := by
    intro name member unused
    obtain ⟨parameter, inferred, found⟩ := exists_inferred analysed member
    rw [Parameter.infer, selected, Statement.get?_hints_of_unused unused,
      Statement.get?_casts_of_unused unused] at inferred
    rw [found]
    split at inferred
    · cases inferred
      rename_i limits
      rw [if_pos limits]
    · cases inferred
      rename_i limits
      rw [if_neg limits]
  refine ⟨unused, ?_⟩
  constructor
  · intro integers inner inside name limits member apart
    obtain ⟨parameter, found, type, _⟩ := integers inner inside name limits member apart
    by_contra other
    rw [unused name member apart, if_neg other] at found
    cases found
    cases type
  · intro outermost inner inside name limits member apart
    refine ⟨_, unused name member apart, ?_⟩
    rw [if_pos (outermost inner inside name limits member apart)]
    exact ⟨rfl, rfl⟩

theorem exists_analysed (items : List ScriptItem) (item : ScriptItem)
    (accepted : ((Catalog.ofScript items).toOption.any fun catalog =>
      (analyse (.ofCatalog catalog .initial) ⟨"q", "n", ""⟩ item).toOption.isSome) = true) :
    ∃ catalog statement, Catalog.ofScript items = .ok catalog ∧
      analyse (.ofCatalog catalog .initial) ⟨"q", "n", ""⟩ item = .ok statement := by
  obtain ⟨catalog, read, accepted⟩ := (Option.any_eq_true _ _).mp accepted
  obtain ⟨statement, analysed⟩ := Option.isSome_iff_exists.mp accepted
  exact ⟨catalog, statement, toOption_eq_some.mp read, toOption_eq_some.mp analysed⟩

/-- `SELECT * FROM (SELECT * FROM t LIMIT :n) AS s LIMIT :m` -/
def limitedTwice : Query :=
  let parameter (text : String) : Option Expr := some (.literal (.placeholder text))
  let inner := { Query.allOf [Query.tableAs "t" "t"] none with limit := parameter ":n" }
  { Query.allOf [⟨false, .comma, .derived false inner (some ⟨⟨"s", none⟩, []⟩), none, .none⟩] none
    with limit := parameter ":m" }

def limitedItem : ScriptItem := ⟨"", .select limitedTwice, [], [], ["n", "m"]⟩

def limitedSchema : List ScriptItem :=
  [⟨"", .createTable ⟨"t", [⟨"x", some "INTEGER", true, false, none⟩], false⟩, [], [], []⟩]

theorem analyse_limits_twice : ∃ catalog statement, Catalog.ofScript limitedSchema = .ok catalog ∧
    analyse (.ofCatalog catalog .initial) ⟨"q", "n", ""⟩ limitedItem = .ok statement ∧
    (∃ inner ∈ limitedTwice.queries, "n" ∈ inner.limitParameters) ∧
    (statement.parameter? "m").map Parameter.propertyType = some "i64" ∧
    (statement.parameter? "n").map Parameter.propertyType = some "String" := by
  obtain ⟨catalog, statement, read, analysed⟩ :=
    exists_analysed limitedSchema limitedItem (by decide +kernel)
  have selected : limitedItem.statement = .select limitedTwice := rfl
  have found := (analyse_limits selected analysed).1
  refine ⟨catalog, statement, read, analysed, by decide +kernel, ?_, ?_⟩
  · rw [found "m" (by decide) (by decide +kernel), if_pos (by decide +kernel)]
    rfl
  · rw [found "n" (by decide) (by decide +kernel), if_neg (by decide +kernel)]
    rfl

end TypedStatement

end TypedRows
