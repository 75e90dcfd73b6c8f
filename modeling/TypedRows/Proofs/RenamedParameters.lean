import TypedRows.Proofs.RenamedVisits

/-! Under other names of the common table expressions of a statement its parameters are cast to the
same types, and meet the same columns. -/

namespace TypedRows

open Sql

variable {T : Tolerance} {ρ : Renaming}

theorem Sql.Expr.parameter?_renamed (e : Expr) {e' : Expr} (h : ExprRenamed T ρ e e') :
    e.parameter? = e'.parameter? := by
  cases e with
  | nested x =>
    cases h with
    | nested inner =>
      rw [Expr.parameter?, Expr.parameter?, x.parameter?_renamed inner]
  | collate x collation =>
    cases h with
    | collate inner _ =>
      rw [Expr.parameter?, Expr.parameter?, x.parameter?_renamed inner]
  | _ =>
    cases h
    all_goals rfl
termination_by structural e

theorem expressions_renamed {items items' : List Item} (h : ItemsRenamed T ρ items items') :
    (items.filterMap Item.expr?).isEmpty = (items'.filterMap Item.expr?).isEmpty := by
  induction items generalizing items' with
  | nil =>
    cases h
    rfl
  | cons item rest ih =>
    cases h with
    | expr _ _ _ => rfl
    | star _ _ others =>
      rw [List.filterMap_cons_none rfl, List.filterMap_cons_none rfl, ih others]

mutual

theorem Sql.Expr.comparedColumn?_renamed (e : Expr) {e' : Expr} (h : ExprRenamed T ρ e e') :
    e.comparedColumn? = e'.comparedColumn? := by
  cases e with
  | column path =>
    cases h with
    | column _ => rfl
  | nested x =>
    cases h with
    | nested inner =>
      rw [Expr.comparedColumn?, Expr.comparedColumn?, x.comparedColumn?_renamed inner]
  | collate x collation =>
    cases h with
    | collate inner _ =>
      rw [Expr.comparedColumn?, Expr.comparedColumn?, x.comparedColumn?_renamed inner]
  | trim side what x =>
    cases h with
    | trim _ _ _ inner =>
      rw [Expr.comparedColumn?, Expr.comparedColumn?, x.comparedColumn?_renamed inner]
  | call call =>
    cases h with
    | call inner =>
      rw [Expr.comparedColumn?, Expr.comparedColumn?, call.comparedColumn?_renamed inner]
  | _ =>
    cases h
    all_goals rfl
termination_by structural e

theorem Sql.Call.comparedColumn?_renamed (call : Call) {call' : Call}
    (h : CallRenamed T ρ call call') : call.comparedColumn? = call'.comparedColumn? := by
  obtain ⟨name, parentheses, treatment, arguments, clauses, group, filter, window⟩ := call
  cases h with
  | intro _ _ _ _ _ _ _ _ _ each _ =>
    rw [Call.comparedColumn?, Call.comparedColumn?, soleColumn?_renamed arguments each]
termination_by structural call

theorem soleColumn?_renamed (items : List Item) {items' : List Item}
    (h : ItemsRenamed T ρ items items') : soleColumn? items = soleColumn? items' := by
  cases items with
  | nil =>
    cases h
    rfl
  | cons item rest =>
    cases item with
    | expr label e =>
      cases h with
      | expr _ first others =>
        rw [soleColumn?, soleColumn?, expressions_renamed others, e.comparedColumn?_renamed first]
    | star label path =>
      cases h with
      | star _ _ others => rw [soleColumn?, soleColumn?, soleColumn?_renamed rest others]
termination_by structural items

end

namespace Sql.Hint

theorem compared_renamed {e e' value value' : Expr} (column : ExprRenamed T ρ e e')
    (parameter : ExprRenamed T ρ value value') : compared e value = compared e' value' := by
  rw [compared, compared, e.comparedColumn?_renamed column, value.parameter?_renamed parameter]

theorem ofExpr_renamed {e e' : Expr} (h : ExprRenamed T ρ e e') : ofExpr e = ofExpr e' := by
  cases h with
  | binary op left right =>
    rw [ofExpr, ofExpr, compared_renamed left right, compared_renamed right left]
  | isDistinct _ left right =>
    rw [ofExpr, ofExpr, compared_renamed left right, compared_renamed right left]
  | like op _ _ inner pattern _ => rw [ofExpr, ofExpr, compared_renamed inner pattern]
  | between _ inner low high =>
    rw [ofExpr, ofExpr, compared_renamed inner low, compared_renamed inner high]
  | @inList _ _ _ _ list list' inner each =>
    rw [ofExpr, ofExpr]
    induction list generalizing list' with
    | nil =>
      cases each
      rfl
    | cons e rest ih =>
      cases each with
      | cons first others =>
        rw [List.flatMap_cons, List.flatMap_cons, compared_renamed inner first, ih others]
  | _ => rfl

theorem ofVisits_near {visits visits' : List Visit} (h : VisitsNear T visits visits') :
    visits.flatMap ofVisit = visits'.flatMap ofVisit := by
  induction h with
  | nil => rfl
  | cons first _ ih =>
    rw [List.flatMap_cons, List.flatMap_cons, ih]
    cases first with
    | expr renamed => rw [ofVisit, ofVisit, ofExpr_renamed renamed]
    | relation _ => rfl

def ofLimit (e : Expr) : List (String × Hint) :=
  match e.parameter? with
  | some name => [(name, .limit)]
  | none => []

theorem ofLimits_eq (query : Query) : ofLimits query =
    query.limit.toList.flatMap ofLimit ++ query.offset.toList.flatMap ofLimit :=
  List.flatMap_append

theorem ofLimit_renamed {e e' : Option Expr} (h : OptionRenamed T ρ e e') :
    e.toList.flatMap ofLimit = e'.toList.flatMap ofLimit := by
  cases h with
  | none => rfl
  | some inner =>
    rw [Option.toList_some, Option.toList_some, List.flatMap_singleton, List.flatMap_singleton,
      ofLimit, ofLimit, Expr.parameter?_renamed _ inner]

theorem ofLimits_renamed {query query' : Query} {shown : Bool} {σ : Renaming}
    (h : QueryRenamed T shown ρ σ query query') : ofLimits query = ofLimits query' := by
  cases h with
  | intro _ _ _ _ _ _ most start =>
    rw [ofLimits_eq, ofLimits_eq, ofLimit_renamed most, ofLimit_renamed start]

end Sql.Hint

namespace Sql.Statement

variable {query query' : Query} {shown : Bool} {σ : Renaming}

theorem hints_renamed (h : QueryRenamed T shown ρ σ query query') :
    (select query).hints = (select query').hints := by
  change OrderedMap.empty.putAllNew ([] ++ query.visits.flatMap Hint.ofVisit ++
      Hint.ofLimits query) =
    OrderedMap.empty.putAllNew ([] ++ query'.visits.flatMap Hint.ofVisit ++ Hint.ofLimits query')
  rw [Hint.ofVisits_near (query.visits_renamed h), Hint.ofLimits_renamed h]

/-- The type that a parameter is cast to in an expression. -/
def castIn? : Visit → Option (String × String)
  | .expr (.cast _ e type _) => e.parameter?.map fun name => (name, type)
  | _ => none

theorem casts_eq (statement : Statement) :
    statement.casts = OrderedMap.empty.putAllNew (statement.visits.filterMap castIn?) := rfl

theorem castIn?_near {v w : Visit} (h : v.Near T w) : castIn? v = castIn? w := by
  cases h with
  | relation _ => rfl
  | expr renamed =>
    cases renamed with
    | cast _ inner _ _ => rw [castIn?, castIn?, Expr.parameter?_renamed _ inner]
    | _ => rfl

theorem filterMap_castIn?_near {visits visits' : List Visit} (h : VisitsNear T visits visits') :
    visits.filterMap castIn? = visits'.filterMap castIn? := by
  induction h with
  | nil => rfl
  | cons first _ ih =>
    rw [List.filterMap_cons, List.filterMap_cons, ih, castIn?_near first]

theorem casts_renamed (h : QueryRenamed T shown ρ σ query query') :
    (select query).casts = (select query').casts := by
  rw [casts_eq, casts_eq]
  exact congrArg _ (filterMap_castIn?_near (query.visits_renamed h))

end Sql.Statement

end TypedRows
