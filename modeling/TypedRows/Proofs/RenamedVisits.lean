import TypedRows.Proofs.QueryReads
import TypedRows.Proofs.Renaming
import TypedRows.Sql.Parameter

/-! What is met in a query under other names of its common table expressions: the same expressions
under the renaming, and names that differ as such names may. -/

namespace TypedRows

open Sql

variable {T : Tolerance}

theorem Renaming.Reads.close {ρ : Renaming} {name name' : String} (read : ρ.Reads T name name') :
    T.cte name name' := by
  induction read with
  | free name => exact T.cte_refl name
  | here _ _ close => exact close
  | there _ _ _ ih => exact ih

inductive Sql.Visit.Near (T : Tolerance) : Visit → Visit → Prop where
  | expr {ρ : Renaming} {e e' : Expr} (renamed : ExprRenamed T ρ e e') :
      Near T (.expr e) (.expr e')
  | relation {name name' : String} (close : T.cte name name') :
      Near T (.relation name) (.relation name')

abbrev VisitsNear (T : Tolerance) : List Visit → List Visit → Prop :=
  List.Forall₂ (Visit.Near T)

theorem visitsNear_append {xs ys xs' ys' : List Visit} (first : VisitsNear T xs xs')
    (second : VisitsNear T ys ys') : VisitsNear T (xs ++ ys) (xs' ++ ys') :=
  List.rel_append first second

mutual

theorem Sql.Expr.visits_renamed (e : Expr) {e' : Expr} {ρ : Renaming} (h : ExprRenamed T ρ e e') :
    VisitsNear T e.visits e'.visits := by
  have own : Visit.Near T (.expr e) (.expr e') := .expr h
  cases e with
  | column path =>
    cases h with
    | column => exact .cons own .nil
  | literal value =>
    cases h with
    | literal => exact .cons own .nil
  | nested x =>
    cases h with
    | nested inner => exact .cons own (x.visits_renamed inner)
  | unary op x =>
    cases h with
    | unary _ inner => exact .cons own (x.visits_renamed inner)
  | factorial x =>
    cases h with
    | factorial inner => exact .cons own (x.visits_renamed inner)
  | binary op l r =>
    cases h with
    | binary _ left right =>
      exact .cons own (visitsNear_append (l.visits_renamed left) (r.visits_renamed right))
  | is test negated x =>
    cases h with
    | is _ _ inner => exact .cons own (x.visits_renamed inner)
  | isDistinct negated l r =>
    cases h with
    | isDistinct _ left right =>
      exact .cons own (visitsNear_append (l.visits_renamed left) (r.visits_renamed right))
  | like op negated any x p escape =>
    cases h with
    | like _ _ _ inner pattern _ =>
      exact .cons own (visitsNear_append (x.visits_renamed inner) (p.visits_renamed pattern))
  | between negated x l u =>
    cases h with
    | between _ inner low high =>
      exact .cons own (visitsNear_append
        (visitsNear_append (x.visits_renamed inner) (l.visits_renamed low))
        (u.visits_renamed high))
  | inList negated x list =>
    cases h with
    | inList _ inner each =>
      exact .cons own (visitsNear_append (x.visits_renamed inner)
        (visitsOfExprs_renamed list each))
  | inQuery negated x q =>
    cases h with
    | inQuery _ inner query =>
      exact .cons own (visitsNear_append (x.visits_renamed inner) (q.visits_renamed query))
  | existsRow negated q =>
    cases h with
    | existsRow _ query => exact .cons own (q.visits_renamed query)
  | subquery q =>
    cases h with
    | subquery query => exact .cons own (q.visits_renamed query)
  | call c =>
    cases h with
    | call inner => exact .cons own (c.visits_renamed inner)
  | arrayOf name q =>
    cases h with
    | arrayOf _ query => exact .cons own (q.visits_renamed query)
  | choose operand branches otherwise =>
    cases h with
    | choose first each last =>
      rw [visits_choose, visits_choose]
      exact .cons own (visitsNear_append
        (visitsNear_append (visitsOfOption_renamed operand first)
          (visitsOfBranches_renamed branches each))
        (visitsOfOption_renamed otherwise last))
  | cast form x type format =>
    cases h with
    | cast _ inner _ _ => exact .cons own (x.visits_renamed inner)
  | collate x collation =>
    cases h with
    | collate inner _ => exact .cons own (x.visits_renamed inner)
  | trim side what x =>
    cases h with
    | trim _ _ _ inner => exact .cons own (x.visits_renamed inner)
  | substring x start count commas =>
    cases h with
    | substring inner first last _ =>
      rw [visits_substring, visits_substring]
      exact .cons own (visitsNear_append
        (visitsNear_append (x.visits_renamed inner) (visitsOfOption_renamed start first))
        (visitsOfOption_renamed count last))
  | tuple list =>
    cases h with
    | tuple each => exact .cons own (visitsOfExprs_renamed list each)
  | phrase pieces =>
    cases h with
    | phrase _ _ => exact .cons own .nil
termination_by structural e

theorem visitsOfOption_renamed (e : Option Expr) {e' : Option Expr} {ρ : Renaming}
    (h : OptionRenamed T ρ e e') :
    VisitsNear T (visitsOfOption e) (visitsOfOption e') := by
  cases e with
  | none =>
    cases h with
    | none => exact .nil
  | some x =>
    cases h with
    | some inner => exact x.visits_renamed inner
termination_by structural e

theorem visitsOfExprs_renamed (list : List Expr) {list' : List Expr} {ρ : Renaming}
    (h : ExprsRenamed T ρ list list') :
    VisitsNear T (visitsOfExprs list) (visitsOfExprs list') := by
  cases list with
  | nil =>
    cases h with
    | nil => exact .nil
  | cons e rest =>
    cases h with
    | cons first others =>
      exact visitsNear_append (e.visits_renamed first) (visitsOfExprs_renamed rest others)
termination_by structural list

theorem visitsOfRows_renamed (rows : List (List Expr)) {rows' : List (List Expr)} {ρ : Renaming}
    (h : RowsRenamed T ρ rows rows') : VisitsNear T (visitsOfRows rows) (visitsOfRows rows') := by
  cases rows with
  | nil =>
    cases h with
    | nil => exact .nil
  | cons row rest =>
    cases h with
    | cons first others =>
      exact visitsNear_append (visitsOfExprs_renamed row first) (visitsOfRows_renamed rest others)
termination_by structural rows

theorem visitsOfBranches_renamed (branches : List Branch) {branches' : List Branch}
    {ρ : Renaming} (h : BranchesRenamed T ρ branches branches') :
    VisitsNear T (visitsOfBranches branches) (visitsOfBranches branches') := by
  cases branches with
  | nil =>
    cases h with
    | nil => exact .nil
  | cons branch rest =>
    obtain ⟨condition, result⟩ := branch
    cases h with
    | cons first second others =>
      exact visitsNear_append
        (visitsNear_append (condition.visits_renamed first) (result.visits_renamed second))
        (visitsOfBranches_renamed rest others)
termination_by structural branches

theorem Sql.Call.visits_renamed (call : Call) {call' : Call} {ρ : Renaming}
    (h : CallRenamed T ρ call call') : VisitsNear T call.visits call'.visits := by
  obtain ⟨name, parentheses, treatment, arguments, clauses, group, filter, window⟩ := call
  cases h with
  | intro _ _ _ _ _ _ _ _ _ each last =>
    rw [visits_call, visits_call]
    exact visitsNear_append (visitsOfItems_renamed arguments each)
      (visitsOfOption_renamed filter last)
termination_by structural call

theorem visitsOfItems_renamed (items : List Item) {items' : List Item} {ρ : Renaming}
    (h : ItemsRenamed T ρ items items') :
    VisitsNear T (visitsOfItems items) (visitsOfItems items') := by
  cases items with
  | nil =>
    cases h with
    | nil => exact .nil
  | cons item rest =>
    cases item with
    | expr label e =>
      cases h with
      | expr _ first others =>
        exact visitsNear_append (e.visits_renamed first) (visitsOfItems_renamed rest others)
    | star label path =>
      cases h with
      | star _ _ others =>
        rw [visitsOfItems, visitsOfItems, Item.visits]
        exact visitsOfItems_renamed rest others
termination_by structural items

/-- The same is met in a query under other names of its common table expressions. -/
theorem Sql.Query.visits_renamed (query : Query) {query' : Query} {shown : Bool}
    {ρ σ : Renaming} (h : QueryRenamed T shown ρ σ query query') :
    VisitsNear T query.visits query'.visits := by
  obtain ⟨recursive, ctes, body, order, limit, offset, rest⟩ := query
  cases h with
  | intro _ _ _ bound inner keys most start =>
    rw [visits_query, visits_query]
    exact visitsNear_append (visitsNear_append (visitsNear_append (visitsNear_append
      (visitsOfCtes_renamed ctes bound) (body.visits_renamed inner))
      (visitsOfKeys_renamed order keys)) (visitsOfOption_renamed limit most))
      (visitsOfOption_renamed offset start)
termination_by structural query

theorem visitsOfCtes_renamed (list : List Cte) {list' : List Cte} {ρ σ ρ' σ' : Renaming}
    (h : CtesRenamed T ρ σ list list' ρ' σ') :
    VisitsNear T (visitsOfCtes list) (visitsOfCtes list') := by
  cases list with
  | nil =>
    cases h with
    | nil => exact .nil
  | cons cte rest =>
    obtain ⟨name, columns, query, source⟩ := cte
    cases h with
    | cons _ _ _ _ own others =>
      exact visitsNear_append (query.visits_renamed own) (visitsOfCtes_renamed rest others)
termination_by structural list

theorem visitsOfKeys_renamed (keys : List SortKey) {keys' : List SortKey} {ρ : Renaming}
    (h : KeysRenamed T ρ keys keys') : VisitsNear T (visitsOfKeys keys) (visitsOfKeys keys') := by
  cases keys with
  | nil =>
    cases h with
    | nil => exact .nil
  | cons key rest =>
    obtain ⟨e, direction⟩ := key
    cases h with
    | cons _ first others =>
      exact visitsNear_append (e.visits_renamed first) (visitsOfKeys_renamed rest others)
termination_by structural keys

theorem Sql.Body.visits_renamed (body : Body) {body' : Body} {shown : Bool} {ρ σ : Renaming}
    (h : BodyRenamed T shown ρ σ body body') : VisitsNear T body.visits body'.visits := by
  cases body with
  | select s =>
    cases h with
    | select inner => exact s.visits_renamed inner
  | query q =>
    cases h with
    | query inner => exact q.visits_renamed inner
  | compound op quantifier left right =>
    cases h with
    | compound _ _ first other =>
      exact visitsNear_append (left.visits_renamed first) (right.visits_renamed other)
  | values explicitRow rows =>
    cases h with
    | values _ each _ => exact visitsOfRows_renamed rows each
  | table path =>
    cases h with
    | table _ => exact .nil
  | insert change =>
    cases h with
    | insert _ => exact .nil
  | update change =>
    cases h with
    | update _ => exact .nil
  | store lead q =>
    cases h with
    | store _ _ => exact .nil
termination_by structural body

theorem Sql.Select.visits_renamed (select : Select) {select' : Select} {shown : Bool}
    {ρ : Renaming} (h : SelectRenamed T shown ρ select select') :
    VisitsNear T select.visits select'.visits := by
  obtain ⟨lead, items, into, entries, lateral, condition, groupByAll, groupBy, spread, having,
    windows⟩ := select
  cases h with
  | intro _ _ _ _ _ _ _ _ _ _ each _ read kept groups held =>
    rw [visits_select, visits_select]
    refine visitsNear_append (visitsNear_append (visitsNear_append (visitsNear_append
      (visitsOfItems_renamed items each) (visitsOfEntries_renamed entries read))
      (visitsOfOption_renamed condition kept)) ?_) (visitsOfOption_renamed having held)
    cases groupByAll with
    | true => exact .nil
    | false => exact visitsOfExprs_renamed groupBy groups
termination_by structural select

theorem visitsOfEntries_renamed (entries : List Entry) {entries' : List Entry} {ρ : Renaming}
    (h : EntriesRenamed T ρ entries entries') :
    VisitsNear T (visitsOfEntries entries) (visitsOfEntries entries') := by
  cases entries with
  | nil =>
    cases h with
    | nil => exact .nil
  | cons entry rest =>
    obtain ⟨global, link, factor, nearest, constraint⟩ := entry
    cases h with
    | cons _ _ _ _ read joined others =>
      rw [visitsOfEntries, visitsOfEntries, visits_entry, visits_entry]
      exact visitsNear_append (visitsNear_append (factor.visits_renamed read)
        (constraint.visits_renamed joined)) (visitsOfEntries_renamed rest others)
termination_by structural entries

theorem Sql.Constraint.visits_renamed (constraint : Constraint) {constraint' : Constraint}
    {ρ : Renaming} (h : ConstraintRenamed T ρ constraint constraint') :
    VisitsNear T (visitsOfConstraint constraint) (visitsOfConstraint constraint') := by
  cases constraint with
  | none =>
    cases h with
    | none => exact .nil
  | natural =>
    cases h with
    | natural => exact .nil
  | condition e =>
    cases h with
    | condition inner => exact e.visits_renamed inner
  | columns names =>
    cases h with
    | columns _ => exact .nil
termination_by structural constraint

theorem Sql.Factor.visits_renamed (factor : Factor) {factor' : Factor} {ρ : Renaming}
    (h : FactorRenamed T ρ factor factor') : VisitsNear T factor.visits factor'.visits := by
  cases factor with
  | table name ordinality aliased hints =>
    cases h with
    | table _ _ _ _ read _ => exact .cons (.relation read.close) .nil
  | call lateral name arguments ordinality aliased hints =>
    cases h with
    | call _ _ _ _ _ _ each => exact visitsOfItems_renamed arguments each
  | derived lateral q aliased =>
    cases h with
    | derived _ _ query => exact q.visits_renamed query
  | nested first joins aliased =>
    cases h with
    | nested _ outer others =>
      exact visitsNear_append (first.visits_renamed outer) (visitsOfEntries_renamed joins others)
  | tableOf e aliased =>
    cases h with
    | tableOf _ _ _ => exact .nil
  | pivot inner pieces =>
    cases h with
    | pivot _ _ _ _ => exact .nil
  | phrase pieces =>
    cases h with
    | phrase _ _ => exact .nil
termination_by structural factor

end

end TypedRows
