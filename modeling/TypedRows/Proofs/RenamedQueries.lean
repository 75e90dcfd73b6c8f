import TypedRows.Proofs.Renaming

/-! A query under other names of its common table expressions has the columns that it had, up to
what a tolerance lets pass of the tables, the views and the texts. -/

namespace TypedRows

open Sql

variable {T : Tolerance}

/-- The declarations differ in whether the column is said to be filled. -/
structure Sql.ColumnDecl.Near (T : Tolerance) (c d : ColumnDecl) : Prop where
  name : c.name = d.name
  type : c.type = d.type
  notNull : T.flag c.notNull d.notNull
  primaryKey : c.primaryKey = d.primaryKey
  default : c.default = d.default

structure Table.Near (T : Tolerance) (s t : Table) : Prop where
  name : s.name = t.name
  columns : List.Forall₂ (ColumnDecl.Near T) s.columns t.columns
  withoutRowid : s.withoutRowid = t.withoutRowid
  annotations : s.annotations = t.annotations
  fieldAnnotations : s.fieldAnnotations = t.fieldAnnotations

structure View.Near (T : Tolerance) (v w : View) : Prop where
  name : v.name = w.name
  query : QueryRenamed T true [] [] v.query w.query
  explicitColumns : v.explicitColumns = w.explicitColumns
  columns : List.Forall₂ (ResultColumn.Near T true) v.columns w.columns
  cyclic : v.cyclic = w.cyclic
  annotations : v.annotations = w.annotations
  fieldAnnotations : v.fieldAnnotations = w.fieldAnnotations

/-- The catalogs have the same names in the same places, with tables and views that differ in what
is let pass. -/
structure Catalog.Near (T : Tolerance) (a b : Catalog) : Prop where
  tables : List.Forall₂ (fun x y => x.1 = y.1 ∧ Table.Near T x.2 y.2) a.tables.entries
    b.tables.entries
  views : List.Forall₂ (fun x y => x.1 = y.1 ∧ View.Near T x.2 y.2) a.views.entries b.views.entries

theorem OrderedMap.get?_related {κ α β : Type} [DecidableEq κ] {R : α → β → Prop}
    {m : OrderedMap κ α} {n : OrderedMap κ β}
    (h : List.Forall₂ (fun x y => x.1 = y.1 ∧ R x.2 y.2) m.entries n.entries) (key : κ) :
    (m.get? key = none ∧ n.get? key = none) ∨
      ∃ x y, m.get? key = some x ∧ n.get? key = some y ∧ R x y := by
  rw [OrderedMap.get?, OrderedMap.get?]
  obtain ⟨none, none'⟩ | ⟨x, y, found, found', _, related⟩ :=
    find?_related h (p := fun x => x.1 = key) (q := fun y => y.1 = key)
      fun x y same => by rw [same.1]
  · exact .inl ⟨congrArg _ none, congrArg _ none'⟩
  · rw [found, found']
    exact .inr ⟨x.2, y.2, rfl, rfl, related⟩

theorem Table.Near.resultColumns {s t : Table} (h : s.Near T t) :
    List.Forall₂ (ResultColumn.Near T true) s.resultColumns t.resultColumns := by
  rw [Table.resultColumns, Table.resultColumns, List.forall₂_map_left_iff,
    List.forall₂_map_right_iff]
  refine h.columns.imp fun c d column => ?_
  rw [h.name, column.name, column.type]
  exact ⟨fun _ => rfl, rfl, rfl, rfl, rfl, column.notNull, column.notNull, rfl,
    fun _ => ResultColumn.rel_refl _⟩

theorem View.Near.resultColumns {v w : View} (h : v.Near T w) :
    List.Forall₂ (ResultColumn.Near T true) v.resultColumns w.resultColumns := by
  rw [View.resultColumns, View.resultColumns, List.forall₂_map_left_iff,
    List.forall₂_map_right_iff]
  refine h.columns.imp fun c d column => ?_
  exact { column with
    origin := by rw [h.name, column.name rfl]
    declaredNotNull := column.notNull
    joinedNullable := rfl }

namespace Catalog.Near

variable {a b : Catalog}

theorem table? (h : a.Near T b) (name : String) :
    (a.table? name = none ∧ b.table? name = none) ∨
      ∃ s t, a.table? name = some s ∧ b.table? name = some t ∧ s.Near T t :=
  OrderedMap.get?_related h.tables _

theorem view? (h : a.Near T b) (name : String) :
    (a.view? name = none ∧ b.view? name = none) ∨
      ∃ v w, a.view? name = some v ∧ b.view? name = some w ∧ v.Near T w :=
  OrderedMap.get?_related h.views _

theorem rows (h : a.Near T b) (name : String) :
    (a.table? name).map Table.rows = (b.table? name).map Table.rows := by
  obtain ⟨none, none'⟩ | ⟨s, t, found, found', table⟩ := h.table? name
  · rw [none, none']
  · rw [found, found']
    exact congrArg some (Prod.ext table.name table.withoutRowid)

theorem isCyclic (h : a.Near T b) (name : String) : a.isCyclic name = b.isCyclic name := by
  rw [Catalog.isCyclic, Catalog.isCyclic]
  obtain ⟨none, none'⟩ | ⟨v, w, found, found', view⟩ := h.view? name
  · rw [none, none']
  · rw [found, found']
    exact view.cyclic

theorem columns? (h : a.Near T b) (name : String) :
    (a.columns? name = none ∧ b.columns? name = none) ∨
      ∃ xs ys, a.columns? name = some xs ∧ b.columns? name = some ys ∧
        List.Forall₂ (ResultColumn.Near T true) xs ys := by
  rw [Catalog.columns?, Catalog.columns?]
  obtain ⟨none, none'⟩ | ⟨s, t, found, found', table⟩ := h.table? name
  · rw [none, none']
    obtain ⟨none, none'⟩ | ⟨v, w, found, found', view⟩ := h.view? name
    · rw [none, none']
      exact .inl ⟨rfl, rfl⟩
    · rw [found, found']
      exact .inr ⟨_, _, rfl, rfl, view.resultColumns⟩
  · rw [found, found']
    exact .inr ⟨_, _, rfl, rfl, table.resultColumns⟩

end Catalog.Near

/-- The same common table expressions under the names of the renaming, with columns that differ in
what is let pass. -/
inductive Ctes.Near (T : Tolerance) : Renaming → Ctes → Ctes → Prop where
  | nil : Near T [] [] []
  | cons {ρ : Renaming} {k l : Ctes} {name name' : String} {columns columns' : List ResultColumn}
      (related : List.Forall₂ (ResultColumn.Near T true) columns columns')
      (outer : Near T ρ k l) :
      Near T ((name, name') :: ρ) ((name, columns) :: k) ((name', columns') :: l)

/-- Names that stand for the same find the same common table expression, or none. -/
theorem Ctes.Near.find? {ρ : Renaming} {k l : Ctes} (h : Ctes.Near T ρ k l) {name name' : String}
    (read : ρ.Reads T name name') :
    (k.find? (fun cte => Text.sameName cte.1 name) = none ∧
        l.find? (fun cte => Text.sameName cte.1 name') = none ∧ name = name') ∨
      ∃ c d, k.find? (fun cte => Text.sameName cte.1 name) = some c ∧
        l.find? (fun cte => Text.sameName cte.1 name') = some d ∧
        List.Forall₂ (ResultColumn.Near T true) c.2 d.2 := by
  induction h with
  | nil =>
    cases read with
    | free => exact .inl ⟨rfl, rfl, rfl⟩
  | @cons ρ k l _ _ columns columns' related _ ih =>
    cases read with
    | here own own' close =>
      exact .inr ⟨_, _, List.find?_cons_of_pos own, List.find?_cons_of_pos own', related⟩
    | there other other' deeper =>
      rw [List.find?_cons, List.find?_cons]
      dsimp only
      rw [other, other']
      exact ih deeper

namespace Source

variable {catalog : Catalog} {ctes : Ctes} {name : String}

theorem named_of_cte {cte : String × List ResultColumn}
    (found : ctes.find? (fun cte => Text.sameName cte.1 name) = some cte)
    (aliased : Option Alias) : named catalog ctes name aliased =
      .ok (unjoined (some (referenceName name aliased)) none cte.2 true false) := by
  unfold named
  rw [found]
  rfl

theorem named_of_object (free : ctes.find? (fun cte => Text.sameName cte.1 name) = none)
    (aliased : Option Alias) : named catalog ctes name aliased =
      if catalog.isCyclic name then .error (.cyclicView name)
      else
        match catalog.columns? name with
        | some columns =>
          .ok (unjoined (some (referenceName name aliased)) (some name) columns false false)
        | none => .error (.noObject name) := by
  unfold named
  rw [free]
  rfl

/-- Names that stand for the same are read with columns that differ in what is let pass. -/
theorem named_near {a b : Catalog} (catalogs : a.Near T b) {ρ : Renaming} {k l : Ctes}
    (ctes : Ctes.Near T ρ k l) {name name' : String} (read : ρ.Reads T name name')
    {aliased aliased' : Option Alias}
    (known : referenceName name aliased = referenceName name' aliased') :
    Alongside T.error (Source.Near T a b) (named a k name aliased) (named b l name' aliased') := by
  obtain ⟨free, free', rfl⟩ | ⟨c, d, found, found', related⟩ := ctes.find? read
  · rw [named_of_object free, named_of_object free', catalogs.isCyclic name, known]
    split
    · exact .error (T.error_refl _)
    · obtain ⟨none, none'⟩ | ⟨xs, ys, some, some', related⟩ := catalogs.columns? name
      · rw [none, none']
        exact .error (T.error_refl _)
      · rw [some, some']
        exact .ok ⟨⟨rfl, rfl, rfl, catalogs.rows name, related⟩, rfl, rfl⟩
  · rw [named_of_cte found, named_of_cte found', known]
    exact .ok (unread_near _ related _ _)

end Source

theorem equated_renamed {ρ : Renaming} {constraint constraint' : Constraint}
    (h : ConstraintRenamed T ρ constraint constraint') (sources : List Source)
    (columns : List ResultColumn) :
    Source.equated sources columns constraint = Source.equated sources columns constraint' := by
  cases h with
  | none | natural | condition _ | columns _ => rfl

theorem isStarArgument_renamed {ρ : Renaming} {items items' : List Item}
    (h : ItemsRenamed T ρ items items') :
    items.any isStarArgument = items'.any isStarArgument := by
  induction items generalizing items' with
  | nil =>
    cases h
    rfl
  | cons item rest ih =>
    cases h with
    | expr label first others => rw [List.any_cons, List.any_cons, ih others]; rfl
    | star label path others => rw [List.any_cons, List.any_cons, ih others]

theorem Sql.Expr.columnRef?_renamed {ρ : Renaming} {e e' : Expr} (h : ExprRenamed T ρ e e') :
    e.columnRef? = e'.columnRef? := by
  cases h <;> rfl

/-- Definitions add the same names to both renamings. -/
theorem ctesRenamed_eq {list list' : List Cte} {ρ σ ρ' σ' : Renaming}
    (h : CtesRenamed T ρ σ list list' ρ' σ') (same : ρ = σ) : ρ' = σ' := by
  induction list generalizing list' ρ σ with
  | nil =>
    cases h with
    | nil => exact same
  | cons cte rest ih =>
    cases h with
    | cons _ _ _ _ _ others => exact ih others (congrArg _ same)

structure Scope.Near (T : Tolerance) (ρ : Renaming) (a b : Scope) : Prop where
  catalog : a.catalog.Near T b.catalog
  ctes : Ctes.Near T ρ a.ctes b.ctes
  sources : Scope.Related (ResultColumn.Near T true) a b

variable {ρ : Renaming} {a b : Scope}

theorem star_columnsIn_near (shown : Bool) (label : Option Ident) (path : Path)
    (scope : a.Near T ρ b) :
    Alongside T.error (List.Forall₂ (ResultColumn.Near T shown))
      ((Item.star label path).columnsIn a) ((Item.star label path).columnsIn b) := by
  have seen : ∀ xs ys, List.Forall₂ (ResultColumn.Near T true) xs ys →
      List.Forall₂ (ResultColumn.Near T shown) xs ys :=
    fun _ _ columns => columns.imp fun _ _ column => column.weaken
  have byName := ResultColumn.byName_near T
  cases path with
  | nil =>
    exact (Alongside.of_together T.error_refl (scope.sources.star byName)).imp (fun _ _ => id) seen
  | cons first rest =>
    exact (Alongside.of_together T.error_refl (scope.sources.starOf _)).imp (fun _ _ => id) seen

/-- An item is a column of a source under its label, or is computed under its label or its text. -/
theorem expr_columnsIn_near {shown : Bool} (label : Option Ident) {e e' : Expr}
    (renamed : ExprRenamed T ρ e e') (types : ExprType.Near T (e.typeIn a) (e'.typeIn b))
    (scope : a.Near T ρ b)
    (titles : shown = true → Item.SameTitle T (.expr label e) (.expr label e')) :
    Alongside T.error (List.Forall₂ (ResultColumn.Near T shown)) ((Item.expr label e).columnsIn a)
      ((Item.expr label e').columnsIn b) := by
  unfold Item.columnsIn
  rw [← Expr.columnRef?_renamed renamed]
  cases e.columnRef? with
  | some ref =>
    have found := scope.sources.column (ResultColumn.byName_near T) ref
    refine (Alongside.of_together T.error_refl found).bind fun x y column => ?_
    cases label with
    | some name => exact .ok (.cons (column.weaken.rename name.text) .nil)
    | none => exact .ok (.cons column.weaken .nil)
  | none =>
    refine .ok (.cons (ResultColumn.computed_near ?_ types fun seen => (titles seen).text) .nil)
    cases label with
    | some name => exact fun _ => rfl
    | none => exact fun seen => (titles seen).title

mutual

theorem Sql.Expr.typeIn_renamed (e : Expr) {e' : Expr} {ρ : Renaming} {a b : Scope}
    (h : ExprRenamed T ρ e e') (scope : a.Near T ρ b) :
    ExprType.Near T (e.typeIn a) (e'.typeIn b) := by
  cases e with
  | column path =>
    cases h with
    | column =>
      rw [Expr.typeIn, Expr.typeIn]
      cases ColumnRef.ofPath? path with
      | none => exact .refl _
      | some ref => exact Scope.columnType_near scope.sources ref
  | nested x =>
    cases h with
    | nested inner =>
      rw [Expr.typeIn, Expr.typeIn]
      exact x.typeIn_renamed inner scope
  | unary op x =>
    cases h with
    | unary _ inner =>
      rw [Expr.typeIn, Expr.typeIn]
      exact ExprType.ofUnary_near op (x.typeIn_renamed inner scope)
  | factorial x =>
    cases h with
    | factorial inner =>
      rw [Expr.typeIn, Expr.typeIn]
      exact x.typeIn_renamed inner scope
  | binary op l r =>
    cases h with
    | binary _ left right =>
      rw [Expr.typeIn, Expr.typeIn]
      exact ExprType.ofBinary_near op (l.typeIn_renamed left scope) (r.typeIn_renamed right scope)
  | like op negated any x p escape =>
    cases h with
    | like _ _ _ inner pattern _ =>
      rw [Expr.typeIn, Expr.typeIn]
      exact .named _ (T.flag_and (x.typeIn_renamed inner scope).notNull
        (p.typeIn_renamed pattern scope).notNull)
  | between negated x l u =>
    cases h with
    | between _ inner low high =>
      rw [Expr.typeIn, Expr.typeIn]
      exact .named _ (T.flag_and (T.flag_and (x.typeIn_renamed inner scope).notNull
        (l.typeIn_renamed low scope).notNull) (u.typeIn_renamed high scope).notNull)
  | inList negated x list =>
    cases h with
    | inList _ inner each =>
      rw [Expr.typeIn, Expr.typeIn]
      exact .named _ (T.flag_and (x.typeIn_renamed inner scope).notNull
        (ExprType.allNotNull_near (typesOfExprs_renamed list each scope)))
  | inQuery negated x q =>
    cases h with
    | inQuery _ inner _ =>
      rw [Expr.typeIn, Expr.typeIn]
      exact .named _ (x.typeIn_renamed inner scope).notNull
  | subquery q =>
    cases h with
    | subquery query =>
      unfold Expr.typeIn
      -- only the type of the first column counts, so nobody sees the columns by name
      obtain ⟨_, _, error, error', _⟩ | ⟨xs, ys, ok, ok', columns⟩ :=
        (q.columnsIn_renamed query scope.catalog scope.ctes fun _ => rfl).cases
      · rw [error, error']
        exact .refl _
      · rw [ok, ok']
        cases columns with
        | nil => exact .refl _
        | cons first _ => exact ⟨first.sqlType, T.flag_refl _⟩
  | call c =>
    cases h with
    | call inner =>
      rw [Expr.typeIn, Expr.typeIn]
      exact c.typeIn_renamed inner scope
  | choose operand branches otherwise =>
    cases h with
    | choose first each last =>
      have types := typesOfBranches_renamed branches each scope
      cases otherwise with
      | none =>
        cases last with
        | none =>
          rw [Expr.typeIn, Expr.typeIn]
          exact ExprType.ofChoice_near types .none
      | some x =>
        cases last with
        | some inner =>
          rw [Expr.typeIn, Expr.typeIn]
          exact ExprType.ofChoice_near types (.some (x.typeIn_renamed inner scope))
  | cast form x type format =>
    cases h with
    | cast _ inner _ _ =>
      rw [Expr.typeIn, Expr.typeIn]
      exact .named _ (x.typeIn_renamed inner scope).notNull
  | collate x collation =>
    cases h with
    | collate inner _ =>
      rw [Expr.typeIn, Expr.typeIn]
      exact x.typeIn_renamed inner scope
  | trim side what x =>
    cases h with
    | trim _ _ _ inner =>
      rw [Expr.typeIn, Expr.typeIn]
      exact .named _ (x.typeIn_renamed inner scope).notNull
  | substring x start count commas =>
    cases h with
    | substring inner _ _ _ =>
      rw [Expr.typeIn, Expr.typeIn]
      exact .named _ (x.typeIn_renamed inner scope).notNull
  -- the type of these is the same for all operands
  | literal _ | is _ _ _ | isDistinct _ _ _ | existsRow _ _ | arrayOf _ _ | tuple _ | phrase _ =>
    cases h
    rw [Expr.typeIn, Expr.typeIn]
    exact .refl _
termination_by structural e

theorem typesOfExprs_renamed (list : List Expr) {list' : List Expr} {ρ : Renaming} {a b : Scope}
    (h : ExprsRenamed T ρ list list') (scope : a.Near T ρ b) :
    List.Forall₂ (ExprType.Near T) (typesOfExprs list a) (typesOfExprs list' b) := by
  cases list with
  | nil =>
    cases h with
    | nil => exact .nil
  | cons e rest =>
    cases h with
    | cons first others =>
      rw [typesOfExprs, typesOfExprs]
      exact .cons (e.typeIn_renamed first scope) (typesOfExprs_renamed rest others scope)
termination_by structural list

theorem typesOfBranches_renamed (branches : List Branch) {branches' : List Branch}
    {ρ : Renaming} {a b : Scope} (h : BranchesRenamed T ρ branches branches')
    (scope : a.Near T ρ b) :
    List.Forall₂ (ExprType.Near T) (typesOfBranches branches a) (typesOfBranches branches' b) := by
  cases branches with
  | nil =>
    cases h with
    | nil => exact .nil
  | cons branch rest =>
    obtain ⟨condition, result⟩ := branch
    cases h with
    | cons _ second others =>
      rw [typesOfBranches, typesOfBranches, Branch.typeIn, Branch.typeIn]
      exact .cons (result.typeIn_renamed second scope) (typesOfBranches_renamed rest others scope)
termination_by structural branches

theorem Sql.Call.typeIn_renamed (call : Call) {call' : Call} {ρ : Renaming} {a b : Scope}
    (h : CallRenamed T ρ call call') (scope : a.Near T ρ b) :
    ExprType.Near T (call.typeIn a) (call'.typeIn b) := by
  obtain ⟨name, parentheses, treatment, arguments, clauses, group, filter, window⟩ := call
  cases h with
  | intro _ _ _ _ _ _ _ _ _ each _ =>
    rw [Call.typeIn, Call.typeIn, isStarArgument_renamed each]
    exact ExprType.ofCall_near _ (typesOfArguments_renamed arguments each scope) _
termination_by structural call

theorem typesOfArguments_renamed (items : List Item) {items' : List Item} {ρ : Renaming}
    {a b : Scope} (h : ItemsRenamed T ρ items items') (scope : a.Near T ρ b) :
    List.Forall₂ (ExprType.Near T) (typesOfArguments items a) (typesOfArguments items' b) := by
  cases items with
  | nil =>
    cases h with
    | nil => exact .nil
  | cons item rest =>
    cases item with
    | expr label e =>
      cases h with
      | expr _ first others =>
        rw [typesOfArguments, typesOfArguments]
        exact .cons (e.typeIn_renamed first scope) (typesOfArguments_renamed rest others scope)
    | star label path =>
      cases h with
      | star _ _ others =>
        rw [typesOfArguments, typesOfArguments]
        exact typesOfArguments_renamed rest others scope
termination_by structural items

/-- A query under other names of its common table expressions has the same columns. Where all its
members count the others are read by the same renaming as the first. -/
theorem Sql.Query.columnsIn_renamed (query : Query) {query' : Query} {shown allMembers : Bool}
    {ρ σ : Renaming} {a b : Catalog} {k l : Ctes} (h : QueryRenamed T shown ρ σ query query')
    (catalogs : a.Near T b) (ctes : Ctes.Near T ρ k l) (same : allMembers = true → ρ = σ) :
    Alongside T.error (List.Forall₂ (ResultColumn.Near T shown))
      (query.columnsIn a k allMembers) (query'.columnsIn b l allMembers) := by
  obtain ⟨recursive, list, body, order, limit, offset, rest⟩ := query
  cases h with
  | intro _ _ _ bound inner _ _ _ =>
    rw [Query.columnsIn, Query.columnsIn]
    exact (ctesOf_renamed list bound catalogs ctes).bind fun k' l' more =>
      body.columnsIn_renamed inner catalogs more fun all => ctesRenamed_eq bound (same all)
termination_by structural query

theorem ctesOf_renamed (list : List Cte) {list' : List Cte} {ρ σ ρ' σ' : Renaming}
    {a b : Catalog} {k l : Ctes} (h : CtesRenamed T ρ σ list list' ρ' σ') (catalogs : a.Near T b)
    (ctes : Ctes.Near T ρ k l) :
    Alongside T.error (Ctes.Near T ρ') (ctesOf list a k) (ctesOf list' b l) := by
  cases list with
  | nil =>
    cases h with
    | nil =>
      rw [ctesOf, ctesOf]
      exact .ok ctes
  | cons cte rest =>
    obtain ⟨name, columns, query, source⟩ := cte
    cases h with
    | cons _ _ _ close own others =>
      rw [ctesOf, ctesOf]
      have returned := query.columnsIn_renamed own catalogs ctes
        fun all : false = true => by cases all
      refine returned.bind fun xs ys columns => ?_
      refine (ResultColumn.renameAll_near close _ columns).bind fun xs ys named => ?_
      exact ctesOf_renamed rest others catalogs (.cons named ctes)
termination_by structural list

theorem Sql.Body.columnsIn_renamed (body : Body) {body' : Body} {shown allMembers : Bool}
    {ρ σ : Renaming} {a b : Catalog} {k l : Ctes} (h : BodyRenamed T shown ρ σ body body')
    (catalogs : a.Near T b) (ctes : Ctes.Near T ρ k l) (same : allMembers = true → ρ = σ) :
    Alongside T.error (List.Forall₂ (ResultColumn.Near T shown))
      (body.columnsIn a k allMembers) (body'.columnsIn b l allMembers) := by
  cases body with
  | select s =>
    cases h with
    | select inner =>
      rw [Body.columnsIn, Body.columnsIn]
      exact s.columnsIn_renamed inner catalogs ctes
  | query q =>
    cases h with
    | query inner =>
      rw [Body.columnsIn, Body.columnsIn]
      exact q.columnsIn_renamed inner catalogs ctes same
  | compound op quantifier left right =>
    cases h with
    | compound _ _ first other =>
      rw [Body.columnsIn, Body.columnsIn]
      refine (left.columnsIn_renamed first catalogs ctes same).bind fun xs ys columns => ?_
      cases allMembers with
      | false => exact .ok columns
      | true =>
        obtain rfl := same rfl
        refine (right.columnsIn_renamed other catalogs ctes same).bind fun zs ws others => ?_
        exact ResultColumn.mergeAll_near columns others
  | values explicitRow rows =>
    cases h with
    | values _ each texts =>
      cases rows with
      | nil =>
        cases each with
        | nil => exact .error (T.error_refl _)
      | cons row rest =>
        cases each with
        | cons first others =>
          unfold Body.columnsIn
          refine .ok (valueColumns_renamed row 1 first ⟨catalogs, ctes, .nil⟩ fun seen => ?_)
          exact (List.forall₂_cons.mp (texts seen)).1
  | table _ | insert _ | update _ | store _ _ =>
    cases h
    exact .error (T.error_refl _)
termination_by structural body

theorem valueColumns_renamed (row : List Expr) (number : Nat) {row' : List Expr} {shown : Bool}
    {ρ : Renaming} {a b : Scope} (h : ExprsRenamed T ρ row row') (scope : a.Near T ρ b)
    (texts : shown = true → List.Forall₂ (fun e e' => T.text e.print e'.print) row row') :
    List.Forall₂ (ResultColumn.Near T shown) (valueColumns row a number)
      (valueColumns row' b number) := by
  cases row with
  | nil =>
    cases h with
    | nil => exact .nil
  | cons e rest =>
    cases h with
    | cons first others =>
      rw [valueColumns, valueColumns]
      refine .cons ?_ ?_
      · exact ResultColumn.computed_near (fun _ => rfl) (e.typeIn_renamed first scope)
          fun seen => (List.forall₂_cons.mp (texts seen)).1
      · exact valueColumns_renamed rest (number + 1) others scope
          fun seen => (List.forall₂_cons.mp (texts seen)).2
termination_by structural row

theorem Sql.Select.columnsIn_renamed (select : Select) {select' : Select} {shown : Bool}
    {ρ : Renaming} {a b : Catalog} {k l : Ctes} (h : SelectRenamed T shown ρ select select')
    (catalogs : a.Near T b) (ctes : Ctes.Near T ρ k l) :
    Alongside T.error (List.Forall₂ (ResultColumn.Near T shown)) (select.columnsIn a k)
      (select'.columnsIn b l) := by
  obtain ⟨lead, items, into, entries, lateral, condition, groupByAll, groupBy, spread, having,
    windows⟩ := select
  cases h with
  | intro _ _ _ _ _ _ _ _ _ _ each titles read _ _ _ =>
    rw [Select.columnsIn, Select.columnsIn]
    refine (sourcesOf_renamed entries read catalogs ctes .nil).bind fun s t sources => ?_
    refine columnsOfItems_renamed items each titles ⟨catalogs, ctes, ?_⟩
    rw [Scope.Related, Scope.ofSources, Scope.ofSources, List.forall₂_map_left_iff,
      List.forall₂_map_right_iff]
    exact sources.imp fun _ _ source => source.finish.toRelated
termination_by structural select

theorem columnsOfItems_renamed (items : List Item) {items' : List Item} {shown : Bool}
    {ρ : Renaming} {a b : Scope} (h : ItemsRenamed T ρ items items')
    (titles : SameTitles T shown items items') (scope : a.Near T ρ b) :
    Alongside T.error (List.Forall₂ (ResultColumn.Near T shown)) (columnsOfItems items a)
      (columnsOfItems items' b) := by
  cases items with
  | nil =>
    cases h with
    | nil =>
      rw [columnsOfItems, columnsOfItems]
      exact .ok .nil
  | cons item rest =>
    cases item with
    | expr label e =>
      cases h with
      | expr _ first others =>
        rw [columnsOfItems, columnsOfItems]
        have own := expr_columnsIn_near label first (e.typeIn_renamed first scope) scope
          fun seen => (List.forall₂_cons.mp (titles seen)).1
        refine own.bind fun xs ys columns => ?_
        refine (columnsOfItems_renamed rest others
          (fun seen => (List.forall₂_cons.mp (titles seen)).2) scope).bind fun zs ws more => ?_
        exact .ok (List.rel_append columns more)
    | star label path =>
      cases h with
      | star _ _ others =>
        rw [columnsOfItems, columnsOfItems]
        refine (star_columnsIn_near shown label path scope).bind fun xs ys columns => ?_
        refine (columnsOfItems_renamed rest others
          (fun seen => (List.forall₂_cons.mp (titles seen)).2) scope).bind fun zs ws more => ?_
        exact .ok (List.rel_append columns more)
termination_by structural items

theorem sourcesOf_renamed (entries : List Entry) {entries' : List Entry} {ρ : Renaming}
    {a b : Catalog} {k l : Ctes} {before before' : List Source}
    (h : EntriesRenamed T ρ entries entries') (catalogs : a.Near T b) (ctes : Ctes.Near T ρ k l)
    (joined : List.Forall₂ (Source.Near T a b) before before') :
    Alongside T.error (List.Forall₂ (Source.Near T a b)) (sourcesOf entries a k before)
      (sourcesOf entries' b l before') := by
  cases entries with
  | nil =>
    cases h with
    | nil =>
      rw [sourcesOf, sourcesOf]
      exact .ok joined
  | cons entry rest =>
    obtain ⟨global, link, factor, nearest, constraint⟩ := entry
    cases h with
    | cons _ _ _ _ read constraints others =>
      rw [sourcesOf, sourcesOf]
      refine (factor.joinTo_renamed read constraints catalogs ctes joined).bind ?_
      exact fun s t sources => sourcesOf_renamed rest others catalogs ctes sources
termination_by structural entries

theorem Sql.Factor.joinTo_renamed (factor : Factor) {factor' : Factor} {ρ : Renaming}
    {side : Side} {constraint constraint' : Constraint} {a b : Catalog} {k l : Ctes}
    {before before' : List Source} (h : FactorRenamed T ρ factor factor')
    (constraints : ConstraintRenamed T ρ constraint constraint') (catalogs : a.Near T b)
    (ctes : Ctes.Near T ρ k l) (joined : List.Forall₂ (Source.Near T a b) before before') :
    Alongside T.error (List.Forall₂ (Source.Near T a b))
      (factor.joinTo side constraint a k before) (factor'.joinTo side constraint' b l before') := by
  have equated := equated_renamed constraints
  cases factor with
  | table name ordinality aliased hints =>
    cases h with
    | table _ _ _ _ read known =>
      rw [Factor.joinTo, Factor.joinTo]
      exact (Source.named_near catalogs ctes read known).bind fun s t source =>
        .ok (Source.join_near joined side source equated)
  | derived lateral q aliased =>
    cases h with
    | derived _ _ query =>
      rw [Factor.joinTo, Factor.joinTo]
      exact (q.columnsIn_renamed query catalogs ctes fun _ => rfl).bind fun xs ys columns =>
        .ok (Source.join_near joined side (Source.derived_near aliased columns) equated)
  | nested first joins aliased =>
    cases h with
    | nested _ outer others =>
      rw [Factor.joinTo, Factor.joinTo]
      exact (first.joinTo_renamed outer constraints catalogs ctes joined).bind fun s t sources =>
        sourcesOf_renamed joins others catalogs ctes sources
  | call _ _ _ _ _ _ | tableOf _ _ | pivot _ _ | phrase _ =>
    cases h
    unfold Factor.joinTo
    exact .ok (Source.join_near joined side (Source.ofCall_near _) equated)
termination_by structural factor

end

end TypedRows
