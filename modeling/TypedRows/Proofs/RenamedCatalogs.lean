import TypedRows.Proofs.RenamedQueries
import TypedRows.Proofs.RenamedVisits
import TypedRows.Proofs.SchemaObjects

/-! Schemas that differ in what a tolerance lets pass give catalogs that differ in no more. The
names that the tolerance confuses must be those of common table expressions only: the order in which
views are resolved is told by names alone. -/

namespace TypedRows

open Sql

variable {T : Tolerance}

namespace ViewGraph

/-- Adds a key unless it is there. -/
def addKey (keys : List String) (key : String) : List String :=
  if keys.contains key then keys else keys ++ [key]

theorem map_addName (names : List String) (name : String) :
    (addName names name).map Text.foldLower =
      addKey (names.map Text.foldLower) (Text.foldLower name) := by
  have there : (names.any fun n => Text.sameName n name) =
      (names.map Text.foldLower).contains (Text.foldLower name) := by
    rw [List.contains_eq_any_beq, List.any_map]
    refine List.any_congr rfl fun n => ?_
    rw [Function.comp_apply, Text.sameName, Bool.eq_iff_iff, beq_iff_eq, beq_iff_eq, eq_comm]
  rw [addName, addKey, there]
  split
  · rfl
  · exact List.map_append

theorem map_foldl_addName (names met : List String) :
    (met.foldl addName names).map Text.foldLower =
      (met.map Text.foldLower).foldl addKey (names.map Text.foldLower) := by
  induction met generalizing names with
  | nil => rfl
  | cons name rest ih =>
    rw [List.foldl_cons, ih, map_addName, List.map_cons, List.foldl_cons]

theorem filter_addKey (p : String → Bool) (keys : List String) (key : String) :
    (addKey keys key).filter p = if p key then addKey (keys.filter p) key else keys.filter p := by
  have there : p key = true → (keys.filter p).contains key = keys.contains key := by
    intro kept
    rw [Bool.eq_iff_iff, List.contains_iff_mem, List.contains_iff_mem, List.mem_filter,
      and_iff_left kept]
  rw [addKey, addKey]
  cases kept : p key with
  | true =>
    rw [there kept, if_pos rfl]
    split
    · rfl
    · simp [kept]
  | false =>
    rw [if_neg Bool.false_ne_true]
    split
    · rfl
    · simp [kept]

theorem filter_foldl_addKey (p : String → Bool) (keys met : List String) :
    (met.foldl addKey keys).filter p = (met.filter p).foldl addKey (keys.filter p) := by
  induction met generalizing keys with
  | nil => rfl
  | cons key rest ih =>
    rw [List.foldl_cons, ih, filter_addKey]
    cases kept : p key with
    | true => rw [if_pos rfl, List.filter_cons_of_pos kept, List.foldl_cons]
    | false => rw [if_neg Bool.false_ne_true, List.filter_cons_of_neg (by simp [kept])]

/-- What a query reads among known names is told by those of its visits that are known. -/
theorem filter_references (query : Query) (p : String → Bool) :
    (query.references.map Text.foldLower).filter p =
      (((query.visits.filterMap Visit.relation?).map Text.foldLower).filter p).foldl addKey [] := by
  rw [Query.references, map_foldl_addName, filter_foldl_addKey]
  rfl

end ViewGraph

/-- The tolerance confuses only names that stand for no table or view. -/
def Catalog.Apart (T : Tolerance) (catalog : Catalog) : Prop :=
  ∀ n m, T.cte n m → n = m ∨ catalog.contains n = false ∧ catalog.contains m = false

theorem relations_near {visits visits' : List Visit} (h : VisitsNear T visits visits') :
    List.Forall₂ T.cte (visits.filterMap Visit.relation?) (visits'.filterMap Visit.relation?) := by
  induction h with
  | nil => exact .nil
  | cons first _ ih =>
    cases first with
    | expr _ => exact ih
    | relation close => exact .cons close ih

theorem filter_apart {catalog : Catalog} (apart : catalog.Apart T) {names names' : List String}
    (h : List.Forall₂ T.cte names names') :
    (names.filter fun name => (catalog.view? name).isSome) =
      names'.filter fun name => (catalog.view? name).isSome := by
  have unknown : ∀ n, catalog.contains n = false → (catalog.view? n).isSome = false :=
    fun n none => (Bool.or_eq_false_iff.mp none).2
  induction h with
  | nil => rfl
  | @cons n m _ _ close _ ih =>
    rw [List.filter_cons, List.filter_cons, ih]
    obtain rfl | ⟨none, none'⟩ := apart n m close
    · rfl
    · rw [unknown n none, unknown m none']
      rfl

theorem OrderedMap.putEntry_related {κ α β : Type} [DecidableEq κ] {R : α → β → Prop}
    {xs : List (κ × α)} {ys : List (κ × β)}
    (h : List.Forall₂ (fun x y => x.1 = y.1 ∧ R x.2 y.2) xs ys) (key : κ) {x : α} {y : β}
    (related : R x y) : List.Forall₂ (fun x y => x.1 = y.1 ∧ R x.2 y.2) (putEntry key x xs)
      (putEntry key y ys) := by
  induction h with
  | nil => exact .cons ⟨rfl, related⟩ .nil
  | @cons first first' _ _ same others ih =>
    obtain ⟨k, _⟩ := first
    obtain ⟨k', _⟩ := first'
    obtain ⟨rfl, old⟩ := same
    rw [putEntry, putEntry]
    split
    · exact .cons ⟨rfl, related⟩ others
    · exact .cons ⟨rfl, old⟩ ih

namespace Catalog.Near

variable {a b : Catalog}

theorem contains_views (h : a.Near T b) : a.views.contains = b.views.contains := by
  funext key
  rw [OrderedMap.contains, OrderedMap.contains]
  obtain ⟨none, none'⟩ | ⟨_, _, found, found', _⟩ := OrderedMap.get?_related h.views key
  · rw [none, none']
  · rw [found, found']
    rfl

/-- The views are read by each other as before. -/
theorem viewGraph (h : a.Near T b) (apart : a.Apart T) :
    ViewGraph.ofViews a.views = ViewGraph.ofViews b.views := by
  apply OrderedMap.ext
  rw [ViewGraph.ofViews, ViewGraph.ofViews, ← h.contains_views]
  refine map_eq_of_related h.views fun x y related => Prod.ext related.1 ?_
  dsimp only
  rw [ViewGraph.filter_references, ViewGraph.filter_references]
  have met := filter_apart apart (relations_near (Query.visits_renamed _ related.2.query))
  rw [List.filter_map, List.filter_map]
  exact congrArg (fun names => (names.map Text.foldLower).foldl ViewGraph.addKey []) met

theorem select (h : a.Near T b) {shown : Bool} {query query' : Query}
    (renamed : QueryRenamed T shown [] [] query query') :
    Alongside T.error (List.Forall₂ (ResultColumn.Near T shown)) (a.select query)
      (b.select query') :=
  query.columnsIn_renamed renamed h .nil fun _ => rfl

theorem viewColumns (h : a.Near T b) {v w : View} (views : v.Near T w) :
    Alongside T.error (List.Forall₂ (ResultColumn.Near T true)) (a.viewColumns v)
      (b.viewColumns w) := by
  rw [Catalog.viewColumns, Catalog.viewColumns, views.name, views.explicitColumns]
  have selected := (h.select views.query).mapError (F := T.error) (f := .view w.name)
    (g := .view w.name) fun _ _ related => T.error_view related w.name
  refine selected.bind fun xs ys columns => ?_
  rw [columns.length_eq]
  split
  · exact .ok columns
  · split
    · exact .error (T.error_refl _)
    · exact .ok (ResultColumn.rename_near _ columns)

theorem putView (h : a.Near T b) (key : String) {v w : View} (views : v.Near T w) :
    (a.putView key v).Near T (b.putView key w) :=
  ⟨h.tables, OrderedMap.putEntry_related h.views key views⟩

/-- The resolutions of views are at the same point. -/
def Meanwhile (T : Tolerance) (s t : Catalog × List String) : Prop :=
  s.1.Near T t.1 ∧ s.2 = t.2

/-- A step of the resolution of views, on the same graph. -/
theorem resolveView {s t : Catalog × List String} (h : Meanwhile T s t) (graph : ViewGraph)
    (key : String) :
    Alongside T.error (Meanwhile T) (Catalog.resolveView graph s key)
      (Catalog.resolveView graph t key) := by
  obtain ⟨a, cyclic⟩ := s
  obtain ⟨b, _⟩ := t
  obtain ⟨h, rfl⟩ := h
  rw [Catalog.resolveView, Catalog.resolveView]
  obtain ⟨none, none'⟩ | ⟨v, w, found, found', views⟩ := OrderedMap.get?_related h.views key
  · rw [none, none']
    exact .ok ⟨h, rfl⟩
  · rw [found, found']
    dsimp only
    split
    · exact .ok ⟨h.putView key { views with cyclic := rfl }, rfl⟩
    · exact (h.viewColumns views).bind fun xs ys columns =>
        .ok ⟨h.putView key { views with columns := columns }, rfl⟩

theorem resolveViews (h : a.Near T b) (apart : a.Apart T) :
    Alongside T.error (Catalog.Near T) a.resolveViews b.resolveViews := by
  rw [Catalog.resolveViews, Catalog.resolveViews, ← h.viewGraph apart]
  have step : ∀ s t key key', Meanwhile T s t → key = key' →
      Alongside T.error (Meanwhile T) (Catalog.resolveView (.ofViews a.views) s key)
        (Catalog.resolveView (.ofViews a.views) t key') := by
    rintro s t key _ now rfl
    exact resolveView now _ key
  have run := Alongside.foldlM
    (List.forall₂_same.mpr fun key (_ : key ∈ (ViewOrder.ofGraph (.ofViews a.views)).order) => rfl)
    step (show Meanwhile T (a, (ViewOrder.ofGraph (.ofViews a.views)).cyclic) (b, _) from ⟨h, rfl⟩)
  exact run.bind fun s t now => .ok now.1

end Catalog.Near

/-- The statements declare the same up to what is let pass. -/
inductive Sql.Statement.Near (T : Tolerance) : Statement → Statement → Prop where
  | table {s t : TableDecl} (name : s.name = t.name)
      (columns : List.Forall₂ (ColumnDecl.Near T) s.columns t.columns)
      (withoutRowid : s.withoutRowid = t.withoutRowid) : Near T (.createTable s) (.createTable t)
  | view {v w : ViewDecl} (name : v.name = w.name) (columns : v.columns = w.columns)
      (query : QueryRenamed T true [] [] v.query w.query) : Near T (.createView v) (.createView w)
  | none {s t : Statement} (nothing : s.declared? = none) (nothing' : t.declared? = none) :
      Near T s t

structure Sql.ScriptItem.Near (T : Tolerance) (i j : ScriptItem) : Prop where
  comments : i.comments = j.comments
  statement : i.statement.Near T j.statement

/-- The errors are the same, or come from the resolution of names and may go apart. -/
def Tolerance.Failure (T : Tolerance) (e d : Error) : Prop :=
  e = d ∨ ∃ x y, e = .resolve x ∧ d = .resolve y ∧ T.error x y

namespace Catalog

variable {a b : Catalog}

theorem Near.contains (h : a.Near T b) (name : String) : a.contains name = b.contains name := by
  rw [Catalog.contains, Catalog.contains]
  have views : (a.view? name).isSome = (b.view? name).isSome :=
    congrFun h.contains_views (Text.foldLower name)
  rw [views]
  obtain ⟨none, none'⟩ | ⟨_, _, found, found', _⟩ := h.table? name
  · rw [none, none']
  · rw [found, found']
    rfl

theorem enter_of_none {item : ScriptItem} (nothing : item.statement.declared? = none) :
    a.enter item = .ok a := by
  unfold enter
  cases kind : item.statement with
  | createTable decl | createView decl =>
    rw [kind] at nothing
    cases nothing
  | select _ | insert _ _ | update _ _ _ | delete _ _ _ | other _ => rfl

theorem Near.checkNew (h : a.Near T b) (name : String) : a.checkNew name = b.checkNew name := by
  rw [Catalog.checkNew, Catalog.checkNew, h.contains]

theorem enter_near (h : a.Near T b) {i j : ScriptItem} (items : i.Near T j) :
    Together (Catalog.Near T) (a.enter i) (b.enter j) := by
  have annotations : annotationsOf i = annotationsOf j := by
    rw [annotationsOf, annotationsOf, items.comments]
  have statement := items.statement
  generalize kind : i.statement = s at statement
  generalize kind' : j.statement = t at statement
  cases statement with
  | none nothing nothing' =>
    rw [enter_of_none (kind ▸ nothing), enter_of_none (kind' ▸ nothing')]
    exact .ok h
  | table name columns withoutRowid =>
    rw [enter, enter, kind, kind']
    dsimp only
    rw [annotations, h.checkNew, name]
    exact .bind_same fun _ => .bind_same fun _ => .ok
      ⟨OrderedMap.putEntry_related h.tables _ ⟨rfl, columns, withoutRowid, rfl, rfl⟩, h.views⟩
  | view name columns query =>
    rw [enter, enter, kind, kind']
    dsimp only
    rw [annotations, h.checkNew, name]
    exact .bind_same fun _ => .bind_same fun _ => .ok
      ⟨h.tables, OrderedMap.putEntry_related h.views _
        ⟨rfl, query, columns, .nil, rfl, rfl, rfl⟩⟩

/-- The tolerance confuses only names that no statement declares. -/
def ApartFrom (T : Tolerance) (items : List ScriptItem) : Prop :=
  ∀ n m, T.cte n m → n = m ∨ Undeclared items n ∧ Undeclared items m

theorem ApartFrom.apart {items : List ScriptItem} (apart : ApartFrom T items) {entered : Catalog}
    (run : items.foldlM enter empty = .ok entered) : entered.Apart T := by
  intro n m close
  refine (apart n m close).imp id fun ⟨undeclared, undeclared'⟩ => ?_
  exact ⟨hasKey_entered run undeclared, hasKey_entered run undeclared'⟩

theorem ApartFrom.apart_ofScript {items : List ScriptItem} (apart : ApartFrom T items)
    {catalog : Catalog} (read : ofScript items = .ok catalog) : catalog.Apart T :=
  fun n m close => (apart n m close).imp id fun ⟨undeclared, undeclared'⟩ =>
    ⟨contains_ofScript read undeclared, contains_ofScript read undeclared'⟩

/-- Schemas that differ in what is let pass are both refused, or the catalogs differ in no more. -/
theorem ofScript_near {items items' : List ScriptItem}
    (related : List.Forall₂ (ScriptItem.Near T) items items') (apart : ApartFrom T items) :
    Alongside T.Failure (Catalog.Near T) (ofScript items) (ofScript items') := by
  have step : ∀ a b i j, Catalog.Near T a b → i.Near T j →
      Alongside T.Failure (Catalog.Near T) (a.enter i) (b.enter j) :=
    fun a b i j near item => .of_together (fun _ => .inl rfl) (enter_near near item)
  have run := Alongside.foldlM related step (a := empty) (b := empty) ⟨.nil, .nil⟩
  rw [ofScript, ofScript]
  obtain ⟨_, _, error, error', failure⟩ | ⟨entered, entered', ok, ok', near⟩ := run.cases
  · rw [error, error']
    exact .error failure
  · rw [bind_of_ok ok, bind_of_ok ok']
    exact (near.resolveViews (apart.apart ok)).mapError fun e d resolved =>
      .inr ⟨e, d, rfl, rfl, resolved⟩

end Catalog

end TypedRows
