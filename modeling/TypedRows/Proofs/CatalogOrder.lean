import TypedRows.Proofs.ViewResolution

/-! The catalog of a schema does not depend on the order of its statements, and each view in it
has the columns that its query returns there. -/

namespace TypedRows

open Sql

/-- The name of the table or view that a statement declares. -/
def Sql.Statement.declared? : Statement → Option String
  | .createTable decl => some decl.name
  | .createView decl => some decl.name
  | .select _ | .insert _ _ | .update _ _ _ | .delete _ _ _ | .other _ => none

namespace Catalog

/-- The catalogs have the same tables and views, perhaps in another order. -/
structure Same (a b : Catalog) : Prop where
  tables : ∀ key, a.tables.get? key = b.tables.get? key
  views : ∀ key, a.views.get? key = b.views.get? key

theorem Same.refl (catalog : Catalog) : Same catalog catalog := ⟨fun _ => rfl, fun _ => rfl⟩

theorem Same.symm {a b : Catalog} (h : Same a b) : Same b a :=
  ⟨fun key => (h.tables key).symm, fun key => (h.views key).symm⟩

theorem Same.trans {a b c : Catalog} (ab : Same a b) (bc : Same b c) : Same a c :=
  ⟨fun key => (ab.tables key).trans (bc.tables key), fun key => (ab.views key).trans (bc.views key)⟩

def hasKey (catalog : Catalog) (key : String) : Bool :=
  (catalog.tables.get? key).isSome || (catalog.views.get? key).isSome

theorem Same.hasKey {a b : Catalog} (h : Same a b) (key : String) :
    a.hasKey key = b.hasKey key := by
  rw [Catalog.hasKey, Catalog.hasKey, h.tables, h.views]

/-- What a statement adds to a catalog. -/
inductive Addition where
  | nothing
  | table (table : Table)
  | view (view : View)

namespace Addition

def ofItem (item : ScriptItem) : Except Error Addition :=
  match item.statement with
  | .createTable decl => do
    let annotations ← annotationsOf item
    return .table {
      name := decl.name
      columns := decl.columns
      withoutRowid := decl.withoutRowid
      annotations := annotations.statement
      fieldAnnotations := annotations.fields
      sql := item.sql }
  | .createView decl => do
    let annotations ← annotationsOf item
    return .view {
      name := decl.name
      query := decl.query
      explicitColumns := decl.columns
      columns := []
      cyclic := false
      annotations := annotations.statement
      fieldAnnotations := annotations.fields
      sql := item.sql }
  | .select _ | .insert _ _ | .update _ _ _ | .delete _ _ _ | .other _ => .ok .nothing

def key? : Addition → Option String
  | nothing => none
  | table t => some (Text.foldLower t.name)
  | view v => some (Text.foldLower v.name)

def addTo (catalog : Catalog) : Addition → Catalog
  | nothing => catalog
  | table t => { catalog with tables := catalog.tables.put (Text.foldLower t.name) t }
  | view v => { catalog with views := catalog.views.put (Text.foldLower v.name) v }

theorem key?_ofItem {item : ScriptItem} {addition : Addition}
    (declared : ofItem item = .ok addition) :
    addition.key? = item.statement.declared?.map Text.foldLower := by
  unfold ofItem at declared
  cases kind : item.statement with
  | createTable decl | createView decl =>
    rw [kind] at declared
    obtain ⟨annotations, _, declared⟩ := bind_eq_ok declared
    cases declared
    rfl
  | select _ | insert _ _ | update _ _ _ | delete _ _ _ | other _ =>
    rw [kind] at declared
    cases declared
    rfl

/-- The catalog has nothing yet under the name. -/
def Fits (addition : Addition) (catalog : Catalog) : Prop :=
  ∀ key ∈ addition.key?, catalog.hasKey key = false

theorem hasKey_addTo (addition : Addition) (catalog : Catalog) (key : String) :
    (addition.addTo catalog).hasKey key = (catalog.hasKey key || addition.key? == some key) := by
  cases addition with
  | nothing => simp [addTo, key?]
  | table t =>
    by_cases same : key = Text.foldLower t.name
    · simp [addTo, key?, hasKey, same]
    · have other : Text.foldLower t.name ≠ key := fun e => same e.symm
      simp [addTo, key?, hasKey, OrderedMap.get?_put, same, other]
  | view v =>
    by_cases same : key = Text.foldLower v.name
    · simp [addTo, key?, hasKey, same]
    · have other : Text.foldLower v.name ≠ key := fun e => same e.symm
      simp [addTo, key?, hasKey, OrderedMap.get?_put, same, other]

theorem same_addTo (addition : Addition) {a b : Catalog} (same : Same a b) :
    Same (addition.addTo a) (addition.addTo b) := by
  cases addition with
  | nothing => exact same
  | table t =>
    refine ⟨fun key => ?_, same.views⟩
    simp only [addTo, OrderedMap.get?_put, same.tables]
  | view v =>
    refine ⟨same.tables, fun key => ?_⟩
    simp only [addTo, OrderedMap.get?_put, same.views]

theorem addTo_comm (x y : Addition) (catalog : Catalog)
    (other : ∀ key ∈ x.key?, key ∉ y.key?) :
    Same (y.addTo (x.addTo catalog)) (x.addTo (y.addTo catalog)) := by
  cases x with
  | nothing => exact Same.refl _
  | table s =>
    cases y with
    | nothing => exact Same.refl _
    | table t =>
      have apart : Text.foldLower s.name ≠ Text.foldLower t.name :=
        fun e => other _ rfl (congrArg some e.symm)
      exact ⟨OrderedMap.get?_put_comm _ _ _ apart, fun _ => rfl⟩
    | view v => exact Same.refl _
  | view u =>
    cases y with
    | nothing => exact Same.refl _
    | table t => exact Same.refl _
    | view v =>
      have apart : Text.foldLower u.name ≠ Text.foldLower v.name :=
        fun e => other _ rfl (congrArg some e.symm)
      exact ⟨fun _ => rfl, OrderedMap.get?_put_comm _ _ _ apart⟩

end Addition

theorem checkNew_eq_ok {catalog : Catalog} {name : String} :
    catalog.checkNew name = .ok () ↔ catalog.hasKey (Text.foldLower name) = false := by
  change (if catalog.hasKey (Text.foldLower name) then _ else _) = _ ↔ _
  cases catalog.hasKey (Text.foldLower name) <;> simp

/-- A table or view is entered: its annotations are read, and its name has to be new. -/
theorem declare_eq_ok {α : Type} {catalog next : Catalog} {name : String} {read : Except Error α}
    {add : α → Catalog} {addition : α → Addition}
    (key : ∀ a, (addition a).key? = some (Text.foldLower name))
    (adds : ∀ a, add a = (addition a).addTo catalog) :
    (do
        let a ← read
        catalog.checkNew name
        return add a) = .ok next ↔
      ∃ added, (do
          let a ← read
          return addition a) = .ok added ∧ added.Fits catalog ∧ next = added.addTo catalog := by
  constructor
  · intro h
    obtain ⟨a, ofRead, h⟩ := bind_eq_ok h
    obtain ⟨_, new, h⟩ := bind_eq_ok h
    cases h
    refine ⟨addition a, bind_of_ok ofRead _, fun k hk => ?_, adds a⟩
    rw [key a] at hk
    cases hk
    exact checkNew_eq_ok.mp new
  · rintro ⟨_, h, fits, rfl⟩
    obtain ⟨a, ofRead, h⟩ := bind_eq_ok h
    cases h
    rw [bind_of_ok ofRead, bind_of_ok (checkNew_eq_ok.mpr (fits _ (key a))), adds a]
    rfl

/-- Entering a statement adds what it declares, if that is new. -/
theorem enter_eq_ok {catalog next : Catalog} {item : ScriptItem} :
    catalog.enter item = .ok next ↔
      ∃ addition, Addition.ofItem item = .ok addition ∧ addition.Fits catalog ∧
        next = addition.addTo catalog := by
  unfold enter Addition.ofItem
  cases item.statement with
  | createTable decl | createView decl => exact declare_eq_ok (fun _ => rfl) fun _ => rfl
  | select _ | insert _ _ | update _ _ _ | delete _ _ _ | other _ =>
    constructor
    · intro h
      cases h
      refine ⟨.nothing, rfl, fun key hk => ?_, rfl⟩
      cases hk
    · rintro ⟨addition, h, _, rfl⟩
      cases h
      rfl

theorem enter_same {a b next : Catalog} {item : ScriptItem} (same : Same a b)
    (step : a.enter item = .ok next) : ∃ next', b.enter item = .ok next' ∧ Same next next' := by
  obtain ⟨addition, declared, fits, rfl⟩ := enter_eq_ok.mp step
  have fits' : addition.Fits b := fun key hk => (same.hasKey key).symm.trans (fits key hk)
  exact ⟨_, enter_eq_ok.mpr ⟨addition, declared, fits', rfl⟩, addition.same_addTo same⟩

/-- Two statements may be entered in either order. -/
theorem enter_swap {catalog middle last : Catalog} {x y : ScriptItem}
    (first : catalog.enter x = .ok middle) (second : middle.enter y = .ok last) :
    ∃ middle' last', catalog.enter y = .ok middle' ∧ middle'.enter x = .ok last' ∧
      Same last last' := by
  obtain ⟨u, ofX, fitsX, rfl⟩ := enter_eq_ok.mp first
  obtain ⟨v, ofY, fitsY, rfl⟩ := enter_eq_ok.mp second
  have apart : ∀ key ∈ v.key?, catalog.hasKey key = false ∧ key ∉ u.key? := by
    intro key hk
    have free := fitsY key hk
    rw [u.hasKey_addTo, Bool.or_eq_false_iff] at free
    exact ⟨free.1, fun member => by simp [Option.mem_def.mp member] at free⟩
  have fitsY' : v.Fits catalog := fun key hk => (apart key hk).1
  have fitsX' : u.Fits (v.addTo catalog) := by
    intro key hk
    rw [v.hasKey_addTo, fitsX key hk, Bool.false_or, beq_eq_false_iff_ne]
    exact fun e => (apart key e).2 hk
  refine ⟨_, _, enter_eq_ok.mpr ⟨v, ofY, fitsY', rfl⟩, enter_eq_ok.mpr ⟨u, ofX, fitsX', rfl⟩, ?_⟩
  exact Addition.addTo_comm u v catalog fun key hu hv => (apart key hv).2 hu

theorem foldlM_enter_same {items : List ScriptItem} {a b last : Catalog} (same : Same a b)
    (run : items.foldlM enter a = .ok last) :
    ∃ last', items.foldlM enter b = .ok last' ∧ Same last last' := by
  induction items generalizing a b with
  | nil =>
    cases run
    exact ⟨b, rfl, same⟩
  | cons item rest ih =>
    rw [List.foldlM_cons] at run
    obtain ⟨middle, step, run⟩ := bind_eq_ok run
    obtain ⟨middle', step', same'⟩ := enter_same same step
    rw [List.foldlM_cons, bind_of_ok step']
    exact ih same' run

/-- Permuted statements enter the same tables and views, or none of the orders is accepted. -/
theorem foldlM_enter_perm {items items' : List ScriptItem} (perm : items.Perm items')
    {a b last : Catalog} (same : Same a b) (run : items.foldlM enter a = .ok last) :
    ∃ last', items'.foldlM enter b = .ok last' ∧ Same last last' := by
  induction perm generalizing a b last with
  | nil =>
    cases run
    exact ⟨b, rfl, same⟩
  | cons x _ ih =>
    rw [List.foldlM_cons] at run
    obtain ⟨middle, step, rest⟩ := bind_eq_ok run
    obtain ⟨middle', step', same'⟩ := enter_same same step
    rw [List.foldlM_cons, bind_of_ok step']
    exact ih same' rest
  | swap x y rest =>
    rw [List.foldlM_cons] at run
    obtain ⟨middle, first, run⟩ := bind_eq_ok run
    rw [List.foldlM_cons] at run
    obtain ⟨both, second, run⟩ := bind_eq_ok run
    obtain ⟨first', both', entered, entered', swapped⟩ := enter_swap first second
    obtain ⟨firstB, stepB, sameFirst⟩ := enter_same same entered
    obtain ⟨bothB, stepB', sameBoth⟩ := enter_same sameFirst entered'
    rw [List.foldlM_cons, bind_of_ok stepB, List.foldlM_cons, bind_of_ok stepB']
    exact foldlM_enter_same (swapped.trans sameBoth) run
  | trans _ _ ih ih' =>
    obtain ⟨last', run', same'⟩ := ih (.refl a) run
    obtain ⟨last'', run'', same''⟩ := ih' same run'
    exact ⟨last'', run'', same'.trans same''⟩

theorem reads_same {a b : Catalog} (same : Same a b) : a.reads = b.reads := by
  have contained : a.views.contains = b.views.contains := by
    funext key
    rw [OrderedMap.contains, OrderedMap.contains, same.views]
  funext key
  rw [reads, reads, ViewGraph.reads, ViewGraph.reads, ViewGraph.get?_ofViews,
    ViewGraph.get?_ofViews, same.views, contained]

theorem Resolved.of_same {entered entered' catalog : Catalog} {done : String → Prop}
    (same : Same entered entered') (h : Resolved entered done catalog) :
    Resolved entered' done catalog where
  tables key := (h.tables key).trans (same.tables key)
  todo key out := (h.todo key out).trans (same.views key)
  missing key none := h.missing key ((same.views key).trans none)
  grounded key view member known isGrounded :=
    h.grounded key view member ((same.views key).trans known) (reads_same same ▸ isGrounded)
  ungrounded key view member known notGrounded :=
    h.ungrounded key view member ((same.views key).trans known) (reads_same same ▸ notGrounded)

/-- There is only one way to resolve all views. -/
theorem Resolved.same {entered a b : Catalog} (ha : Resolved entered (fun _ => True) a)
    (hb : Resolved entered (fun _ => True) b) : Same a b where
  tables key := (ha.tables key).trans (hb.tables key).symm
  views key := by
    by_cases isGrounded : Grounded entered.reads key
    · exact ha.unique hb (fun _ _ _ _ _ => trivial) (fun _ _ _ _ _ => trivial) isGrounded
        trivial trivial
    · cases known : entered.views.get? key with
      | none => rw [ha.missing key known, hb.missing key known]
      | some view =>
        rw [ha.ungrounded key view trivial known isGrounded,
          hb.ungrounded key view trivial known isGrounded]

theorem resolveViews_same {entered entered' catalog : Catalog} (same : Same entered entered')
    (h : entered.resolveViews = .ok catalog) :
    ∃ catalog', entered'.resolveViews = .ok catalog' ∧ Same catalog catalog' := by
  have solved := (resolveViews_resolved h).of_same same
  obtain ⟨catalog', h'⟩ := resolveViews_succeeds solved
  exact ⟨catalog', h', solved.same (resolveViews_resolved h')⟩

theorem ofScript_same {items items' : List ScriptItem} (perm : items.Perm items')
    {catalog : Catalog} (h : ofScript items = .ok catalog) :
    ∃ catalog', ofScript items' = .ok catalog' ∧ Same catalog catalog' := by
  obtain ⟨entered, run, resolve⟩ := bind_eq_ok h
  obtain ⟨entered', run', same⟩ := foldlM_enter_perm perm (.refl empty) run
  obtain ⟨catalog', resolve', same'⟩ := resolveViews_same same (mapError_eq_ok.mp resolve)
  refine ⟨catalog', ?_, same'⟩
  rw [ofScript, bind_of_ok run']
  exact mapError_eq_ok.mpr resolve'

theorem viewColumns_eq_ok {catalog : Catalog} {view : View} {result : List ResultColumn}
    (h : catalog.viewColumns view = .ok result) :
    ∃ columns, catalog.select view.query = .ok columns ∧
      (view.explicitColumns = [] → result = columns) ∧
      (view.explicitColumns ≠ [] → view.explicitColumns.length = columns.length ∧
        result = ResultColumn.rename view.explicitColumns columns) := by
  obtain ⟨columns, selected, h⟩ := bind_eq_ok h
  refine ⟨columns, mapError_eq_ok.mp selected, ?_⟩
  cases named : view.explicitColumns with
  | nil =>
    rw [named] at h
    cases h
    exact ⟨fun _ => rfl, fun h => absurd rfl h⟩
  | cons first rest =>
    rw [named] at h
    refine ⟨fun h => (by cases h), fun _ => ?_⟩
    by_cases same : (first :: rest).length = columns.length
    · simp only [List.isEmpty_cons, Bool.false_eq_true, if_false, same, ne_eq, not_true] at h
      cases h
      exact ⟨same, rfl⟩
    · simp only [List.isEmpty_cons, Bool.false_eq_true, if_false, ne_eq, same, not_false_eq_true,
        if_true] at h
      cases h

/-- A view that is left with columns has those that its query returns in the finished catalog. -/
theorem viewColumns_of_resolveViews {entered catalog : Catalog}
    (h : entered.resolveViews = .ok catalog) {key : String} {view : View}
    (stored : catalog.views.get? key = some view) (straight : view.cyclic = false) :
    catalog.viewColumns view = .ok view.columns := by
  have resolved := resolveViews_resolved h
  cases known : entered.views.get? key with
  | none =>
    rw [resolved.missing key known] at stored
    cases stored
  | some old =>
    by_cases isGrounded : Grounded entered.reads key
    · obtain ⟨columns, hc, stored'⟩ := resolved.grounded key old trivial known isGrounded
      rw [stored'] at stored
      cases stored
      exact hc
    · rw [resolved.ungrounded key old trivial known isGrounded] at stored
      cases stored
      cases straight

/-- Every view that is not on a circle has the columns of its query in the finished catalog, under
the names given to them, and the order of the statements decides neither whether there is a catalog
nor what is found in it under a name. -/
theorem ofScript_eq_of_perm (items : List ScriptItem) :
    (∀ catalog, ofScript items = .ok catalog →
      (∀ name view, catalog.view? name = some view → view.cyclic = false →
        ∃ columns, catalog.select view.query = .ok columns ∧
          (view.explicitColumns = [] → view.columns = columns) ∧
          (view.explicitColumns ≠ [] → view.explicitColumns.length = columns.length ∧
            view.columns = ResultColumn.rename view.explicitColumns columns)) ∧
      ∀ items', items.Perm items' → ∃ catalog', ofScript items' = .ok catalog' ∧
        ∀ name, catalog'.table? name = catalog.table? name ∧
          catalog'.view? name = catalog.view? name) ∧
    ∀ e, ofScript items = .error e →
      ∀ items', items.Perm items' → ∃ e', ofScript items' = .error e' := by
  constructor
  · intro catalog h
    constructor
    · intro name view stored straight
      obtain ⟨entered, _, resolve⟩ := bind_eq_ok h
      exact viewColumns_eq_ok
        (viewColumns_of_resolveViews (mapError_eq_ok.mp resolve) stored straight)
    · intro items' perm
      obtain ⟨catalog', h', same⟩ := ofScript_same perm h
      exact ⟨catalog', h', fun name => ⟨(same.tables _).symm, (same.views _).symm⟩⟩
  · intro e h items' perm
    cases h' : ofScript items' with
    | error e' => exact ⟨e', rfl⟩
    | ok catalog' =>
      -- an order that is accepted is a permutation of one that is not
      obtain ⟨catalog, ok, _⟩ := ofScript_same perm.symm h'
      rw [h] at ok
      cases ok

/-- `SELECT * FROM name` -/
def selectAll (name : String) : Query :=
  ⟨false, [], .select ⟨[], [.star none []], "",
    [⟨false, .comma, .table [⟨name, none⟩] false none [], none, .none⟩], [], none, false, [], [],
    none, []⟩, [], none, none, []⟩

/-- `CREATE TABLE t(x INTEGER)`, with the lines of comments before it. -/
def tableWith (lines : List String) : List ScriptItem :=
  [⟨"", .createTable ⟨"t", [⟨"x", some "INTEGER", false, false, none⟩], false⟩, lines, [], []⟩]

/-- Two views before the table that one of them reads through the other. -/
def viewsThenTable : List ScriptItem :=
  [⟨"", .createView ⟨"v", ["n"], selectAll "w"⟩, [], [], []⟩,
    ⟨"", .createView ⟨"w", [], selectAll "t"⟩, [], [], []⟩,
    ⟨"", .createTable ⟨"t", [⟨"c", none, true, false, none⟩], false⟩, [], [], []⟩]

theorem ofScript_viewsThenTable :
    ∃ catalog catalog', ofScript viewsThenTable = .ok catalog ∧
      ofScript viewsThenTable.reverse = .ok catalog' ∧
      (catalog'.view? "v").map (fun view => view.columns.map ResultColumn.name) = some ["n"] := by
  have found : (match ofScript viewsThenTable with
      | .ok catalog => (catalog.view? "v").map fun view => view.columns.map ResultColumn.name
      | .error _ => none) = some ["n"] := by decide +kernel
  cases h : ofScript viewsThenTable with
  | error e =>
    rw [h] at found
    cases found
  | ok catalog =>
    rw [h] at found
    obtain ⟨catalog', h', same⟩ :=
      ((ofScript_eq_of_perm viewsThenTable).1 catalog h).2 _ (List.reverse_perm _).symm
    refine ⟨catalog, catalog', rfl, h', ?_⟩
    rw [(same "v").2]
    exact found

end Catalog

end TypedRows
