import TypedRows.Proofs.SchemaObjects

/-! A table or view that nothing reads may be left out of a schema: the others are as they were. -/

namespace TypedRows

open Sql

/-- The name is not among those that are read. -/
def NotRead (name : String) (visits : List Visit) : Prop :=
  ∀ n, Visit.relation n ∈ visits → Text.sameName name n = false

theorem foldLower_ne {name n : String} (other : Text.sameName name n = false) :
    Text.foldLower n ≠ Text.foldLower name := by
  intro same
  rw [Text.sameName_iff.mpr same.symm] at other
  cases other

namespace Catalog

/-- All but the table or view of the name. -/
def without (catalog : Catalog) (name : String) : Catalog :=
  ⟨catalog.tables.erase (Text.foldLower name), catalog.views.erase (Text.foldLower name)⟩

variable {catalog : Catalog} {name : String}

theorem agreeAt_without (catalog : Catalog) {n : String} (other : Text.sameName name n = false) :
    (catalog.without name).AgreeAt catalog n :=
  agreeAt_of_get? (OrderedMap.get?_erase_of_ne _ (foldLower_ne other))
    (OrderedMap.get?_erase_of_ne _ (foldLower_ne other))

theorem agree_without (catalog : Catalog) {visits : List Visit} (unread : NotRead name visits) :
    (catalog.without name).Agree catalog visits :=
  fun n met => catalog.agreeAt_without (unread n met)

theorem hasKey_without (catalog : Catalog) (name key : String) :
    (catalog.without name).hasKey key =
      (catalog.hasKey key && decide (key ≠ Text.foldLower name)) := by
  rw [hasKey, hasKey, without, OrderedMap.get?_erase, OrderedMap.get?_erase]
  by_cases here : key = Text.foldLower name <;> simp [here]

theorem select_without (catalog : Catalog) {query : Query} (unread : NotRead name query.visits) :
    (catalog.without name).select query = catalog.select query :=
  query.columnsIn_congr ((catalog.agree_without unread).alike [])

theorem viewColumns_without (catalog : Catalog) {view : View}
    (unread : NotRead name view.query.visits) :
    (catalog.without name).viewColumns view = catalog.viewColumns view := by
  rw [viewColumns, viewColumns, select_without catalog unread]

namespace Addition

theorem without_addTo_self {addition : Addition} (fits : addition.Fits catalog)
    (own : addition.key? = some (Text.foldLower name)) :
    (addition.addTo catalog).without name = catalog := by
  obtain ⟨table, view⟩ := free_of_hasKey (fits _ own)
  cases addition with
  | nothing => cases own
  | table t =>
    rw [without, addTo, Option.some.inj own, OrderedMap.erase_put_of_new table,
      OrderedMap.erase_of_absent view]
  | view v =>
    rw [without, addTo, Option.some.inj own, OrderedMap.erase_of_absent table,
      OrderedMap.erase_put_of_new view]

theorem without_addTo (addition : Addition) (catalog : Catalog)
    (other : addition.key? ≠ some (Text.foldLower name)) :
    (addition.addTo catalog).without name = addition.addTo (catalog.without name) := by
  cases addition with
  | nothing => rfl
  | table t =>
    rw [without, addTo, OrderedMap.erase_put_of_ne _ _ fun same => other (congrArg some same)]
    rfl
  | view v =>
    rw [without, addTo, OrderedMap.erase_put_of_ne _ _ fun same => other (congrArg some same)]
    rfl

end Addition

theorem Orderly.without (orderly : catalog.Orderly) (name : String) :
    (catalog.without name).Orderly where
  table key t found := by
    rw [Catalog.without, OrderedMap.get?_erase] at found
    split at found
    · cases found
    · exact orderly.table key t found
  view key v found := by
    rw [Catalog.without, OrderedMap.get?_erase] at found
    split at found
    · cases found
    · exact orderly.view key v found
  apart key := by
    rw [Catalog.without, OrderedMap.get?_erase, OrderedMap.get?_erase]
    split
    · exact .inl rfl
    · exact orderly.apart key

/-- What is entered after a table or view is entered without it too. -/
theorem foldlM_enter_without {items : List ScriptItem} {last : Catalog}
    (run : items.foldlM enter catalog = .ok last)
    (there : catalog.hasKey (Text.foldLower name) = true) :
    items.foldlM enter (catalog.without name) = .ok (last.without name) := by
  induction items generalizing catalog with
  | nil =>
    cases run
    rfl
  | cons item rest ih =>
    rw [List.foldlM_cons] at run
    obtain ⟨middle, step, run⟩ := bind_eq_ok run
    obtain ⟨addition, declared, fits, rfl⟩ := enter_eq_ok.mp step
    have other : addition.key? ≠ some (Text.foldLower name) := by
      intro same
      rw [fits _ same] at there
      cases there
    have fits' : addition.Fits (catalog.without name) := by
      intro key own
      rw [hasKey_without, fits key own]
      rfl
    have step' : (catalog.without name).enter item = .ok ((addition.addTo catalog).without name) :=
      enter_eq_ok.mpr ⟨addition, declared, fits', addition.without_addTo catalog other⟩
    rw [List.foldlM_cons, bind_of_ok step']
    refine ih run ?_
    rw [Addition.hasKey_addTo, there]
    rfl

/-- The schema without one of its declarations is entered as before, but for what it declares. -/
theorem enterAll_without {before after : List ScriptItem} {item : ScriptItem} {entered : Catalog}
    (run : (before ++ item :: after).foldlM enter empty = .ok entered)
    (declared : item.statement.declared? = some name) :
    (before ++ after).foldlM enter empty = .ok (entered.without name) := by
  rw [List.foldlM_append] at run ⊢
  obtain ⟨middle, first, run⟩ := bind_eq_ok run
  rw [List.foldlM_cons] at run
  obtain ⟨next, step, run⟩ := bind_eq_ok run
  obtain ⟨addition, made, fits, rfl⟩ := enter_eq_ok.mp step
  have own : addition.key? = some (Text.foldLower name) := by
    rw [Addition.key?_ofItem made, declared]
    rfl
  have there : (addition.addTo middle).hasKey (Text.foldLower name) = true := by
    rw [Addition.hasKey_addTo, own, beq_self_eq_true, Bool.or_true]
  have rest := foldlM_enter_without run there
  rw [Addition.without_addTo_self fits own] at rest
  rw [bind_of_ok first]
  exact rest

end Catalog

/-- Relations that agree everywhere but at a key that nothing else reads have the same grounds. -/
theorem Grounded.of_agree {reads reads' : String → List String} {apart key : String}
    (h : Grounded reads key) (agree : ∀ k, k ≠ apart → reads' k = reads k)
    (closed : ∀ k, k ≠ apart → apart ∉ reads k) (other : key ≠ apart) : Grounded reads' key := by
  induction h with
  | intro key _ ih =>
    refine .intro key fun d read => ?_
    rw [agree key other] at read
    exact ih d read fun same => closed key other (same ▸ read)

namespace Catalog

variable {catalog entered : Catalog} {name : String}

/-- No view reads the table or view of the name, other than perhaps itself. -/
def ViewsUnread (catalog : Catalog) (name : String) : Prop :=
  ∀ key view, key ≠ Text.foldLower name → catalog.views.get? key = some view →
    NotRead name view.query.visits

theorem not_mem_reads (unread : catalog.ViewsUnread name) {key : String}
    (other : key ≠ Text.foldLower name) : Text.foldLower name ∉ catalog.reads key := by
  rw [reads, ViewGraph.reads, ViewGraph.get?_ofViews]
  cases found : catalog.views.get? key with
  | none => exact List.not_mem_nil
  | some view =>
    intro member
    obtain ⟨n, reference, same⟩ := List.mem_map.mp (List.mem_filter.mp member).1
    exact foldLower_ne (unread key view other found n (Query.met_of_mem_references reference)) same

theorem reads_without (unread : catalog.ViewsUnread name) {key : String}
    (other : key ≠ Text.foldLower name) : (catalog.without name).reads key = catalog.reads key := by
  rw [reads, reads, ViewGraph.reads, ViewGraph.reads, ViewGraph.get?_ofViews,
    ViewGraph.get?_ofViews, without, OrderedMap.get?_erase_of_ne _ other]
  cases found : catalog.views.get? key with
  | none => rfl
  | some view =>
    refine List.filter_congr fun k member => ?_
    obtain ⟨n, reference, rfl⟩ := List.mem_map.mp member
    have apart := unread key view other found n (Query.met_of_mem_references reference)
    rw [OrderedMap.contains, OrderedMap.contains,
      OrderedMap.get?_erase_of_ne _ (foldLower_ne apart)]

theorem grounded_without (unread : catalog.ViewsUnread name) {key : String}
    (other : key ≠ Text.foldLower name) :
    Grounded (catalog.without name).reads key ↔ Grounded catalog.reads key := by
  have agree : ∀ k, k ≠ Text.foldLower name →
      (catalog.without name).reads k = catalog.reads k := fun k => reads_without unread
  have closed : ∀ k, k ≠ Text.foldLower name → Text.foldLower name ∉ catalog.reads k :=
    fun k => not_mem_reads unread
  constructor
  · intro h
    exact h.of_agree (fun k apart => (agree k apart).symm)
      (fun k apart => agree k apart ▸ closed k apart) other
  · intro h
    exact h.of_agree agree closed other

/-- Where nothing else reads the table or view of the name, the others are resolved without it as
they are with it. -/
theorem Resolved.without (resolved : Resolved entered (fun _ => True) catalog)
    (unread : entered.ViewsUnread name) :
    Resolved (entered.without name) (fun _ => True) (catalog.without name) where
  tables key := by
    rw [Catalog.without, Catalog.without, OrderedMap.get?_erase, OrderedMap.get?_erase,
      resolved.tables]
  todo _ out := absurd trivial out
  missing key none := by
    rw [Catalog.without, OrderedMap.get?_erase] at none ⊢
    split
    · rfl
    · rename_i other
      rw [if_neg other] at none
      exact resolved.missing key none
  grounded key view _ known isGrounded := by
    rw [Catalog.without, OrderedMap.get?_erase] at known
    split at known
    · cases known
    · rename_i other
      obtain ⟨columns, returned, stored⟩ := resolved.grounded key view trivial known
        ((grounded_without unread other).mp isGrounded)
      refine ⟨columns, ?_, ?_⟩
      · rw [viewColumns_without catalog (unread key view other known), returned]
      · rw [Catalog.without, OrderedMap.get?_erase_of_ne _ other, stored]
  ungrounded key view _ known notGrounded := by
    rw [Catalog.without, OrderedMap.get?_erase] at known
    split at known
    · cases known
    · rename_i other
      rw [Catalog.without, OrderedMap.get?_erase_of_ne _ other]
      exact resolved.ungrounded key view trivial known
        fun isGrounded => notGrounded ((grounded_without unread other).mpr isGrounded)

/-- The resolution of views puts no table or view elsewhere. -/
def InPlace (a b : Catalog) : Prop := a.tables = b.tables ∧ a.views.keys = b.views.keys

theorem resolveView_inPlace {graph : ViewGraph} {s t : Catalog × List String} {key : String}
    (step : resolveView graph s key = .ok t) : InPlace t.1 s.1 := by
  obtain ⟨catalog, cyclic⟩ := s
  rw [resolveView] at step
  cases found : catalog.views.get? key with
  | none =>
    rw [found] at step
    cases step
    exact ⟨rfl, rfl⟩
  | some view =>
    have there := OrderedMap.contains_iff.mpr ⟨view, found⟩
    have keys : ∀ view', (catalog.putView key view').views.keys = catalog.views.keys := by
      intro view'
      rw [putView, OrderedMap.keys_put, if_pos there]
    rw [found] at step
    dsimp only at step
    split at step
    · cases step
      exact ⟨rfl, keys _⟩
    · obtain ⟨columns, _, step⟩ := bind_eq_ok step
      cases step
      exact ⟨rfl, keys _⟩

theorem resolveViews_inPlace (h : entered.resolveViews = .ok catalog) :
    InPlace catalog entered := by
  rw [resolveViews] at h
  obtain ⟨last, run, h⟩ := bind_eq_ok h
  cases h
  have each : ∀ (keys : List String) (s : Catalog × List String),
      keys.foldlM (resolveView (.ofViews entered.views)) s = .ok last → InPlace last.1 s.1 := by
    intro keys
    induction keys with
    | nil =>
      intro s run
      cases run
      exact ⟨rfl, rfl⟩
    | cons key rest ih =>
      intro s run
      rw [List.foldlM_cons] at run
      obtain ⟨middle, step, run⟩ := bind_eq_ok run
      have first := resolveView_inPlace step
      have later := ih middle run
      exact ⟨later.1.trans first.1, later.2.trans first.2⟩
  exact each _ _ run

theorem Addition.ofItem_view {item : ScriptItem} {view : View}
    (made : Addition.ofItem item = .ok (.view view)) :
    view.columns = [] ∧ view.cyclic = false ∧
      ∃ decl, item.statement = .createView decl ∧ decl.query = view.query := by
  unfold Addition.ofItem at made
  cases kind : item.statement with
  | createView decl =>
    rw [kind] at made
    obtain ⟨annotations, _, made⟩ := bind_eq_ok made
    cases made
    exact ⟨rfl, rfl, decl, rfl, rfl⟩
  | createTable decl =>
    rw [kind] at made
    obtain ⟨annotations, _, made⟩ := bind_eq_ok made
    cases made
  | select _ | insert _ _ | update _ _ _ | delete _ _ _ | other _ =>
    rw [kind] at made
    cases made

/-- A view that has been entered is declared by one of the statements. -/
theorem view_entered {items : List ScriptItem} {start entered : Catalog}
    (run : items.foldlM enter start = .ok entered) {key : String} {view : View}
    (found : entered.views.get? key = some view) :
    start.views.get? key = some view ∨
      ∃ item ∈ items, Addition.ofItem item = .ok (.view view) := by
  induction items generalizing start with
  | nil =>
    cases run
    exact .inl found
  | cons item rest ih =>
    rw [List.foldlM_cons] at run
    obtain ⟨middle, step, run⟩ := bind_eq_ok run
    obtain ⟨addition, made, _, rfl⟩ := enter_eq_ok.mp step
    obtain before | ⟨other, member, declared⟩ := ih run
    · cases addition with
      | nothing | table _ => exact .inl before
      | view v =>
        rw [Addition.addTo, OrderedMap.get?_put] at before
        split at before
        · cases before
          exact .inr ⟨item, List.mem_cons_self, made⟩
        · exact .inl before
    · exact .inr ⟨other, List.mem_cons_of_mem _ member, declared⟩

/-- Without a declaration that no view reads a schema has the same catalog but for what it declares.
-/
theorem ofScript_without {before after : List ScriptItem} {item : ScriptItem}
    (declared : item.statement.declared? = some name)
    (unread : ∀ other ∈ before ++ after, ∀ decl, other.statement = .createView decl →
      NotRead name decl.query.visits) {part whole : Catalog}
    (read : ofScript (before ++ after) = .ok part)
    (read' : ofScript (before ++ item :: after) = .ok whole) : part = whole.without name := by
  obtain ⟨entered, run, resolve⟩ := bind_eq_ok read
  obtain ⟨entered', run', resolve'⟩ := bind_eq_ok read'
  rw [mapError_eq_ok] at resolve resolve'
  rw [enterAll_without run' declared] at run
  cases run
  have views : entered'.ViewsUnread name := by
    intro key view other found
    have kept : (entered'.without name).views.get? key = some view :=
      (OrderedMap.get?_erase_of_ne _ other).trans found
    obtain none | ⟨source, member, made⟩ := view_entered (enterAll_without run' declared) kept
    · cases none
    · obtain ⟨_, _, decl, declares, query⟩ := Addition.ofItem_view made
      exact query ▸ unread source member decl declares
  have same := (resolveViews_resolved resolve).same
    ((resolveViews_resolved resolve').without views)
  have inPlace := resolveViews_inPlace resolve
  have inPlace' := resolveViews_inPlace resolve'
  have tables : part.tables = (whole.without name).tables := by
    rw [inPlace.1, without, without, inPlace'.1]
  have keys : part.views.keys = (whole.without name).views.keys := by
    rw [inPlace.2, without, without, OrderedMap.keys_erase, OrderedMap.keys_erase, inPlace'.2]
  obtain ⟨tables', views'⟩ := part
  obtain rfl := tables
  exact congrArg _ (OrderedMap.eq_of_get? keys same.views)

end Catalog

end TypedRows
