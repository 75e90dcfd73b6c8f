import TypedRows.Proofs.MapLookup
import TypedRows.Proofs.QueryReads
import TypedRows.Proofs.ViewOrder
import TypedRows.Schema.Build

/-! The catalog after the views are resolved is the only one in which every view has the columns
that its query returns there, views that read themselves apart. -/

namespace TypedRows

open Sql

theorem mem_addName {names : List String} {name n : String} (h : n ∈ names) :
    n ∈ addName names name := by
  rw [addName]
  split
  · exact h
  · exact List.mem_append_left _ h

theorem sameName_addName (names : List String) (name : String) :
    ∃ n ∈ addName names name, Text.sameName n name = true := by
  rw [addName]
  split
  · rename_i found
    exact List.any_eq_true.mp found
  · exact ⟨name, List.mem_append_right _ List.mem_cons_self, Text.sameName_refl name⟩

theorem sameName_foldl_addName (names met : List String) {name : String}
    (h : name ∈ met ∨ ∃ n ∈ names, Text.sameName n name = true) :
    ∃ n ∈ met.foldl addName names, Text.sameName n name = true := by
  induction met generalizing names with
  | nil =>
    rcases h with h | h
    · cases h
    · exact h
  | cons first rest ih =>
    rw [List.foldl_cons]
    refine ih _ ?_
    rcases h with h | ⟨n, hn, same⟩
    · cases h with
      | head => exact .inr (sameName_addName names name)
      | tail _ h => exact .inl h
    · exact .inr ⟨n, mem_addName hn, same⟩

/-- Each name that a query meets is among its references in some letter case. -/
theorem Sql.Query.mem_references {query : Query} {name : String}
    (met : Visit.relation name ∈ query.visits) :
    Text.foldLower name ∈ query.references.map Text.foldLower := by
  have member : name ∈ query.visits.filterMap Visit.relation? :=
    List.mem_filterMap.mpr ⟨_, met, rfl⟩
  obtain ⟨n, hn, same⟩ := sameName_foldl_addName [] _ (.inl member)
  rw [← beq_iff_eq.mp same]
  exact List.mem_map_of_mem hn

theorem mem_of_addName {names : List String} {name n : String} (h : n ∈ addName names name) :
    n ∈ names ∨ n = name := by
  rw [addName] at h
  split at h
  · exact .inl h
  · exact (List.mem_append.mp h).imp id List.mem_singleton.mp

theorem mem_of_foldl_addName {names met : List String} {n : String}
    (h : n ∈ met.foldl addName names) : n ∈ names ∨ n ∈ met := by
  induction met generalizing names with
  | nil => exact .inl h
  | cons name rest ih =>
    obtain h | later := ih h
    · obtain old | rfl := mem_of_addName h
      · exact .inl old
      · exact .inr List.mem_cons_self
    · exact .inr (List.mem_cons_of_mem _ later)

/-- The references of a query are met in it. -/
theorem Sql.Query.met_of_mem_references {query : Query} {n : String}
    (h : n ∈ query.references) : Visit.relation n ∈ query.visits := by
  obtain none | member := mem_of_foldl_addName h
  · cases none
  · obtain ⟨visit, met, named⟩ := List.mem_filterMap.mp member
    cases visit with
    | expr _ => cases named
    | relation own =>
      cases named
      exact met

namespace ViewGraph

variable {views : OrderedMap String View}

theorem get?_ofViews (key : String) : (ofViews views).get? key = (views.get? key).map fun view =>
    (view.query.references.map Text.foldLower).filter views.contains :=
  OrderedMap.get?_mapValues _ views key

theorem closed_ofViews (views : OrderedMap String View) : (ofViews views).Closed := by
  intro key d read
  rw [reads, get?_ofViews] at read
  rw [OrderedMap.mem_keys_iff, OrderedMap.contains, get?_ofViews, Option.isSome_map]
  cases known : views.get? key with
  | none =>
    rw [known] at read
    cases read
  | some view =>
    rw [known] at read
    exact (List.mem_filter.mp read).2

theorem reads_of_none {key : String} (missing : views.get? key = none) :
    (ofViews views).reads key = [] := by
  rw [reads, get?_ofViews, missing]
  rfl

/-- A view that is met by the query of another one is among those it reads. -/
theorem mem_reads {key name : String} {view : View} (known : views.get? key = some view)
    (met : Visit.relation name ∈ view.query.visits)
    (found : views.contains (Text.foldLower name) = true) :
    Text.foldLower name ∈ (ofViews views).reads key := by
  rw [reads, get?_ofViews, known]
  exact List.mem_filter.mpr ⟨Sql.Query.mem_references met, found⟩

end ViewGraph

namespace Catalog

/-- The keys of the views that a view reads. -/
def reads (catalog : Catalog) : String → List String := (ViewGraph.ofViews catalog.views).reads

/-- The columns of a view depend only on the tables and on the views that it reads. -/
theorem viewColumns_congr {entered a b : Catalog} {key : String} {view : View}
    (known : entered.views.get? key = some view)
    (tables : ∀ k, a.tables.get? k = b.tables.get? k)
    (missing : ∀ k, entered.views.get? k = none → a.views.get? k = b.views.get? k)
    (read : ∀ d ∈ entered.reads key, a.views.get? d = b.views.get? d) :
    a.viewColumns view = b.viewColumns view := by
  have agree : a.Agree b view.query.visits := by
    intro name met
    refine agreeAt_of_get? (tables _) ?_
    cases found : entered.views.get? (Text.foldLower name) with
    | none => exact missing _ found
    | some other =>
      exact read _ (ViewGraph.mem_reads known met (OrderedMap.contains_iff.mpr ⟨other, found⟩))
  rw [viewColumns, viewColumns, select, select, view.query.columnsIn_congr (agree.alike [])]

/-- The views under the keys of `done` are resolved, the others are as they were entered. A
resolved view has the columns that its query returns in this same catalog. -/
structure Resolved (entered : Catalog) (done : String → Prop) (catalog : Catalog) : Prop where
  tables : ∀ key, catalog.tables.get? key = entered.tables.get? key
  todo : ∀ key, ¬done key → catalog.views.get? key = entered.views.get? key
  missing : ∀ key, entered.views.get? key = none → catalog.views.get? key = none
  grounded : ∀ key view, done key → entered.views.get? key = some view →
    Grounded entered.reads key → ∃ columns, catalog.viewColumns view = .ok columns ∧
      catalog.views.get? key = some { view with columns }
  ungrounded : ∀ key view, done key → entered.views.get? key = some view →
    ¬Grounded entered.reads key → catalog.views.get? key = some { view with cyclic := true }

variable {entered a b : Catalog}

theorem grounded_of_missing {key : String} (missing : entered.views.get? key = none) :
    Grounded entered.reads key := by
  refine .intro key fun d read => ?_
  rw [reads, ViewGraph.reads_of_none missing] at read
  cases read

/-- Where two catalogs have resolved the same views, they have resolved them alike. -/
theorem Resolved.unique {doneA doneB : String → Prop} (ha : Resolved entered doneA a)
    (hb : Resolved entered doneB b)
    (closedA : ∀ k, doneA k → Grounded entered.reads k → ∀ d ∈ entered.reads k, doneA d)
    (closedB : ∀ k, doneB k → Grounded entered.reads k → ∀ d ∈ entered.reads k, doneB d)
    {key : String} (isGrounded : Grounded entered.reads key) (inA : doneA key) (inB : doneB key) :
    a.views.get? key = b.views.get? key := by
  -- by what the view reads: where that has the same columns, so has the view
  induction isGrounded with
  | intro key ends ih =>
    have isGrounded : Grounded entered.reads key := .intro key ends
    cases known : entered.views.get? key with
    | none => rw [ha.missing key known, hb.missing key known]
    | some view =>
      obtain ⟨ca, ofA, storedA⟩ := ha.grounded key view inA known isGrounded
      obtain ⟨cb, ofB, storedB⟩ := hb.grounded key view inB known isGrounded
      have same : a.viewColumns view = b.viewColumns view := by
        refine viewColumns_congr known ?_ ?_ ?_
        · exact fun k => (ha.tables k).trans (hb.tables k).symm
        · exact fun k none => (ha.missing k none).trans (hb.missing k none).symm
        · exact fun d hd => ih d hd (closedA key inA isGrounded d hd)
            (closedB key inB isGrounded d hd)
      rw [ofA, ofB] at same
      cases same
      rw [storedA, storedB]

/-- What holds when the views of `order` have been resolved; `cyclic` was found before. -/
structure Halfway (entered : Catalog) (cyclic order : List String)
    (state : Catalog × List String) : Prop where
  resolved : Resolved entered (· ∈ order) state.1
  start : cyclic ⊆ state.2
  blocked : ∀ key ∈ state.2, ¬Grounded entered.reads key
  complete : ∀ key ∈ order, ¬Grounded entered.reads key → key ∈ state.2

theorem read_mem_order {cyclic order : List String} {key d : String}
    (circles : ∀ k ∈ cyclic, ¬Grounded entered.reads k)
    (after : ∀ d ∈ entered.reads key, d ∈ order ∨ d ∈ cyclic ∧ key ∈ cyclic)
    (isGrounded : Grounded entered.reads key) (read : d ∈ entered.reads key) : d ∈ order := by
  rcases after d read with earlier | ⟨hd, _⟩
  · exact earlier
  · exact absurd (isGrounded.of_read read) (circles d hd)

/-- What a grounded key of the order reads stands in the order. -/
theorem reads_mem_order {cyclic order : List String}
    (settled : ViewOrder.Settled (.ofViews entered.views) cyclic order)
    (circles : ∀ key ∈ cyclic, ¬Grounded entered.reads key) {key : String} (member : key ∈ order)
    (isGrounded : Grounded entered.reads key) : ∀ d ∈ entered.reads key, d ∈ order := by
  induction settled with
  | nil => cases member
  | snoc before new after ih =>
    intro d read
    rcases List.mem_append.mp member with old | last
    · exact List.mem_append_left _ (ih old d read)
    · rw [List.mem_singleton.mp last] at read isGrounded
      exact List.mem_append_left _ (read_mem_order circles after isGrounded read)

/-- Whether a view is left without columns, told by what has been left so far. -/
theorem Halfway.blocks_iff {cyclic order : List String} {state : Catalog × List String}
    (half : Halfway entered cyclic order state) {key : String}
    (after : ∀ d ∈ entered.reads key, d ∈ order ∨ d ∈ cyclic ∧ key ∈ cyclic) :
    (state.2.contains key || (entered.reads key).any state.2.contains) = true ↔
      ¬Grounded entered.reads key := by
  rw [Bool.or_eq_true, List.contains_iff_mem, List.any_eq_true]
  constructor
  · rintro (member | ⟨d, read, member⟩) isGrounded
    · exact half.blocked key member isGrounded
    · exact half.blocked d (List.contains_iff_mem.mp member) (isGrounded.of_read read)
  · intro notGrounded
    by_cases member : key ∈ state.2
    · exact .inl member
    refine .inr (Classical.byContradiction fun none => notGrounded (.intro key fun d read => ?_))
    have free : d ∉ state.2 := fun h => none ⟨d, read, List.contains_iff_mem.mpr h⟩
    rcases after d read with earlier | ⟨hd, _⟩
    · exact Classical.byContradiction fun h => free (half.complete d earlier h)
    · exact absurd (half.start hd) free

theorem Halfway.resolveView_of_grounded {cyclic order left : List String} {catalog : Catalog}
    {key : String} {view : View} (half : Halfway entered cyclic order (catalog, left))
    (new : key ∉ order) (after : ∀ d ∈ entered.reads key, d ∈ order ∨ d ∈ cyclic ∧ key ∈ cyclic)
    (known : entered.views.get? key = some view) (isGrounded : Grounded entered.reads key) :
    resolveView (.ofViews entered.views) (catalog, left) key = do
      let columns ← catalog.viewColumns view
      return (catalog.putView key { view with columns }, left) := by
  have stored : catalog.views.get? key = some view := (half.resolved.todo key new).trans known
  have free : ¬(left.contains key || (entered.reads key).any left.contains) = true :=
    mt (half.blocks_iff after).mp (not_not_intro isGrounded)
  rw [resolveView, stored]
  exact if_neg free

theorem Halfway.resolveView_of_not_grounded {cyclic order left : List String} {catalog : Catalog}
    {key : String} {view : View} (half : Halfway entered cyclic order (catalog, left))
    (new : key ∉ order) (after : ∀ d ∈ entered.reads key, d ∈ order ∨ d ∈ cyclic ∧ key ∈ cyclic)
    (known : entered.views.get? key = some view) (notGrounded : ¬Grounded entered.reads key) :
    resolveView (.ofViews entered.views) (catalog, left) key =
      .ok (catalog.putView key { view with cyclic := true }, key :: left) := by
  have stored : catalog.views.get? key = some view := (half.resolved.todo key new).trans known
  have blocked : (left.contains key || (entered.reads key).any left.contains) = true :=
    (half.blocks_iff after).mpr notGrounded
  rw [resolveView, stored]
  exact if_pos blocked

theorem Halfway.resolveView_of_missing {cyclic order : List String}
    {state : Catalog × List String} {key : String} (half : Halfway entered cyclic order state)
    (new : key ∉ order) (missing : entered.views.get? key = none) :
    resolveView (.ofViews entered.views) state key = .ok state := by
  rw [resolveView, (half.resolved.todo key new).trans missing]

/-- Storing a view that is not in the order leaves the columns of those whose reads are in it. -/
theorem viewColumns_putView {order : List String} {catalog : Catalog} {key k : String}
    {old view stored : View} (known : entered.views.get? key = some old) (new : key ∉ order)
    (hk : entered.views.get? k = some view) (inside : ∀ d ∈ entered.reads k, d ∈ order) :
    (catalog.putView key stored).viewColumns view = catalog.viewColumns view := by
  refine viewColumns_congr hk (fun _ => rfl) ?_ ?_
  · intro x none
    refine OrderedMap.get?_put_of_ne _ _ fun same => ?_
    rw [same, known] at none
    cases none
  · intro d read
    exact OrderedMap.get?_put_of_ne _ _ fun same => new (same ▸ inside d read)

/-- Stores a view that is resolved as it should be. -/
theorem Resolved.put {order : List String} {catalog : Catalog} {key : String} {view stored : View}
    (resolved : Resolved entered (· ∈ order) catalog) (known : entered.views.get? key = some view)
    (new : key ∉ order)
    (inside : ∀ k ∈ order ++ [key], Grounded entered.reads k → ∀ d ∈ entered.reads k, d ∈ order)
    (right : Grounded entered.reads key →
      ∃ columns, catalog.viewColumns view = .ok columns ∧ stored = { view with columns })
    (wrong : ¬Grounded entered.reads key → stored = { view with cyclic := true }) :
    Resolved entered (· ∈ order ++ [key]) (catalog.putView key stored) where
  tables := resolved.tables
  todo k out := by
    have other : k ≠ key := fun same => out (List.mem_append_right _ (same ▸ List.mem_cons_self))
    exact (OrderedMap.get?_put_of_ne _ _ other).trans
      (resolved.todo k fun h => out (List.mem_append_left _ h))
  missing k none := by
    have other : k ≠ key := by
      rintro rfl
      rw [known] at none
      cases none
    exact (OrderedMap.get?_put_of_ne _ _ other).trans (resolved.missing k none)
  grounded k other member hk isGrounded := by
    rw [viewColumns_putView known new hk (inside k member isGrounded)]
    by_cases same : k = key
    · subst same
      rw [known] at hk
      cases hk
      obtain ⟨columns, hc, rfl⟩ := right isGrounded
      exact ⟨columns, hc, OrderedMap.get?_put_self _ _ _⟩
    · have member' : k ∈ order := by simpa [same] using member
      obtain ⟨columns, hc, stored'⟩ := resolved.grounded k other member' hk isGrounded
      exact ⟨columns, hc, (OrderedMap.get?_put_of_ne _ _ same).trans stored'⟩
  ungrounded k other member hk notGrounded := by
    by_cases same : k = key
    · subst same
      rw [known] at hk
      cases hk
      rw [wrong notGrounded]
      exact OrderedMap.get?_put_self _ _ _
    · have member' : k ∈ order := by simpa [same] using member
      exact (OrderedMap.get?_put_of_ne _ _ same).trans
        (resolved.ungrounded k other member' hk notGrounded)

/-- A key that stands for no view changes nothing. -/
theorem Halfway.skip {cyclic order : List String} {state : Catalog × List String} {key : String}
    (half : Halfway entered cyclic order state) (none : entered.views.get? key = none) :
    Halfway entered cyclic (order ++ [key]) state where
  start := half.start
  blocked := half.blocked
  complete k member notGrounded := by
    rcases List.mem_append.mp member with old | last
    · exact half.complete k old notGrounded
    · rw [List.mem_singleton.mp last] at notGrounded
      exact absurd (grounded_of_missing none) notGrounded
  resolved := {
    tables := half.resolved.tables
    todo := fun k out => half.resolved.todo k fun h => out (List.mem_append_left _ h)
    missing := half.resolved.missing
    grounded := by
      intro k view member known isGrounded
      rcases List.mem_append.mp member with old | last
      · exact half.resolved.grounded k view old known isGrounded
      · rw [List.mem_singleton.mp last, none] at known
        cases known
    ungrounded := by
      intro k view member known notGrounded
      rcases List.mem_append.mp member with old | last
      · exact half.resolved.ungrounded k view old known notGrounded
      · rw [List.mem_singleton.mp last, none] at known
        cases known }

theorem resolveView_halfway {cyclic order : List String} {state next : Catalog × List String}
    {key : String} (settled : ViewOrder.Settled (.ofViews entered.views) cyclic order)
    (circles : ∀ k ∈ cyclic, ¬Grounded entered.reads k) (new : key ∉ order)
    (after : ∀ d ∈ entered.reads key, d ∈ order ∨ d ∈ cyclic ∧ key ∈ cyclic)
    (half : Halfway entered cyclic order state)
    (step : resolveView (.ofViews entered.views) state key = .ok next) :
    Halfway entered cyclic (order ++ [key]) next := by
  obtain ⟨catalog, left⟩ := state
  have inside : ∀ k ∈ order ++ [key], Grounded entered.reads k →
      ∀ d ∈ entered.reads k, d ∈ order := by
    intro k member isGrounded d read
    rcases List.mem_append.mp member with old | last
    · exact reads_mem_order settled circles old isGrounded d read
    · rw [List.mem_singleton.mp last] at read isGrounded
      exact read_mem_order circles after isGrounded read
  cases known : entered.views.get? key with
  | none =>
    rw [half.resolveView_of_missing new known] at step
    cases step
    exact half.skip known
  | some view =>
    by_cases isGrounded : Grounded entered.reads key
    · rw [half.resolveView_of_grounded new after known isGrounded] at step
      obtain ⟨columns, hc, hs⟩ := bind_eq_ok step
      cases hs
      refine ⟨half.resolved.put known new inside ?_ ?_, half.start, half.blocked, ?_⟩
      · exact fun _ => ⟨columns, hc, rfl⟩
      · exact fun wrong => absurd isGrounded wrong
      · intro k member notGrounded
        rcases List.mem_append.mp member with old | last
        · exact half.complete k old notGrounded
        · exact absurd (List.mem_singleton.mp last ▸ isGrounded) notGrounded
    · rw [half.resolveView_of_not_grounded new after known isGrounded] at step
      cases step
      refine ⟨half.resolved.put known new inside ?_ ?_, ?_, ?_, ?_⟩
      · exact fun right => absurd right isGrounded
      · exact fun _ => rfl
      · exact fun k h => List.mem_cons_of_mem _ (half.start h)
      · intro k member
        cases member with
        | head => exact isGrounded
        | tail _ h => exact half.blocked k h
      · intro k member notGrounded
        rcases List.mem_append.mp member with old | last
        · exact List.mem_cons_of_mem _ (half.complete k old notGrounded)
        · rw [List.mem_singleton.mp last]
          exact List.mem_cons_self

/-- Nothing fails while views are resolved of which all can be. -/
theorem resolveView_succeeds {cyclic order : List String} {state : Catalog × List String}
    {solution : Catalog} {key : String}
    (settled : ViewOrder.Settled (.ofViews entered.views) cyclic order)
    (circles : ∀ k ∈ cyclic, ¬Grounded entered.reads k) (new : key ∉ order)
    (after : ∀ d ∈ entered.reads key, d ∈ order ∨ d ∈ cyclic ∧ key ∈ cyclic)
    (half : Halfway entered cyclic order state)
    (solved : Resolved entered (fun _ => True) solution) :
    ∃ next, resolveView (.ofViews entered.views) state key = .ok next := by
  obtain ⟨catalog, left⟩ := state
  cases known : entered.views.get? key with
  | none => exact ⟨_, half.resolveView_of_missing new known⟩
  | some view =>
    by_cases isGrounded : Grounded entered.reads key
    -- what the view reads is resolved by now, and there is only one way to resolve it
    · have same : catalog.viewColumns view = solution.viewColumns view := by
        refine viewColumns_congr known ?_ ?_ ?_
        · exact fun k => (half.resolved.tables k).trans (solved.tables k).symm
        · exact fun k none => (half.resolved.missing k none).trans (solved.missing k none).symm
        · intro d read
          have earlier := read_mem_order circles after isGrounded read
          exact half.resolved.unique solved (fun k => reads_mem_order settled circles)
            (fun _ _ _ _ _ => trivial) (isGrounded.of_read read) earlier trivial
      obtain ⟨columns, hc, _⟩ := solved.grounded key view trivial known isGrounded
      refine ⟨(catalog.putView key { view with columns }, left), ?_⟩
      rw [half.resolveView_of_grounded new after known isGrounded, same]
      exact bind_of_ok hc _
    · exact ⟨_, half.resolveView_of_not_grounded new after known isGrounded⟩

theorem foldlM_halfway {cyclic order : List String}
    (settled : ViewOrder.Settled (.ofViews entered.views) cyclic order)
    (circles : ∀ k ∈ cyclic, ¬Grounded entered.reads k) {state : Catalog × List String}
    (run : order.foldlM (resolveView (.ofViews entered.views)) (entered, cyclic) = .ok state) :
    Halfway entered cyclic order state := by
  induction settled generalizing state with
  | nil =>
    cases run
    refine ⟨⟨fun _ => rfl, fun _ _ => rfl, fun _ h => h, ?_, ?_⟩, fun _ h => h, circles, ?_⟩
    · intro _ _ member
      cases member
    · intro _ _ member
      cases member
    · intro _ member
      cases member
  | snoc before new after ih =>
    rw [List.foldlM_append] at run
    obtain ⟨middle, first, last⟩ := bind_eq_ok run
    rw [List.foldlM_cons] at last
    obtain ⟨next, step, finish⟩ := bind_eq_ok last
    cases finish
    exact resolveView_halfway before circles new after (ih first) step

theorem foldlM_succeeds {cyclic order : List String} {solution : Catalog}
    (settled : ViewOrder.Settled (.ofViews entered.views) cyclic order)
    (circles : ∀ k ∈ cyclic, ¬Grounded entered.reads k)
    (solved : Resolved entered (fun _ => True) solution) :
    ∃ state, order.foldlM (resolveView (.ofViews entered.views)) (entered, cyclic) = .ok state := by
  induction settled with
  | nil => exact ⟨_, rfl⟩
  | snoc before new after ih =>
    obtain ⟨middle, first⟩ := ih
    have half := foldlM_halfway before circles first
    obtain ⟨next, step⟩ := resolveView_succeeds before circles new after half solved
    refine ⟨next, ?_⟩
    rw [List.foldlM_append, bind_of_ok first, List.foldlM_cons, bind_of_ok step]
    rfl

theorem ofGraph_views (entered : Catalog) :
    ViewOrder.Sound (.ofViews entered.views) (ViewOrder.ofGraph (.ofViews entered.views)) ∧
      ∀ key view, entered.views.get? key = some view →
        key ∈ (ViewOrder.ofGraph (.ofViews entered.views)).order := by
  obtain ⟨sound, all⟩ := ViewOrder.ofGraph_sound (ViewGraph.closed_ofViews entered.views)
  refine ⟨sound, fun key view known => all key ?_⟩
  rw [OrderedMap.mem_keys_iff, OrderedMap.contains, ViewGraph.get?_ofViews, known]
  rfl

/-- When the resolution of views ends well, each has the columns that its query returns in the
catalog it ends with. -/
theorem resolveViews_resolved {catalog : Catalog} (h : entered.resolveViews = .ok catalog) :
    Resolved entered (fun _ => True) catalog := by
  obtain ⟨sound, all⟩ := ofGraph_views entered
  rw [resolveViews] at h
  obtain ⟨⟨last, left⟩, run, finish⟩ := bind_eq_ok h
  cases finish
  have resolved := (foldlM_halfway sound.settled sound.circles run).resolved
  refine ⟨resolved.tables, fun _ h => absurd trivial h, resolved.missing, ?_, ?_⟩
  · exact fun key view _ known => resolved.grounded key view (all key view known) known
  · exact fun key view _ known => resolved.ungrounded key view (all key view known) known

/-- The resolution ends well if there is any catalog that it could end with. -/
theorem resolveViews_succeeds {solution : Catalog}
    (solved : Resolved entered (fun _ => True) solution) :
    ∃ catalog, entered.resolveViews = .ok catalog := by
  obtain ⟨sound, _⟩ := ofGraph_views entered
  obtain ⟨state, run⟩ := foldlM_succeeds sound.settled sound.circles solved
  exact ⟨state.1, bind_of_ok run _⟩

end Catalog

end TypedRows
