import Mathlib.Data.Set.Finite.List
import Mathlib.Order.Monotone.Basic
import Mathlib.Order.Preorder.Finite
import Mathlib.Order.WellFounded
import TypedRows.Proofs.UnreadObjects

/-! Which views are left without columns: those from which a circle of reading is reached. All
others are resolved once each, at a time when what they read is resolved. -/

namespace TypedRows

open Relation Sql

namespace Grounded

variable {reads : String → List String} {key : String}

def Reads (reads : String → List String) (a b : String) : Prop := b ∈ reads a

theorem of_way (h : Grounded reads key) {k : String} (way : ReflTransGen (Reads reads) key k) :
    Grounded reads k := by
  induction way with
  | refl => exact h
  | tail _ step ih => exact ih.of_read step

theorem not_circle (h : Grounded reads key) : ¬TransGen (Reads reads) key key := by
  induction h with
  | intro key _ ih =>
    intro circle
    obtain ⟨next, step, back⟩ := TransGen.head'_iff.mp circle
    -- the next key lies on the same circle
    exact ih next step (TransGen.tail' back step)

theorem of_acc (h : Acc (fun a b => Reads reads b a) key) : Grounded reads key := by
  induction h with
  | intro key _ ih => exact .intro key ih

/-- What is not grounded leads to a circle, since there are not endlessly many keys. -/
theorem exists_circle {keys : List String} (closed : ∀ k, reads k ⊆ keys)
    (h : ¬Grounded reads key) :
    ∃ k, ReflTransGen (Reads reads) key k ∧ TransGen (Reads reads) k k := by
  have endless := mt of_acc h
  rw [acc_iff_isEmpty_descending_chain, not_isEmpty_iff] at endless
  obtain ⟨way, start, steps⟩ := endless
  have inside : ∀ n, way (n + 1) ∈ {k | k ∈ keys} := fun n => closed _ (steps n)
  obtain ⟨m, n, before, again⟩ :=
    Set.Finite.exists_lt_map_eq_of_forall_mem inside (List.finite_toSet keys)
  refine ⟨way (m + 1), ?_, ?_⟩
  · rw [← start]
    exact Nat.rel_of_forall_rel_succ_of_le (ReflTransGen (Reads reads))
      (fun k => ReflTransGen.single (steps k)) (Nat.zero_le _)
  · have around : TransGen (Reads reads) (way (m + 1)) (way (n + 1)) :=
      Nat.rel_of_forall_rel_succ_of_lt (TransGen (Reads reads))
        (fun k => TransGen.single (steps k)) (Nat.succ_lt_succ before)
    rw [← again] at around
    exact around

theorem not_iff_circle {keys : List String} (closed : ∀ k, reads k ⊆ keys) :
    ¬Grounded reads key ↔
      ∃ k, ReflTransGen (Reads reads) key k ∧ TransGen (Reads reads) k k := by
  constructor
  · exact exists_circle closed
  · rintro ⟨k, way, circle⟩ grounded
    exact (grounded.of_way way).not_circle circle

end Grounded

namespace ViewOrder

variable {graph : ViewGraph}

theorem Settled.nodup {cyclic order : List String} (h : Settled graph cyclic order) :
    order.Nodup := by
  induction h with
  | nil => exact List.nodup_nil
  | snoc _ new _ ih =>
    rw [← List.concat_eq_append]
    exact ih.concat new

/-- The order up to a key, and what is known of the key at that point. -/
theorem Settled.at_key {cyclic before rest : List String} {key : String}
    (h : Settled graph cyclic (before ++ key :: rest)) :
    Settled graph cyclic before ∧ key ∉ before ∧
      ∀ d ∈ graph.reads key, d ∈ before ∨ d ∈ cyclic ∧ key ∈ cyclic := by
  generalize split : before ++ key :: rest = order at h
  induction h generalizing rest with
  | nil => simp at split
  | @snoc order last settled new after ih =>
    obtain rfl | ⟨middle, final, rfl⟩ := List.eq_nil_or_concat' rest
    · obtain ⟨rfl, same⟩ := List.append_inj' split rfl
      cases same
      exact ⟨settled, new, after⟩
    · rw [← List.cons_append, ← List.append_assoc] at split
      exact ih (List.append_inj' split rfl).1

theorem order_visit_subset (closed : graph.Closed) {fuel : Nat} {stack : List String}
    {state : ViewOrder} {key : String} (known : key ∈ graph.keys)
    (inside : state.order ⊆ graph.keys) :
    (visit graph fuel stack state key).order ⊆ graph.keys := by
  induction fuel generalizing stack state key with
  | zero => exact inside
  | succ fuel ih =>
    rw [visit]
    split
    · exact inside
    · split
      · exact inside
      · refine List.append_subset.mpr ⟨?_, List.cons_subset.mpr ⟨known, List.nil_subset _⟩⟩
        exact List.foldlRecOn (motive := fun state : ViewOrder => state.order ⊆ graph.keys) _ _
          inside fun _ inside d member => ih (closed key member) inside

theorem order_ofGraph_perm (closed : graph.Closed) : (ofGraph graph).order.Perm graph.keys := by
  obtain ⟨sound, all⟩ := ofGraph_sound closed
  have inside : (ofGraph graph).order ⊆ graph.keys :=
    List.foldlRecOn (motive := fun state : ViewOrder => state.order ⊆ graph.keys) _ _
      (List.nil_subset _) fun _ inside _ known => order_visit_subset closed known inside
  refine (List.perm_ext_iff_of_nodup sound.settled.nodup graph.nodup).mpr fun key => ?_
  exact ⟨fun member => inside member, all key⟩

end ViewOrder

namespace Catalog

theorem keys_ofViews (views : OrderedMap String View) :
    (ViewGraph.ofViews views).keys = views.keys := by
  simp [OrderedMap.keys, ViewGraph.ofViews, OrderedMap.mapValues, Function.comp_def]

/-- The query of the first view names the second one. -/
def DependsOn (catalog : Catalog) (a b : String) : Prop :=
  ∃ view, catalog.views.get? a = some view ∧
    (∃ name ∈ view.query.references, Text.foldLower name = b) ∧ catalog.views.contains b = true

theorem dependsOn_iff {catalog : Catalog} {a b : String} :
    catalog.DependsOn a b ↔ b ∈ catalog.reads a := by
  rw [reads, ViewGraph.reads, ViewGraph.get?_ofViews, DependsOn]
  cases catalog.views.get? a with
  | none => simp
  | some view => simp [List.mem_filter, List.mem_map]

theorem dependsOn_eq (catalog : Catalog) :
    catalog.DependsOn = Grounded.Reads catalog.reads := by
  funext a b
  exact propext dependsOn_iff

def ReachesCircle (catalog : Catalog) (key : String) : Prop :=
  ∃ k, ReflTransGen catalog.DependsOn key k ∧ TransGen catalog.DependsOn k k

theorem reachesCircle_iff {catalog : Catalog} {key : String} :
    catalog.ReachesCircle key ↔ ¬Grounded catalog.reads key := by
  rw [ReachesCircle, dependsOn_eq]
  exact (Grounded.not_iff_circle (ViewGraph.closed_ofViews catalog.views)).symm

theorem unresolved_of_entered {items : List ScriptItem} {entered : Catalog}
    (built : items.foldlM enter empty = .ok entered) {key : String} {view : View}
    (known : entered.views.get? key = some view) : view.columns = [] ∧ view.cyclic = false := by
  obtain none | ⟨_, _, made⟩ := view_entered built known
  · cases none
  · obtain ⟨columns, cyclic, _⟩ := Addition.ofItem_view made
    exact ⟨columns, cyclic⟩

/-- When the turn of a view comes that is grounded, all that it reads is as it will stay. -/
theorem reads_final {entered catalog : Catalog} {cyclic before rest : List String} {key : String}
    (settled : ViewOrder.Settled (.ofViews entered.views) cyclic (before ++ key :: rest))
    (circles : ∀ k ∈ cyclic, ¬Grounded entered.reads k)
    (final : Resolved entered (fun _ => True) catalog) {state : Catalog × List String}
    (run : before.foldlM (resolveView (.ofViews entered.views)) (entered, cyclic) = .ok state)
    (isGrounded : Grounded entered.reads key) :
    ∀ d ∈ entered.reads key, d ∈ before ∧ state.1.views.get? d = catalog.views.get? d := by
  obtain ⟨earlier, _, after⟩ := settled.at_key
  intro d read
  have member := read_mem_order circles after isGrounded read
  have same := (foldlM_halfway earlier circles run).resolved.unique final
    (fun _ => reads_mem_order earlier circles) (fun _ _ _ _ _ => trivial)
    (isGrounded.of_read read) member trivial
  exact ⟨member, same⟩

theorem cyclic_of_resolved {items : List ScriptItem} {entered catalog : Catalog}
    (built : items.foldlM enter empty = .ok entered)
    (final : Resolved entered (fun _ => True) catalog) {key : String} {view : View}
    (stored : catalog.views.get? key = some view) :
    (view.cyclic = true ↔ entered.ReachesCircle key) ∧
      (view.cyclic = true → view.columns = []) := by
  rw [reachesCircle_iff]
  cases known : entered.views.get? key with
  | none =>
    rw [final.missing key known] at stored
    cases stored
  | some old =>
    obtain ⟨columns, cyclic⟩ := unresolved_of_entered built known
    by_cases isGrounded : Grounded entered.reads key
    · obtain ⟨_, _, found⟩ := final.grounded key old trivial known isGrounded
      rw [found] at stored
      cases stored
      simp [cyclic, isGrounded]
    · rw [final.ungrounded key old trivial known isGrounded] at stored
      cases stored
      simp [columns, isGrounded]

/-- The order in which the views of a catalog are resolved, with those found on circles. -/
def viewOrder (entered : Catalog) : ViewOrder := .ofGraph (.ofViews entered.views)

/-- A view is marked if and only if a circle can be reached from it, and then it has no columns.
Every view has one turn. When that of an unmarked view comes, all views it depends on have had
theirs and are as they will stay. -/
theorem resolveViews_cyclic_iff {items : List ScriptItem} {entered catalog : Catalog}
    (built : items.foldlM enter empty = .ok entered)
    (resolve : entered.resolveViews = .ok catalog) :
    (∀ key view, catalog.views.get? key = some view →
      (view.cyclic = true ↔ entered.ReachesCircle key) ∧
      (view.cyclic = true → view.columns = [])) ∧
    entered.viewOrder.order.Perm catalog.views.keys ∧
    ∀ before key rest, entered.viewOrder.order = before ++ key :: rest →
      ∃ halfway left, before.foldlM (resolveView (.ofViews entered.views))
          (entered, entered.viewOrder.cyclic) = .ok (halfway, left) ∧
        ∀ view, catalog.views.get? key = some view → view.cyclic = false →
          ∀ d, entered.DependsOn key d →
            d ∈ before ∧ halfway.views.get? d = catalog.views.get? d := by
  have final := resolveViews_resolved resolve
  obtain ⟨sound, _⟩ := ofGraph_views entered
  refine ⟨fun key view stored => cyclic_of_resolved built final stored, ?_, ?_⟩
  · rw [(resolveViews_inPlace resolve).2, ← keys_ofViews]
    exact ViewOrder.order_ofGraph_perm (ViewGraph.closed_ofViews entered.views)
  · intro before key rest split
    obtain ⟨last, run, _⟩ := bind_eq_ok resolve
    have run : entered.viewOrder.order.foldlM (resolveView (.ofViews entered.views))
        (entered, entered.viewOrder.cyclic) = .ok last := run
    have settled : ViewOrder.Settled (.ofViews entered.views) entered.viewOrder.cyclic
        entered.viewOrder.order := sound.settled
    rw [split] at run settled
    rw [List.foldlM_append] at run
    obtain ⟨state, run, _⟩ := bind_eq_ok run
    refine ⟨state.1, state.2, run, ?_⟩
    intro view stored straight d depends
    have isGrounded : Grounded entered.reads key := by
      rw [← not_not (a := Grounded entered.reads key), ← reachesCircle_iff,
        ← (cyclic_of_resolved built final stored).1, straight]
      exact Bool.false_ne_true
    exact reads_final settled sound.circles final run isGrounded d (dependsOn_iff.mp depends)

/-- `CREATE VIEW name AS SELECT * FROM read, ..` -/
def viewReading (name : String) (read : List String) : ScriptItem :=
  ⟨"", .createView ⟨name, [], ⟨false, [], .select ⟨[], [.star none []], "",
    read.map fun n => ⟨false, .comma, .table [⟨n, none⟩] false none [], none, .none⟩, [], none,
    false, [], [], none, []⟩, [], none, none, []⟩⟩, [], [], []⟩

/-- Two circles that share `b`, a view that reads one of them, and two views apart from them. -/
def overlapping : List ScriptItem :=
  [viewReading "d" ["a"], viewReading "b" ["a", "c"], viewReading "a" ["b"],
    viewReading "c" ["b"], viewReading "f" ["e"], viewReading "e" ["t"],
    ⟨"", .createTable ⟨"t", [⟨"x", none, true, false, none⟩], false⟩, [], [], []⟩]

theorem resolveViews_overlapping :
    ∃ entered catalog, overlapping.foldlM enter empty = .ok entered ∧
      entered.resolveViews = .ok catalog ∧
      entered.viewOrder.order = ["c", "b", "a", "d", "e", "f"] ∧
      (∃ view, catalog.views.get? "d" = some view ∧ view.columns = []) ∧
      entered.ReachesCircle "d" ∧ ¬entered.ReachesCircle "f" ∧
      ∃ halfway left, ["c", "b", "a", "d", "e"].foldlM (resolveView (.ofViews entered.views))
          (entered, entered.viewOrder.cyclic) = .ok (halfway, left) ∧
        halfway.views.get? "e" = catalog.views.get? "e" := by
  have found : (do
      let entered ← (overlapping.foldlM enter empty).toOption
      let catalog ← entered.resolveViews.toOption
      some (entered.viewOrder.order, entered.reads "f",
        (catalog.views.get? "d").map View.cyclic, (catalog.views.get? "f").map View.cyclic)) =
      some (["c", "b", "a", "d", "e", "f"], ["e"], some true, some false) := by decide +kernel
  obtain ⟨entered, built, found⟩ := Option.bind_eq_some_iff.mp found
  obtain ⟨catalog, resolve, found⟩ := Option.bind_eq_some_iff.mp found
  rw [toOption_eq_some] at built resolve
  simp only [Option.some.injEq, Prod.mk.injEq, Option.map_eq_some_iff] at found
  obtain ⟨order, reads, ⟨d, knownD, markedD⟩, ⟨f, knownF, markedF⟩⟩ := found
  obtain ⟨marked, _, turn⟩ := resolveViews_cyclic_iff built resolve
  obtain ⟨halfway, left, run, final⟩ := turn ["c", "b", "a", "d", "e"] "f" [] order
  have readE : entered.DependsOn "f" "e" := dependsOn_iff.mpr (by simp [reads])
  refine ⟨entered, catalog, built, resolve, order, ?_, ?_, ?_, ?_⟩
  · exact ⟨d, knownD, (marked "d" d knownD).2 markedD⟩
  · exact (marked "d" d knownD).1.mp markedD
  · rw [← (marked "f" f knownF).1, markedF]
    exact Bool.false_ne_true
  · exact ⟨halfway, left, run, (final f knownF markedF "e" readE).2⟩

end Catalog

end TypedRows
