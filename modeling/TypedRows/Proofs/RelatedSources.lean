import TypedRows.Proofs.Outcome
import TypedRows.Schema.Resolve

/-! Lookups in sources of which the columns are related one by one. Whatever is looked up by name is
found in both or in neither, and what is found is related. -/

namespace TypedRows

open Sql

/-! Lists that are related element by element. -/

section Related

variable {α β : Type} {R : α → β → Prop} {xs : List α} {ys : List β}

theorem find?_related (h : List.Forall₂ R xs ys) {p : α → Bool} {q : β → Bool}
    (same : ∀ x y, R x y → p x = q y) : (xs.find? p = none ∧ ys.find? q = none) ∨
      ∃ x y, xs.find? p = some x ∧ ys.find? q = some y ∧ R x y := by
  induction h with
  | nil => exact .inl ⟨rfl, rfl⟩
  | @cons x y _ _ related _ ih =>
    rw [List.find?_cons, List.find?_cons, ← same x y related]
    cases p x with
    | true => exact .inr ⟨x, y, rfl, rfl, related⟩
    | false => exact ih

theorem filter_related (h : List.Forall₂ R xs ys) {p : α → Bool} {q : β → Bool}
    (same : ∀ x y, R x y → p x = q y) : List.Forall₂ R (xs.filter p) (ys.filter q) :=
  List.rel_filter (fun x y related => Bool.eq_iff_iff.mp (same x y related)) h

theorem map_eq_of_related (h : List.Forall₂ R xs ys) {γ : Type} {f : α → γ} {g : β → γ}
    (same : ∀ x y, R x y → f x = g y) : xs.map f = ys.map g := by
  induction h with
  | nil => rfl
  | cons related _ ih => rw [List.map_cons, List.map_cons, same _ _ related, ih]

theorem any_eq_of_related (h : List.Forall₂ R xs ys) {p : α → Bool} {q : β → Bool}
    (same : ∀ x y, R x y → p x = q y) : xs.any p = ys.any q := by
  induction h with
  | nil => rfl
  | cons related _ ih => rw [List.any_cons, List.any_cons, same _ _ related, ih]

theorem all_eq_of_related (h : List.Forall₂ R xs ys) {p : α → Bool} {q : β → Bool}
    (same : ∀ x y, R x y → p x = q y) : xs.all p = ys.all q := by
  induction h with
  | nil => rfl
  | cons related _ ih => rw [List.all_cons, List.all_cons, same _ _ related, ih]

end Related

/-- What the row number of a table is known by. -/
def Table.rows (table : Table) : String × Bool := (table.name, table.withoutRowid)

structure ByName (R : ResultColumn → ResultColumn → Prop) : Prop where
  name : ∀ {x y}, R x y → x.name = y.name
  refl : ∀ x, R x x

namespace Source

/-- A natural join looks at the names of the columns alone. -/
theorem equated_natural (sources : List Source) (columns : List ResultColumn) :
    equated sources columns .natural = (columns.map ResultColumn.name).filter fun name =>
      sources.any fun s => (s.columns.map ResultColumn.name).any fun p => Text.sameName p name := by
  simp only [equated, List.filter_map, List.any_map, Function.comp_def]

/-- The sources are found under the same name and have related columns. -/
structure Related (R : ResultColumn → ResultColumn → Prop) (a b : Catalog) (s t : Source) :
    Prop where
  reference : s.reference = t.reference
  joinedColumns : s.joinedColumns = t.joinedColumns
  hidden : s.hidden = t.hidden
  rows : (s.object.bind a.table?).map Table.rows = (t.object.bind b.table?).map Table.rows
  columns : List.Forall₂ R s.columns t.columns

variable {R : ResultColumn → ResultColumn → Prop} {a b : Catalog} {s t : Source}

theorem Related.hasName (h : Related R a b s t) (reference : String) :
    s.hasName reference = t.hasName reference := by
  rw [Source.hasName, Source.hasName, h.reference]

theorem Related.column? (byName : ByName R) (h : Related R a b s t) (name : String) :
    (s.column? name = none ∧ t.column? name = none) ∨
      ∃ x y, s.column? name = some x ∧ t.column? name = some y ∧ R x y :=
  find?_related h.columns fun _ _ related => by rw [byName.name related]

theorem Related.starColumns (byName : ByName R) (h : Related R a b s t) :
    List.Forall₂ R s.starColumns t.starColumns :=
  filter_related h.columns fun _ _ related => by rw [byName.name related, h.joinedColumns]

end Source

namespace Scope

def Related (R : ResultColumn → ResultColumn → Prop) (a b : Scope) : Prop :=
  List.Forall₂ (Source.Related R a.catalog b.catalog) a.sources b.sources

variable {R : ResultColumn → ResultColumn → Prop} {a b : Scope}

theorem rowid?_related {s t : Source} (related : s.Related R a.catalog b.catalog t)
    (name : String) : a.rowid? s name = b.rowid? t name := by
  have rows := related.rows
  rw [Scope.rowid?, Scope.rowid?, related.reference]
  cases found : s.object.bind a.catalog.table? with
  | none =>
    rw [found, Option.map_none, eq_comm, Option.map_eq_none_iff] at rows
    rw [rows]
  | some table =>
    rw [found, Option.map_some, eq_comm, Option.map_eq_some_iff] at rows
    obtain ⟨table', found', same⟩ := rows
    obtain ⟨name', rowid⟩ := Prod.mk.inj same
    rw [found']
    dsimp only
    rw [name', rowid]

theorem Related.source? (h : Related R a b) (reference : String) :
    (a.source? reference = none ∧ b.source? reference = none) ∨
      ∃ s t, a.source? reference = some s ∧ b.source? reference = some t ∧
        s.Related R a.catalog b.catalog t :=
  find?_related h fun _ _ related => related.hasName reference

theorem Related.qualified (byName : ByName R) (h : Related R a b) (table name : String) :
    Together R (a.qualified table name) (b.qualified table name) := by
  rw [Scope.qualified, Scope.qualified]
  obtain ⟨none, none'⟩ | ⟨s, t, found, found', related⟩ := h.source? table
  · rw [none, none']
    exact .error _
  · rw [found, found']
    dsimp only
    rw [← related.hidden, rowid?_related related]
    cases s.hidden with
    | true => exact .ok (byName.refl _)
    | false =>
      simp only [Bool.false_eq_true, if_false]
      obtain ⟨none, none'⟩ | ⟨x, y, is, is', same⟩ := related.column? byName name
      · rw [none, none']
        exact .refl byName.refl _
      · rw [is, is']
        exact .ok same

def Candidate (R : ResultColumn → ResultColumn → Prop) (x y : Source × ResultColumn) : Prop :=
  x.1.joinedColumns = y.1.joinedColumns ∧ R x.2 y.2

theorem Related.candidates (byName : ByName R) (h : Related R a b) (name : String) :
    List.Forall₂ (Candidate R) (a.candidates name) (b.candidates name) := by
  refine List.rel_flatMap h fun s t related => ?_
  rw [List.forall₂_map_left_iff, List.forall₂_map_right_iff]
  have same := filter_related related.columns
    (p := fun c => Text.sameName c.name name) (q := fun c => Text.sameName c.name name)
    fun x y same => by rw [byName.name same]
  exact same.imp fun x y same => ⟨related.joinedColumns, same⟩

/-- Without a column of the name the row number of the only source may be meant. -/
theorem Related.onlyRowid (h : Related R a b) (name : String) :
    (∃ s t column, a.sources = [s] ∧ b.sources = [t] ∧ a.rowid? s name = column ∧
        b.rowid? t name = column) ∨
      (∀ s, a.sources ≠ [s]) ∧ ∀ t, b.sources ≠ [t] := by
  have sources : List.Forall₂ _ a.sources b.sources := h
  rcases found : a.sources with _ | ⟨only, _ | ⟨next, rest⟩⟩
  · rw [found, List.forall₂_nil_left_iff] at sources
    exact .inr ⟨by simp, by simp [sources]⟩
  · rw [found] at sources
    obtain ⟨only', others', related, none, found'⟩ := List.forall₂_cons_left_iff.mp sources
    rw [List.forall₂_nil_left_iff] at none
    exact .inl ⟨only, only', _, rfl, none ▸ found', rowid?_related related name, rfl⟩
  · rw [found] at sources
    obtain ⟨only', others', _, others, found'⟩ := List.forall₂_cons_left_iff.mp sources
    obtain ⟨next', rest', _, _, rfl⟩ := List.forall₂_cons_left_iff.mp others
    exact .inr ⟨by simp, by simp [found']⟩

theorem Related.unqualified (byName : ByName R) (h : Related R a b) (name : String) :
    Together R (a.unqualified name) (b.unqualified name) := by
  rw [Scope.unqualified, Scope.unqualified]
  have candidates := h.candidates byName name
  cases found : a.candidates name with
  | nil =>
    rw [found, List.forall₂_nil_left_iff] at candidates
    rw [candidates]
    dsimp only
    rw [any_eq_of_related h fun _ _ related => related.hidden]
    split
    · exact .ok (byName.refl _)
    · obtain ⟨s, t, column, only, only', row, row'⟩ | ⟨several, several'⟩ := h.onlyRowid name
      · rw [only, only']
        dsimp only
        rw [row, row']
        exact .refl byName.refl _
      · split
        · rename_i only
          exact absurd only (several _)
        · exact .error _
  | cons first others =>
    rw [found] at candidates
    obtain ⟨first', others', related, rest, found'⟩ := List.forall₂_cons_left_iff.mp candidates
    have joined : (others.all fun p => p.1.joinedColumns.any fun u => Text.sameName u name) =
        others'.all fun p => p.1.joinedColumns.any fun u => Text.sameName u name :=
      all_eq_of_related rest fun _ _ related => by rw [related.1]
    rw [found']
    change Together _ (if (others.all fun p => p.1.joinedColumns.any fun u =>
      Text.sameName u name) = true then .ok first.2 else _) _
    rw [joined]
    change Together _ (if _ then _ else .error _) (if _ then .ok first'.2 else .error _)
    split
    · exact .ok related.2
    · exact .error _

theorem Related.column (byName : ByName R) (h : Related R a b) (ref : ColumnRef) :
    Together R (a.column ref) (b.column ref) := by
  unfold Scope.column
  cases ref.table with
  | some table => exact h.qualified byName table ref.column
  | none => exact h.unqualified byName ref.column

theorem Related.star (byName : ByName R) (h : Related R a b) :
    Together (List.Forall₂ R) a.star b.star := by
  have empty : a.sources.isEmpty = b.sources.isEmpty := by
    rw [Bool.eq_iff_iff, List.isEmpty_iff_length_eq_zero, List.isEmpty_iff_length_eq_zero,
      h.length_eq]
  rw [Scope.star, Scope.star, empty]
  split
  · exact .error _
  · exact .ok (List.rel_flatMap h fun _ _ related => related.starColumns byName)

theorem Related.starOf (h : Related R a b) (table : String) :
    Together (List.Forall₂ R) (a.starOf table) (b.starOf table) := by
  rw [Scope.starOf, Scope.starOf]
  obtain ⟨none, none'⟩ | ⟨s, t, found, found', related⟩ := h.source? table
  · rw [none, none']
    exact .error _
  · rw [found, found']
    exact .ok related.columns

end Scope

end TypedRows
