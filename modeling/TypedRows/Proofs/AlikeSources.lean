import TypedRows.Proofs.AnnotationLayers
import TypedRows.Proofs.Nullability
import TypedRows.Proofs.RelatedSources

/-! Sources that differ in where their columns come from, but not in what a statement can see of
them. Whatever is looked up in them is found alike. -/

namespace TypedRows

open Sql

variable {inheritance : Inheritance}

namespace ResultColumn

/-- What a column inherits under a key. An outer join does away with `notNull`. -/
def inherits (inheritance : Inheritance) (column : ResultColumn) (key : String) : Option Value :=
  if column.joinedNullable && key = Key.notNull then none
  else Annotations.lookup?
    (column.origin.bind fun origin => inheritance.annotations? origin.object origin.column) key

/-- The columns look the same, and inherit the same. -/
structure Alike (inheritance : Inheritance) (a b : ResultColumn) : Prop where
  name : a.name = b.name
  sqlType : a.sqlType = b.sqlType
  notNull : a.notNull = b.notNull
  inherits : ∀ key, a.inherits inheritance key = b.inherits inheritance key

theorem Alike.refl (column : ResultColumn) : column.Alike inheritance column :=
  ⟨rfl, rfl, rfl, fun _ => rfl⟩

theorem byName_alike : ByName (ResultColumn.Alike inheritance) := ⟨Alike.name, .refl⟩

theorem Alike.rename {a b : ResultColumn} (h : a.Alike inheritance b) (name : String) :
    Alike inheritance { a with name } { b with name } :=
  ⟨rfl, h.sqlType, h.notNull, h.inherits⟩

end ResultColumn

namespace Source

/-- A statement finds the same names and columns alike in both sources. -/
structure Alike (catalog : Catalog) (inheritance : Inheritance) (s t : Source) : Prop where
  reference : s.reference = t.reference
  joinedColumns : s.joinedColumns = t.joinedColumns
  hidden : s.hidden = t.hidden
  table : s.object.bind catalog.table? = t.object.bind catalog.table?
  columns : List.Forall₂ (ResultColumn.Alike inheritance) s.columns t.columns

theorem Alike.related {catalog : Catalog} {s t : Source} (h : Alike catalog inheritance s t) :
    Related (ResultColumn.Alike inheritance) catalog catalog s t :=
  ⟨h.reference, h.joinedColumns, h.hidden, congrArg _ h.table, h.columns⟩

end Source

namespace Scope

/-- The scopes have sources that are alike, and the rest in common. -/
structure Alike (inheritance : Inheritance) (a b : Scope) : Prop where
  catalog : a.catalog = b.catalog
  ctes : a.ctes = b.ctes
  sources : List.Forall₂ (Source.Alike a.catalog inheritance) a.sources b.sources

variable {a b : Scope}

theorem Alike.related (h : Alike inheritance a b) :
    Related (ResultColumn.Alike inheritance) a b := by
  rw [Related, ← h.catalog]
  exact h.sources.imp fun _ _ alike => alike.related

theorem Alike.column (h : Alike inheritance a b) (ref : ColumnRef) :
    Together (ResultColumn.Alike inheritance) (a.column ref) (b.column ref) :=
  h.related.column ResultColumn.byName_alike ref

theorem Alike.columnType (h : Alike inheritance a b) (ref : ColumnRef) :
    a.columnType ref = b.columnType ref := by
  rw [Scope.columnType, Scope.columnType]
  obtain ⟨e, error, error'⟩ | ⟨x, y, ok, ok', alike⟩ := (h.column ref).cases
  · rw [error, error']
  · rw [ok, ok']
    exact congrArg₂ ExprType.mk alike.sqlType alike.notNull

end Scope

namespace Sql.Expr

variable {a b : Scope}

/-- The type of an expression depends on a scope through the types of the columns in it. -/
theorem typeIn_eq (catalog : a.catalog = b.catalog) (ctes : a.ctes = b.ctes)
    (types : ∀ ref, a.columnType ref = b.columnType ref) (e : Expr) :
    e.typeIn a = e.typeIn b := by
  induction e using children_induction with
  | step e ih =>
    cases e with
    | column path =>
      rw [typeIn, typeIn]
      cases ColumnRef.ofPath? path with
      | none => rfl
      | some ref => exact types ref
    | subquery query =>
      unfold typeIn
      rw [catalog, ctes]
    | inList negated x list =>
      have all : ∀ y ∈ list, y.typeIn a = y.typeIn b := fun y member =>
        ih y (List.mem_cons_of_mem _ member)
      rw [typeIn, typeIn, typesOfExprs_eq_map, typesOfExprs_eq_map, List.map_congr_left all,
        ih x List.mem_cons_self]
    | call c =>
      obtain ⟨name, _, _, arguments, _, _, _, _⟩ := c
      have all : ∀ y ∈ arguments.filterMap Item.expr?, y.typeIn a = y.typeIn b := ih
      rw [typeIn, typeIn, Call.typeIn, Call.typeIn, typesOfArguments_eq_map,
        typesOfArguments_eq_map, List.map_congr_left all]
    | choose operand branches otherwise =>
      have all : ∀ branch ∈ branches, branch.result.typeIn a = branch.result.typeIn b :=
        fun branch member => ih _ (by
          simp only [children, List.mem_append, List.mem_flatMap]
          exact .inl (.inr ⟨branch, member, by simp⟩))
      cases otherwise with
      | none =>
        rw [typeIn, typeIn, typesOfBranches_eq_map, typesOfBranches_eq_map,
          List.map_congr_left all]
      | some last =>
        rw [typeIn, typeIn, typesOfBranches_eq_map, typesOfBranches_eq_map,
          List.map_congr_left all, ih last (by simp [children])]
    | nested x | factorial x | unary op x | collate x collation | inQuery negated x query
    | cast form x type format => rw [typeIn, typeIn, ih x List.mem_cons_self]
    | trim side what x => rw [typeIn, typeIn, ih x (by simp [children])]
    | substring x start count commas => rw [typeIn, typeIn, ih x List.mem_cons_self]
    | binary op left right =>
      rw [typeIn, typeIn, ih left (by simp [children]), ih right (by simp [children])]
    | like op negated any x pattern escape =>
      rw [typeIn, typeIn, ih x (by simp [children]), ih pattern (by simp [children])]
    | between negated x low high =>
      rw [typeIn, typeIn, ih x (by simp [children]), ih low (by simp [children]),
        ih high (by simp [children])]
    | literal _ | is _ _ _ | isDistinct _ _ _ | existsRow _ _ | arrayOf _ _ | tuple _
    | phrase _ => rw [typeIn, typeIn]

end Sql.Expr

theorem Sql.Item.columnsIn_alike {a b : Scope} (h : a.Alike inheritance b) (item : Item) :
    Together (List.Forall₂ (ResultColumn.Alike inheritance)) (item.columnsIn a)
      (item.columnsIn b) := by
  cases item with
  | star label path =>
    cases path with
    | nil => exact h.related.star ResultColumn.byName_alike
    | cons first rest => exact h.related.starOf _
  | expr label e =>
    unfold Item.columnsIn
    cases e.columnRef? with
    | some ref =>
      refine (h.column ref).bind fun x y alike => ?_
      cases label with
      | some name => exact .ok (.cons (alike.rename name.text) .nil)
      | none => exact .ok (.cons alike .nil)
    | none =>
      dsimp only
      rw [e.typeIn_eq h.catalog h.ctes h.columnType]
      exact .ok (.cons (.refl _) .nil)

theorem columnsOfItems_alike {a b : Scope} (h : a.Alike inheritance b) (items : List Item) :
    Together (List.Forall₂ (ResultColumn.Alike inheritance)) (columnsOfItems items a)
      (columnsOfItems items b) := by
  induction items with
  | nil =>
    rw [columnsOfItems, columnsOfItems]
    exact .ok .nil
  | cons item rest ih =>
    rw [columnsOfItems, columnsOfItems]
    exact (item.columnsIn_alike h).bind fun _ _ first =>
      ih.bind fun _ _ others => .ok (List.rel_append first others)

end TypedRows
