import Mathlib.Data.List.Induction
import TypedRows.Proofs.ColumnInvariants
import TypedRows.Proofs.Nullability

/-! Rows of values, read by `VALUES` and by a compound query with a member for each row. The
compound weighs every row; `VALUES` looks at the first alone. -/

namespace TypedRows

open Sql

/-- The types that stand at a place of the rows. -/
def typesAt (rows : List (List ExprType)) (place : Nat) : List ExprType :=
  rows.filterMap fun row => row[place]?

/-- The columns are as wide as every row, and have the types of all of them. -/
structure Weighs (rows : List (List ExprType)) (columns : List ResultColumn) : Prop where
  widths : ∀ row ∈ rows, row.length = columns.length
  each : ∀ place column, columns[place]? = some column →
    column.name = s!"column{place + 1}" ∧
    column.sqlType = ExprType.firstKnown (typesAt rows place) ∧
    column.notNull = ExprType.allNotNull (typesAt rows place) ∧
    column.declaredNotNull = ExprType.allNotNull (typesAt rows place)

section Types

variable {rows : List (List ExprType)} {row : List ExprType} {place : Nat} {type : ExprType}

theorem typesAt_concat (found : row[place]? = some type) :
    typesAt (rows ++ [row]) place = typesAt rows place ++ [type] := by
  simp [typesAt, found]

theorem mem_typesAt (member : row ∈ rows) (found : row[place]? = some type) :
    type ∈ typesAt rows place :=
  List.mem_filterMap.mpr ⟨row, member, found⟩

theorem forall₂_iff_getElem? {α β : Type} {R : α → β → Prop} {xs : List α} {ys : List β} :
    List.Forall₂ R xs ys ↔
      xs.length = ys.length ∧
        ∀ (place : Nat) (x : α) (y : β), xs[place]? = some x → ys[place]? = some y → R x y := by
  rw [List.forall₂_iff_get]
  refine and_congr_right fun _ => ⟨fun each place x y hx hy => ?_, fun each place hx hy => ?_⟩
  · obtain ⟨inx, rfl⟩ := List.getElem?_eq_some_iff.mp hx
    obtain ⟨iny, rfl⟩ := List.getElem?_eq_some_iff.mp hy
    exact each place inx iny
  · exact each place _ _ (List.getElem?_eq_getElem hx) (List.getElem?_eq_getElem hy)

end Types

section Rows

variable {scope : Scope}

theorem length_typesOfExprs (row : List Expr) : (typesOfExprs row scope).length = row.length := by
  rw [typesOfExprs_eq_map, List.length_map]

theorem length_valueColumns (row : List Expr) (number : Nat) :
    (valueColumns row scope number).length = row.length := by
  induction row generalizing number with
  | nil =>
    rw [valueColumns]
    rfl
  | cons e rest ih => rw [valueColumns, List.length_cons, List.length_cons, ih]

theorem getElem?_valueColumns (row : List Expr) (number place : Nat) :
    (valueColumns row scope number)[place]? = (row[place]?).map fun e =>
      .computed s!"column{place + number}" (e.typeIn scope) e.print := by
  induction row generalizing number place with
  | nil =>
    rw [valueColumns]
    rfl
  | cons e rest ih =>
    rw [valueColumns]
    cases place with
    | zero => simp
    | succ place =>
      rw [List.getElem?_cons_succ, List.getElem?_cons_succ, ih, Nat.add_right_comm, Nat.add_assoc]

/-- A column of a row of values has the type of its value. -/
theorem valueColumns_at {row : List Expr} {place : Nat} {column : ResultColumn}
    (found : (valueColumns row scope 1)[place]? = some column) :
    ∃ type, (typesOfExprs row scope)[place]? = some type ∧ column.name = s!"column{place + 1}" ∧
      column.sqlType = type.sqlType ∧ column.notNull = type.notNull ∧
      column.declaredNotNull = type.notNull := by
  rw [getElem?_valueColumns] at found
  obtain ⟨e, inside, rfl⟩ := Option.map_eq_some_iff.mp found
  refine ⟨e.typeIn scope, ?_, rfl, rfl, rfl, rfl⟩
  rw [typesOfExprs_eq_map, List.getElem?_map, inside]
  rfl

theorem weighs_one (row : List Expr) :
    Weighs [typesOfExprs row scope] (valueColumns row scope 1) where
  widths := by
    intro types member
    rw [List.mem_singleton.mp member, length_typesOfExprs, length_valueColumns]
  each := by
    intro place column found
    obtain ⟨type, inside, name, sqlType, notNull, declared⟩ := valueColumns_at found
    have types : typesAt [typesOfExprs row scope] place = [type] :=
      List.filterMap_cons_some inside
    rw [types, name, sqlType, notNull, declared]
    simp [ExprType.firstKnown, ExprType.allNotNull]

/-- One more member weighs one more row. -/
theorem Weighs.merge {rows : List (List ExprType)} {columns merged : List ResultColumn}
    (h : Weighs rows columns) {row : List Expr}
    (made : ResultColumn.mergeAll columns (valueColumns row scope 1) = .ok merged) :
    Weighs (rows ++ [typesOfExprs row scope]) merged := by
  obtain ⟨same, rfl⟩ := ResultColumn.mergeAll_eq_ok.mp made
  have width : (List.zipWith ResultColumn.merge columns (valueColumns row scope 1)).length =
      columns.length := by
    rw [List.length_zipWith, ← same, Nat.min_self]
  constructor
  · intro types member
    rw [width]
    obtain earlier | last := List.mem_append.mp member
    · exact h.widths types earlier
    · rw [List.mem_singleton.mp last, same, length_typesOfExprs, length_valueColumns]
  · intro place column found
    obtain ⟨a, b, left, right, rfl⟩ := List.getElem?_zipWith_eq_some.mp found
    obtain ⟨name, sqlType, notNull, declared⟩ := h.each place a left
    obtain ⟨type, inside, _, sqlType', notNull', declared'⟩ := valueColumns_at right
    rw [typesAt_concat inside, ResultColumn.merge, sqlType, notNull, declared, sqlType', notNull',
      declared']
    refine ⟨name, ?_, ?_, ?_⟩
    · simp [ExprType.firstKnown, List.findSome?_append]
    · simp [ExprType.allNotNull]
    · simp [ExprType.allNotNull]

end Rows

namespace Sql

/-- `VALUES (first), (second), …` -/
def Query.ofRows (rows : List (List Expr)) : Query :=
  ⟨false, [], .values false rows, [], none, none, []⟩

def Body.unionOfRows (first : List Expr) (rest : List (List Expr)) : Body :=
  rest.foldl (fun members row => .compound .union " ALL" members (.values false [row]))
    (.values false [first])

/-- `VALUES (first) UNION ALL VALUES (second) …` -/
def Query.unionOfRows (first : List Expr) (rest : List (List Expr)) : Query :=
  ⟨false, [], .unionOfRows first rest, [], none, none, []⟩

end Sql

/-- The columns have the same name and type, and may be null alike. -/
structure ResultColumn.TypedAlike (a b : ResultColumn) : Prop where
  name : a.name = b.name
  sqlType : a.sqlType = b.sqlType
  notNull : a.notNull = b.notNull
  declaredNotNull : a.declaredNotNull = b.declaredNotNull

/-- Both queries fail, or they have columns of the same names and types. -/
def ResolveAlike (x y : Except ResolveError (List ResultColumn)) : Prop :=
  Alongside (fun _ _ => True) (List.Forall₂ ResultColumn.TypedAlike) x y

/-- The type of the value tells nothing that is not true of the other. -/
structure ExprType.Covers (own other : ExprType) : Prop where
  notNull : own.notNull = true → other.notNull = true
  sqlType : own.sqlType = none → other.sqlType = none

/-- The first of several types stands for all of them if and only if it covers each. -/
theorem ExprType.covers_iff {own : ExprType} {others : List ExprType} :
    own.sqlType = firstKnown (own :: others) ∧ own.notNull = allNotNull (own :: others) ↔
      ∀ other ∈ others, own.Covers other := by
  have known : own.sqlType = firstKnown (own :: others) ↔
      ∀ other ∈ others, own.sqlType = none → other.sqlType = none := by
    cases type : own.sqlType <;> simp [firstKnown, type, eq_comm (a := none)]
  have filled : own.notNull = allNotNull (own :: others) ↔
      ∀ other ∈ others, own.notNull = true → other.notNull = true := by
    cases marked : own.notNull <;> simp [allNotNull, marked, eq_comm (a := true)]
  rw [known, filled]
  constructor
  · rintro ⟨types, flags⟩ other member
    exact ⟨flags other member, types other member⟩
  · intro each
    exact ⟨fun other member => (each other member).sqlType,
      fun other member => (each other member).notNull⟩

namespace Weighs

variable {row : List ExprType} {rows : List (List ExprType)} {one all : List ResultColumn}

theorem typedAlike_iff (single : Weighs [row] one) (every : Weighs (row :: rows) all) {place : Nat}
    {own : ExprType} (inside : row[place]? = some own) {a b : ResultColumn}
    (left : one[place]? = some a) (right : all[place]? = some b) :
    a.TypedAlike b ↔ ∀ other ∈ typesAt rows place, own.Covers other := by
  have types : typesAt (row :: rows) place = own :: typesAt rows place :=
    List.filterMap_cons_some inside
  have type : typesAt [row] place = [own] := List.filterMap_cons_some inside
  obtain ⟨name, sqlType, notNull, declared⟩ := single.each place a left
  obtain ⟨name', sqlType', notNull', declared'⟩ := every.each place b right
  rw [type] at sqlType notNull declared
  rw [types] at sqlType' notNull' declared'
  have own_known : ExprType.firstKnown [own] = own.sqlType := by
    cases known : own.sqlType <;> simp [ExprType.firstKnown, known]
  have own_filled : ExprType.allNotNull [own] = own.notNull := by
    simp [ExprType.allNotNull]
  rw [← ExprType.covers_iff, ← own_known, ← own_filled, ← sqlType, ← notNull, ← sqlType',
    ← notNull']
  constructor
  · intro alike
    exact ⟨alike.sqlType, alike.notNull⟩
  · rintro ⟨known, filled⟩
    exact ⟨name.trans name'.symm, known, filled,
      (declared.trans notNull.symm).trans (filled.trans (notNull'.trans declared'.symm))⟩

/-- The first row stands for all rows if and only if it covers each of them, place by place. -/
theorem forall₂_typedAlike_iff (single : Weighs [row] one) (every : Weighs (row :: rows) all) :
    List.Forall₂ ResultColumn.TypedAlike one all ↔
      ∀ other ∈ rows, List.Forall₂ ExprType.Covers row other := by
  have narrow : row.length = one.length := single.widths row List.mem_cons_self
  have wide : row.length = all.length := every.widths row List.mem_cons_self
  simp only [forall₂_iff_getElem?]
  constructor
  · rintro ⟨_, alike⟩ other member
    refine ⟨wide.trans (every.widths other (List.mem_cons_of_mem _ member)).symm, ?_⟩
    intro place own type inside there
    have bound := (List.getElem?_eq_some_iff.mp inside).1
    have left := List.getElem?_eq_getElem (narrow ▸ bound)
    have right := List.getElem?_eq_getElem (wide ▸ bound)
    exact (single.typedAlike_iff every inside left right).mp (alike place _ _ left right) type
      (mem_typesAt member there)
  · intro covers
    refine ⟨narrow.symm.trans wide, fun place a b left right => ?_⟩
    have bound := (List.getElem?_eq_some_iff.mp left).1
    have inside := List.getElem?_eq_getElem (narrow ▸ bound)
    refine (single.typedAlike_iff every inside left right).mpr fun type listed => ?_
    obtain ⟨other, member, there⟩ := List.mem_filterMap.mp listed
    exact (covers other member).2 place _ type inside there

end Weighs

namespace Catalog

variable (catalog : Catalog)

/-- The types of a row of values, which reads from no source. -/
def typesOfRow (row : List Expr) : List ExprType := typesOfExprs row (.ofSources catalog [] [])

def columnsOfRow (row : List Expr) : List ResultColumn :=
  valueColumns row (.ofSources catalog [] []) 1

theorem select_ofRows (first : List Expr) (rest : List (List Expr)) :
    catalog.select (.ofRows (first :: rest)) = .ok (catalog.columnsOfRow first) := rfl

theorem select_unionOfRows_concat (first row : List Expr) (rest : List (List Expr)) :
    catalog.select (.unionOfRows first (rest ++ [row])) =
      (catalog.select (.unionOfRows first rest) >>= fun columns =>
        ResultColumn.mergeAll columns (catalog.columnsOfRow row)) := by
  rw [select, Query.unionOfRows, Body.unionOfRows, List.foldl_concat]
  rfl

theorem weighs_unionOfRows {first : List Expr} {rest : List (List Expr)}
    {columns : List ResultColumn} (made : catalog.select (.unionOfRows first rest) = .ok columns) :
    Weighs ((first :: rest).map catalog.typesOfRow) columns := by
  induction rest using List.reverseRecOn generalizing columns with
  | nil =>
    cases made
    exact weighs_one first
  | append_singleton rest row ih =>
    rw [select_unionOfRows_concat] at made
    obtain ⟨earlier, before, merged⟩ := bind_eq_ok made
    rw [← List.cons_append, List.map_append]
    exact (ih before).merge merged

/-- The compound fails if and only if some row has not the length of the first. -/
theorem select_unionOfRows_iff (first : List Expr) (rest : List (List Expr)) :
    (∃ columns, catalog.select (.unionOfRows first rest) = .ok columns) ↔
      ∀ row ∈ rest, row.length = first.length := by
  induction rest using List.reverseRecOn with
  | nil => exact ⟨fun _ => nofun, fun _ => ⟨_, rfl⟩⟩
  | append_singleton rest row ih =>
    have width : ∀ columns, catalog.select (.unionOfRows first rest) = .ok columns →
        columns.length = first.length := fun columns made =>
      ((catalog.weighs_unionOfRows made).widths _ List.mem_cons_self).symm.trans
        (length_typesOfExprs first)
    have own : (catalog.columnsOfRow row).length = row.length := length_valueColumns row 1
    rw [select_unionOfRows_concat, List.forall_mem_append, List.forall_mem_singleton, ← ih]
    constructor
    · rintro ⟨columns, made⟩
      obtain ⟨earlier, before, merged⟩ := bind_eq_ok made
      have same := (ResultColumn.mergeAll_eq_ok.mp merged).1
      exact ⟨⟨earlier, before⟩, own.symm.trans (same.symm.trans (width earlier before))⟩
    · rintro ⟨⟨earlier, before⟩, same⟩
      rw [bind_of_ok before]
      exact ⟨_, ResultColumn.mergeAll_eq_ok.mpr
        ⟨(width earlier before).trans (same.symm.trans own.symm), rfl⟩⟩

/-- `VALUES` never fails, and its columns weigh the first row alone. The compound of its rows fails
unless the rows are of one length, and its columns weigh every row, so that a column is never null
only if no row may have a null there. The two agree if and only if the rows are of one length and
the first covers each of them: where its value is never null so are the others, and where its type
is not known neither are theirs. -/
theorem select_ofRows_alike_iff (first : List Expr) (rest : List (List Expr)) :
    (∃ columns, catalog.select (.ofRows (first :: rest)) = .ok columns ∧
      Weighs [catalog.typesOfRow first] columns) ∧
    ((∃ columns, catalog.select (.unionOfRows first rest) = .ok columns) ↔
      ∀ row ∈ rest, row.length = first.length) ∧
    (∀ columns, catalog.select (.unionOfRows first rest) = .ok columns →
      Weighs ((first :: rest).map catalog.typesOfRow) columns) ∧
    (ResolveAlike (catalog.select (.ofRows (first :: rest)))
        (catalog.select (.unionOfRows first rest)) ↔
      ∀ row ∈ rest, List.Forall₂ ExprType.Covers (catalog.typesOfRow first)
        (catalog.typesOfRow row)) := by
  have single : Weighs [catalog.typesOfRow first] (catalog.columnsOfRow first) := weighs_one first
  refine ⟨⟨_, catalog.select_ofRows first rest, single⟩, catalog.select_unionOfRows_iff first rest,
    fun _ => catalog.weighs_unionOfRows, ?_⟩
  rw [select_ofRows, ResolveAlike]
  have covers : ∀ columns, catalog.select (.unionOfRows first rest) = .ok columns →
      (List.Forall₂ ResultColumn.TypedAlike (catalog.columnsOfRow first) columns ↔
        ∀ row ∈ rest, List.Forall₂ ExprType.Covers (catalog.typesOfRow first)
          (catalog.typesOfRow row)) := by
    intro columns made
    rw [single.forall₂_typedAlike_iff (catalog.weighs_unionOfRows made), List.forall_mem_map]
  constructor
  · intro alike
    obtain ⟨columns, made, alike⟩ := alike.of_ok rfl
    exact (covers columns made).mp alike
  · intro each
    have widths : ∀ row ∈ rest, row.length = first.length := by
      intro row member
      have same := (each row member).length_eq
      rw [typesOfRow, typesOfRow, length_typesOfExprs, length_typesOfExprs] at same
      exact same.symm
    obtain ⟨columns, made⟩ := (catalog.select_unionOfRows_iff first rest).mpr widths
    rw [made]
    exact .ok ((covers columns made).mpr each)

/-- `(1)`, `(NULL)` and `(NULL, 1)` -/
def numberRow : List Expr := [.literal (.number "1" false)]

def nullRow : List Expr := [.literal .null]

def pairRow : List Expr := nullRow ++ numberRow

/-- `VALUES` misses a null in the second row and that it is longer, but not a null in the first. -/
theorem select_ofRows_null :
    (∃ column, empty.select (.ofRows [numberRow, nullRow]) = .ok [column] ∧
      column.notNull = true) ∧
    (∃ column, empty.select (.unionOfRows numberRow [nullRow]) = .ok [column] ∧
      column.notNull = false) ∧
    ¬ ResolveAlike (empty.select (.ofRows [numberRow, nullRow]))
      (empty.select (.unionOfRows numberRow [nullRow])) ∧
    ResolveAlike (empty.select (.ofRows [pairRow, pairRow]))
      (empty.select (.unionOfRows pairRow [pairRow])) ∧
    ¬ ResolveAlike (empty.select (.ofRows [numberRow, pairRow]))
      (empty.select (.unionOfRows numberRow [pairRow])) := by
  have agree := fun first rest => (select_ofRows_alike_iff empty first rest).2.2.2
  refine ⟨⟨_, rfl, rfl⟩, ⟨_, rfl, rfl⟩, ?_, ?_, ?_⟩
  · intro alike
    cases (agree _ _).mp alike nullRow List.mem_cons_self with
    | cons covers _ => cases covers.notNull rfl
  · refine (agree _ _).mpr fun row member => ?_
    rw [List.mem_singleton.mp member]
    exact .cons ⟨id, id⟩ (.cons ⟨id, id⟩ .nil)
  · intro alike
    cases ((agree _ _).mp alike pairRow List.mem_cons_self).length_eq

end Catalog

end TypedRows
