import TypedRows.Proofs.QueryReads

/-! A common table expression has the columns of the first member of its query, a subquery in `FROM`
those that fit every member. -/

namespace TypedRows

open Sql

mutual

/-- The query with the first member of each compound in its place. -/
def Sql.Query.anchor : Query → Query
  | ⟨recursive, ctes, body, order, limit, offset, rest⟩ =>
    ⟨recursive, ctes, body.anchor, order, limit, offset, rest⟩

def Sql.Body.anchor : Body → Body
  | .query query => .query query.anchor
  | .compound _ _ left _ => left.anchor
  | other => other

end

mutual

/-- Whether the rows of the query come from several members. -/
def Sql.Query.isCompound : Query → Bool
  | ⟨_, _, body, _, _, _, _⟩ => body.isCompound

def Sql.Body.isCompound : Body → Bool
  | .query query => query.isCompound
  | .compound _ _ _ _ => true
  | _ => false

end

mutual

theorem Sql.Query.anchor_of_single (query : Query) (single : query.isCompound = false) :
    query.anchor = query := by
  obtain ⟨recursive, ctes, body, order, limit, offset, rest⟩ := query
  rw [Query.isCompound] at single
  rw [Query.anchor, body.anchor_of_single single]

theorem Sql.Body.anchor_of_single (body : Body) (single : body.isCompound = false) :
    body.anchor = body := by
  cases body with
  | query query =>
    rw [Body.isCompound] at single
    rw [Body.anchor, query.anchor_of_single single]
  | compound op quantifier left right =>
    rw [Body.isCompound] at single
    cases single
  | select select => rfl
  | values explicitRow rows => rfl
  | table path => rfl
  | insert insert => rfl
  | update update => rfl
  | store lead query => rfl

end

mutual

/-- Where the first member decides, the others are not looked at. -/
theorem Sql.Query.columnsIn_first (query : Query) (catalog : Catalog) (ctes : Ctes) :
    query.columnsIn catalog ctes false = query.anchor.columnsIn catalog ctes true := by
  obtain ⟨recursive, list, body, order, limit, offset, rest⟩ := query
  rw [Query.anchor, Query.columnsIn, Query.columnsIn]
  exact bind_congr fun known => body.columnsIn_first catalog known

theorem Sql.Body.columnsIn_first (body : Body) (catalog : Catalog) (ctes : Ctes) :
    body.columnsIn catalog ctes false = body.anchor.columnsIn catalog ctes true := by
  cases body with
  | select select => rfl
  | query query =>
    rw [Body.anchor, Body.columnsIn, Body.columnsIn]
    exact query.columnsIn_first catalog ctes
  | compound op quantifier left right =>
    rw [Body.anchor, Body.columnsIn, left.columnsIn_first catalog ctes]
    exact bind_pure _
  | values explicitRow rows => cases rows <;> rfl
  | table path => rfl
  | insert insert => rfl
  | update update => rfl
  | store lead query => rfl

end

namespace ResultColumn

/-- What the other members of a compound query may do to a column of the first one: less is known
of it, but it keeps its name and the place it comes from. -/
structure Widened (first last : ResultColumn) : Prop where
  name : last.name = first.name
  tableAlias : last.tableAlias = first.tableAlias
  aliasPath : last.aliasPath = first.aliasPath
  expression : last.expression = first.expression
  notNull : last.notNull = true → first.notNull = true
  declaredNotNull : last.declaredNotNull = true → first.declaredNotNull = true
  joinedNullable : first.joinedNullable = true → last.joinedNullable = true
  origin : last.origin = none ∨ last.origin = first.origin
  sqlType : first.sqlType = none ∨ last.sqlType = first.sqlType

variable {a b c : ResultColumn}

theorem Widened.refl (column : ResultColumn) : Widened column column :=
  ⟨rfl, rfl, rfl, rfl, id, id, id, .inr rfl, .inr rfl⟩

theorem Widened.merge (h : Widened a b) (other : ResultColumn) :
    Widened a (ResultColumn.merge b other) where
  name := h.name
  tableAlias := h.tableAlias
  aliasPath := h.aliasPath
  expression := h.expression
  notNull both := h.notNull (Bool.and_eq_true_iff.mp both).1
  declaredNotNull both := h.declaredNotNull (Bool.and_eq_true_iff.mp both).1
  joinedNullable known := by
    rw [ResultColumn.merge, h.joinedNullable known, Bool.true_or]
  origin := by
    rw [ResultColumn.merge]
    dsimp only
    split
    · exact h.origin
    · exact .inl rfl
  sqlType := by
    rw [ResultColumn.merge]
    dsimp only
    rcases h.sqlType with unknown | same
    · exact .inl unknown
    · cases known : a.sqlType with
      | none => exact .inl rfl
      | some type =>
        right
        rw [same, known, Option.some_or]

theorem widened_mergeAll {first last other merged : List ResultColumn}
    (h : List.Forall₂ Widened first last) (both : mergeAll last other = .ok merged) :
    List.Forall₂ Widened first merged := by
  unfold mergeAll at both
  split at both
  · cases both
  · rename_i same
    cases both
    have length : last.length = other.length := not_not.mp same
    clear same
    induction h generalizing other with
    | nil => exact .nil
    | cons head _ ih =>
      cases other with
      | nil => cases length
      | cons column rest => exact .cons (head.merge column) (ih (Nat.succ.inj length))

end ResultColumn

open ResultColumn

mutual

/-- The first member has columns if all members together have, and they can only lose by that. -/
theorem Sql.Query.columnsIn_widened (query : Query) {catalog : Catalog} {ctes : Ctes}
    {last : List ResultColumn} (known : query.columnsIn catalog ctes true = .ok last) :
    ∃ first, query.anchor.columnsIn catalog ctes true = .ok first ∧
      List.Forall₂ Widened first last := by
  obtain ⟨recursive, list, body, order, limit, offset, rest⟩ := query
  rw [Query.columnsIn] at known
  obtain ⟨inner, own, known⟩ := bind_eq_ok known
  obtain ⟨first, found, widened⟩ := body.columnsIn_widened known
  refine ⟨first, ?_, widened⟩
  rw [Query.anchor, Query.columnsIn, bind_of_ok own]
  exact found

theorem Sql.Body.columnsIn_widened (body : Body) {catalog : Catalog} {ctes : Ctes}
    {last : List ResultColumn} (known : body.columnsIn catalog ctes true = .ok last) :
    ∃ first, body.anchor.columnsIn catalog ctes true = .ok first ∧
      List.Forall₂ Widened first last := by
  have same : List.Forall₂ Widened last last := List.forall₂_same.mpr fun c _ => .refl c
  cases body with
  | query query =>
    rw [Body.columnsIn] at known
    rw [Body.anchor, Body.columnsIn]
    exact query.columnsIn_widened known
  | compound op quantifier left right =>
    rw [Body.columnsIn] at known
    obtain ⟨middle, ofLeft, known⟩ := bind_eq_ok known
    rw [if_pos rfl] at known
    obtain ⟨other, _, both⟩ := bind_eq_ok known
    obtain ⟨first, found, widened⟩ := left.columnsIn_widened ofLeft
    rw [Body.anchor]
    exact ⟨first, found, widened_mergeAll widened both⟩
  | select select => exact ⟨last, known, same⟩
  | values explicitRow rows => exact ⟨last, known, same⟩
  | table path => exact ⟨last, known, same⟩
  | insert insert => exact ⟨last, known, same⟩
  | update update => exact ⟨last, known, same⟩
  | store lead query => exact ⟨last, known, same⟩

end

namespace ResultColumn

/-- The column of a subquery as it is seen under the name `c`. -/
def under (c : String) (column : ResultColumn) : ResultColumn :=
  { column with tableAlias := some c, aliasPath := c :: column.aliasPath }

theorem Widened.eq_of_under {first last : ResultColumn} {c : String}
    (widened : Widened first last) (same : first.under c = last.under c) : first = last := by
  have table := widened.tableAlias
  cases first
  cases last
  simp_all [under]

theorem eq_of_map_under {first last : List ResultColumn} {c : String}
    (widened : List.Forall₂ Widened first last)
    (same : first.map (under c) = last.map (under c)) : first = last := by
  induction widened with
  | nil => rfl
  | cons head _ ih =>
    rw [List.map_cons, List.map_cons, List.cons.injEq] at same
    rw [head.eq_of_under same.1, ih same.2]

end ResultColumn

/-- `SELECT items FROM factor` -/
def Sql.Query.selecting (ctes : List Cte) (items : List Item) (factor : Factor) : Query :=
  ⟨false, ctes, .select ⟨[], items, "", [⟨false, .comma, factor, none, .none⟩], [], none, false, [],
    [], none, []⟩, [], none, none, []⟩

/-- `WITH c AS (query) SELECT items FROM c` -/
def Sql.Query.withCte (query : Query) (c : Ident) (items : List Item) : Query :=
  .selecting [⟨c, [], query, none⟩] items (.table [c] false none [])

/-- `SELECT items FROM (query) AS c` -/
def Sql.Query.asDerived (query : Query) (c : Ident) (items : List Item) : Query :=
  .selecting [] items (.derived false query (some ⟨c, []⟩))

/-- No subquery among the items reads `c`. -/
def Unread (c : Ident) (items : List Item) : Prop :=
  ∀ name, Visit.relation name ∈ visitsOfItems items → Text.sameName c.text name = false

theorem unread_star (c : Ident) : Unread c [.star none []] := by
  intro name met
  simp [visitsOfItems, Item.visits] at met

namespace Scope

/-- The scope with nothing but columns under the name `c`. -/
def ofOnly (catalog : Catalog) (ctes : Ctes) (c : Ident) (columns : List ResultColumn) : Scope :=
  .ofSources catalog ctes
    (Source.join [] .inner .none (Source.unjoined (some c.text) none columns true false))

theorem columnsOfItems_unread {c : Ident} {items : List Item} (unread : Unread c items)
    (catalog : Catalog) (columns : List ResultColumn) :
    columnsOfItems items (ofOnly catalog [(c.text, columns)] c columns) =
      columnsOfItems items (ofOnly catalog [] c columns) := by
  have alike : catalog.Alike catalog [(c.text, columns)] [] (visitsOfItems items) := by
    intro name met
    constructor
    · constructor <;> rfl
    · rw [List.find?_cons_of_neg]
      simp [unread name met]
  exact columnsOfItems_congr items alike fun _ _ _ _ => rfl

theorem star_ofOnly (catalog : Catalog) (ctes : Ctes) (c : Ident) (columns : List ResultColumn) :
    columnsOfItems [.star none []] (ofOnly catalog ctes c columns) =
      .ok (columns.map (under c.text)) := by
  have star : (ofOnly catalog ctes c columns).star = .ok (columns.map (under c.text)) := by
    simp [under, Scope.star, ofOnly, ofSources, Source.join, Source.equated, Source.unjoined,
      Source.finish, Source.starColumns, Source.seen]
  rw [columnsOfItems, Item.columnsIn, star]
  exact congrArg Except.ok (List.append_nil _)

end Scope

namespace Catalog

open Scope

variable (catalog : Catalog) (query : Query) (c : Ident) (items : List Item)

theorem select_asDerived : catalog.select (query.asDerived c items) =
    (catalog.select query >>= fun columns =>
      columnsOfItems items (ofOnly catalog [] c columns)) := by
  simp only [select, Query.asDerived, Query.selecting, Query.columnsIn, ctesOf, Body.columnsIn,
    Select.columnsIn, sourcesOf, Factor.joinTo, Link.side, bind_assoc]
  change (query.columnsIn catalog [] true >>= _) = _
  exact bind_congr fun columns => rfl

theorem select_withCte : catalog.select (query.withCte c items) =
    (catalog.select query.anchor >>= fun columns =>
      columnsOfItems items (ofOnly catalog [(c.text, columns)] c columns)) := by
  have hides : ∀ columns, Source.named catalog [(c.text, columns)] c.text none =
      .ok (Source.unjoined (some c.text) none columns true false) := by
    intro columns
    have same : Text.sameName c.text c.text = true := Text.sameName_refl _
    simp [Source.named, same]
  simp only [select, Query.withCte, Query.selecting, Query.columnsIn, ctesOf, Body.columnsIn,
    Select.columnsIn, sourcesOf, Factor.joinTo, Link.side, bind_assoc]
  rw [query.columnsIn_first]
  refine bind_congr fun columns => ?_
  change (Source.named catalog [(c.text, columns)] c.text none >>= fun source =>
    columnsOfItems items (ofSources catalog [(c.text, columns)]
      (Source.join [] .inner .none source))) = _
  rw [hides]
  rfl

end Catalog

namespace Catalog

/-- A common table expression stands for a subquery with the first members in the place of all, so
for its own query if that is not compound. For a compound query the two agree, whatever is read from
them, exactly if the first member alone has the columns that fit every member; otherwise it only
claims more of some column. -/
theorem select_withCte_iff (catalog : Catalog) (query : Query) (c : Ident) :
    (∀ items, Unread c items →
      catalog.select (query.withCte c items) = catalog.select (query.anchor.asDerived c items)) ∧
    (query.isCompound = false → ∀ items, Unread c items →
      catalog.select (query.withCte c items) = catalog.select (query.asDerived c items)) ∧
    ∀ columns, catalog.select query = .ok columns →
      ∃ first, catalog.select query.anchor = .ok first ∧ List.Forall₂ Widened first columns ∧
        ((∀ items, Unread c items →
          catalog.select (query.withCte c items) = catalog.select (query.asDerived c items)) ↔
            first = columns) := by
  have anchored : ∀ items, Unread c items →
      catalog.select (query.withCte c items) =
        catalog.select (query.anchor.asDerived c items) := by
    intro items unread
    rw [select_withCte, select_asDerived]
    exact bind_congr fun columns => Scope.columnsOfItems_unread unread catalog columns
  refine ⟨anchored, ?_, ?_⟩
  · intro single items unread
    rw [anchored items unread, query.anchor_of_single single]
  · intro columns known
    obtain ⟨first, resolved, widened⟩ := query.columnsIn_widened known
    have found : catalog.select query.anchor = .ok first := resolved
    refine ⟨first, found, widened, ?_⟩
    constructor
    · intro same
      have stars := same _ (unread_star c)
      rw [anchored _ (unread_star c), select_asDerived, select_asDerived, found, known] at stars
      have seen := (Scope.star_ofOnly catalog [] c first).symm.trans
        (stars.trans (Scope.star_ofOnly catalog [] c columns))
      exact eq_of_map_under widened (Except.ok.inj seen)
    · rintro rfl items unread
      rw [anchored items unread, select_asDerived, select_asDerived, known, found]

/-- A table `a` with a column `x` that is never null, and `b` with `y` that may be. -/
def pairCatalog : Catalog :=
  ⟨.ofList [("a", ⟨"a", [⟨"x", some "INTEGER", true, false, none⟩], false, .empty, .empty, ""⟩),
    ("b", ⟨"b", [⟨"y", some "INTEGER", false, false, none⟩], false, .empty, .empty, ""⟩)], .empty⟩

/-- `SELECT column FROM table` -/
def selectOne (column table : String) : Body :=
  .select ⟨[], [.expr none (.column [⟨column, none⟩])], "",
    [⟨false, .comma, .table [⟨table, none⟩] false none [], none, .none⟩], [], none, false, [], [],
    none, []⟩

/-- `SELECT x FROM a UNION SELECT y FROM b` -/
def unionQuery : Query :=
  ⟨false, [], .compound .union "" (selectOne "x" "a") (selectOne "y" "b"), [], none, none, []⟩

def anchorColumn : ResultColumn :=
  ⟨"x", some "a", ["a"], some ⟨"a", "x"⟩, some "INTEGER", true, true, false, none⟩

def unionColumn : ResultColumn :=
  ⟨"x", some "a", ["a"], none, some "INTEGER", false, false, false, none⟩

/-- The second member makes the column nullable, which the common table expression denies. -/
theorem select_withCte_union : pairCatalog.select unionQuery = .ok [unionColumn] ∧
    ResultColumn.Widened anchorColumn unionColumn ∧
    pairCatalog.select (unionQuery.withCte ⟨"c", none⟩ [.star none []]) =
      .ok [anchorColumn.under "c"] ∧
    pairCatalog.select (unionQuery.asDerived ⟨"c", none⟩ [.star none []]) =
      .ok [unionColumn.under "c"] := by
  have known : pairCatalog.select unionQuery = .ok [unionColumn] := by decide +kernel
  have found : pairCatalog.select unionQuery.anchor = .ok [anchorColumn] := by decide +kernel
  obtain ⟨anchored, _, both⟩ := select_withCte_iff pairCatalog unionQuery ⟨"c", none⟩
  obtain ⟨first, found', widened, _⟩ := both _ known
  rw [found] at found'
  cases found'
  cases widened with
  | cons head _ =>
    refine ⟨known, head, ?_, ?_⟩
    · rw [anchored _ (unread_star _), select_asDerived, found]
      exact Scope.star_ofOnly _ _ _ _
    · rw [select_asDerived, known]
      exact Scope.star_ofOnly _ _ _ _

end Catalog

end TypedRows
