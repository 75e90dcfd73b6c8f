import TypedRows.Proofs.ProjectedColumns
import TypedRows.Proofs.RelatedSources

/-! Wildcards and column references. What `*` and `table.*` stand for is what their columns stand
for when they are written one by one, and a name that `*` shows once finds its column alone. -/

namespace TypedRows

open Sql

mutual

/-- The constraint by which each source is joined to those before it. The constraint of a join in
parentheses is that of its first source. -/
def constraintsOf (entries : List Entry) : List Constraint :=
  match entries with
  | [] => []
  | ⟨_, _, factor, _, constraint⟩ :: rest => factor.constraints constraint ++ constraintsOf rest

def Sql.Factor.constraints (factor : Factor) (own : Constraint) : List Constraint :=
  match factor with
  | .nested first joins _ => first.constraints own ++ constraintsOf joins
  | .table .. | .call .. | .derived .. | .tableOf .. | .pivot .. | .phrase _ => [own]

end

theorem Sql.Factor.constraints_ne_nil (factor : Factor) (own : Constraint) :
    factor.constraints own ≠ [] := by
  cases factor with
  | nested first joins aliased =>
    rw [Factor.constraints]
    exact List.append_ne_nil_of_left_ne_nil (first.constraints_ne_nil own) _
  | table | call | derived | tableOf | pivot | phrase => exact List.cons_ne_nil _ _

theorem constraintsOf_ne_nil {entries : List Entry} (full : entries ≠ []) :
    constraintsOf entries ≠ [] := by
  obtain ⟨⟨_, _, factor, _, own⟩, rest, rfl⟩ := List.exists_cons_of_ne_nil full
  rw [constraintsOf]
  exact List.append_ne_nil_of_left_ne_nil (factor.constraints_ne_nil own) _

/-- Whether a source with this constraint joins its column of that name with an earlier one. -/
def Sql.Constraint.joins (constraint : Constraint) (before : List Source) (name : String) : Bool :=
  match constraint with
  | .columns names => names.any fun n => Text.sameName n.text name
  | .natural => before.any fun s => (s.column? name).isSome
  | .none | .condition _ => false

/-- The columns of the sources in order, without those that a source joins with earlier ones. -/
def keptColumns (before : List Source) :
    List Source → List Constraint → List (Source × ResultColumn)
  | source :: rest, constraint :: constraints =>
    (source.columns.filter fun c => !constraint.joins before c.name).map (source, ·) ++
      keptColumns (before ++ [source]) rest constraints
  | [], _ | _, [] => []

/-- The item is the column of the source, written with the reference name of the source. -/
def Sql.Item.writes (item : Item) (shown : Source × ResultColumn) : Bool :=
  match item with
  | .expr none (.column [table, name]) =>
    shown.1.hasName table.text && Text.sameName shown.2.name name.text
  | _ => false

/-- The items are these columns, written one by one. -/
def WrittenOut (items : List Item) (shown : List (Source × ResultColumn)) : Prop :=
  List.Forall₂ (fun item p => item.writes p = true) items shown

instance (items : List Item) (shown : List (Source × ResultColumn)) :
    Decidable (WrittenOut items shown) :=
  inferInstanceAs (Decidable (List.Forall₂ _ _ _))

theorem Sql.Item.writes_iff {item : Item} {shown : Source × ResultColumn} :
    item.writes shown = true ↔ ∃ table name : Ident,
      item = .expr none (.column [table, name]) ∧
        shown.1.hasName table.text = true ∧ Text.sameName shown.2.name name.text = true := by
  constructor
  · intro h
    unfold writes at h
    split at h
    · rename_i table name
      exact ⟨table, name, rfl, Bool.and_eq_true_iff.mp h⟩
    · cases h
  · rintro ⟨table, name, rfl, both⟩
    exact Bool.and_eq_true_iff.mpr both

/-- No two sources have the same reference name, no two columns of one source have the same name,
and `USING` names columns of earlier sources. -/
structure Scope.Unambiguous (scope : Scope) (constraints : List Constraint) : Prop where
  sources : scope.sources.Pairwise fun s t => ∀ r ∈ s.reference, t.hasName r = false
  columns : ∀ s ∈ scope.sources, s.columns.Pairwise fun c d => Text.sameName c.name d.name = false
  visible : ∀ s ∈ scope.sources, s.hidden = false
  shared : ∀ (i : Nat) (names : List Ident), constraints[i]? = some (.columns names) →
    ∀ name ∈ names, ∃ s ∈ scope.sources.take i, (s.column? name.text).isSome = true

namespace Source

variable {before sources : List Source} {constraints : List Constraint} {constraint : Constraint}
  {source : Source} {column : ResultColumn} {name : String}

/-- Each source is joined to those before it by its constraint. -/
inductive Joined : List Source → List Constraint → Prop
  | nil : Joined [] []
  | snoc {before : List Source} {constraints : List Constraint} {source : Source}
      {constraint : Constraint} (joined : Joined before constraints)
      (own : source.joinedColumns = equated before source.columns constraint) :
      Joined (before ++ [source]) (constraints ++ [constraint])

theorem Joined.length_eq (h : Joined sources constraints) :
    sources.length = constraints.length := by
  induction h with
  | nil => rfl
  | snoc joined own ih => rw [List.length_append, List.length_append, ih]; rfl

/-- What is made equal depends on the names of the columns alone. -/
theorem equated_map {f : Source → Source}
    (names : ∀ s, (f s).columns.map ResultColumn.name = s.columns.map ResultColumn.name)
    (before : List Source) (source : Source) (constraint : Constraint) :
    equated (before.map f) (f source).columns constraint =
      equated before source.columns constraint := by
  cases constraint with
  | natural =>
    rw [equated_natural, equated_natural, names]
    congr 1
    funext name
    rw [List.any_map]
    simp only [Function.comp_def, names]
  | columns | none | condition => rfl

theorem Joined.map {f : Source → Source}
    (names : ∀ s, (f s).columns.map ResultColumn.name = s.columns.map ResultColumn.name)
    (joined : ∀ s, (f s).joinedColumns = s.joinedColumns) (h : Joined sources constraints) :
    Joined (sources.map f) constraints := by
  induction h with
  | nil => exact .nil
  | snoc _ own ih =>
    rw [List.map_append, List.map_singleton]
    refine .snoc ih ?_
    rw [joined, own, equated_map names]

theorem Joined.join (h : Joined before constraints) (side : Side) (constraint : Constraint)
    (source : Source) :
    Joined (Source.join before side constraint source) (constraints ++ [constraint]) := by
  unfold Source.join
  dsimp only
  split
  · refine .snoc (h.map (fun _ => rfl) fun _ => rfl) ?_
    exact (equated_map (f := fun s => { s with nullable := true }) (fun _ => rfl) before source
      constraint).symm
  · exact .snoc h rfl

end Source

mutual

theorem Sql.Factor.joinTo_joined (factor : Factor) {side : Side} {constraint : Constraint}
    {catalog : Catalog} {ctes : Ctes} {before sources : List Source}
    {constraints : List Constraint} (start : Source.Joined before constraints)
    (joined : factor.joinTo side constraint catalog ctes before = .ok sources) :
    Source.Joined sources (constraints ++ factor.constraints constraint) := by
  cases factor with
  | nested first joins aliased =>
    rw [Factor.joinTo] at joined
    obtain ⟨middle, hm, hr⟩ := bind_eq_ok joined
    rw [Factor.constraints, ← List.append_assoc]
    exact sourcesOf_joined joins (first.joinTo_joined start hm) hr
  | table | derived | call | tableOf | pivot | phrase =>
    obtain ⟨source, _, rfl⟩ := Factor.reads_of_joinTo joined nofun
    exact start.join side constraint source

theorem sourcesOf_joined (entries : List Entry) {catalog : Catalog} {ctes : Ctes}
    {before sources : List Source} {constraints : List Constraint}
    (start : Source.Joined before constraints)
    (joined : sourcesOf entries catalog ctes before = .ok sources) :
    Source.Joined sources (constraints ++ constraintsOf entries) := by
  cases entries with
  | nil =>
    rw [sourcesOf] at joined
    cases joined
    rw [constraintsOf, List.append_nil]
    exact start
  | cons entry rest =>
    obtain ⟨_, link, factor, _, constraint⟩ := entry
    rw [sourcesOf] at joined
    obtain ⟨middle, hm, hr⟩ := bind_eq_ok joined
    rw [constraintsOf, ← List.append_assoc]
    exact sourcesOf_joined rest (factor.joinTo_joined start hm) hr

end

theorem Scope.joined_ofSources {entries : List Entry} {catalog : Catalog} {ctes : Ctes}
    {sources : List Source} (joined : sourcesOf entries catalog ctes [] = .ok sources) :
    Source.Joined (ofSources catalog ctes sources).sources (constraintsOf entries) := by
  have names : ∀ s : Source, s.finish.columns.map ResultColumn.name =
      s.columns.map ResultColumn.name := by
    intro s
    simp [Source.finish, Source.seen, Function.comp_def]
  exact (sourcesOf_joined entries .nil joined).map names fun _ => rfl

namespace Source

variable {before sources : List Source} {constraints : List Constraint} {constraint : Constraint}
  {source : Source} {column : ResultColumn} {name : String}

theorem isSome_column?_iff :
    (source.column? name).isSome = true ↔
      ∃ c ∈ source.columns, Text.sameName c.name name = true := List.find?_isSome

/-- The names that a source joins are those of its constraint. -/
theorem any_joinedColumns (own : source.joinedColumns = equated before source.columns constraint)
    (inside : column ∈ source.columns) (same : Text.sameName column.name name = true) :
    (source.joinedColumns.any fun u => Text.sameName u name) = constraint.joins before name := by
  rw [own]
  cases constraint with
  | columns names => rw [equated, List.any_map]; rfl
  | none | condition => rfl
  | natural =>
    rw [equated, List.any_map, Constraint.joins, Bool.eq_iff_iff, List.any_eq_true,
      List.any_eq_true]
    constructor
    · rintro ⟨c, member, alike⟩
      obtain ⟨_, shown⟩ := List.mem_filter.mp member
      obtain ⟨s, earlier, found⟩ := List.any_eq_true.mp shown
      obtain ⟨p, own, other⟩ := List.any_eq_true.mp found
      exact ⟨s, earlier, isSome_column?_iff.mpr ⟨p, own, Text.sameName_trans other alike⟩⟩
    · rintro ⟨s, earlier, found⟩
      obtain ⟨p, own, other⟩ := isSome_column?_iff.mp found
      have alike : Text.sameName p.name column.name = true := Text.sameName_of_common other same
      refine ⟨column, List.mem_filter.mpr ⟨inside, ?_⟩, same⟩
      exact List.any_eq_true.mpr ⟨s, earlier, List.any_eq_true.mpr ⟨p, own, alike⟩⟩

theorem starColumns_eq (own : source.joinedColumns = equated before source.columns constraint) :
    source.starColumns = source.columns.filter fun c => !constraint.joins before c.name := by
  refine List.filter_congr fun c inside => ?_
  rw [any_joinedColumns own inside (Text.sameName_refl c.name)]

theorem keptColumns_append (same : sources.length = constraints.length) (source : Source)
    (constraint : Constraint) :
    keptColumns before (sources ++ [source]) (constraints ++ [constraint]) =
      keptColumns before sources constraints ++
        (source.columns.filter fun c => !constraint.joins (before ++ sources) c.name).map
          (source, ·) := by
  induction sources generalizing before constraints with
  | nil =>
    obtain rfl := List.eq_nil_of_length_eq_zero same.symm
    simp [keptColumns]
  | cons first rest ih =>
    obtain ⟨k, ks, rfl⟩ := List.exists_cons_of_length_eq_add_one same.symm
    rw [List.cons_append, List.cons_append, keptColumns, keptColumns, ih (by simpa using same),
      List.append_assoc, List.append_assoc]
    rfl

theorem Joined.keptColumns (h : Joined sources constraints) :
    keptColumns [] sources constraints =
      sources.flatMap fun s => s.starColumns.map (s, ·) := by
  induction h with
  | nil => rfl
  | snoc joined own ih =>
    rw [keptColumns_append joined.length_eq, ih, List.nil_append, List.flatMap_append,
      List.flatMap_singleton, starColumns_eq own]

/-- The first of several columns of a name is not joined with any other. -/
theorem Joined.head_candidates {scope : Scope} {others : List (Source × ResultColumn)}
    (h : Joined sources constraints)
    (shared : ∀ (i : Nat) (names : List Ident), constraints[i]? = some (.columns names) →
      ∀ name ∈ names, ∃ s ∈ sources.take i, (s.column? name.text).isSome = true)
    (found : { scope with sources }.candidates name = (source, column) :: others) :
    (source.joinedColumns.any fun u => Text.sameName u name) = false := by
  induction h generalizing others with
  | nil => cases found
  | @snoc before constraints last constraint joined own ih =>
    have parts : { scope with sources := before ++ [last] }.candidates name =
        { scope with sources := before }.candidates name ++
          (last.columns.filter fun c => Text.sameName c.name name).map (last, ·) := by
      rw [Scope.candidates, List.flatMap_append, List.flatMap_singleton]
      rfl
    rw [parts] at found
    cases earlier : { scope with sources := before }.candidates name with
    | cons first more =>
      rw [earlier, List.cons_append] at found
      obtain ⟨rfl, _⟩ := List.cons.inj found
      refine ih (fun i names given => ?_) earlier
      have below : i < constraints.length := (List.getElem?_eq_some_iff.mp given).1
      have same := shared i names (by rw [List.getElem?_append_left below, given])
      rw [List.take_append_of_le_length (by rw [joined.length_eq]; omega)] at same
      exact same
    | nil =>
      have missing : ∀ s ∈ before, s.column? name = none :=
        fun s member => Scope.column?_of_candidates_nil earlier member
      rw [earlier, List.nil_append] at found
      have member : (source, column) ∈
          (last.columns.filter fun c => Text.sameName c.name name).map (last, ·) :=
        found ▸ List.mem_cons_self
      obtain ⟨c, inside, same⟩ := List.mem_map.mp member
      obtain ⟨rfl, rfl⟩ := Prod.mk.inj same
      obtain ⟨inside, alike⟩ := List.mem_filter.mp inside
      rw [any_joinedColumns own inside alike]
      cases constraint with
      | none | condition => rfl
      | natural =>
        refine List.any_eq_false.mpr fun s member => ?_
        rw [missing s member]
        exact Bool.false_ne_true
      | columns names =>
        refine List.any_eq_false.mpr fun n member same => ?_
        obtain ⟨s, before', some'⟩ := shared constraints.length names
          (by rw [List.getElem?_append_right le_rfl]; simp) n member
        rw [← joined.length_eq, List.take_left] at before'
        obtain ⟨p, own, other⟩ := isSome_column?_iff.mp some'
        have there := isSome_column?_iff.mpr ⟨p, own, Text.sameName_trans other same⟩
        rw [missing s before'] at there
        cases there

end Source

/-- Among elements of which no two hold, the one that holds is found. -/
theorem find?_of_apart {α : Type} {p : α → Bool} {xs : List α} {a : α}
    (apart : xs.Pairwise fun x y => ¬(p x = true ∧ p y = true)) (inside : a ∈ xs)
    (holds : p a = true) : xs.find? p = some a := by
  induction xs with
  | nil => cases inside
  | cons b rest ih =>
    obtain ⟨first, others⟩ := List.pairwise_cons.mp apart
    rcases List.mem_cons.mp inside with rfl | inside
    · exact List.find?_cons_of_pos holds
    · rw [List.find?_cons_of_neg fun early => first a inside ⟨early, holds⟩]
      exact ih others inside

namespace Scope

variable {scope : Scope} {constraints : List Constraint} {source : Source} {column : ResultColumn}
  {table name : String}

theorem Unambiguous.source? (clear : scope.Unambiguous constraints)
    (inside : source ∈ scope.sources) (named : source.hasName table = true) :
    scope.source? table = some source := by
  refine find?_of_apart (clear.sources.imp fun {s t} apart both => ?_) inside named
  obtain ⟨r, hr, same⟩ := Source.hasName_iff.mp both.1
  obtain ⟨q, hq, other⟩ := Source.hasName_iff.mp both.2
  have alike : t.hasName r = true :=
    Source.hasName_iff.mpr ⟨q, hq, Text.sameName_of_common other same⟩
  rw [apart r hr] at alike
  cases alike

theorem Unambiguous.column? (clear : scope.Unambiguous constraints)
    (inside : source ∈ scope.sources) (own : column ∈ source.columns)
    (same : Text.sameName column.name name = true) : source.column? name = some column := by
  refine find?_of_apart ((clear.columns source inside).imp fun {c d} apart both => ?_) own same
  rw [Text.sameName_of_common both.1 both.2] at apart
  cases apart

theorem Unambiguous.qualified (clear : scope.Unambiguous constraints)
    (inside : source ∈ scope.sources) (named : source.hasName table = true)
    (own : column ∈ source.columns) (same : Text.sameName column.name name = true) :
    scope.qualified table name = .ok column := by
  rw [Scope.qualified, clear.source? inside named]
  dsimp only
  rw [clear.visible source inside, if_neg Bool.false_ne_true, clear.column? inside own same]
  rfl

/-- The columns of a name that `*` shows are the candidates that their sources do not join. -/
theorem filter_starColumns (scope : Scope) (name : String) :
    ((scope.sources.flatMap Source.starColumns).filter fun c => Text.sameName c.name name) =
      ((scope.candidates name).filter fun (s, _) =>
        !s.joinedColumns.any fun u => Text.sameName u name).map Prod.snd := by
  rw [candidates, List.filter_flatMap, List.filter_flatMap, List.map_flatMap]
  refine List.flatMap_congr fun s _ => ?_
  rw [Source.starColumns, List.filter_filter, List.filter_map, List.map_map, List.filter_filter]
  have same : (Prod.snd ∘ fun c : ResultColumn => (s, c)) = id := rfl
  rw [same, List.map_id]
  refine List.filter_congr fun c _ => ?_
  cases alike : Text.sameName c.name name with
  | false => rw [Bool.false_and, Bool.and_false]
  | true =>
    have swap : ∀ u, Text.sameName u c.name = Text.sameName u name := by
      intro u
      rw [Text.sameName, Text.sameName, Text.sameName_iff.mp alike]
    simp only [swap, Bool.true_and, Bool.and_true, Function.comp_apply]

theorem Unambiguous.unqualified (clear : scope.Unambiguous constraints)
    (joined : Source.Joined scope.sources constraints)
    (once : ((scope.sources.flatMap Source.starColumns).filter fun c =>
      Text.sameName c.name name) = [column]) : scope.unqualified name = .ok column := by
  rw [filter_starColumns] at once
  cases found : scope.candidates name with
  | nil =>
    rw [found] at once
    cases once
  | cons first others =>
    obtain ⟨source, c⟩ := first
    have kept := joined.head_candidates clear.shared found
    rw [found, List.filter_cons_of_pos (by simp [kept]), List.map_cons] at once
    obtain ⟨rfl, none⟩ := List.cons.inj once
    have all : (others.all fun (s, _) => s.joinedColumns.any fun u => Text.sameName u name) =
        true := by
      rw [List.map_eq_nil_iff, List.filter_eq_nil_iff] at none
      refine List.all_eq_true.mpr fun p member => ?_
      simpa using none p member
    rw [Scope.unqualified, found]
    exact if_pos all

end Scope

theorem columnsOfItems_singleton (item : Item) (scope : Scope) :
    columnsOfItems [item] scope = item.columnsIn scope := by
  rw [columnsOfItems, columnsOfItems]
  cases item.columnsIn scope with
  | error e => rfl
  | ok columns => exact congrArg Except.ok (List.append_nil columns)

/-- The columns that are written one by one are found one by one. -/
theorem Scope.Unambiguous.columnsOfItems {scope : Scope} {constraints : List Constraint}
    (clear : scope.Unambiguous constraints) {items : List Item}
    {shown : List (Source × ResultColumn)}
    (all : ∀ p ∈ shown, p.1 ∈ scope.sources ∧ p.2 ∈ p.1.columns)
    (written : WrittenOut items shown) :
    columnsOfItems items scope = .ok (shown.map Prod.snd) := by
  induction written with
  | nil => rw [TypedRows.columnsOfItems]; rfl
  | @cons item first items rest writes _ ih =>
    obtain ⟨table, name, rfl, named, same⟩ := Item.writes_iff.mp writes
    obtain ⟨⟨inside, own⟩, others⟩ := List.forall_mem_cons.mp all
    have read : scope.column ⟨some table.text, name.text⟩ = .ok first.2 :=
      clear.qualified inside named own same
    have column : (Item.expr none (.column [table, name])).columnsIn scope = .ok [first.2] := by
      rw [Item.columnsIn]
      exact bind_of_ok read _
    rw [TypedRows.columnsOfItems, column, ih others]
    rfl

namespace Sql.Select

variable {select : Select} {catalog : Catalog} {ctes : Ctes} {sources : List Source}

theorem columnsIn_withItems (joined : sourcesOf select.sources catalog ctes [] = .ok sources)
    (items : List Item) : { select with items }.columnsIn catalog ctes =
      columnsOfItems items (.ofSources catalog ctes sources) := by
  rw [Select.columnsIn, joined]
  rfl

/-- Where the names are unambiguous, `*` stands for the columns of all sources written one by one
without those that are joined with earlier ones, `table.*` stands for all columns of its source
written one by one, and a name that `*` shows once stands for the column that has it there. -/
theorem columnsIn_wildcards (full : select.sources ≠ [])
    (joined : sourcesOf select.sources catalog ctes [] = .ok sources)
    (clear : (Scope.ofSources catalog ctes sources).Unambiguous (constraintsOf select.sources)) :
    ∃ all : List ResultColumn,
      (∀ label, { select with items := [.star label []] }.columnsIn catalog ctes = .ok all) ∧
      (∀ items, WrittenOut items (keptColumns []
          (Scope.ofSources catalog ctes sources).sources (constraintsOf select.sources)) →
        { select with items }.columnsIn catalog ctes = .ok all) ∧
      (∀ source ∈ (Scope.ofSources catalog ctes sources).sources,
        (∀ label table, source.hasName table.text = true →
          { select with items := [.star label [table]] }.columnsIn catalog ctes =
            .ok source.columns) ∧
        ∀ items, WrittenOut items (source.columns.map (source, ·)) →
          { select with items }.columnsIn catalog ctes = .ok source.columns) ∧
      ∀ name column, (all.filter fun c => Text.sameName c.name name.text) = [column] →
        { select with items := [.expr none (.column [name])] }.columnsIn catalog ctes =
          .ok [column] := by
  have linked := Scope.joined_ofSources joined
  simp only [columnsIn_withItems joined]
  generalize Scope.ofSources catalog ctes sources = scope at *
  have some : scope.sources.isEmpty = false := by
    rw [List.isEmpty_eq_false_iff, ← List.length_pos_iff, linked.length_eq, List.length_pos_iff]
    exact constraintsOf_ne_nil full
  have starred : scope.star = .ok (scope.sources.flatMap Source.starColumns) := by
    rw [Scope.star, some]
    rfl
  refine ⟨scope.sources.flatMap Source.starColumns, fun label => ?_, fun items written => ?_,
    fun source inside => ⟨fun label table named => ?_, fun items written => ?_⟩,
    fun name column once => ?_⟩
  · rw [columnsOfItems_singleton, Item.columnsIn, starred]
  · rw [linked.keptColumns] at written
    rw [clear.columnsOfItems ?_ written, List.map_flatMap]
    · simp [Function.comp_def]
    · rintro p member
      obtain ⟨source, inside, shown⟩ := List.mem_flatMap.mp member
      obtain ⟨column, kept, rfl⟩ := List.mem_map.mp shown
      exact ⟨inside, (List.mem_filter.mp kept).1⟩
  · have found : scope.starOf (Path.base [table]) = .ok source.columns := by
      have base : Path.base [table] = table.text := rfl
      rw [Scope.starOf, base, clear.source? inside named]
    exact (columnsOfItems_singleton _ scope).trans found
  · rw [clear.columnsOfItems ?_ written]
    · simp [Function.comp_def]
    · rintro p member
      obtain ⟨column, own, rfl⟩ := List.mem_map.mp member
      exact ⟨inside, own⟩
  · have read : scope.column ⟨none, name.text⟩ = .ok column := clear.unqualified linked once
    rw [columnsOfItems_singleton, Item.columnsIn]
    exact bind_of_ok read _

/-- `a NATURAL JOIN b LEFT JOIN c USING (y)` -/
def chain : Select where
  lead := []
  items := []
  into := ""
  sources :=
    [⟨false, .comma, .table [⟨"a", none⟩] false none [], none, .none⟩,
      ⟨false, .inner, .table [⟨"b", none⟩] false none [], none, .natural⟩,
      ⟨false, .left, .table [⟨"c", none⟩] false none [], none, .columns [⟨"y", none⟩]⟩]
  lateral := []
  condition := none
  groupByAll := false
  groupBy := []
  spread := []
  having := none
  windows := []

def chainColumn (table name : String) : ResultColumn :=
  ⟨name, none, [], some ⟨table, name⟩, some "INTEGER", true, true, false, none⟩

def chainTable (name : String) (columns : List String) : Table :=
  ⟨name, columns.map fun c => ⟨c, some "INTEGER", true, false, none⟩, false, .empty, .empty, ""⟩

/-- `a(id, x)`, `b(id, y)` and `c(y, x)` -/
def chainCatalog : Catalog where
  tables := ((OrderedMap.empty.put "a" (chainTable "a" ["id", "x"])).put "b"
    (chainTable "b" ["id", "y"])).put "c" (chainTable "c" ["y", "x"])
  views := .empty

def chainSources : List Source :=
  [.unjoined (some "a") (some "a") [chainColumn "a" "id", chainColumn "a" "x"] false false,
    { Source.unjoined (some "b") (some "b") [chainColumn "b" "id", chainColumn "b" "y"] false
        false with
      joinedColumns := ["id"] },
    { Source.unjoined (some "c") (some "c") [chainColumn "c" "y", chainColumn "c" "x"] false
        false with
      joinedColumns := ["y"]
      nullable := true }]

/-- The item `table.name`. -/
def chainItem (table name : String) : Item :=
  .expr none (.column [⟨table, none⟩, ⟨name, none⟩])

theorem sourcesOf_chain : sourcesOf chain.sources chainCatalog [] [] = .ok chainSources := by
  with_unfolding_all rfl

theorem unambiguous_chain : (Scope.ofSources chainCatalog [] chainSources).Unambiguous
    (constraintsOf chain.sources) := by
  have constraints : constraintsOf chain.sources = [.none, .natural, .columns [⟨"y", none⟩]] :=
    rfl
  refine ⟨by decide +kernel, by decide +kernel, by decide +kernel, fun i names given => ?_⟩
  rw [constraints] at given
  match i, given with
  | 2, rfl => decide +kernel

/-- The column `y` of `c` is joined, so that `y` is the column of `b`. -/
theorem columnsIn_wildcards_chain : ∃ all : List ResultColumn,
    { chain with items := [.star none []] }.columnsIn chainCatalog [] = .ok all ∧
    all.map ResultColumn.name = ["id", "x", "y", "x"] ∧
    { chain with items := [chainItem "a" "id", chainItem "a" "x", chainItem "b" "y",
      chainItem "c" "x"] }.columnsIn chainCatalog [] = .ok all ∧
    { chain with items := [.expr none (.column [⟨"y", none⟩])] }.columnsIn chainCatalog [] =
      .ok [{ chainColumn "b" "y" with tableAlias := some "b", aliasPath := ["b"] }] := by
  obtain ⟨all, star, written, _, once⟩ :=
    columnsIn_wildcards (by simp [chain]) sourcesOf_chain unambiguous_chain
  have shown : { chain with items := [.star none []] }.columnsIn chainCatalog [] =
      .ok ((chainSources.map Source.finish).flatMap Source.starColumns) := by
    decide +kernel
  obtain rfl : all = _ := Except.ok.inj ((star none).symm.trans shown)
  exact ⟨_, star none, by decide +kernel, written _ (by decide +kernel),
    once ⟨"y", none⟩ _ (by decide +kernel)⟩

end Sql.Select

end TypedRows
