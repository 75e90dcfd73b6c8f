import TypedRows.Proofs.ColumnInvariants
import TypedRows.Proofs.FirstMember
import TypedRows.Proofs.OuterJoin

/-! The columns that `*`, `table.*` and column references stand for, each with the source that it is
read from, and how they show that an outer join may leave the source without a row. -/

namespace TypedRows

open Sql

theorem Source.hasName_iff {source : Source} {name : String} : source.hasName name = true ↔
    ∃ reference, source.reference = some reference ∧ Text.sameName reference name = true := by
  unfold hasName
  cases source.reference with
  | none => simp
  | some reference => simp

/-- The source in which a reference finds its column. One without a table may be found in any source
of unknown columns, or be the row number of the only source. -/
inductive Scope.Resolves (scope : Scope) : ColumnRef → Source → Prop where
  | named {table name : String} {source : Source} (found : scope.source? table = some source) :
    Resolves scope ⟨some table, name⟩ source
  | first {name : String} {source : Source} {column : ResultColumn}
    {others : List (Source × ResultColumn)}
    (found : scope.candidates name = (source, column) :: others) :
    Resolves scope ⟨none, name⟩ source
  | hidden {name : String} {source : Source} (missing : scope.candidates name = [])
    (member : source ∈ scope.sources) (hidden : source.hidden = true) :
    Resolves scope ⟨none, name⟩ source
  | only {name : String} {source : Source} (missing : scope.candidates name = [])
    (only : scope.sources = [source]) (visible : source.hidden = false) :
    Resolves scope ⟨none, name⟩ source

def ResultColumn.labelled (column : ResultColumn) : Option Ident → ResultColumn
  | some label => { column with name := label.text }
  | none => column

/-- The item stands for the column, perhaps among others, and reads it from the source. -/
inductive Sql.Item.Projects (scope : Scope) : Item → Source → ResultColumn → Prop where
  | star {label : Option Ident} {source : Source} {column : ResultColumn}
    (member : source ∈ scope.sources) (shown : column ∈ source.starColumns) :
    Projects scope (.star label []) source column
  | starOf {label : Option Ident} {first : Ident} {rest : Path} {source : Source}
    {column : ResultColumn} (found : scope.source? (Path.base (first :: rest)) = some source)
    (inside : column ∈ source.columns) :
    Projects scope (.star label (first :: rest)) source column
  | column {label : Option Ident} {e : Expr} {ref : ColumnRef} {source : Source}
    {column : ResultColumn} (plain : e.columnRef? = some ref) (resolves : scope.Resolves ref source)
    (read : scope.column ref = .ok column) :
    Projects scope (.expr label e) source (column.labelled label)

namespace Sql.Item

/-- Whether the item is a wildcard or a column reference. -/
def isPlain : Item → Bool
  | .star _ _ => true
  | .expr _ e => e.columnRef?.isSome

/-- Whether the item stands for columns of the source itself: a wildcard does, and so does a
reference by the name of one. -/
def readsOwn (item : Item) (source : Source) : Bool :=
  match item with
  | .star _ _ => true
  | .expr _ e =>
    match e.columnRef? with
    | some ref => (source.column? ref.column).isSome
    | none => false

end Sql.Item

namespace Scope

variable {scope : Scope} {ref : ColumnRef} {source : Source} {column : ResultColumn}

theorem Resolves.mem (resolves : scope.Resolves ref source) : source ∈ scope.sources := by
  cases resolves with
  | named found => exact List.mem_of_find?_eq_some found
  | first found => exact (mem_candidates.mp (found ▸ List.mem_cons_self)).1
  | hidden missing member hidden => exact member
  | only missing alone visible => exact alone ▸ List.mem_cons_self

/-- A reference that stands for a column finds it in some source. -/
theorem exists_resolves (read : scope.column ref = .ok column) :
    ∃ source, scope.Resolves ref source := by
  obtain ⟨table | table, name⟩ := ref
  · obtain ⟨source, others, first⟩ | ⟨missing, ⟨some', _⟩ | ⟨only, alone, visible, _⟩⟩ :=
      unqualified_eq_ok read
    · exact ⟨source, .first first⟩
    · obtain ⟨source, member, hidden⟩ := List.any_eq_true.mp some'
      exact ⟨source, .hidden missing member hidden⟩
    · exact ⟨only, .only missing alone visible⟩
  · obtain ⟨source, found, _⟩ := qualified_eq_ok read
    exact ⟨source, .named found⟩

theorem column?_of_candidates_nil {name : String} (missing : scope.candidates name = [])
    (member : source ∈ scope.sources) : source.column? name = none := by
  rw [Source.column?, List.find?_eq_none]
  intro column own same
  have found : (source, column) ∈ scope.candidates name := mem_candidates.mpr ⟨member, own, same⟩
  rw [missing] at found
  cases found

/-- What a reference finds in a source is a column of the source, or else the row number of a table,
or all that is known of a source of unknown columns. -/
theorem column_of_resolves (unknown : source.hidden = true → source.columns = [])
    (resolves : scope.Resolves ref source) (read : scope.column ref = .ok column) :
    ((source.column? ref.column).isSome = true ∧ column ∈ source.columns) ∨
      (source.column? ref.column = none ∧ column.notNull = (!source.hidden) ∧
        column.joinedNullable = false) := by
  cases resolves with
  | named found =>
    obtain ⟨_, found', read⟩ := qualified_eq_ok read
    cases found.symm.trans found'
    obtain ⟨hidden, rfl⟩ | ⟨visible, own | ⟨missing, row⟩⟩ := read
    · rw [Source.column?, unknown hidden, hidden]
      exact .inr ⟨rfl, rfl, rfl⟩
    · exact .inl ⟨Option.isSome_of_eq_some own, List.mem_of_find?_eq_some own⟩
    · obtain ⟨_, _, _, rfl⟩ := rowid?_eq_some row
      rw [visible]
      exact .inr ⟨missing, rfl, rfl⟩
  | first found =>
    obtain ⟨_, _, first⟩ | ⟨missing, _⟩ := unqualified_eq_ok read
    · cases found.symm.trans first
      obtain ⟨_, own, same⟩ := mem_candidates.mp (found ▸ List.mem_cons_self)
      exact .inl ⟨List.find?_isSome.mpr ⟨column, own, same⟩, own⟩
    · cases found.symm.trans missing
  | hidden missing member hidden =>
    have none' := column?_of_candidates_nil missing member
    obtain ⟨_, _, first⟩ | ⟨_, ⟨_, rfl⟩ | ⟨only, alone, visible, _⟩⟩ := unqualified_eq_ok read
    · cases missing.symm.trans first
    · rw [hidden]
      exact .inr ⟨none', rfl, rfl⟩
    · rw [alone] at member
      rw [List.mem_singleton.mp member, visible] at hidden
      cases hidden
  | only missing alone visible =>
    have none' := column?_of_candidates_nil missing (alone ▸ List.mem_cons_self)
    obtain ⟨_, _, first⟩ | ⟨_, ⟨hidden, _⟩ | ⟨only, alone', _, row⟩⟩ := unqualified_eq_ok read
    · cases missing.symm.trans first
    · rw [alone, List.any_cons, visible] at hidden
      cases hidden
    · cases alone.symm.trans alone'
      obtain ⟨_, _, _, rfl⟩ := rowid?_eq_some row
      rw [visible]
      exact .inr ⟨none', rfl, rfl⟩

end Scope

/-- The columns of a function are not known. -/
theorem Catalog.keeps_hidden (catalog : Catalog) :
    catalog.Keeps (fun _ => True) fun source => source.hidden = true → source.columns = [] where
  unknown _ := trivial
  computed _ _ _ := trivial
  renamed _ _ := trivial
  merged _ _ := trivial
  object _ _ := nofun
  result _ _ := nofun
  call _ _ := rfl
  joined _ _ h := h
  seen _ _ := trivial
  rowid _ _ := trivial
  target _ _ _ _ := trivial

namespace Sql.Item

variable {scope : Scope} {item : Item} {columns : List ResultColumn}

theorem Projects.mem {source : Source} {column : ResultColumn}
    (projects : item.Projects scope source column) : source ∈ scope.sources := by
  cases projects with
  | star member shown => exact member
  | starOf found inside => exact List.mem_of_find?_eq_some found
  | column plain resolves read => exact resolves.mem

/-- The columns of a plain item are those that it projects. -/
theorem mem_columnsIn_iff (plain : item.isPlain = true) (found : item.columnsIn scope = .ok columns)
    {column : ResultColumn} : column ∈ columns ↔ ∃ source, item.Projects scope source column := by
  unfold columnsIn at found
  cases item with
  | star label path =>
    cases path with
    | nil =>
      dsimp only at found
      unfold Scope.star at found
      split at found
      · cases found
      · cases found
        rw [List.mem_flatMap]
        constructor
        · rintro ⟨source, member, shown⟩
          exact ⟨source, .star member shown⟩
        · rintro ⟨source, projects⟩
          cases projects with
          | star member shown => exact ⟨source, member, shown⟩
    | cons first rest =>
      dsimp only at found
      unfold Scope.starOf at found
      cases named : scope.source? (Path.base (first :: rest)) with
      | none =>
        rw [named] at found
        cases found
      | some source =>
        rw [named] at found
        cases found
        constructor
        · exact fun inside => ⟨source, .starOf named inside⟩
        · rintro ⟨_, projects⟩
          cases projects with
          | starOf found inside =>
            cases named.symm.trans found
            exact inside
  | expr label e =>
    obtain ⟨ref, reference⟩ := Option.isSome_iff_exists.mp plain
    dsimp only at found
    rw [reference] at found
    obtain ⟨own, read, found⟩ := bind_eq_ok found
    have only : columns = [own.labelled label] := by
      cases label <;> exact (Except.ok.inj found).symm
    rw [only, List.mem_singleton]
    constructor
    · rintro rfl
      obtain ⟨source, resolves⟩ := Scope.exists_resolves read
      exact ⟨source, .column reference resolves read⟩
    · rintro ⟨source, projects⟩
      cases projects with
      | column reference' resolves read' =>
        cases reference.symm.trans reference'
        cases read.symm.trans read'
        rfl

/-- The columns of a plain item are those that it projects. What it reads from a source that an
outer join may leave without a row is marked so, if it is a column of the source. But a row number
is taken to be always there, and what is read from a source of unknown columns is not marked. -/
theorem projects_nullable {entries : List Entry} {catalog : Catalog} {ctes : Ctes}
    {sources : List Source} (joined : sourcesOf entries catalog ctes [] = .ok sources)
    (plain : item.isPlain = true)
    (found : item.columnsIn (.ofSources catalog ctes sources) = .ok columns) :
    (∀ column, column ∈ columns ↔
      ∃ source, item.Projects (.ofSources catalog ctes sources) source column) ∧
    ∀ source column, item.Projects (.ofSources catalog ctes sources) source column →
      source ∈ (Scope.ofSources catalog ctes sources).sources ∧
      (source.nullable = true →
        (item.readsOwn source = true →
          column.notNull = false ∧ column.joinedNullable = true) ∧
        (item.readsOwn source = false →
          column.notNull = (!source.hidden) ∧ column.joinedNullable = false)) := by
  refine ⟨fun column => mem_columnsIn_iff plain found, fun source column projects =>
    ⟨projects.mem, fun nullable => ?_⟩⟩
  obtain ⟨before, inside, rfl⟩ := List.mem_map.mp projects.mem
  have own : ∀ c ∈ before.finish.columns, c.notNull = false ∧ c.joinedNullable = true :=
    fun c => Source.finish_columns nullable
  have unknown : before.finish.hidden = true → before.finish.columns = [] := by
    intro hidden
    have none' := catalog.keeps_hidden.sources entries (fun _ _ _ _ => trivial)
      (List.forall_mem_nil _) joined before inside hidden
    rw [Source.finish, none', List.map_nil]
  cases projects with
  | star member shown =>
    refine ⟨fun _ => own column (List.mem_filter.mp shown).1, fun other => ?_⟩
    cases other
  | starOf found inside =>
    refine ⟨fun _ => own column inside, fun other => ?_⟩
    cases other
  | @column label e ref _ column reference resolves read =>
    have flags : (column.labelled label).notNull = column.notNull ∧
        (column.labelled label).joinedNullable = column.joinedNullable := by
      cases label <;> exact ⟨rfl, rfl⟩
    have reads : (Item.expr label e).readsOwn before.finish =
        (before.finish.column? ref.column).isSome := by
      rw [readsOwn, reference]
    rw [flags.1, flags.2, reads]
    obtain ⟨isOwn, inside⟩ | ⟨missing, unmarked⟩ := Scope.column_of_resolves unknown resolves read
    · refine ⟨fun _ => own column inside, fun other => ?_⟩
      cases isOwn.symm.trans other
    · rw [missing]
      refine ⟨fun isOwn => ?_, fun _ => unmarked⟩
      cases isOwn

/-- `a LEFT JOIN b` -/
def leftPair : List Entry :=
  [⟨false, .comma, .table [⟨"a", none⟩] false none [], none, .none⟩,
    ⟨false, .left, .table [⟨"b", none⟩] false none [], none, .none⟩]

/-- `b.name` -/
def ofSecond (name : String) : Item := .expr none (.column [⟨"b", none⟩, ⟨name, none⟩])

def leftPairSources : List Source :=
  [.unjoined (some "a") (some "a")
      [⟨"x", none, [], some ⟨"a", "x"⟩, some "INTEGER", true, true, false, none⟩] false false,
    { Source.unjoined (some "b") (some "b")
        [⟨"y", none, [], some ⟨"b", "y"⟩, some "INTEGER", false, false, false, none⟩] false
        false with
      nullable := true }]

def leftPairScope : Scope := .ofSources Catalog.pairCatalog [] leftPairSources

def rowidOfSecond : ResultColumn :=
  ⟨"rowid", some "b", ["b"], some ⟨"b", "rowid"⟩, some "INTEGER", true, true, false, none⟩

def yOfSecond : ResultColumn :=
  ⟨"y", some "b", ["b"], some ⟨"b", "y"⟩, some "INTEGER", false, false, true, none⟩

/-- Both columns are read from `b`, which may have no row, but the row number does not tell. -/
theorem projects_nullable_rowid :
    sourcesOf leftPair Catalog.pairCatalog [] [] = .ok leftPairSources ∧
    (ofSecond "rowid").isPlain = true ∧ (ofSecond "y").isPlain = true ∧
    (ofSecond "rowid").columnsIn leftPairScope = .ok [rowidOfSecond] ∧
    (ofSecond "y").columnsIn leftPairScope = .ok [yOfSecond] ∧
    ∃ source ∈ leftPairScope.sources, source.nullable = true ∧
      (ofSecond "rowid").Projects leftPairScope source rowidOfSecond ∧
      rowidOfSecond.notNull = true ∧ rowidOfSecond.joinedNullable = false ∧
      (ofSecond "y").Projects leftPairScope source yOfSecond ∧
      yOfSecond.notNull = false ∧ yOfSecond.joinedNullable = true := by
  have joined : sourcesOf leftPair Catalog.pairCatalog [] [] = .ok leftPairSources := by
    with_unfolding_all rfl
  have row : (ofSecond "rowid").columnsIn leftPairScope = .ok [rowidOfSecond] := by decide +kernel
  have plain : (ofSecond "y").columnsIn leftPairScope = .ok [yOfSecond] := by decide +kernel
  refine ⟨joined, rfl, rfl, row, plain, ?_⟩
  have named : leftPairScope.source? "b" = some leftPairSources[1].finish := by
    with_unfolding_all rfl
  have readsRow : (ofSecond "rowid").Projects leftPairScope _ rowidOfSecond :=
    .column rfl (.named named) (by decide +kernel)
  have readsPlain : (ofSecond "y").Projects leftPairScope _ yOfSecond :=
    .column rfl (.named named) (by decide +kernel)
  obtain ⟨inside, unmarked⟩ := (projects_nullable joined rfl row).2 _ _ readsRow
  obtain ⟨_, marked⟩ := (projects_nullable joined rfl plain).2 _ _ readsPlain
  obtain ⟨filled, unjoined⟩ := (unmarked rfl).2 (by decide +kernel)
  obtain ⟨null, shown⟩ := (marked rfl).1 (by decide +kernel)
  exact ⟨_, inside, rfl, readsRow, filled, unjoined, readsPlain, null, shown⟩

end Sql.Item

end TypedRows
