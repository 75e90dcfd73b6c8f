import TypedRows.Proofs.StatementReads
import TypedRows.Proofs.UnreadAnnotations

/-! A table or view that neither the views of a schema nor a statement mention has no part in the
types of the statement. -/

namespace TypedRows

open Sql

namespace TypedStatement

variable {catalog : Catalog} {name : String}

theorem agreeAt_without (orderly : catalog.Orderly)
    (rooted : ∀ key view, (catalog.without name).views.get? key = some view →
      AllRooted (catalog.without name) view.columns)
    (types : TypeMap) {object : String} (other : Text.sameName name object = false) :
    (Context.ofCatalog (catalog.without name) types).AgreeAt (.ofCatalog catalog types) object where
  table := OrderedMap.get?_erase_of_ne _ (foldLower_ne other)
  view := OrderedMap.get?_erase_of_ne _ (foldLower_ne other)
  annotations := Inheritance.annotations?_without rooted orderly other
  overrides column := by
    have annotations := Inheritance.annotations?_without rooted orderly other column
    rw [Inheritance.overrides?, Inheritance.overrides?, Context.ofCatalog, Context.ofCatalog,
      annotations]
  dynamicFields := Inheritance.dynamicFields_without orderly other

theorem sameName_of_contains {object : String}
    (there : (catalog.without name).contains object = true) :
    Text.sameName name object = false := by
  rw [← Bool.not_eq_true, Text.sameName_iff]
  intro same
  change (catalog.without name).hasKey (Text.foldLower object) = true at there
  rw [Catalog.hasKey_without, Bool.and_eq_true, decide_eq_true_eq] at there
  exact there.2 same.symm

/-- Columns that are copied from the rest of the catalog inherit what they did. -/
theorem inherited_congr {a b : Context} {columns : List ResultColumn}
    (rooted : AllRooted a.catalog columns)
    (agree : ∀ object, a.catalog.contains object = true → a.AgreeAt b object) :
    ∀ column ∈ columns, Field.inherited a column = Field.inherited b column := by
  intro column member
  unfold Field.inherited
  cases copied : column.origin with
  | none => rfl
  | some origin =>
    have there := rooted column member origin copied
    rw [Option.bind_some, Option.bind_some, (agree origin.object there).annotations]

/-- A table or view that no other view of the schema reads might as well not be declared. The other
tables and views are the same, and what is looked up about them is, and so are the types or the
error of each statement that does not mean it by any of its names. -/
theorem analyse_unread {before after : List ScriptItem} {item : ScriptItem}
    (declared : item.statement.declared? = some name)
    (unread : ∀ other ∈ before ++ after, ∀ decl, other.statement = .createView decl →
      NotRead name decl.query.visits) {part whole : Catalog}
    (read : Catalog.ofScript (before ++ after) = .ok part)
    (read' : Catalog.ofScript (before ++ item :: after) = .ok whole) :
    part = whole.without name ∧ ∀ types,
      (∀ object, Text.sameName name object = false →
        (Context.ofCatalog part types).AgreeAt (.ofCatalog whole types) object) ∧
      ∀ place statement, (∀ n ∈ statement.statement.names, Text.sameName name n = false) →
        analyse (.ofCatalog part types) place statement =
          analyse (.ofCatalog whole types) place statement := by
  obtain rfl := Catalog.ofScript_without declared unread read read'
  have orderly := Catalog.orderly_ofScript read'
  have agree : ∀ types object, Text.sameName name object = false →
      (Context.ofCatalog (whole.without name) types).AgreeAt (.ofCatalog whole types) object :=
    fun types object => agreeAt_without orderly (fun key view => Catalog.rooted_views read) types
  refine ⟨rfl, fun types => ⟨agree types, fun place statement unmentioned => ?_⟩⟩
  have types' : (Context.ofCatalog (whole.without name) types).types =
      (Context.ofCatalog whole types).types := rfl
  refine analyse_congr types' (fun n member => agree types n (unmentioned n member)) ?_
  intro shape made
  exact inherited_congr (Shape.rooted_ofStatement (Catalog.orderly_ofScript read) made)
    fun object there => agree types object (sameName_of_contains there)

/-- A view that returns what it reads. -/
def viewOf (name object : String) : ScriptItem :=
  ⟨"", .createView ⟨name, [], Catalog.selectAll object⟩, [], [], []⟩

def oneColumn : ScriptItem :=
  ⟨"", .createTable ⟨"t", [⟨"x", some "INTEGER", true, false, none⟩], false⟩, [], [], []⟩

/-- The names of the fields of a query against a schema, if both are right. -/
def fieldNames (schema : List ScriptItem) (query : Query) : Option (List String) := do
  let catalog ← (Catalog.ofScript schema).toOption
  let statement ← (analyse (.ofCatalog catalog .initial) ⟨"q", "n", ""⟩
    ⟨"", .select query, [], [], []⟩).toOption
  some (statement.fields.map Field.name)

theorem fieldNames_eq_some {schema : List ScriptItem} {query : Query} {names : List String}
    (h : fieldNames schema query = some names) : ∃ catalog statement,
      Catalog.ofScript schema = .ok catalog ∧
      analyse (.ofCatalog catalog .initial) ⟨"q", "n", ""⟩ ⟨"", .select query, [], [], []⟩ =
        .ok statement ∧ statement.fields.map Field.name = names := by
  obtain ⟨catalog, read, h⟩ := Option.bind_eq_some_iff.mp h
  obtain ⟨statement, analysed, h⟩ := Option.bind_eq_some_iff.mp h
  cases h
  exact ⟨catalog, statement, toOption_eq_some.mp read, toOption_eq_some.mp analysed, rfl⟩

-- the view in the middle reads the one after it
theorem analyse_unread_between : ∃ part whole statement,
    Catalog.ofScript ([oneColumn] ++ [viewOf "v" "t"]) = .ok part ∧
    Catalog.ofScript ([oneColumn] ++ viewOf "d" "v" :: [viewOf "v" "t"]) = .ok whole ∧
    whole.contains "d" = true ∧ part = whole.without "d" ∧
    analyse (.ofCatalog part .initial) ⟨"q", "n", ""⟩
      ⟨"", .select (Catalog.selectAll "v"), [], [], []⟩ = .ok statement ∧
    analyse (.ofCatalog whole .initial) ⟨"q", "n", ""⟩
      ⟨"", .select (Catalog.selectAll "v"), [], [], []⟩ = .ok statement ∧
    statement.fields.map Field.name = ["x"] := by
  have small : fieldNames ([oneColumn] ++ [viewOf "v" "t"]) (Catalog.selectAll "v") =
      some ["x"] := by
    decide +kernel
  have large : ((Catalog.ofScript ([oneColumn] ++ viewOf "d" "v" :: [viewOf "v" "t"])).toOption.map
      fun catalog => catalog.contains "d") = some true := by
    decide +kernel
  have unread : ∀ other ∈ [oneColumn] ++ [viewOf "v" "t"], ∀ decl,
      other.statement = .createView decl → NotRead "d" decl.query.visits := by
    intro other member decl declares
    obtain rfl | rfl : other = oneColumn ∨ other = viewOf "v" "t" := by simpa using member
    · cases declares
    · cases declares
      intro n met
      obtain rfl : n = "t" := Visit.relation.inj (List.mem_singleton.mp met)
      decide +kernel
  have unmentioned : ∀ n ∈ (Statement.select (Catalog.selectAll "v")).names,
      Text.sameName "d" n = false := by
    decide +kernel
  obtain ⟨part, statement, read, analysed, names⟩ := fieldNames_eq_some small
  obtain ⟨whole, there, own⟩ := Option.map_eq_some_iff.mp large
  have read' := toOption_eq_some.mp there
  obtain ⟨same, agree⟩ := analyse_unread rfl unread read read'
  have analysed' := (agree .initial).2 ⟨"q", "n", ""⟩
    ⟨"", .select (Catalog.selectAll "v"), [], [], []⟩ unmentioned
  exact ⟨part, whole, statement, read, read', own, same, analysed, analysed' ▸ analysed, names⟩

end TypedStatement

end TypedRows
