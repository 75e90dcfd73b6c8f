import TypedRows.Proofs.CatalogOrder
import TypedRows.Proofs.CollectionKeys
import TypedRows.Proofs.SharedRow

/-! The types of nested values. A member of a nested value is made from a property of the flat row,
which is unwrapped or wrapped where only one of the two may be missing. A property is not wrapped if
its type is optional by itself, but a member of a nested value is: so a nullable column of such a
type has no member of the declared type, and every other column has. -/

namespace TypedRows

open Sql

theorem RustType.optional_inj {a b : String} : optional a = optional b ↔ a = b := by
  constructor
  · intro same
    have chars := congrArg String.toList same
    simp only [optional, String.toList_append, List.append_assoc, List.append_cancel_left_eq,
      List.append_cancel_right_eq] at chars
    exact String.toList_inj.mp chars
  · rintro rfl
    rfl

namespace Emit.Cell

/-- The type of a cell, where `type` is that of the property it is made from. -/
inductive HasType (type : String) : Cell → String → Prop where
  | property (name : String) : HasType type (.property name) type
  | required {cell : Cell} {value : String}
      (optional : HasType type cell (RustType.optional value)) : HasType type (.required cell) value
  | present {cell : Cell} {value : String} (plain : HasType type cell value) :
    HasType type (.present cell) (RustType.optional value)

variable {type value : String} {cell : Cell}

theorem hasType_property_iff {name : String} :
    HasType type (.property name) value ↔ value = type := by
  constructor
  · rintro ⟨⟩
    rfl
  · rintro rfl
    exact .property name

theorem hasType_required_iff :
    HasType type (.required cell) value ↔ HasType type cell (RustType.optional value) := by
  constructor
  · rintro ⟨⟩
    assumption
  · exact .required

theorem hasType_present_iff :
    HasType type (.present cell) (RustType.optional value) ↔ HasType type cell value := by
  constructor
  · intro h
    generalize same : RustType.optional value = wrapped at h
    cases h with
    | present plain => exact RustType.optional_inj.mp same ▸ plain
  · exact .present

/-- A cell has at most one type. -/
theorem HasType.unique {other : String} (h : HasType type cell value)
    (h' : HasType type cell other) : value = other := by
  induction h generalizing other with
  | property name => exact (hasType_property_iff.mp h').symm
  | required _ ih => exact RustType.optional_inj.mp (ih (hasType_required_iff.mp h'))
  | present _ ih =>
    cases h' with
    | present plain => rw [ih plain]

/-- The cell of a column has the type of the member, unless the column is nullable and of a type
that is optional by itself. -/
theorem hasType_ofColumn_iff {flat : Field} {column : NestedColumn}
    (same : column.propertyType = flat.propertyType) :
    HasType flat.rustType (ofColumn flat column) column.rustType ↔
      flat.notNull = true ∨ Text.hasPrefix flat.propertyType "Option<" = false := by
  have apart := Folding.ne_optional flat.propertyType
  unfold ofColumn NestedColumn.rustType Field.rustType
  rw [same]
  cases filled : flat.notNull <;> cases column.notNull <;>
    cases Text.hasPrefix flat.propertyType "Option<" <;>
      simp [hasType_property_iff, hasType_required_iff, hasType_present_iff, apart.symm]

end Emit.Cell

namespace TypedStatement

open NestedField Emit

variable {context : Context} {place : Place} {item : ScriptItem} {statement : TypedStatement}

/-- The fields that are properties of a row as the database returns it. -/
def physicalFields (statement : TypedStatement) : List Field :=
  statement.fields.filter fun field => !field.isDynamic

/-- A nested value takes fields of the flat row, which are found again by their names. -/
theorem exists_taken (h : analyse context place item = .ok statement) {n : NestedField}
    (member : n ∈ statement.nested) :
    ∃ (taken : List Field) (mapping : Mapping),
      n.columns = taken.map (mapping.column statement.overrides.nameStyle) ∧
      ∀ field ∈ taken, field ∈ statement.physicalFields ∧
        (statement.physicalFields.find? fun f => f.name == field.name) = some field := by
  obtain ⟨_, _, mapping, _, _, gathers⟩ := analyse_gathers h member
  refine ⟨mapping.taken statement.aliases statement.fields, mapping, gathers.columns,
    fun field inside => ?_⟩
  obtain ⟨own, takes⟩ := List.mem_filter.mp inside
  simp only [Mapping.takes, Bool.and_eq_true] at takes
  have physical : field ∈ statement.physicalFields := List.mem_filter.mpr ⟨own, takes.1.1⟩
  have distinct : (statement.physicalFields.map Field.name).Nodup :=
    (names_distinct h).sublist (List.filter_sublist.map _)
  exact ⟨physical, Field.find?_name distinct physical⟩

/-- Each member of each nested value of an accepted statement is made from the flat column of its
name. What is made has the type that the member is declared with exactly if the column is not null
or its type is not optional by itself. -/
theorem analyse_cells (h : analyse context place item = .ok statement) :
    ∀ n ∈ statement.nested,
      List.Forall₂ (fun (column : NestedColumn) (cell : String × Cell) =>
        ∃ flat ∈ statement.physicalFields, flat.name = column.column ∧
          cell = (column.propertyName, Cell.ofColumn flat column) ∧
          (cell.2.HasType flat.rustType column.rustType ↔
            flat.notNull = true ∨ Text.hasPrefix flat.propertyType "Option<" = false))
        n.columns (cellsOf statement.physicalFields n) := by
  intro n member
  obtain ⟨taken, mapping, columns, found⟩ := exists_taken h member
  have cells : cellsOf statement.physicalFields n = taken.map fun flat =>
      ((mapping.column statement.overrides.nameStyle flat).propertyName,
        Cell.ofColumn flat (mapping.column statement.overrides.nameStyle flat)) := by
    rw [cellsOf, columns, List.filterMap_map, ← List.filterMap_eq_map]
    refine List.filterMap_congr fun flat inside => ?_
    change Option.map _ (statement.physicalFields.find? fun f => f.name == flat.name) = _
    rw [(found flat inside).2]
    rfl
  rw [columns, cells, List.forall₂_map_left_iff, List.forall₂_map_right_iff, List.forall₂_same]
  intro flat inside
  exact ⟨flat, (found flat inside).1, rfl, rfl, Cell.hasType_ofColumn_iff rfl⟩

/-- A table of which both columns are folded into a field; the second may be null. -/
def optionalContext : Context :=
  .ofCatalog ⟨.ofList [("pet", ⟨"pet", [⟨"id", some "INTEGER", true, false, none⟩,
    ⟨"name", some "TEXT", false, false, none⟩], false, .empty, .empty, ""⟩)], .empty⟩ .initial

/-- `SELECT * FROM pet` where the type of the second column is optional by itself. -/
def optionalItem : ScriptItem where
  sql := ""
  statement := .select (Catalog.selectAll "pet")
  leadingComments :=
    ["@@\x7bdynamicField=pet, mappingType=perRow, sourceTable=pet, propertyType=Pet\x7d",
      "@@\x7bfield=name, propertyType=Option<String>\x7d"]
  innerComments := []
  parameters := []

theorem exists_optional : ∃ statement n id name,
    analyse optionalContext ⟨"q", "n", ""⟩ optionalItem = .ok statement ∧
    statement.nested = [n] ∧ n.columns = [id, name] ∧ id.column = "id" ∧ name.column = "name" ∧
    name.rustType = "Option<Option<String>>" ∧
    statement.physicalFields.map (fun f => (f.name, f.notNull, f.propertyType)) =
      [("id", true, "i64"), ("name", false, "Option<String>")] := by
  have found : ((analyse optionalContext ⟨"q", "n", ""⟩ optionalItem).toOption.map fun statement =>
      (statement.nested.map fun n => n.columns.map fun c => (c.column, c.rustType),
        statement.physicalFields.map fun f => (f.name, f.notNull, f.propertyType))) =
        some ([[("id", "i64"), ("name", "Option<Option<String>>")]],
          [("id", true, "i64"), ("name", false, "Option<String>")]) := by
    decide +kernel
  obtain ⟨statement, analysed, found⟩ := Option.map_eq_some_iff.mp found
  obtain ⟨nested, physical⟩ := Prod.mk.inj found
  obtain ⟨n, only, columns⟩ := List.map_eq_singleton_iff.mp nested
  obtain ⟨id, rest, columns, first, others⟩ := List.map_eq_cons_iff.mp columns
  obtain ⟨name, rfl, second⟩ := List.map_eq_singleton_iff.mp others
  obtain ⟨named, -⟩ := Prod.mk.inj first
  obtain ⟨named', type⟩ := Prod.mk.inj second
  exact ⟨statement, n, id, name, toOption_eq_some.mp analysed, only, columns, named, named', type,
    physical⟩

/-- The first member is made as it is declared, the second is not. -/
theorem analyse_cells_optional : ∃ statement n id name flatId flatName,
    analyse optionalContext ⟨"q", "n", ""⟩ optionalItem = .ok statement ∧
    statement.nested = [n] ∧ n.columns = [id, name] ∧
    cellsOf statement.physicalFields n =
      [(id.propertyName, .ofColumn flatId id), (name.propertyName, .ofColumn flatName name)] ∧
    (Cell.ofColumn flatId id).HasType flatId.rustType id.rustType ∧
    flatName.rustType = "Option<String>" ∧ name.rustType = "Option<Option<String>>" ∧
    ¬(Cell.ofColumn flatName name).HasType flatName.rustType name.rustType := by
  obtain ⟨statement, n, id, name, analysed, only, columns, isId, isName, declared, physical⟩ :=
    exists_optional
  have told : ∀ f ∈ statement.physicalFields, (f.name, f.notNull, f.propertyType) ∈
      [("id", true, "i64"), ("name", false, "Option<String>")] := fun f member =>
    physical ▸ List.mem_map_of_mem member
  have each := analyse_cells analysed n (only ▸ List.mem_singleton_self n)
  rw [columns] at each
  generalize made : cellsOf statement.physicalFields n = cells at each
  obtain _ | ⟨⟨flatId, inId, named, rfl, typedId⟩, _ | ⟨⟨flatName, inName, named', rfl, typedName⟩,
    _ | _⟩⟩ := each
  have first := told flatId inId
  have second := told flatName inName
  simp only [named, named', isId, isName, List.mem_cons, Prod.mk.injEq, List.not_mem_nil,
    or_false] at first second
  obtain ⟨filled, -⟩ : flatId.notNull = true ∧ _ := by simpa using first
  obtain ⟨missing, type⟩ : flatName.notNull = false ∧ flatName.propertyType = "Option<String>" := by
    simpa using second
  have starts : Text.hasPrefix "Option<String>" "Option<" = true := by decide
  refine ⟨statement, n, id, name, flatId, flatName, analysed, only, columns, made,
    typedId.mpr (.inl filled), ?_, declared, ?_⟩
  · rw [Field.rustType, missing, type, starts]
    rfl
  · rw [typedName, missing, type, starts]
    decide

end TypedStatement

end TypedRows
