import TypedRows.Emit.Nesting
import TypedRows.Proofs.NestedPartition

/-! What the rows of collections are grouped by. The key of a statement is looked for among all of
its fields, before it is known which of them are folded into nested values: so it may be a column
that is no property of a row, or a dynamic field, which no column stands behind. Without a property
to group by there is no function that folds the rows. -/

namespace TypedRows

open Sql Emit

theorem Mapping.exists_itemKey (mapping : Mapping) {columns : List NestedColumn}
    (some' : columns ≠ []) : ∃ column ∈ columns, mapping.itemKey? columns = some column.column := by
  rw [itemKey?]
  cases named : mapping.collectionKey.bind fun key => columns.find? (mapping.isKey key) with
  | some column =>
    obtain ⟨key, _, found⟩ := Option.bind_eq_some_iff.mp named
    exact ⟨column, List.mem_of_find?_eq_some found, rfl⟩
  | none =>
    obtain ⟨column, rest, rfl⟩ := List.exists_cons_of_ne_nil some'
    exact ⟨column, List.mem_cons_self, rfl⟩

theorem Field.find?_name {fields : List Field} (distinct : (fields.map Field.name).Nodup)
    {field : Field} (member : field ∈ fields) :
    (fields.find? fun f => f.name == field.name) = some field := by
  have there : (fields.find? fun f => f.name == field.name).isSome = true :=
    List.find?_isSome.mpr ⟨field, member, beq_self_eq_true _⟩
  obtain ⟨found, first⟩ := Option.isSome_iff_exists.mp there
  have named : found.name = field.name := by simpa using List.find?_some first
  rw [first, List.inj_on_of_nodup_map distinct (List.mem_of_find?_eq_some first) member named]

namespace TypedStatement

open NestedField

variable {context : Context} {place : Place} {item : ScriptItem} {statement : TypedStatement}
  {field parent : Field}

/-- No mapping of the statement takes the field. -/
def Untaken (statement : TypedStatement) (field : Field) : Prop :=
  ∀ other ∈ statement.fields, ∀ mapping, other.overrides.mapping = some mapping →
    mapping.takes statement.aliases field = false

theorem names_distinct (h : analyse context place item = .ok statement) :
    (statement.fields.map Field.name).Nodup := by
  obtain ⟨_, fields, distinct, _, settled⟩ := analyse_eq_ok h
  rw [settled, List.map_map]
  simpa only [Function.comp_def, settle_name] using distinct

theorem innerNames_eq (h : analyse context place item = .ok statement) :
    innerNames statement.nested =
      statement.fields.flatMap (takenNames statement.fields statement.aliases) := by
  obtain ⟨_, fields, _, folded, settled⟩ := analyse_eq_ok h
  rw [(ofFields_eq_ok folded).1, settled, List.flatMap_map]
  simp only [takenNames_settle]

theorem mem_innerNames_iff (h : analyse context place item = .ok statement)
    (member : field ∈ statement.fields) :
    field.name ∈ innerNames statement.nested ↔ ¬Untaken statement field := by
  rw [innerNames_eq h, List.mem_flatMap, Untaken]
  push Not
  refine exists_congr fun other => and_congr_right fun _ => ?_
  rw [takenNames]
  cases mapped : other.overrides.mapping with
  | none => simp
  | some mapping =>
    simp only [Option.some.injEq, exists_eq_left', ne_eq, Bool.not_eq_false, Mapping.taken,
      List.mem_map, List.mem_filter]
    constructor
    · rintro ⟨f, ⟨inside, taken⟩, named⟩
      rwa [← List.inj_on_of_nodup_map (names_distinct h) inside member named]
    · exact fun taken => ⟨field, ⟨member, taken⟩, rfl⟩

theorem mem_flatFields_iff (h : analyse context place item = .ok statement)
    (member : field ∈ statement.fields) :
    field ∈ statement.flatFields ↔ Untaken statement field := by
  rw [← not_iff_not, ← mem_innerNames_iff h member, flatFields, Field.flat, skipped_eq]
  simp [member, List.mem_eraseDups]

/-- How the rows of a collection are grouped: by the first field that has the name of the key,
whatever it is. -/
structure GroupedBy (statement : TypedStatement) (n : NestedField) (parent : Field) : Prop where
  key : ∃ key, statement.overrides.collectionKey = some key ∧ statement.field? key = some parent
  parentKey : n.parentKey = some parent.name
  itemKey : ∃ column ∈ n.columns, n.itemKey = some column.column
  byColumn : (∃ field ∈ statement.flatFields, n.parentKey = some field.name ∧
    field.isDynamic = false) ↔ parent.isDynamic = false ∧ Untaken statement parent
  grouped : Untaken statement parent →
    parentOf statement.flatFields statement.nested = some (identifier parent.propertyName)
  ungrouped : ¬Untaken statement parent → parentOf statement.flatFields statement.nested = none

/-- All collections of a statement have one key; what is no collection has none. -/
theorem findSome?_parentKey {key : String} {n : NestedField} (member : n ∈ statement.nested)
    (own : n.parentKey = some key)
    (others : ∀ m ∈ statement.nested, m.parentKey = none ∨ m.parentKey = some key) :
    statement.nested.findSome? NestedField.parentKey = some key := by
  cases found : statement.nested.findSome? NestedField.parentKey with
  | none =>
    have absent := List.findSome?_eq_none_iff.mp found n member
    rw [own] at absent
    cases absent
  | some other =>
    obtain ⟨m, inside, given⟩ := List.exists_of_findSome?_eq_some found
    obtain none' | same := others m inside
    · cases given.symm.trans none'
    · exact given.symm.trans same

theorem exists_groupedBy (h : analyse context place item = .ok statement) {n : NestedField}
    (member : n ∈ statement.nested) (collection : n.kind = .collection) :
    ∃ parent ∈ statement.fields, GroupedBy statement n parent := by
  obtain ⟨_, _, mapping, _, _, gathers⟩ := analyse_gathers h member
  obtain ⟨key, parent, given, first, named⟩ := gathers.parentKey collection
  have inside : parent ∈ statement.fields := List.mem_of_find?_eq_some first
  have distinct := names_distinct h
  have flat := mem_flatFields_iff h inside
  have one : ∀ m ∈ statement.nested, m.parentKey = none ∨ m.parentKey = some parent.name := by
    intro m member
    obtain ⟨_, _, _, _, _, gathers⟩ := analyse_gathers h member
    by_cases kind : m.kind = .collection
    · obtain ⟨key', parent', given', first', named'⟩ := gathers.parentKey kind
      cases given.symm.trans given'
      cases first.symm.trans first'
      exact .inr named'
    · exact .inl (gathers.ungrouped kind)
  have parentOf_eq : parentOf statement.flatFields statement.nested =
      (statement.flatFields.find? fun f => f.name == parent.name).map
        fun f => identifier f.propertyName := by
    rw [parentOf, findSome?_parentKey member named one]
    rfl
  refine ⟨parent, inside, ⟨key, given, first⟩, named, ?_, ?_, ?_, ?_⟩
  · rw [gathers.itemKey collection]
    exact mapping.exists_itemKey gathers.some'
  · constructor
    · rintro ⟨field, itself, same, column⟩
      have still := List.mem_of_mem_filter itself
      rw [named, Option.some.injEq] at same
      obtain rfl := List.inj_on_of_nodup_map distinct inside still same
      exact ⟨column, flat.mp itself⟩
    · rintro ⟨column, untaken⟩
      exact ⟨parent, flat.mpr untaken, named, column⟩
  · intro untaken
    have part : (statement.flatFields.map Field.name).Nodup :=
      distinct.sublist (List.filter_sublist.map _)
    rw [parentOf_eq, Field.find?_name part (flat.mpr untaken)]
    rfl
  · intro taken
    rw [parentOf_eq, Option.map_eq_none_iff, List.find?_eq_none]
    intro f hf same
    rw [beq_iff_eq] at same
    rw [List.inj_on_of_nodup_map distinct (List.mem_of_mem_filter hf) inside same] at hf
    exact taken (flat.mp hf)

/-- There is a function that folds the rows of a statement with a collection just if all of its
nested values have structs and there is a property to group by. -/
theorem isSome_nesting_iff {n : NestedField} (member : n ∈ statement.nested)
    (collection : n.kind = .collection) (base row : String) :
    (Nesting.ofStatement? statement base row).isSome = true ↔
      statement.nested.all hasStruct = true ∧
        (parentOf statement.flatFields statement.nested).isSome = true := by
  have some' : statement.nested.isEmpty = false :=
    List.isEmpty_eq_false_iff.mpr (List.ne_nil_of_mem member)
  have grouped : (statement.nested.filter fun n => n.kind == .collection).isEmpty = false :=
    List.isEmpty_eq_false_iff.mpr (List.ne_nil_of_mem
      (List.mem_filter.mpr ⟨member, beq_iff_eq.mpr collection⟩))
  unfold Nesting.ofStatement?
  cases structs : statement.nested.all hasStruct <;>
    cases parent : parentOf statement.flatFields statement.nested <;>
      simp [some', grouped, structs, parent]

/-- The rows of every collection of an accepted statement are grouped by the field of the key, and
its items by one of its own columns. The field is a column by itself exactly if it is not dynamic
and no mapping takes it; and if the nested values have structs, there is a function that folds the
rows exactly if no mapping takes it. -/
theorem analyse_collections_iff (h : analyse context place item = .ok statement) :
    ∀ n ∈ statement.nested, n.kind = .collection →
      ∃ parent ∈ statement.fields, GroupedBy statement n parent ∧
        ∀ base row, (Nesting.ofStatement? statement base row).isSome = true ↔
          statement.nested.all hasStruct = true ∧ Untaken statement parent := by
  intro n member collection
  obtain ⟨parent, inside, groupedBy⟩ := exists_groupedBy h member collection
  refine ⟨parent, inside, groupedBy, fun base row => ?_⟩
  rw [isSome_nesting_iff member collection]
  refine and_congr_right fun _ => ?_
  by_cases untaken : Untaken statement parent
  · rw [groupedBy.grouped untaken]
    exact iff_of_true rfl untaken
  · rw [groupedBy.ungrouped untaken]
    exact iff_of_false Bool.false_ne_true untaken

/-- `SELECT * FROM a, b` with a collection of the columns of the second table, one of which is the
key of the statement. -/
def keyedItem : ScriptItem :=
  { orderItem with leadingComments := ["@@\x7bcollectionKey=b_y\x7d",
      "@@\x7bdynamicField=d, mappingType=collection, sourceTable=b, propertyType=T\x7d"] }

theorem exists_keyed :
    ∃ statement n, analyse orderContext ⟨"q", "n", ""⟩ keyedItem = .ok statement ∧
      statement.nested = [n] ∧ n.kind = .collection ∧ n.parentKey = some "b_y" ∧
      hasStruct n = true ∧ statement.flatFields.map Field.name = ["x", "d"] := by
  have found : ((analyse orderContext ⟨"q", "n", ""⟩ keyedItem).toOption.map fun statement =>
      (statement.nested.map fun n => (n.kind, n.parentKey, hasStruct n),
        statement.flatFields.map Field.name)) =
        some ([(.collection, some "b_y", true)], ["x", "d"]) := by
    decide +kernel
  obtain ⟨statement, analysed, found⟩ := Option.map_eq_some_iff.mp found
  obtain ⟨nested, flat⟩ := Prod.mk.inj found
  obtain ⟨n, only, same⟩ := List.map_eq_singleton_iff.mp nested
  obtain ⟨kind, same⟩ := Prod.mk.inj same
  obtain ⟨key, struct⟩ := Prod.mk.inj same
  exact ⟨statement, n, toOption_eq_some.mp analysed, only, kind, key, struct, flat⟩

/-- The column of the key is no property of a row, and there is no function that folds the rows. -/
theorem analyse_collections_keyed :
    ∃ statement n, analyse orderContext ⟨"q", "n", ""⟩ keyedItem = .ok statement ∧
      n ∈ statement.nested ∧ n.kind = .collection ∧ n.parentKey = some "b_y" ∧
      "b_y" ∉ statement.flatFields.map Field.name ∧
      statement.nested.all hasStruct = true ∧
      ∀ base row, Nesting.ofStatement? statement base row = none := by
  obtain ⟨statement, n, analysed, only, kind, key, struct, flat⟩ := exists_keyed
  have member : n ∈ statement.nested := only ▸ List.mem_singleton_self n
  have absent : "b_y" ∉ statement.flatFields.map Field.name := by
    rw [flat]
    decide
  refine ⟨statement, n, analysed, member, kind, key, absent, by simp [only, struct], ?_⟩
  intro base row
  obtain ⟨parent, inside, groupedBy, folds⟩ := analyse_collections_iff analysed n member kind
  have named : "b_y" = parent.name := Option.some.inj (key.symm.trans groupedBy.parentKey)
  rw [← Option.not_isSome_iff_eq_none, folds base row]
  rintro ⟨_, untaken⟩
  have property := (mem_flatFields_iff analysed inside).mpr untaken
  exact absent (named ▸ List.mem_map_of_mem property)

end TypedStatement

end TypedRows
