import TypedRows.Analysis.TypedStatement
import TypedRows.Proofs.AlikeSources
import TypedRows.Proofs.SchemaObjects

/-! Statements without dynamic fields. Nothing is folded, the fields are those of the result
columns, and what is in force for a parameter is accepted. -/

namespace TypedRows

open Sql

variable {catalog : Catalog}

theorem Inheritance.exists_overrides (orderly : catalog.Orderly) (static : catalog.Static)
    (object column : String) :
    ∃ overrides, (ofCatalog catalog).overrides? object column = .ok overrides := by
  rw [overrides?]
  cases found : (ofCatalog catalog).annotations? object column with
  | none => exact ⟨none, rfl⟩
  | some map =>
    have looked : ∀ key value, map.get? key = some value →
        key ≠ Key.isDynamicField ∧ FieldOverrides.Allowed key value := by
      intro key value got
      have looked : Annotations.lookup? ((ofCatalog catalog).annotations? object column) key =
          some value := by
        rw [found]
        exact got
      exact lookup?_ofCatalog orderly static looked
    have absent : map.contains Key.isDynamicField = false := by
      rw [OrderedMap.contains_eq_false_iff]
      cases got : map.get? Key.isDynamicField with
      | none => rfl
      | some value => exact absurd rfl (looked _ value got).1
    obtain ⟨overrides, accepted⟩ := FieldOverrides.exists_ofAnnotations absent
      fun key value got => (looked key value got).2
    exact ⟨some overrides, map_eq_ok.mpr ⟨overrides, accepted, rfl⟩⟩

namespace Parameter

variable {types : TypeMap}

theorem exists_ofHint (orderly : catalog.Orderly) (static : catalog.Static) (names : Names)
    (name : String) (hint : Option Hint) :
    ∃ parameter, ofHint (.ofCatalog catalog types) names name hint = .ok parameter := by
  unfold ofHint
  split
  · rename_i ref assigned
    unfold ofColumn
    dsimp only
    split
    · exact ⟨_, rfl⟩
    · obtain ⟨overrides, accepted⟩ := Inheritance.exists_overrides orderly static _ ref.column
      exact ⟨_, bind_of_ok accepted _⟩
  · exact ⟨_, rfl⟩
  · exact ⟨_, rfl⟩

theorem exists_all (orderly : catalog.Orderly) (static : catalog.Static) (names : Names)
    (item : ScriptItem) :
    ∃ parameters, all (.ofCatalog catalog types) names item = .ok parameters := by
  refine exists_mapM fun name _ => ?_
  obtain ⟨parameter, typed⟩ := exists_ofHint orderly static names name
    (item.statement.hints.get? name)
  rw [infer, bind_of_ok typed]
  split <;> exact ⟨_, rfl⟩

end Parameter

namespace Field

theorem get?_inherited (context : Context) (column : ResultColumn) (key : String) :
    (inherited context column).get? key = column.inherits context.inheritance key := by
  have found : ∀ map : Option Annotations,
      (map.getD .empty).get? key = Annotations.lookup? map key := fun map => by
    cases map <;> rfl
  rw [inherited, ResultColumn.inherits]
  cases column.joinedNullable with
  | false => exact found _
  | true => simp [OrderedMap.get?_erase, found]

/-- What a column inherits says nothing of dynamic fields, so there is nothing to fold into it. -/
theorem ofColumn_mapping (orderly : catalog.Orderly) (static : catalog.Static) {types : TypeMap}
    {style : NameStyle} {source : ResultColumn} {declared : Option Annotations}
    (own : ∀ map ∈ declared, map.contains Key.isDynamicField = false) {field : Field}
    (h : ofColumn (.ofCatalog catalog types) style source declared = .ok field) :
    field.overrides.mapping = none := by
  have below :
      (inherited (.ofCatalog catalog types) source).contains Key.isDynamicField = false := by
    rw [OrderedMap.contains_eq_false_iff, get?_inherited, ResultColumn.inherits]
    split
    · rfl
    · cases from' : source.origin with
      | none => rfl
      | some origin =>
        cases said : Annotations.lookup?
            ((Inheritance.ofCatalog catalog).annotations? origin.object origin.column)
            Key.isDynamicField with
        | none => exact said
        | some value => exact absurd rfl (Inheritance.lookup?_ofCatalog orderly static said).1
  obtain ⟨overrides, accepted, h⟩ := bind_eq_ok h
  cases h
  -- only a field that is said to be dynamic has a mapping
  refine (FieldOverrides.ofAnnotations_eq_ok ?_ accepted).1
  cases declared with
  | none => exact below
  | some map =>
    rw [inForce, Annotations.contains_merge _ _ (by decide), below, own map rfl]
    rfl

end Field

namespace TypedStatement

theorem dynamicAnnotations_eq_empty (orderly : catalog.Orderly) (static : catalog.Static)
    {declared : OrderedMap String Annotations}
    (own : ∀ map ∈ declared.values, map.contains Key.isDynamicField = false)
    (views : List String) :
    dynamicAnnotations (.ofCatalog catalog) views declared = .empty := by
  have none : views.flatMap (Inheritance.ofCatalog catalog).dynamicFields = [] :=
    List.flatMap_eq_nil_iff.mpr fun view _ =>
      Inheritance.dynamicFields_eq_nil orderly static view
  have none' : declared.entries.filter (fun entry => Annotations.isDynamic entry.2) = [] := by
    refine List.filter_eq_nil_iff.mpr fun entry member => ?_
    rw [Inheritance.isDynamic_eq_false (own entry.2 (List.mem_map.mpr ⟨entry, member, rfl⟩))]
    exact Bool.false_ne_true
  rw [dynamicAnnotations, none, none']
  rfl

theorem columnFields_mapping (orderly : catalog.Orderly) (static : catalog.Static)
    {types : TypeMap} {statement : String} {style : NameStyle}
    {declared : OrderedMap String Annotations}
    (own : ∀ map ∈ declared.values, map.contains Key.isDynamicField = false) {seen : List String}
    {columns : List ResultColumn} {fields : List Field}
    (h : columnFields (.ofCatalog catalog types) statement style declared seen columns =
      .ok fields) : ∀ field ∈ fields, field.overrides.mapping = none := by
  induction columns generalizing seen fields with
  | nil =>
    cases h
    simp
  | cons column rest ih =>
    rw [columnFields] at h
    dsimp only at h
    split at h
    · cases h
    · obtain ⟨field, first, h⟩ := bind_eq_ok h
      obtain ⟨others, after, h⟩ := bind_eq_ok h
      cases h
      refine List.forall_mem_cons.mpr ⟨?_, ih after⟩
      refine Field.ofColumn_mapping orderly static (fun map found => ?_) (mapError_eq_ok.mp first)
      obtain ⟨entry, named, rfl⟩ := Option.map_eq_some_iff.mp found
      exact own entry.2 (List.mem_map.mpr ⟨entry, List.mem_of_find?_eq_some named, rfl⟩)

theorem ofFields_eq_nil {overrides : StatementOverrides} {fields : List Field}
    (unmapped : ∀ field ∈ fields, field.overrides.mapping = none)
    (aliases : OrderedMap String String) :
    NestedField.ofFields overrides fields aliases = .ok [] := by
  have kept : ∀ rest : List Field, (∀ field ∈ rest, field.overrides.mapping = none) →
      ∀ state, rest.foldlM (NestedField.addField overrides fields aliases) state = .ok state := by
    intro rest
    induction rest with
    | nil => exact fun _ _ => rfl
    | cons field rest ih =>
      intro unmapped state
      obtain ⟨first, others⟩ := List.forall_mem_cons.mp unmapped
      have skip : NestedField.addField overrides fields aliases state field = .ok state := by
        rw [NestedField.addField, first]
      rw [List.foldlM_cons, bind_of_ok skip]
      exact ih others state
  rw [NestedField.ofFields, bind_of_ok (kept fields unmapped _)]
  rfl

theorem map_settle_nil (fields : List Field) : fields.map (settle []) = fields :=
  (List.map_congr_left fun _ _ => rfl).trans (List.map_id _)

/-- A statement without dynamic fields has the fields of its result columns. -/
theorem fields_of_static (orderly : catalog.Orderly) (static : catalog.Static) (types : TypeMap)
    (place : Place) {item : ScriptItem}
    (own : ∀ comments, CommentAnnotations.ofComments item.comments = .ok comments →
      ∀ map ∈ comments.fields.values, map.contains Key.isDynamicField = false) :
    fields <$> analyse (.ofCatalog catalog types) place item = (do
      let shape ← Shape.ofStatement catalog place.name item.statement
      let comments ← (CommentAnnotations.ofComments item.comments).mapError Error.annotations
      let overrides ← (StatementOverrides.ofAnnotations place.name comments.statement).mapError
        Error.annotations
      columnFields (.ofCatalog catalog types) place.name overrides.nameStyle comments.fields []
        shape.columns) := by
  have schema : (Context.ofCatalog catalog types).catalog = catalog := rfl
  have inheritance : (Context.ofCatalog catalog types).inheritance = .ofCatalog catalog := rfl
  have nothing : ∀ style columns, (OrderedMap.empty : OrderedMap String Annotations).entries.mapM
      (dynamicField place.name style columns) = .ok [] := fun _ _ => rfl
  rw [analyse, schema]
  cases Shape.ofStatement catalog place.name item.statement with
  | error e => rfl
  | ok shape =>
    rw [bind_of_ok rfl, bind_of_ok rfl]
    cases said : CommentAnnotations.ofComments item.comments with
    | error e => rfl
    | ok comments =>
      have static' := own comments said
      rw [bind_of_ok (mapError_eq_ok.mpr rfl), bind_of_ok (mapError_eq_ok.mpr rfl), inheritance,
        dynamicAnnotations_eq_empty orderly static static']
      cases (StatementOverrides.ofAnnotations place.name comments.statement).mapError
        Error.annotations with
      | error e => rfl
      | ok overrides =>
        rw [bind_of_ok rfl, bind_of_ok rfl]
        dsimp only
        cases ofColumns : columnFields (.ofCatalog catalog types) place.name overrides.nameStyle
          comments.fields [] shape.columns with
        | error e => rfl
        | ok columns =>
          -- nothing is added to the fields of the columns, and nothing after them can fail
          have unnested := @ofFields_eq_nil overrides columns
            (columnFields_mapping orderly static static' ofColumns) shape.aliases
          obtain ⟨parameters, typed⟩ := @Parameter.exists_all catalog types orderly static
            ⟨shape.aliases, shape.target⟩ item
          rw [bind_of_ok rfl, bind_of_ok (nothing _ _), List.append_nil,
            bind_of_ok (mapError_eq_ok.mpr unnested), bind_of_ok (mapError_eq_ok.mpr typed)]
          exact congrArg Except.ok (map_settle_nil columns)

end TypedStatement

end TypedRows
