import TypedRows.Analysis.TypedStatement
import TypedRows.Proofs.Outcome

/-! A statement in two steps: its fields side by side, and then what is folded and inferred from
them. The texts of computed columns are kept all the way and decide nothing. -/

namespace TypedRows

open Sql

theorem map_mapError {ε δ α β : Type} (f : α → β) (g : ε → δ) (x : Except ε α) :
    f <$> x.mapError g = (f <$> x).mapError g := by
  cases x <;> rfl

/-- The column with no more than whether it is computed. -/
def ResultColumn.withoutText (column : ResultColumn) : ResultColumn :=
  { column with expression := column.expression.map fun _ => "" }

namespace Field

def withoutText (field : Field) : Field :=
  { field with source := field.source.withoutText }

theorem ofColumn_withoutText (context : Context) (style : NameStyle) (column : ResultColumn)
    (declared : Option Annotations) : ofColumn context style column.withoutText declared =
      withoutText <$> ofColumn context style column declared := by
  rw [ofColumn, ofColumn, map_bind]
  rfl

theorem ofAnnotations_withoutText {style : NameStyle} {name : String} {annotations : Annotations}
    {field : Field} (read : ofAnnotations style name annotations = .ok field) :
    field.withoutText = field := by
  obtain ⟨overrides, _, read⟩ := bind_eq_ok read
  cases read
  rfl

end Field

namespace NestedField

theorem taken_withoutText (mapping : Mapping) (aliases : OrderedMap String String)
    (fields : List Field) : mapping.taken aliases (fields.map Field.withoutText) =
      (mapping.taken aliases fields).map Field.withoutText := by
  rw [Mapping.taken, Mapping.taken, List.filter_map]
  rfl

theorem claim_withoutText (field : String) (owners : OrderedMap String String)
    (columns : List Field) :
    claim field owners (columns.map Field.withoutText) = claim field owners columns := by
  induction columns generalizing owners with
  | nil => rfl
  | cons column rest ih =>
    rw [List.map_cons, claim, claim, show column.withoutText.name = column.name from rfl, ih]

theorem parentColumn_withoutText (overrides : StatementOverrides) (field : String)
    (fields : List Field) : parentColumn overrides field (fields.map Field.withoutText) =
      parentColumn overrides field fields := by
  rw [parentColumn, parentColumn]
  cases overrides.collectionKey with
  | none => rfl
  | some key =>
    have named : (fun f => Text.sameName (Field.name f) key) ∘ Field.withoutText =
        fun f => Text.sameName f.name key := rfl
    dsimp only
    rw [List.find?_map, named]
    cases fields.find? fun f => Text.sameName f.name key <;> rfl

theorem ofMapping_withoutText (overrides : StatementOverrides) (fields : List Field)
    (aliases owners : OrderedMap String String) (field : Field) (mapping : Mapping) :
    ofMapping overrides (fields.map Field.withoutText) aliases owners field.withoutText mapping =
      ofMapping overrides fields aliases owners field mapping := by
  have columns : ((mapping.taken aliases fields).map Field.withoutText).map
      (mapping.column overrides.nameStyle) =
      (mapping.taken aliases fields).map (mapping.column overrides.nameStyle) := by
    rw [List.map_map]
    rfl
  have joined : (((mapping.taken aliases fields).map Field.withoutText).any fun f =>
      f.source.joinedNullable) =
      (mapping.taken aliases fields).any fun f => f.source.joinedNullable := by
    rw [List.any_map]
    rfl
  unfold ofMapping
  rw [taken_withoutText]
  dsimp only
  rw [List.isEmpty_map, claim_withoutText, columns, joined, parentColumn_withoutText]
  rfl

theorem ofFields_withoutText (overrides : StatementOverrides) (fields : List Field)
    (aliases : OrderedMap String String) :
    ofFields overrides (fields.map Field.withoutText) aliases =
      ofFields overrides fields aliases := by
  have step : (fun state field => addField overrides (fields.map Field.withoutText) aliases state
      (Field.withoutText field)) = addField overrides fields aliases := by
    funext state field
    rw [addField, addField, show field.withoutText.overrides = field.overrides from rfl]
    cases field.overrides.mapping with
    | none => rfl
    | some mapping =>
      dsimp only
      rw [ofMapping_withoutText]
  rw [ofFields, ofFields, List.foldlM_map, step]

/-- Reference names count by whether they lead to the source of a mapping. -/
theorem ofFields_congr {fields : List Field} {aliases aliases' : OrderedMap String String}
    (same : ∀ field ∈ fields, ∀ mapping ∈ field.overrides.mapping, ∀ column : Field,
      mapping.isSourceOf aliases column = mapping.isSourceOf aliases' column)
    (overrides : StatementOverrides) :
    ofFields overrides fields aliases = ofFields overrides fields aliases' := by
  rw [ofFields, ofFields]
  refine congrArg (· >>= _) (foldlM_congr (fun field member state => ?_) _)
  rw [addField, addField]
  cases mapped : field.overrides.mapping with
  | none => rfl
  | some mapping =>
    have taken : mapping.taken aliases fields = mapping.taken aliases' fields := by
      refine List.filter_congr fun column _ => ?_
      rw [Mapping.takes, Mapping.takes, same field member mapping mapped]
    dsimp only
    rw [ofMapping, ofMapping, taken]

end NestedField

namespace TypedStatement

def withoutText (statement : TypedStatement) : TypedStatement :=
  { statement with fields := statement.fields.map Field.withoutText }

/-- Fields depend on the schema by what their columns inherit. -/
theorem columnFields_congr {context context' : Context} (types : context.types = context'.types)
    {columns : List ResultColumn}
    (inherits : ∀ c ∈ columns, Field.inherited context c = Field.inherited context' c)
    (statement : String) (style : NameStyle) (declared : OrderedMap String Annotations)
    (seen : List String) : columnFields context statement style declared seen columns =
      columnFields context' statement style declared seen columns := by
  induction columns generalizing seen with
  | nil => rfl
  | cons column rest ih =>
    obtain ⟨first, others⟩ := List.forall_mem_cons.mp inherits
    have inForce : ∀ own, Field.inForce context column own = Field.inForce context' column own := by
      intro own
      cases own with
      | none => exact first
      | some map => exact congrArg (Annotations.merge · map) first
    have field : ∀ own, Field.ofColumn context style column own =
        Field.ofColumn context' style column own := by
      intro own
      rw [Field.ofColumn, Field.ofColumn, inForce, types]
    rw [columnFields, columnFields]
    simp only [field, ih others]

theorem columnFields_withoutText (context : Context) (statement : String) (style : NameStyle)
    (declared : OrderedMap String Annotations) (seen : List String) (columns : List ResultColumn) :
    columnFields context statement style declared seen (columns.map ResultColumn.withoutText) =
      List.map Field.withoutText <$>
        columnFields context statement style declared seen columns := by
  induction columns generalizing seen with
  | nil => rfl
  | cons column rest ih =>
    rw [List.map_cons, columnFields, columnFields,
      show column.withoutText.name = column.name from rfl]
    dsimp only
    split
    · rfl
    · rw [Field.ofColumn_withoutText, ← map_mapError, bind_map_left, map_bind]
      refine congrArg _ (funext fun field => ?_)
      rw [ih, bind_map_left, map_bind]
      rfl

theorem dynamicField_withoutText (statement : String) (style : NameStyle) (columns : List Field)
    (entry : String × Annotations) :
    dynamicField statement style (columns.map Field.withoutText) entry =
      dynamicField statement style columns entry := by
  rw [dynamicField, dynamicField, List.any_map]
  rfl

theorem dynamicFields_withoutText {statement : String} {style : NameStyle} {columns : List Field}
    {entries : List (String × Annotations)} {fields : List Field}
    (read : entries.mapM (dynamicField statement style columns) = .ok fields) :
    fields.map Field.withoutText = fields := by
  have each := mapM_eq_ok read
  clear read
  induction each with
  | nil => rfl
  | @cons entry field _ _ first _ ih =>
    rw [dynamicField] at first
    split at first
    · cases first
    · rw [List.map_cons, ih, Field.ofAnnotations_withoutText (mapError_eq_ok.mp first)]

theorem settle_withoutText (nested : List NestedField) (field : Field) :
    settle nested field.withoutText = (settle nested field).withoutText := by
  rw [settle, settle, show field.withoutText.nested? nested = field.nested? nested from rfl]
  cases field.nested? nested <;> rfl

theorem map_settle_withoutText (nested : List NestedField) (fields : List Field) :
    (fields.map (settle nested)).map Field.withoutText =
      (fields.map Field.withoutText).map (settle nested) := by
  rw [List.map_map, List.map_map]
  exact List.map_congr_left fun field _ => (settle_withoutText nested field).symm

/-- The fields of a statement side by side, with what its comments say of the whole. -/
def draft (context : Context) (statement : String) (comments : List String)
    (columns : List ResultColumn) (views : List String) :
    Except Error (StatementOverrides × List Field) := do
  let comments ← (CommentAnnotations.ofComments comments).mapError .annotations
  let overrides ←
    (StatementOverrides.ofAnnotations statement comments.statement).mapError .annotations
  let columns ← columnFields context statement overrides.nameStyle comments.fields [] columns
  let dynamic := (dynamicAnnotations context.inheritance views comments.fields).entries
  let added ← dynamic.mapM (dynamicField statement overrides.nameStyle columns)
  return (overrides, columns ++ added)

/-- What is folded and inferred from the fields of a statement. -/
def finish (context : Context) (place : Place) (item : ScriptItem) (shape : Shape)
    (drafted : StatementOverrides × List Field) : Except Error TypedStatement := do
  let (overrides, fields) := drafted
  let nested ←
    (NestedField.ofFields overrides fields shape.aliases).mapError (.dynamicField place.name)
  let parameters ←
    (Parameter.all context ⟨shape.aliases, shape.target⟩ item).mapError .annotations
  return {
    name := place.name
    «namespace» := place.namespace
    sourceFile := place.sourceFile
    sql := item.sql
    kind := shape.kind
    overrides
    fields := fields.map (settle nested)
    parameters
    bindings := item.parameters
    aliases := shape.aliases
    nested
    target := shape.target }

theorem analyse_eq (context : Context) (place : Place) (item : ScriptItem) :
    analyse context place item = (do
      let shape ← Shape.ofStatement context.catalog place.name item.statement
      let drafted ← draft context place.name item.comments shape.columns shape.views
      finish context place item shape drafted) := by
  rw [analyse]
  simp only [draft, finish, bind_assoc, pure_bind]

theorem draft_congr {context context' : Context} (types : context.types = context'.types)
    {columns : List ResultColumn} {views : List String}
    (inherits : ∀ c ∈ columns, Field.inherited context c = Field.inherited context' c)
    (dynamic : ∀ view ∈ views,
      context.inheritance.dynamicFields view = context'.inheritance.dynamicFields view)
    (statement : String) (comments : List String) :
    draft context statement comments columns views =
      draft context' statement comments columns views := by
  have added : ∀ declared, dynamicAnnotations context.inheritance views declared =
      dynamicAnnotations context'.inheritance views declared := by
    intro declared
    rw [dynamicAnnotations, dynamicAnnotations, List.flatMap_congr dynamic]
  unfold draft
  simp only [columnFields_congr types inherits, added]

theorem draft_withoutText (context : Context) (statement : String) (comments : List String)
    (columns : List ResultColumn) (views : List String) :
    draft context statement comments (columns.map ResultColumn.withoutText) views =
      Prod.map id (List.map Field.withoutText) <$>
        draft context statement comments columns views := by
  rw [draft, draft, map_bind]
  refine congrArg _ (funext fun said => ?_)
  rw [map_bind]
  refine congrArg _ (funext fun overrides => ?_)
  rw [columnFields_withoutText, bind_map_left, map_bind]
  refine congrArg _ (funext fun fields => ?_)
  dsimp only
  rw [map_bind, funext (dynamicField_withoutText statement overrides.nameStyle fields)]
  cases added : (dynamicAnnotations context.inheritance views said.fields).entries.mapM
    (dynamicField statement overrides.nameStyle fields) with
  | error e => rfl
  | ok dynamic =>
    change Except.ok (overrides, fields.map Field.withoutText ++ dynamic) =
      .ok (overrides, (fields ++ dynamic).map Field.withoutText)
    rw [List.map_append, dynamicFields_withoutText added]

end TypedStatement

end TypedRows
