import TypedRows.Proofs.NestedPartition
import TypedRows.Proofs.StaticFields

/-! The fields of a statement are those of its result columns, in order, and then its dynamic
fields. A statement is not accepted if it declares a dynamic field of a column's name, or reads a
view that does; but what a column inherits under the same key is not looked at, and a column can be
said to be dynamic by the tables and views it is copied from. -/

namespace TypedRows

open Sql

namespace Annotations

theorem isDynamic_merge (base : Annotations) {top : Annotations} (h : top.isDynamic = true) :
    (base.merge top).isDynamic = true := by
  rw [isDynamic_eq_true, Option.bind_eq_some_iff] at h ⊢
  obtain ⟨value, found, truth⟩ := h
  exact ⟨value, by rw [get?_merge_of_ne _ _ (by decide), found, Option.some_or], truth⟩

end Annotations

/-! What the schema says of a column. -/

section Schema

open Inheritance

variable {catalog : Catalog}

/-- The schema says that a column is dynamic: of it and the columns that it is copied from, the
first to say whether it is says so. -/
def Catalog.SaysDynamic (catalog : Catalog) (column : Origin) : Prop :=
  ∃ way, Walk (copiedIn (.ofList (described catalog))) [] column.fold way ∧
    (way.findSome? fun c => Annotations.lookup? (declaredIn (.ofList (described catalog)) c)
      Key.isDynamicField).bind Value.bool? = some true

theorem Inheritance.saysDynamic_iff (orderly : catalog.Orderly) {object column : String} :
    catalog.SaysDynamic ⟨object, column⟩ ↔
      (Annotations.lookup? ((ofCatalog catalog).annotations? object column)
        Key.isDynamicField).bind Value.bool? = some true := by
  have distinct := nodup_objects orderly
  have inForce : ∀ way,
      Walk (copiedIn (.ofList (described catalog))) [] (Origin.fold ⟨object, column⟩) way →
      Annotations.lookup? ((ofCatalog catalog).annotations? object column) Key.isDynamicField =
        way.findSome? fun c => Annotations.lookup? (declaredIn (.ofList (described catalog)) c)
          Key.isDynamicField := by
    intro way walk
    have alike := annotations?_alike distinct walk
    rw [ofCatalog, ← described, alike.lookup,
      walk.inForce.lookup_of_ne (by decide) (by decide)]
  constructor
  · rintro ⟨way, walk, said⟩
    rw [inForce way walk, said]
  · intro said
    obtain ⟨way, walk, _⟩ :=
      (describes_ofObjects distinct).exists_walk (Origin.fold_fold ⟨object, column⟩)
    exact ⟨way, walk, by rw [← inForce way walk, said]⟩

end Schema

namespace Field

variable {context : Context} {style : NameStyle} {field : Field}

theorem ofColumn_eq_ok {source : ResultColumn} {declared : Option Annotations}
    (h : ofColumn context style source declared = .ok field) :
    field.name = source.name ∧ field.source = source ∧
      field.isDynamic = (inForce context source declared).isDynamic := by
  obtain ⟨overrides, accepted, h⟩ := bind_eq_ok h
  cases h
  exact ⟨rfl, rfl, (FieldOverrides.reads_of_ok accepted).isDynamicField⟩

theorem ofAnnotations_eq_ok {name : String} {annotations : Annotations}
    (h : ofAnnotations style name annotations = .ok field) :
    field.name = name ∧ field.source = .unknown name ∧
      field.isDynamic = annotations.isDynamic := by
  obtain ⟨overrides, accepted, h⟩ := bind_eq_ok h
  cases h
  exact ⟨rfl, rfl, (FieldOverrides.reads_of_ok accepted).isDynamicField⟩

/-- Whether a column is dynamic is said by the statement, or else by what it inherits. -/
theorem get?_inForce_isDynamicField (source : ResultColumn) (declared : Option Annotations) :
    (inForce context source declared).get? Key.isDynamicField =
      (Annotations.lookup? declared Key.isDynamicField).or (Annotations.lookup?
        (source.origin.bind fun origin =>
          context.inheritance.annotations? origin.object origin.column) Key.isDynamicField) := by
  have below : (inherited context source).get? Key.isDynamicField = Annotations.lookup?
      (source.origin.bind fun origin =>
        context.inheritance.annotations? origin.object origin.column) Key.isDynamicField := by
    rw [get?_inherited, ResultColumn.inherits, decide_eq_false (by decide), Bool.and_false,
      if_neg Bool.false_ne_true]
  cases declared with
  | none => exact below
  | some map =>
    rw [inForce, Annotations.get?_merge_of_ne _ _ (by decide), below]
    rfl

end Field

namespace TypedStatement

/-- What a statement declares on a column: the first entry of its name counts. -/
def own? (declared : OrderedMap String Annotations) (column : String) : Option Annotations :=
  (declared.entries.find? fun entry => Text.sameName entry.1 column).map Prod.snd

theorem columnFields_eq_ok {context : Context} {statement : String} {style : NameStyle}
    {declared : OrderedMap String Annotations} {seen : List String}
    {columns : List ResultColumn} {fields : List Field}
    (h : columnFields context statement style declared seen columns = .ok fields) :
    List.Forall₂ (fun column field =>
      Field.ofColumn context style column (own? declared column.name) = .ok field)
      columns fields := by
  induction columns generalizing seen fields with
  | nil =>
    cases h
    exact .nil
  | cons column rest ih =>
    rw [columnFields] at h
    split at h
    · cases h
    · obtain ⟨field, first, h⟩ := bind_eq_ok h
      obtain ⟨others, after, h⟩ := bind_eq_ok h
      cases h
      exact .cons (mapError_eq_ok.mp first) (ih after)

/-! The dynamic fields of a statement are all said to be dynamic. They are those that the views it
reads declare, and its own. -/

def AllDynamic (fields : OrderedMap String Annotations) : Prop :=
  ∀ key map, fields.get? key = some map → map.isDynamic = true

theorem AllDynamic.addDynamic {fields : OrderedMap String Annotations} (all : AllDynamic fields)
    {entry : String × Annotations} (own : entry.2.isDynamic = true) :
    AllDynamic (addDynamic fields entry) := by
  intro key map found
  unfold TypedStatement.addDynamic at found
  split at found <;> rw [OrderedMap.get?_put] at found <;> split at found
  · cases found
    exact Annotations.isDynamic_merge _ own
  · exact all key map found
  · cases found
    exact own
  · exact all key map found

theorem mem_keys_addDynamic {fields : OrderedMap String Annotations}
    {entry : String × Annotations} {key : String} :
    key ∈ (addDynamic fields entry).keys ↔ key ∈ fields.keys ∨ key = entry.1 := by
  have put : ∀ map, key ∈ (fields.put entry.1 map).keys ↔ key ∈ fields.keys ∨ key = entry.1 := by
    intro map
    rw [OrderedMap.mem_keys_iff, OrderedMap.mem_keys_iff, OrderedMap.contains, OrderedMap.get?_put,
      OrderedMap.contains]
    by_cases same : key = entry.1 <;> simp [same]
  unfold addDynamic
  split <;> exact put _

theorem mem_keys_foldl_addDynamic {entries : List (String × Annotations)}
    {fields : OrderedMap String Annotations} {key : String} :
    key ∈ (entries.foldl addDynamic fields).keys ↔
      key ∈ fields.keys ∨ key ∈ entries.map Prod.fst := by
  induction entries generalizing fields with
  | nil => simp
  | cons entry rest ih =>
    rw [List.foldl_cons, ih, mem_keys_addDynamic, List.map_cons, List.mem_cons, or_assoc]

theorem foldl_addDynamic {entries : List (String × Annotations)}
    (own : ∀ entry ∈ entries, entry.2.isDynamic = true) {fields : OrderedMap String Annotations}
    (all : AllDynamic fields) : AllDynamic (entries.foldl addDynamic fields) := by
  induction entries generalizing fields with
  | nil => exact all
  | cons entry rest ih =>
    obtain ⟨first, others⟩ := List.forall_mem_cons.mp own
    exact ih others (all.addDynamic first)

/-- The names of the dynamic fields that views declare, and of those that comments do. -/
def dynamicNames (inheritance : Inheritance) (views : List String)
    (declared : OrderedMap String Annotations) : List String :=
  (views.flatMap inheritance.dynamicFields).map Prod.fst ++
    (declared.entries.filter fun entry => Annotations.isDynamic entry.2).map Prod.fst

theorem mem_keys_dynamicAnnotations {inheritance : Inheritance} {views : List String}
    {declared : OrderedMap String Annotations} {key : String} :
    key ∈ (dynamicAnnotations inheritance views declared).keys ↔
      key ∈ dynamicNames inheritance views declared := by
  have none' : key ∉ (OrderedMap.empty : OrderedMap String Annotations).keys := List.not_mem_nil
  rw [dynamicAnnotations, mem_keys_foldl_addDynamic, OrderedMap.mem_keys_putAllNew, dynamicNames,
    List.mem_append, or_iff_right none']

theorem dynamicAnnotations_dynamic (inheritance : Inheritance) (views : List String)
    (declared : OrderedMap String Annotations) :
    AllDynamic (dynamicAnnotations inheritance views declared) := by
  refine foldl_addDynamic (fun entry member => (List.mem_filter.mp member).2) ?_
  intro key map found
  have inside := OrderedMap.values_putAllNew_subset _ _
    (List.mem_map.mpr ⟨_, OrderedMap.get?_eq_some_iff.mp found, rfl⟩)
  obtain none | inside := List.mem_append.mp inside
  · cases none
  · obtain ⟨entry, member, rfl⟩ := List.mem_map.mp inside
    obtain ⟨view, _, member⟩ := List.mem_flatMap.mp member
    unfold Inheritance.dynamicFields at member
    split at member
    · exact (List.mem_filter.mp member).2
    · cases member

/-- A dynamic field has no column behind it, and none has its name. -/
structure Unbacked (columns : List Field) (field : Field) : Prop where
  dynamic : field.isDynamic = true
  source : field.source = .unknown field.name
  apart : ∀ column ∈ columns, Text.sameName column.name field.name = false

theorem unbacked_of_dynamicField {statement : String} {style : NameStyle} {columns : List Field}
    {entry : String × Annotations} {field : Field} (said : entry.2.isDynamic = true)
    (h : dynamicField statement style columns entry = .ok field) :
    field.name = entry.1 ∧ Unbacked columns field := by
  rw [dynamicField] at h
  split at h
  · cases h
  · rename_i new
    obtain ⟨name, source, dynamic⟩ := Field.ofAnnotations_eq_ok (mapError_eq_ok.mp h)
    refine ⟨name, dynamic.trans said, name ▸ source, fun column member => ?_⟩
    rw [name, Bool.eq_false_iff]
    exact fun same => new (List.any_eq_true.mpr ⟨column, member, same⟩)

theorem dynamicFields_eq_ok {inheritance : Inheritance} {views : List String}
    {declared : OrderedMap String Annotations} {statement : String} {style : NameStyle}
    {columns dynamic : List Field}
    (h : (dynamicAnnotations inheritance views declared).entries.mapM
      (dynamicField statement style columns) = .ok dynamic) :
    (∀ field ∈ dynamic, Unbacked columns field) ∧
      ∀ entry ∈ declared.entries, entry.2.isDynamic = true →
        ∀ column ∈ columns, Text.sameName entry.1 column.name = false := by
  have all := dynamicAnnotations_dynamic inheritance views declared
  have made := mapM_eq_ok h
  have said : ∀ entry ∈ (dynamicAnnotations inheritance views declared).entries,
      entry.2.isDynamic = true := fun entry member =>
    all entry.1 entry.2 (OrderedMap.get?_eq_some_iff.mpr member)
  constructor
  · intro field member
    obtain ⟨entry, inside, ofEntry⟩ := exists_of_mem_right made member
    exact (unbacked_of_dynamicField (said entry inside) ofEntry).2
  · intro entry member itself column column'
    have kept : entry.1 ∈ (dynamicAnnotations inheritance views declared).keys := by
      rw [mem_keys_dynamicAnnotations, dynamicNames, List.mem_append]
      exact .inr (List.mem_map_of_mem (List.mem_filter.mpr ⟨member, itself⟩))
    -- the entry may have been laid over one of a view, but the field has its name
    obtain ⟨laid, inside, named⟩ := List.mem_map.mp kept
    obtain ⟨field, _, ofEntry⟩ := exists_of_mem_left made inside
    obtain ⟨name, unbacked⟩ := unbacked_of_dynamicField (said laid inside) ofEntry
    rw [← named, ← name, Text.sameName_comm]
    exact unbacked.apart column column'

/-- What a column is to the statement that returns it. -/
structure Backed (catalog : Catalog) (declared : OrderedMap String Annotations)
    (column : ResultColumn) (field : Field) : Prop where
  name : field.name = column.name
  source : field.source = column
  dynamic : field.isDynamic = true ↔
    (∀ own, own? declared column.name = some own → own.contains Key.isDynamicField = false) ∧
      ∃ origin, column.origin = some origin ∧ catalog.SaysDynamic origin

variable {catalog : Catalog} {declared : OrderedMap String Annotations}

/-- Annotations that do not make a field dynamic leave it to what is said below, if they do not
speak of it at all. -/
theorem dynamic_below_iff {own : Option Annotations} {below : Option Value}
    (still : ∀ map, own = some map → map.isDynamic ≠ true) :
    ((Annotations.lookup? own Key.isDynamicField).or below).bind Value.bool? = some true ↔
      (∀ map, own = some map → map.contains Key.isDynamicField = false) ∧
        below.bind Value.bool? = some true := by
  cases own with
  | none =>
    constructor
    · intro said
      refine ⟨fun map e => ?_, said⟩
      cases e
    · exact And.right
  | some map =>
    have still := still map rfl
    rw [ne_eq, Annotations.isDynamic_eq_true] at still
    have same : Annotations.lookup? (some map) Key.isDynamicField = map.get? Key.isDynamicField :=
      rfl
    rw [same]
    cases said : map.get? Key.isDynamicField with
    | none =>
      rw [Option.none_or]
      constructor
      · intro below'
        refine ⟨fun own e => ?_, below'⟩
        rw [← Option.some.inj e]
        exact OrderedMap.contains_eq_false_iff.mpr said
      · exact And.right
    | some value =>
      rw [said, Option.bind_some] at still
      rw [Option.some_or, Option.bind_some]
      constructor
      · exact fun truth => absurd truth still
      · rintro ⟨silent, -⟩
        have unsaid := OrderedMap.contains_eq_false_iff.mp (silent map rfl)
        rw [said] at unsaid
        cases unsaid

theorem backed_of_ofColumn (orderly : catalog.Orderly) {types : TypeMap} {style : NameStyle}
    {column : ResultColumn} {field : Field}
    (apart : ∀ entry ∈ declared.entries, entry.2.isDynamic = true →
      Text.sameName entry.1 column.name = false)
    (h : Field.ofColumn (.ofCatalog catalog types) style column (own? declared column.name) =
      .ok field) : Backed catalog declared column field := by
  obtain ⟨name, source, dynamic⟩ := Field.ofColumn_eq_ok h
  have below : (Annotations.lookup? (column.origin.bind fun origin =>
      (Inheritance.ofCatalog catalog).annotations? origin.object origin.column)
        Key.isDynamicField).bind Value.bool? = some true ↔
      ∃ origin, column.origin = some origin ∧ catalog.SaysDynamic origin := by
    cases column.origin with
    | none => simp [Annotations.lookup?]
    | some origin => simp [Inheritance.saysDynamic_iff orderly]
  have still : ∀ map, own? declared column.name = some map → map.isDynamic ≠ true := by
    intro map own itself
    obtain ⟨entry, found, rfl⟩ := Option.map_eq_some_iff.mp own
    have named := apart entry (List.mem_of_find?_eq_some found) itself
    rw [List.find?_some found] at named
    cases named
  refine ⟨name, source, ?_⟩
  rw [dynamic, Annotations.isDynamic_eq_true, Field.get?_inForce_isDynamicField, ← below]
  exact dynamic_below_iff still

theorem Backed.settle {column : ResultColumn} {field : Field}
    (h : Backed catalog declared column field) (nested : List NestedField) :
    Backed catalog declared column (settle nested field) :=
  ⟨by rw [settle_name, h.name], by rw [settle_source, h.source],
    by rw [settle_isDynamic, h.dynamic]⟩

theorem Unbacked.settle {columns : List Field} {field : Field} (h : Unbacked columns field)
    (nested : List NestedField) :
    Unbacked (columns.map (settle nested)) (settle nested field) where
  dynamic := by rw [settle_isDynamic, h.dynamic]
  source := by rw [settle_source, settle_name, h.source]
  apart column member := by
    obtain ⟨before, inside, rfl⟩ := List.mem_map.mp member
    rw [settle_name, settle_name]
    exact h.apart before inside

/-- A statement that is accepted has one field for each result column, in order and under its name,
and then its dynamic fields, which no column stands behind. The field of a column is dynamic exactly
if the schema says so of what the column is copied from and the statement itself says nothing. -/
theorem analyse_fields {items : List ScriptItem} (read : Catalog.ofScript items = .ok catalog)
    {types : TypeMap} {place : Place} {item : ScriptItem} {statement : TypedStatement}
    (h : analyse (.ofCatalog catalog types) place item = .ok statement) :
    ∃ shape comments columns dynamic,
      Shape.ofStatement catalog place.name item.statement = .ok shape ∧
      CommentAnnotations.ofComments item.comments = .ok comments ∧
      statement.fields = columns ++ dynamic ∧
      List.Forall₂ (Backed catalog comments.fields) shape.columns columns ∧
      ∀ field ∈ dynamic, Unbacked columns field := by
  obtain ⟨shape, ofShape, h⟩ := bind_eq_ok h
  obtain ⟨comments, ofComments, h⟩ := bind_eq_ok h
  obtain ⟨overrides, _, h⟩ := bind_eq_ok h
  obtain ⟨columns, first, h⟩ := bind_eq_ok h
  obtain ⟨dynamic, added, h⟩ := bind_eq_ok h
  obtain ⟨nested, _, h⟩ := bind_eq_ok h
  obtain ⟨parameters, _, h⟩ := bind_eq_ok h
  cases h
  obtain ⟨unbacked, apart⟩ := dynamicFields_eq_ok added
  refine ⟨shape, comments, columns.map (settle nested), dynamic.map (settle nested), ofShape,
    mapError_eq_ok.mp ofComments, List.map_append, ?_, ?_⟩
  · rw [List.forall₂_map_right_iff]
    have ofColumns : List.Forall₂ _ columns shape.columns := (List.forall₂_and_left ..).mpr
      ⟨fun field member entry own itself => apart entry own itself field member,
        (columnFields_eq_ok first).flip⟩
    refine ofColumns.flip.imp fun column field ⟨apart, ofColumn⟩ => ?_
    refine (backed_of_ofColumn (Catalog.orderly_ofScript read) ?_ ofColumn).settle nested
    rw [← (Field.ofColumn_eq_ok ofColumn).1]
    exact apart
  · intro field member
    obtain ⟨before, inside, rfl⟩ := List.mem_map.mp member
    exact (unbacked before inside).settle nested

/-- What is computed from a schema and a query holds of the statement that is accepted. -/
theorem exists_evaluated {α : Type} {items : List ScriptItem} {item : ScriptItem}
    {view : TypedStatement → α} {result : α}
    (computed : (do
      let catalog ← (Catalog.ofScript items).toOption
      let statement ← (analyse (.ofCatalog catalog .initial) ⟨"q", "n", ""⟩ item).toOption
      some (view statement)) = some result) :
    ∃ catalog statement, Catalog.ofScript items = .ok catalog ∧
      analyse (.ofCatalog catalog .initial) ⟨"q", "n", ""⟩ item = .ok statement ∧
      view statement = result := by
  obtain ⟨catalog, read, computed⟩ := Option.bind_eq_some_iff.mp computed
  obtain ⟨statement, analysed, computed⟩ := Option.bind_eq_some_iff.mp computed
  exact ⟨catalog, statement, toOption_eq_some.mp read, toOption_eq_some.mp analysed,
    Option.some.inj computed⟩

/-- A table that declares its only column to be a dynamic field. -/
def flaggedSchema : List ScriptItem :=
  [⟨"", .createTable ⟨"t", [⟨"x", some "INTEGER", true, false, none⟩], false⟩,
    ["@@\x7bdynamicField=x, propertyType=String\x7d"], [], []⟩]

def flaggedQuery : ScriptItem := ⟨"", .select (Catalog.selectAll "t"), [], [], []⟩

theorem exists_flagged : ∃ catalog statement, Catalog.ofScript flaggedSchema = .ok catalog ∧
    analyse (.ofCatalog catalog .initial) ⟨"q", "n", ""⟩ flaggedQuery = .ok statement ∧
    statement.fields.map (fun f => (f.name, f.isDynamic, f.source.origin)) =
      [("x", true, some ⟨"t", "x"⟩)] := by
  have fields : (do
      let catalog ← (Catalog.ofScript flaggedSchema).toOption
      let statement ←
        (analyse (.ofCatalog catalog .initial) ⟨"q", "n", ""⟩ flaggedQuery).toOption
      some (statement.fields.map fun f => (f.name, f.isDynamic, f.source.origin))) =
        some [("x", true, some ⟨"t", "x"⟩)] := by
    decide +kernel
  exact exists_evaluated fields

-- the field is not one of those without a column, so it is that of the column
theorem analyse_fields_flagged : ∃ catalog statement,
    Catalog.ofScript flaggedSchema = .ok catalog ∧
    analyse (.ofCatalog catalog .initial) ⟨"q", "n", ""⟩ flaggedQuery = .ok statement ∧
    statement.fields.map (fun f => (f.name, f.isDynamic, f.source.origin)) =
      [("x", true, some ⟨"t", "x"⟩)] ∧
    catalog.SaysDynamic ⟨"t", "x"⟩ := by
  obtain ⟨catalog, statement, read, analysed, fields⟩ := exists_flagged
  obtain ⟨shape, comments, columns, dynamic, _, _, parts, backed, unbacked⟩ :=
    analyse_fields read analysed
  refine ⟨catalog, statement, read, analysed, fields, ?_⟩
  obtain ⟨field, only, same⟩ := List.map_eq_singleton_iff.mp fields
  obtain ⟨-, said, from'⟩ : field.name = "x" ∧ field.isDynamic = true ∧
    field.source.origin = some ⟨"t", "x"⟩ := by simpa using same
  have member : field ∈ columns ++ dynamic := by rw [← parts, only]; exact List.mem_singleton_self _
  obtain column | added := List.mem_append.mp member
  · obtain ⟨source, _, own⟩ := exists_of_mem_right backed column
    obtain ⟨_, origin, copied, schema⟩ := own.dynamic.mp said
    rw [← own.source, from'] at copied
    exact Option.some.inj copied ▸ schema
  · rw [(unbacked field added).source] at from'
    cases from'

end TypedStatement

end TypedRows
