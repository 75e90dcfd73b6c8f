import TypedRows.Proofs.AdapterLayers

/-! The blocks of a schema that are in force for a column, through the views that it is copied
through, and with those of a statement the adapter of a result column. -/

namespace TypedRows

open Sql Annotations

namespace Catalog

/-- The fields that a catalog has annotations of, by the key of their table or view. -/
def fields? (catalog : Catalog) (key : String) : Option (OrderedMap String Annotations) :=
  ((catalog.tables.get? key).map Table.fieldAnnotations).or
    ((catalog.views.get? key).map View.fieldAnnotations)

namespace Addition

def fields? (addition : Addition) (key : String) : Option (OrderedMap String Annotations) :=
  match addition with
  | nothing => none
  | table t => if key = Text.foldLower t.name then some t.fieldAnnotations else none
  | view v => if key = Text.foldLower v.name then some v.fieldAnnotations else none

theorem fields?_addTo {catalog : Catalog} {addition : Addition} (fits : addition.Fits catalog)
    (key : String) :
    (addition.addTo catalog).fields? key = (catalog.fields? key).or (addition.fields? key) := by
  cases addition with
  | nothing => exact Option.or_none.symm
  | table t =>
    have free := free_of_hasKey (fits _ rfl)
    by_cases same : key = Text.foldLower t.name
    · rw [same]
      simp [addTo, fields?, Catalog.fields?, free.1, free.2]
    · simp [addTo, fields?, Catalog.fields?, OrderedMap.get?_put, same]
  | view v =>
    have free := free_of_hasKey (fits _ rfl)
    by_cases same : key = Text.foldLower v.name
    · rw [same]
      simp [addTo, fields?, Catalog.fields?, free.1, free.2]
    · simp [addTo, fields?, Catalog.fields?, OrderedMap.get?_put, same]

end Addition

/-- Whether a statement declares the table or view of a name. -/
def declares (name : String) (item : ScriptItem) : Bool :=
  item.statement.declared?.any fun own => Text.sameName own name

theorem Addition.fields?_ofItem {item : ScriptItem} {addition : Addition}
    (h : ofItem item = .ok addition) (name : String) :
    addition.fields? (Text.foldLower name) =
      if declares name item then some (fieldsOf (fieldBlocks item.comments)) else none := by
  unfold ofItem at h
  rw [declares]
  cases kind : item.statement with
  | createTable decl | createView decl =>
    rw [kind] at h
    obtain ⟨annotations, read, h⟩ := bind_eq_ok h
    cases h
    rw [Sql.Statement.declared?, Option.any_some, fields?]
    have fields := CommentAnnotations.fields_of_ofComments (mapError_eq_ok.mp read)
    refine if_congr ?_ (congrArg some fields) rfl
    rw [Text.sameName_iff]
    exact eq_comm
  | select _ | insert _ _ | update _ _ _ | delete _ _ _ | other _ =>
    rw [kind] at h
    cases h
    rfl

theorem fields?_entered {items : List ScriptItem} {catalog last : Catalog}
    (run : items.foldlM enter catalog = .ok last) (name : String) :
    last.fields? (Text.foldLower name) = (catalog.fields? (Text.foldLower name)).or
      ((items.find? (declares name)).map fun item => fieldsOf (fieldBlocks item.comments)) := by
  induction items generalizing catalog with
  | nil =>
    cases run
    exact Option.or_none.symm
  | cons item rest ih =>
    rw [List.foldlM_cons] at run
    obtain ⟨middle, step, run⟩ := bind_eq_ok run
    obtain ⟨addition, declared, fits, rfl⟩ := enter_eq_ok.mp step
    rw [ih run, Addition.fields?_addTo fits, Addition.fields?_ofItem declared, Option.or_assoc,
      List.find?_cons]
    cases declares name item <;> rfl

theorem Resolved.fields? {entered catalog : Catalog}
    (resolved : Resolved entered (fun _ => True) catalog) (key : String) :
    catalog.fields? key = entered.fields? key := by
  rw [Catalog.fields?, Catalog.fields?, resolved.tables]
  congr 1
  cases found : catalog.views.get? key with
  | some view =>
    obtain ⟨old, known, _, same⟩ := resolved.stored found
    rw [known, Option.map_some, Option.map_some, same]
  | none =>
    cases known : entered.views.get? key with
    | none => rfl
    | some old =>
      by_cases isGrounded : Grounded entered.reads key
      · obtain ⟨_, _, stored⟩ := resolved.grounded key old trivial known isGrounded
        cases found.symm.trans stored
      · cases found.symm.trans (resolved.ungrounded key old trivial known isGrounded)

/-- The fields of a table or view are made by the comments of the statement that declares it. -/
theorem fields?_ofScript {items : List ScriptItem} {catalog : Catalog}
    (read : ofScript items = .ok catalog) (name : String) :
    catalog.fields? (Text.foldLower name) =
      (items.find? (declares name)).map fun item => fieldsOf (fieldBlocks item.comments) := by
  obtain ⟨entered, run, resolve⟩ := bind_eq_ok read
  rw [(resolveViews_resolved (mapError_eq_ok.mp resolve)).fields?, fields?_entered run]
  exact Option.none_or

end Catalog

namespace Inheritance

variable {catalog : Catalog}

/-- The annotations of a table or view are found by its name. -/
theorem fields_objectNamed? (orderly : catalog.Orderly) (name : String) :
    (objectNamed? (.ofList (described catalog)) name).map ObjectAnnotations.fields =
      catalog.fields? (Text.foldLower name) := by
  rw [objectNamed?_described orderly, Option.map_or, Option.map_map, Option.map_map]
  rfl

/-- The blocks of a schema about a column of a table or view, the last one first. -/
def layersAt (items : List ScriptItem) (column : Origin) : List Annotations :=
  match items.find? (Catalog.declares column.object) with
  | some item => layersOn (fieldBlocks item.comments) column.column
  | none => []

variable {items : List ScriptItem}

theorem sealed_of_mem_layersAt {column : Origin} {layer : Annotations}
    (member : layer ∈ layersAt items column) : Sealed layer := by
  rw [layersAt] at member
  split at member
  · exact sealed_of_mem_layersOn member
  · cases member

/-- What is declared on a column is told by the comments of the statement that declares its table or
view. -/
theorem declaredIn_ofScript (read : Catalog.ofScript items = .ok catalog) (column : Origin) :
    declaredIn (.ofList (described catalog)) column =
      (items.find? (Catalog.declares column.object)).bind fun item =>
        TypedStatement.own? (fieldsOf (fieldBlocks item.comments)) column.column := by
  have declared : declaredIn (.ofList (described catalog)) column =
      ((objectNamed? (.ofList (described catalog)) column.object).map
        ObjectAnnotations.fields).bind (TypedStatement.own? · column.column) := by
    rw [Option.bind_map]
    rfl
  rw [declared, fields_objectNamed? (Catalog.orderly_ofScript read), Catalog.fields?_ofScript read,
    Option.bind_map]
  rfl

theorem laid_declaredIn (read : Catalog.ofScript items = .ok catalog) (column : Origin) :
    Laid (layersAt items column) (declaredIn (.ofList (described catalog)) column) := by
  rw [declaredIn_ofScript read, layersAt]
  cases items.find? (Catalog.declares column.object) with
  | none => exact .nil
  | some item => exact laid_own _ _

theorem Walk.laid {own : Origin → Option Annotations} {copied : Origin → Option Inherited}
    {layers : Origin → List Annotations} (each : ∀ column, Laid (layers column) (own column))
    {passed : List Origin} {column : Origin} {way : List Origin}
    (walk : Walk copied passed column way) :
    Laid (way.flatMap layers) (layered own copied way) := by
  induction walk with
  | repeated => exact .nil
  | @last _ column _ copy =>
    rw [layered, copy, List.flatMap_cons]
    exact (each column).layer .nil
  | @next _ column inherited rest _ copy _ ih =>
    rw [layered, copy, List.flatMap_cons]
    exact (each column).layer (ih.passOn inherited)

/-- The annotations in force for a column are laid from the blocks about the columns of the walk
from it. -/
theorem laid_annotations? (read : Catalog.ofScript items = .ok catalog) {object column : String}
    {way : List Origin}
    (walk : Walk (copiedIn (.ofList (described catalog))) [] (Origin.fold ⟨object, column⟩) way) :
    Laid (way.flatMap (layersAt items)) ((ofCatalog catalog).annotations? object column) := by
  have alike := annotations?_alike (nodup_objects (Catalog.orderly_ofScript read)) walk
  exact (walk.laid (laid_declaredIn read)).of_alike alike

/-- The walk from what a result column is copied from, if it is copied. -/
def WayOf (catalog : Catalog) (source : ResultColumn) (way : List Origin) : Prop :=
  match source.origin with
  | some origin => Walk (copiedIn (.ofList (described catalog))) [] origin.fold way
  | none => way = []

theorem exists_wayOf (orderly : catalog.Orderly) (source : ResultColumn) :
    ∃ way, WayOf catalog source way := by
  unfold WayOf
  cases source.origin with
  | none => exact ⟨[], rfl⟩
  | some origin =>
    obtain ⟨way, walk, _⟩ :=
      (describes_ofObjects (nodup_objects orderly)).exists_walk (Origin.fold_fold origin)
    exact ⟨way, walk⟩

end Inheritance

namespace Field

open Inheritance

variable {catalog : Catalog} {items : List ScriptItem} {source : ResultColumn} {way : List Origin}

theorem laid_inherited (types : TypeMap) (read : Catalog.ofScript items = .ok catalog)
    (walk : WayOf catalog source way) : Laid (way.flatMap (layersAt items))
      (some (inherited (.ofCatalog catalog types) source)) := by
  have copied : Laid (way.flatMap (layersAt items)) (source.origin.bind fun origin =>
      (Inheritance.ofCatalog catalog).annotations? origin.object origin.column) := by
    unfold WayOf at walk
    cases from' : source.origin with
    | none =>
      rw [from'] at walk
      rw [walk]
      exact .nil
    | some origin =>
      rw [from'] at walk
      exact laid_annotations? read walk
  intro key kept
  have told : (inherited (.ofCatalog catalog types) source).get? key = _ := get?_inherited ..
  rw [ResultColumn.inherits, decide_eq_false kept, Bool.and_false, if_neg Bool.false_ne_true]
    at told
  exact told.trans (copied key kept)

/-- The annotations of a result column are laid from the blocks of the statement about it, and below
them those of the columns that it is copied from. -/
theorem laid_inForce {types : TypeMap} (read : Catalog.ofScript items = .ok catalog)
    (walk : WayOf catalog source way) (lines : List String) :
    Laid (layersOn (fieldBlocks lines) source.name ++ way.flatMap (layersAt items))
      (some (inForce (.ofCatalog catalog types) source
        (TypedStatement.own? (fieldsOf (fieldBlocks lines)) source.name))) := by
  have laid := (laid_own (fieldBlocks lines) source.name).layer
    (laid_inherited types read walk)
  unfold inForce
  cases own : TypedStatement.own? (fieldsOf (fieldBlocks lines)) source.name <;>
  · rw [own] at laid
    exact laid

end Field

/-- The first layer that names an adapter names the default one. -/
def Annotations.NamesDefault (layers : List Annotations) : Prop :=
  layers.findSome? (fun layer => layer.get? Key.adapter) = some (.text "default")

namespace TypedStatement

open Inheritance

variable {catalog : Catalog} {items : List ScriptItem} {types : TypeMap}

/-- The field of a result column whose type is not built in has an adapter, unless the first block
that names one names the default adapter. The blocks are those of the statement, and then those of
the columns on the way. -/
structure AdapterTold (catalog : Catalog) (items : List ScriptItem) (lines : List String)
    (column : ResultColumn) (field : Field) : Prop where
  name : field.name = column.name
  source : field.source = column
  told : ∃ way, WayOf catalog column way ∧
    ∀ type, field.annotations.get? Key.propertyType = some (.text type) →
      RustType.isBuiltin type = false →
      (field.overrides.adapter = true ↔ ¬NamesDefault
        (layersOn (fieldBlocks lines) column.name ++ way.flatMap (layersAt items)))

theorem adapterTold_of_ofColumn (read : Catalog.ofScript items = .ok catalog) {style : NameStyle}
    {lines : List String} {column : ResultColumn} {field : Field}
    (h : Field.ofColumn (.ofCatalog catalog types) style column
      (own? (fieldsOf (fieldBlocks lines)) column.name) = .ok field) :
    AdapterTold catalog items lines column field := by
  obtain ⟨overrides, accepted, h⟩ := bind_eq_ok h
  cases h
  obtain ⟨way, walk⟩ := exists_wayOf (Catalog.orderly_ofScript read) column
  refine ⟨rfl, rfl, way, walk, fun type typed custom => ?_⟩
  refine (Field.laid_inForce read walk lines).adapter_iff (fun layer member => ?_) accepted typed
    custom
  obtain own | below := List.mem_append.mp member
  · exact sealed_of_mem_layersOn own
  · obtain ⟨_, _, inside⟩ := List.mem_flatMap.mp below
    exact sealed_of_mem_layersAt inside

theorem AdapterTold.settle {lines : List String} {column : ResultColumn} {field : Field}
    (h : AdapterTold catalog items lines column field) (nested : List NestedField) :
    AdapterTold catalog items lines column (settle nested field) where
  name := by rw [settle_name, h.name]
  source := by rw [settle_source, h.source]
  told := by
    rw [settle_annotations, settle_overrides]
    exact h.told

/-- A column whose type in force is not built in has an adapter unless the first of the blocks that
are laid over each other for it that names an adapter names the default one: in a schema through any
views that the column is copied through, and in a statement under the blocks of its own. -/
theorem analyse_adapters (read : Catalog.ofScript items = .ok catalog) :
    (∀ object column map overrides type,
      (Inheritance.ofCatalog catalog).annotations? object column = some map →
      FieldOverrides.ofAnnotations column map = .ok overrides →
      map.get? Key.propertyType = some (.text type) → RustType.isBuiltin type = false →
      ∃ way, Walk (copiedIn (.ofList (described catalog))) [] (Origin.fold ⟨object, column⟩) way ∧
        (overrides.adapter = true ↔ ¬NamesDefault (way.flatMap (layersAt items)))) ∧
    ∀ types place item statement,
      analyse (.ofCatalog catalog types) place item = .ok statement →
      ∃ shape columns dynamic,
        Shape.ofStatement catalog place.name item.statement = .ok shape ∧
        statement.fields = columns ++ dynamic ∧
        List.Forall₂ (AdapterTold catalog items item.comments) shape.columns columns := by
  constructor
  · intro object column map overrides type inForce accepted typed custom
    obtain ⟨way, walk, _⟩ :=
      (describes_ofObjects (nodup_objects (Catalog.orderly_ofScript read))).exists_walk
        (Origin.fold_fold ⟨object, column⟩)
    have laid := laid_annotations? read walk
    rw [inForce] at laid
    refine ⟨way, walk, laid.adapter_iff (fun layer member => ?_) accepted typed custom⟩
    obtain ⟨_, _, inside⟩ := List.mem_flatMap.mp member
    exact sealed_of_mem_layersAt inside
  · intro types place item statement h
    obtain ⟨shape, comments, _, columns, dynamic, made, own, first, _, _, settled⟩ :=
      analyse_steps h
    refine ⟨shape, columns.map (settle statement.nested), dynamic.map (settle statement.nested),
      made, settled.trans List.map_append, ?_⟩
    have each := columnFields_eq_ok first
    rw [CommentAnnotations.fields_of_ofComments own] at each
    rw [List.forall₂_map_right_iff]
    exact each.imp fun column field ofColumn =>
      (adapterTold_of_ofColumn read ofColumn).settle statement.nested

/-- A table with a column of a type that is not built in. -/
def moneySchema : List ScriptItem :=
  [⟨"", .createTable ⟨"t", [⟨"x", some "INTEGER", true, false, none⟩], false⟩,
    ["@@\x7bfield=x, propertyType=Money\x7d"], [], []⟩]

/-- A query that names the default adapter for that column. -/
def moneyQuery : ScriptItem :=
  ⟨"", .select (Catalog.selectAll "t"), ["@@\x7bfield=x, adapter=default\x7d"], [], []⟩

theorem exists_money : ∃ catalog statement shape field,
    Catalog.ofScript moneySchema = .ok catalog ∧
    analyse (.ofCatalog catalog .initial) ⟨"q", "n", ""⟩ moneyQuery = .ok statement ∧
    Shape.ofStatement catalog "q" moneyQuery.statement = .ok shape ∧ shape.columns.length = 1 ∧
    statement.fields = [field] ∧ field.name = "x" ∧
    field.annotations.get? Key.propertyType = some (.text "Money") := by
  have fields : (do
      let catalog ← (Catalog.ofScript moneySchema).toOption
      let statement ← (analyse (.ofCatalog catalog .initial) ⟨"q", "n", ""⟩ moneyQuery).toOption
      let shape ← (Shape.ofStatement catalog "q" moneyQuery.statement).toOption
      some (shape.columns.length,
        statement.fields.map fun f => (f.name, f.annotations.get? Key.propertyType))) =
        some (1, [("x", some (.text "Money"))]) := by
    decide +kernel
  obtain ⟨catalog, read, fields⟩ := Option.bind_eq_some_iff.mp fields
  obtain ⟨statement, analysed, fields⟩ := Option.bind_eq_some_iff.mp fields
  obtain ⟨shape, shaped, fields⟩ := Option.bind_eq_some_iff.mp fields
  obtain ⟨one, fields⟩ := Prod.ext_iff.mp (Option.some.inj fields)
  obtain ⟨field, only, told⟩ := List.map_eq_singleton_iff.mp fields
  exact ⟨catalog, statement, shape, field, toOption_eq_some.mp read, toOption_eq_some.mp analysed,
    toOption_eq_some.mp shaped, one, only, congrArg Prod.fst told, congrArg Prod.snd told⟩

theorem namesDefault_money (below : List Annotations) :
    NamesDefault (layersOn (fieldBlocks moneyQuery.comments) "x" ++ below) := by
  have own : (layersOn (fieldBlocks moneyQuery.comments) "x").findSome?
      (fun layer => layer.get? Key.adapter) = some (.text "default") := by
    decide +kernel
  rw [NamesDefault, List.findSome?_append, own]
  rfl

/-- The column keeps its type, but has no adapter. -/
theorem analyse_adapters_money : ∃ catalog statement field,
    Catalog.ofScript moneySchema = .ok catalog ∧
    analyse (.ofCatalog catalog .initial) ⟨"q", "n", ""⟩ moneyQuery = .ok statement ∧
    field ∈ statement.fields ∧
    field.annotations.get? Key.propertyType = some (.text "Money") ∧
    RustType.isBuiltin "Money" = false ∧ field.overrides.adapter = false := by
  obtain ⟨catalog, statement, shape, field, read, analysed, shaped, one, only, named, typed⟩ :=
    exists_money
  have custom : RustType.isBuiltin "Money" = false := by decide +kernel
  refine ⟨catalog, statement, field, read, analysed, only ▸ List.mem_singleton.mpr rfl, typed,
    custom, ?_⟩
  obtain ⟨shape', columns, dynamic, shaped', split, each⟩ :=
    (analyse_adapters read).2 .initial _ moneyQuery statement analysed
  cases shaped.symm.trans shaped'
  -- the query has one column, and its field is the only one
  obtain ⟨first, rfl⟩ := List.length_eq_one_iff.mp (each.length_eq.symm.trans one)
  rw [only] at split
  obtain ⟨rfl, _⟩ := List.cons.inj split
  obtain ⟨column, _, told⟩ := exists_of_mem_right each List.mem_cons_self
  obtain ⟨way, _, adapter⟩ := told.told
  have reached := adapter "Money" typed custom
  rw [← told.name, named] at reached
  rw [Bool.eq_false_iff]
  exact fun has => reached.mp has (namesDefault_money _)

end TypedStatement

end TypedRows
