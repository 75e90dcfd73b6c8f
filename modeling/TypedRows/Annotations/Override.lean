import TypedRows.Annotations.Error
import TypedRows.Naming

/-!
What the annotations of a field or of a statement say, checked and sorted by meaning.
-/

namespace TypedRows

/-- What the columns of a dynamic field become. -/
inductive MappingKind where
  | perRow
  | collection
  | entity
  deriving DecidableEq

namespace MappingKind

def ofString? : String → Option MappingKind
  | "perRow" => some perRow
  | "collection" => some collection
  | "entity" => some entity
  | _ => none

def toString : MappingKind → String
  | perRow => "perRow"
  | collection => "collection"
  | entity => "entity"

def parse (name : String) : Except AnnotationsError MappingKind :=
  match ofString? name with
  | some kind => .ok kind
  | none => .error (.mappingTypeName name)

end MappingKind

/-- Which columns a dynamic field takes together, and to what. -/
structure Mapping where
  kind : MappingKind
  sourceTable : String
  aliasPrefix : Option String
  collectionKey : Option String
  deriving DecidableEq

structure FieldOverrides where
  propertyName : Option String
  propertyType : Option String
  notNull : Option Bool
  /-- Whether a conversion function is needed. -/
  adapter : Bool
  sqlTypeHint : Option String
  defaultValue : Option String
  isDynamicField : Bool
  mapping : Option Mapping
  deriving DecidableEq

namespace Annotations

/-- The single value of a key; null counts as absent. -/
def single (map : Annotations) (owner key : String) : Except AnnotationsError (Option String) :=
  match map.get? key with
  | none | some .null => .ok none
  | some (.text s) => .ok (some s)
  | some (.bool b) => .ok (some (if b then "true" else "false"))
  | some (.list _) => .error (.notSingle key owner)

def boolean (map : Annotations) (field key : String) : Except AnnotationsError (Option Bool) :=
  match map.get? key with
  | none | some .null => .ok none
  | some value =>
    match value.bool? with
    | some b => .ok (some b)
    | none => .error (.notBoolean key field)

end Annotations

namespace FieldOverrides

/-- The mapping of a field; only a dynamic field may have one. -/
def mappingOf (field : String) (map : Annotations) (isDynamic : Bool) (kind : Option String) :
    Except AnnotationsError (Option Mapping) :=
  match kind with
  | none => .ok none
  | some name => do
    unless isDynamic do throw (.mappingOfColumn field)
    let kind ← MappingKind.parse name
    match ← map.single field Key.sourceTable with
    | none => throw (.mappingWithoutSource field)
    | some sourceTable =>
      let aliasPrefix ← map.single field Key.aliasPrefix
      let collectionKey ← map.single field Key.collectionKey
      return some { kind, sourceTable, aliasPrefix, collectionKey }

def adapterOf (field : String) (map : Annotations) : Except AnnotationsError Bool := do
  match ← map.single field Key.adapter with
  | none | some "default" => return false
  | some "custom" => return true
  | some name => throw (.adapterName field name)

def ofAnnotations (field : String) (map : Annotations) :
    Except AnnotationsError FieldOverrides := do
  let isDynamicField := (← map.boolean field Key.isDynamicField).getD false
  let propertyType ← map.single field Key.propertyType
  let kind ← map.single field Key.mappingType
  if isDynamicField ∧ propertyType.isNone then throw (.untypedDynamicField field)
  let mapping ← mappingOf field map isDynamicField kind
  let adapter ← adapterOf field map
  let propertyName ← map.single field Key.propertyName
  let notNull ← map.boolean field Key.notNull
  let sqlTypeHint ← map.single field Key.sqlTypeHint
  let defaultValue ← map.single field Key.defaultValue
  return { propertyName, propertyType, notNull, adapter, sqlTypeHint, defaultValue,
           isDynamicField, mapping }

end FieldOverrides

structure StatementOverrides where
  queryResult : Option String
  collectionKey : Option String
  implements : List String
  excludeOverrideFields : List String
  nameStyle : NameStyle
  /-- Keys without a meaning here. -/
  extra : Annotations

namespace StatementOverrides

def initial : StatementOverrides := ⟨none, none, [], [], .snake, .empty⟩

/-- The list value of a key; null counts as the empty list. -/
def listOf (statement key : String) (value : Value) : Except AnnotationsError (List String) :=
  if value.isNull then .ok []
  else
    match value.list? with
    | some items => .ok items
    | none => .error (.notList key statement)

def nameStyleOf (name : Option String) (current : NameStyle) :
    Except AnnotationsError NameStyle :=
  match name with
  | none => .ok current
  | some name =>
    match NameStyle.ofString? name with
    | some style => .ok style
    | none => .error (.nameStyle name)

def add (statement : String) (map : Annotations) (acc : StatementOverrides)
    (entry : String × Value) : Except AnnotationsError StatementOverrides := do
  let (key, value) := entry
  if key = Key.queryResult then
    return { acc with queryResult := ← map.single statement key }
  else if key = Key.collectionKey then
    return { acc with collectionKey := ← map.single statement key }
  else if key = Key.implements then
    return { acc with implements := ← listOf statement key value }
  else if key = Key.excludeOverrideFields then
    return { acc with excludeOverrideFields := ← listOf statement key value }
  else if key = Key.propertyNameGenerator then
    return { acc with nameStyle := ← nameStyleOf (← map.single statement key) acc.nameStyle }
  else return { acc with extra := acc.extra.put key value }

def ofAnnotations (statement : String) (map : Annotations) :
    Except AnnotationsError StatementOverrides :=
  map.entries.foldlM (add statement map) initial

end StatementOverrides

end TypedRows
