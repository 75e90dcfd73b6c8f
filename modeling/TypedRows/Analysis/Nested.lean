import TypedRows.Analysis.Field

/-!
Columns that are folded into a nested value: a mapped dynamic field takes every result column that
comes from its source, and starts with its prefix if it has one.
-/

namespace TypedRows

/-- A column within a nested value. -/
structure NestedColumn where
  /-- The name of the result column. -/
  column : String
  propertyName : String
  propertyType : String
  /-- Whether the column is never null in a row that the join has found. -/
  notNull : Bool
  adapter : Bool
  deriving DecidableEq

structure NestedField where
  fieldName : String
  propertyName : String
  propertyType : String
  kind : MappingKind
  sourceTable : String
  aliasPrefix : Option String
  columns : List NestedColumn
  /-- Whether there is a value for every row. A collection may be empty, but is always there. -/
  notNull : Bool
  /-- The column that tells which rows belong to one collection. -/
  parentKey : Option String
  /-- The column that tells the items of a collection apart. -/
  itemKey : Option String
  deriving DecidableEq

namespace NestedColumn

def rustType (column : NestedColumn) : String :=
  if column.notNull then column.propertyType else RustType.optional column.propertyType

end NestedColumn

/-- What follows `start` in `name`, if it begins so in some letter case. -/
def afterName? : List Char → List Char → Option (List Char)
  | [], name => some name
  | _ :: _, [] => none
  | p :: start, c :: name => if p.toLower = c.toLower then afterName? start name else none

namespace Mapping

/-- The name of a column without the prefix of the mapping, if it has that prefix. -/
def strip? (mapping : Mapping) (name : String) : Option String :=
  match mapping.aliasPrefix with
  | some start => (afterName? start.toList name.toList).map String.ofList
  | none => some name

/-- Whether a field comes from the source by a reference name on its way, or by the table behind
the entry it comes from. -/
def isSourceOf (mapping : Mapping) (aliases : OrderedMap String String) (field : Field) : Bool :=
  let named := fun name => Text.sameName name mapping.sourceTable
  -- a name within a subquery counts as well, whatever the entry stands for outside
  field.source.aliasPath.any named ||
    match field.source.tableAlias with
    | some tableAlias =>
      named tableAlias ||
        aliases.entries.any fun entry => Text.sameName entry.1 tableAlias && named entry.2
    | none => false

def takes (mapping : Mapping) (aliases : OrderedMap String String) (field : Field) : Bool :=
  !field.isDynamic && mapping.isSourceOf aliases field && (mapping.strip? field.name).isSome

def taken (mapping : Mapping) (aliases : OrderedMap String String) (fields : List Field) :
    List Field :=
  fields.filter (mapping.takes aliases)

/-- A name that is nothing but the prefix is kept. -/
def shortName (mapping : Mapping) (name : String) : String :=
  match mapping.strip? name with
  | some rest => if rest.isEmpty then name else rest
  | none => name

def column (mapping : Mapping) (style : NameStyle) (field : Field) : NestedColumn where
  column := field.name
  propertyName := field.overrides.propertyName.getD (style.apply (mapping.shortName field.name))
  propertyType := field.propertyType
  notNull := field.overrides.notNull.getD field.source.declaredNotNull
  adapter := field.adapter

/-- Whether `column` is the key that the mapping names, with or without the prefix. -/
def isKey (mapping : Mapping) (key : String) (column : NestedColumn) : Bool :=
  Text.sameName column.column key ||
    match mapping.aliasPrefix with
    | some start => Text.sameName column.column (start ++ key)
    | none => false

/-- The column of the key that the mapping names, or else the first column. -/
def itemKey? (mapping : Mapping) (columns : List NestedColumn) : Option String :=
  let named := mapping.collectionKey.bind fun key => columns.find? (mapping.isKey key)
  (named.or columns.head?).map NestedColumn.column

end Mapping

namespace NestedField

def claim (field : String) : OrderedMap String String → List Field →
    Except DynamicFault (OrderedMap String String)
  | owners, [] => .ok owners
  | owners, column :: rest =>
    match owners.get? column.name with
    | some owner => .error (.mappedTwice column.name owner field)
    | none => claim field (owners.put column.name field) rest

/-- The column by which the rows of a collection are told from those of others. -/
def parentColumn (overrides : StatementOverrides) (field : String) (fields : List Field) :
    Except DynamicFault String :=
  match overrides.collectionKey with
  | none => .error (.noCollectionKey field)
  | some key =>
    match fields.find? fun f => Text.sameName f.name key with
    | some found => .ok found.name
    | none => .error (.keyNotColumn key)

/-- The nested value of a mapped field, and the owners of the columns taken so far. -/
def ofMapping (overrides : StatementOverrides) (fields : List Field)
    (aliases : OrderedMap String String) (owners : OrderedMap String String) (field : Field)
    (mapping : Mapping) : Except DynamicFault (NestedField × OrderedMap String String) := do
  let taken := mapping.taken aliases fields
  if taken.isEmpty then
    throw (.noColumns field.name mapping.sourceTable mapping.aliasPrefix)
  let owners ← claim field.name owners taken
  let columns := taken.map (mapping.column overrides.nameStyle)
  let nested : NestedField := {
    fieldName := field.name
    propertyName := field.propertyName
    propertyType := field.propertyType
    kind := mapping.kind
    sourceTable := mapping.sourceTable
    aliasPrefix := mapping.aliasPrefix
    columns
    notNull := true
    parentKey := none
    itemKey := none }
  match mapping.kind with
  | .perRow | .entity =>
    -- a join that finds no row leaves nothing to fold
    let joined := taken.any fun f => f.source.joinedNullable
    return ({ nested with notNull := field.overrides.notNull.getD !joined }, owners)
  | .collection =>
    let parent ← parentColumn overrides field.name fields
    return ({ nested with
      parentKey := some parent
      itemKey := mapping.itemKey? columns }, owners)

def addField (overrides : StatementOverrides) (fields : List Field)
    (aliases : OrderedMap String String)
    (state : List NestedField × OrderedMap String String) (field : Field) :
    Except DynamicFault (List NestedField × OrderedMap String String) :=
  match field.overrides.mapping with
  | none => .ok state
  | some mapping => do
    let (nested, owners) ← ofMapping overrides fields aliases state.2 field mapping
    return (state.1 ++ [nested], owners)

/-- The nested values of a statement. No column may be taken twice. -/
def ofFields (overrides : StatementOverrides) (fields : List Field)
    (aliases : OrderedMap String String) : Except DynamicFault (List NestedField) := do
  let (nested, _) ← fields.foldlM (addField overrides fields aliases) ([], .empty)
  return nested

/-- The names of the columns within nested values. -/
def skipped (nested : List NestedField) : List String :=
  (nested.flatMap fun n => n.columns.map NestedColumn.column).eraseDups

end NestedField

namespace Field

/-- The names of the columns that the mappings of the fields take. -/
def mappedColumns (fields : List Field) (aliases : OrderedMap String String) : List String :=
  (fields.flatMap fun field =>
    match field.overrides.mapping with
    | some mapping => (mapping.taken aliases fields).map Field.name
    | none => []).eraseDups

def nested? (field : Field) (nested : List NestedField) : Option NestedField :=
  nested.find? fun n => n.fieldName == field.name

/-- The type of the property that stands for the field in a row. -/
def rowType (field : Field) (nested : List NestedField) : String :=
  match field.nested? nested with
  | some n =>
    if n.kind = .collection then "Vec<" ++ n.propertyType ++ ">"
    else if n.notNull then n.propertyType
    else RustType.optional n.propertyType
  | none => field.rustType

/-- The fields that are properties of a row by themselves. -/
def flat (fields : List Field) (nested : List NestedField) : List Field :=
  let skip := NestedField.skipped nested
  fields.filter fun field => !skip.contains field.name

end Field

end TypedRows
