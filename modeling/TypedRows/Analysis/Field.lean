import TypedRows.Analysis.Context

/-!
The fields of a statement: its result columns, and the dynamic fields that its annotations add.
-/

namespace TypedRows

/-- The type whose values may be missing. -/
def RustType.optional (type : String) : String := "Option<" ++ type ++ ">"

structure Field where
  name : String
  source : ResultColumn
  /-- The annotations in force. -/
  annotations : Annotations
  overrides : FieldOverrides
  propertyName : String
  /-- The type of values that are not null. -/
  propertyType : String
  sqlType : Option String
  notNull : Bool
  adapter : Bool

namespace Field

def isDynamic (field : Field) : Bool := field.overrides.isDynamicField

/-- The type of the property. A type that is optional by itself is not wrapped again. -/
def rustType (field : Field) : String :=
  if field.notNull || Text.hasPrefix field.propertyType "Option<" then field.propertyType
  else RustType.optional field.propertyType

/-- What a result column inherits. An outer join does away with `notNull`. -/
def inherited (context : Context) (source : ResultColumn) : Annotations :=
  let map := (source.origin.bind fun origin =>
    context.inheritance.annotations? origin.object origin.column).getD .empty
  if source.joinedNullable then map.erase Key.notNull else map

/-- The annotations of a result column: those of the statement lie over those that it inherits. -/
def inForce (context : Context) (source : ResultColumn) (declared : Option Annotations) :
    Annotations :=
  match declared with
  | some map => (inherited context source).merge map
  | none => inherited context source

/-- A result column. Its annotations decide over what the query says. -/
def ofColumn (context : Context) (style : NameStyle) (source : ResultColumn)
    (declared : Option Annotations) : Except AnnotationsError Field := do
  let annotations := inForce context source declared
  let overrides ← FieldOverrides.ofAnnotations source.name annotations
  let sqlType := overrides.sqlTypeHint.or source.sqlType
  return {
    name := source.name
    source
    annotations
    overrides
    propertyName := overrides.propertyName.getD (style.apply source.name)
    propertyType := overrides.propertyType.getD (context.types.rustType sqlType)
    sqlType
    notNull := overrides.notNull.getD source.notNull
    adapter := overrides.adapter }

/-- A dynamic field, which no result column stands behind. -/
def ofAnnotations (style : NameStyle) (name : String) (annotations : Annotations) :
    Except AnnotationsError Field := do
  let overrides ← FieldOverrides.ofAnnotations name annotations
  return {
    name
    source := .unknown name
    annotations
    overrides
    propertyName := overrides.propertyName.getD (style.apply name)
    propertyType := overrides.propertyType.getD ""
    sqlType := none
    notNull := overrides.notNull.getD false
    adapter := overrides.adapter }

end Field

end TypedRows
