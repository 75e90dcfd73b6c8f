import TypedRows.Analysis.Field
import TypedRows.Sql.Parameter

/-!
The types of parameters: by a cast, or else by the column that the parameter meets.
-/

namespace TypedRows

open Sql

structure Parameter where
  name : String
  propertyName : String
  propertyType : String
  sqlType : Option String
  notNull : Bool
  adapter : Bool
  /-- The column that the parameter is compared with or assigned to. -/
  column : Option Origin
  deriving DecidableEq

namespace Parameter

def rustType (parameter : Parameter) : String :=
  if parameter.notNull then parameter.propertyType
  else RustType.optional parameter.propertyType

/-- A parameter of which nothing is known is a text. -/
def unknown (name : String) : Parameter where
  name
  propertyName := Naming.snakeCase name
  propertyType := "String"
  sqlType := none
  notNull := true
  adapter := false
  column := none

/-- What the names in a statement stand for. -/
structure Names where
  aliases : OrderedMap String String
  /-- The table that the statement changes. -/
  target : Option String

/-- The table or view that a column belongs to. A column without qualifier is looked for in the
changed table first, and then in what is read. -/
def Names.object? (names : Names) (catalog : Catalog) (ref : ColumnRef) : Option String :=
  match ref.table with
  | some table =>
    (names.aliases.entries.find? fun entry => Text.sameName entry.1 table).map Prod.snd
  | none =>
    (names.target.toList ++ names.aliases.values).find? fun object =>
      (catalog.column? object ref.column).isSome

/-- A parameter that meets a column has its type, and is nullable if a nullable column is
assigned. -/
def ofColumn (context : Context) (names : Names) (name : String) (ref : ColumnRef)
    (assigned : Bool) : Except AnnotationsError Parameter :=
  let found := (names.object? context.catalog ref).bind fun object =>
    (context.catalog.column? object ref.column).map fun column => (object, column)
  match found with
  | none => .ok (unknown name)
  | some (object, column) => do
    let overrides ← context.inheritance.overrides? object ref.column
    let sqlType := (overrides.bind FieldOverrides.sqlTypeHint).or column.sqlType
    return {
      name
      propertyName := Naming.snakeCase name
      propertyType :=
        (overrides.bind FieldOverrides.propertyType).getD (context.types.rustType sqlType)
      sqlType
      -- nothing is equal to null, so what is only compared is never null
      notNull := !assigned || (overrides.bind FieldOverrides.notNull).getD column.notNull
      adapter := (overrides.map FieldOverrides.adapter).getD false
      column := some ⟨object, column.name⟩ }

def ofHint (context : Context) (names : Names) (name : String) :
    Option Hint → Except AnnotationsError Parameter
  | some (.column ref assigned) => ofColumn context names name ref assigned
  | some .limit => .ok { unknown name with sqlType := some "INTEGER", propertyType := "i64" }
  | none => .ok (unknown name)

/-- A cast decides the type, whatever column the parameter meets. -/
def castTo (context : Context) (type : String) (parameter : Parameter) : Parameter :=
  { parameter with
    sqlType := some type
    propertyType := context.types.rustType (some type)
    adapter := false }

/-- The parameter `name`, from the types that parameters are cast to and what they meet. -/
def infer (context : Context) (names : Names) (casts : OrderedMap String String)
    (hints : OrderedMap String Hint) (name : String) : Except AnnotationsError Parameter := do
  let parameter ← ofHint context names name (hints.get? name)
  match casts.get? name with
  | some type => return parameter.castTo context type
  | none => return parameter

/-- The distinct parameters in the order of their first occurrences. -/
def all (context : Context) (names : Names) (item : ScriptItem) :
    Except AnnotationsError (List Parameter) :=
  item.parameters.eraseDups.mapM
    (infer context names item.statement.casts item.statement.hints)

end Parameter

end TypedRows
