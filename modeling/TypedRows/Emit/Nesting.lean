import TypedRows.Emit.Row

/-!
The function that folds the rows of a statement, as the database returns them, into rows with
nested values.
-/

namespace TypedRows.Emit

/-- How a member of a nested value is made from a flat row. -/
inductive Cell where
  | property (name : String)
  /-- Without a value there is no nested value either. -/
  | required (cell : Cell)
  | present (cell : Cell)
  deriving DecidableEq

def Cell.text : Cell → String
  | property name => s!"row.{identifier name}.clone()"
  | required cell => cell.text ++ "?"
  | present cell => "Some(" ++ cell.text ++ ")"

/-- A member that may be missing on one side only is unwrapped or wrapped. -/
def Cell.ofColumn (flat : Field) (column : NestedColumn) : Cell :=
  match flat.notNull, column.notNull with
  | false, true => .required (.property flat.propertyName)
  | true, false => .present (.property flat.propertyName)
  | true, true | false, false => .property flat.propertyName

/-- The member of each column with the cell it is made from. -/
def cellsOf (flat : List Field) (nested : NestedField) : List (String × Cell) :=
  nested.columns.filterMap fun column =>
    (flat.find? fun f => f.name == column.column).map fun f =>
      (column.propertyName, Cell.ofColumn f column)

/-- The nested value of a flat row, or none. -/
def nestedText (flat : List Field) (nested : NestedField) : String :=
  let cells := (cellsOf flat nested).map fun (name, cell) => s!"{identifier name}: {cell.text}"
  let value := Lines.inline nested.propertyType (String.intercalate ", " cells)
  "(" ++ Lines.inline s!"|| -> Option<{nested.propertyType}>" s!"Some({value})" ++ ")()"

def variableOf (nested : NestedField) : String :=
  Naming.snakeCase nested.propertyName ++ "_value"

/-- The row is skipped if a value that it must have is absent. -/
def bindLines (flat : List Field) (nested : NestedField) : Lines :=
  let text := nestedText flat nested
  if nested.kind == .perRow && nested.notNull then
    Lines.blockThen s!"let Some({variableOf nested}) = {text} else" ["continue;"] ";"
  else [s!"let {variableOf nested} = {text};"]

/-- The value of a property when a row is made. -/
def propertyText (nested : List NestedField) (field : Field) : String :=
  match field.nested? nested with
  | some n => if n.kind = .collection then "Vec::new()" else variableOf n
  | none =>
    if field.isDynamic then s!"<{field.rowType nested}>::default()"
    else s!"row.{identifier field.propertyName}.clone()"

def rowText (name : String) (flat : List Field) (nested : List NestedField) : String :=
  let values := flat.map fun f => s!"{identifier f.propertyName}: {propertyText nested f}"
  Lines.inline name (String.intercalate ", " values)

/-- Adds an item to its collection unless one with the same key is there. -/
def collectLines (nested : NestedField) : Lines :=
  let items := "out[index]." ++ identifier nested.propertyName
  let key := (nested.itemKey.bind fun key => nested.columns.find? fun c => c.column == key).map
    fun c => identifier c.propertyName
  let push := s!"{items}.push(item);"
  Lines.block s!"if let Some(item) = {variableOf nested}"
    (match key with
      | some key =>
        Lines.block s!"if !{items}.iter().any(|i| i.{key} == item.{key})" [push]
      | none => [push])

/-- A row with collections is looked up by the property that they are grouped by. -/
def groupLines (parent row : String) (collections : List NestedField) : Lines :=
  Lines.blockThen s!"let index = match out.iter().position(|r| r.{parent} == row.{parent})"
    ("Some(index) => index," ::
      Lines.block "None =>" [s!"out.push({row});", "out.len() - 1"]) ";" ++
    collections.flatMap collectLines

structure Nesting where
  flatRow : Struct
  lines : Lines

/-- The property that collections are grouped by. -/
def parentOf (flat : List Field) (nested : List NestedField) : Option String :=
  ((nested.findSome? NestedField.parentKey).bind fun key =>
    flat.find? fun f => f.name == key).map fun f => identifier f.propertyName

/-- The function for a statement whose nested values all have structs. Collections need a property
to be grouped by. -/
def Nesting.ofStatement? (statement : TypedStatement) (base rowName : String) :
    Option Nesting :=
  let nested := statement.nested
  let flat := statement.flatFields
  -- the database returns no dynamic fields
  let physical := statement.fields.filter fun f => !f.isDynamic
  let collections := nested.filter fun n => n.kind == .collection
  let parent := parentOf flat nested
  if nested.isEmpty || !nested.all hasStruct then none
  else if !collections.isEmpty && parent.isNone then none
  else
    let flatName := base ++ "FlatRow"
    let row := rowText rowName flat nested
    let finish := match parent.filter fun _ => !collections.isEmpty with
      | some parent => groupLines parent row collections
      | none => [s!"out.push({row});"]
    some {
      flatRow := ⟨flatName, some "One row as returned by SQL.",
        physical.map fun f => ⟨f.propertyName, f.rustType⟩⟩
      lines :=
        Lines.block (s!"pub fn nest_{Naming.snakeCase statement.name}" ++
            s!"(rows: Vec<{flatName}>) -> Vec<{rowName}>")
          ([s!"let mut out: Vec<{rowName}> = Vec::new();"] ++
            Lines.block "for row in rows" (nested.flatMap (bindLines physical) ++ finish) ++
            ["out"]) ++ [""] }

end TypedRows.Emit
