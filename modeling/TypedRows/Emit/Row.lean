import TypedRows.Emit.Item
import TypedRows.SharedResult

/-!
The structs of rows, of the values nested in them, and of results that are shared.
-/

namespace TypedRows.Emit

def Member.ofField (nested : List NestedField) (field : Field) : Member :=
  ⟨field.propertyName, field.rowType nested⟩

def Struct.ofRow (name : String) (doc : Option String) (flat : List Field)
    (nested : List NestedField) : Struct :=
  ⟨name, doc, flat.map (Member.ofField nested)⟩

def Struct.ofNested (nested : NestedField) : Struct where
  name := nested.propertyType
  doc := some s!"Columns of `{nested.sourceTable}` folded into `{nested.fieldName}`."
  members := nested.columns.map fun c => ⟨c.propertyName, c.rustType⟩

/-- Whether a nested value has a struct of its own. An entity uses that of a shared result. -/
def hasStruct (nested : NestedField) : Bool :=
  nested.kind != .entity && isDefinedType nested.propertyType

/-- The structs of nested values whose names are not in `emitted`, and the names after that. -/
def nestedStructs (emitted : List String) : List NestedField → List Struct × List String
  | [] => ([], emitted)
  | n :: rest =>
    if hasStruct n && !emitted.contains n.propertyType then
      let (structs, after) := nestedStructs (n.propertyType :: emitted) rest
      (Struct.ofNested n :: structs, after)
    else nestedStructs emitted rest

/-- One implementation for each trait; excluded fields have no accessor. -/
def accessorsFor (struct : String) (flat : List Field) (nested : List NestedField)
    (traits excluded : List String) : List Accessors :=
  let kept := flat.filter fun f =>
    !(excluded.contains f.name || excluded.contains f.propertyName)
  traits.map fun trait => ⟨trait, struct, kept.map (Member.ofField nested)⟩

/-- What is defined for a shared result, and the names after that. -/
structure SharedPart where
  structs : List Struct
  accessors : List Accessors
  emitted : List String

def SharedPart.ofResult (result : SharedResult) (excluded emitted : List String) : SharedPart :=
  let name := Naming.pascalCase result.name
  let (structs, emitted) := nestedStructs emitted result.nested
  -- an earlier result or a nested struct has taken the name
  if emitted.contains name then ⟨structs, [], emitted⟩
  else
    let flat := Field.flat result.fields result.nested
    let doc := s!"Shared result `{result.name}`, first defined by `{result.statement}`."
    ⟨structs ++ [Struct.ofRow name (some doc) flat result.nested],
      accessorsFor name flat result.nested result.implements excluded, name :: emitted⟩

def SharedPart.lines (part : SharedPart) : Lines :=
  part.structs.flatMap Struct.lines ++ part.accessors.flatMap Accessors.lines

end TypedRows.Emit
