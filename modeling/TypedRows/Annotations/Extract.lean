import TypedRows.Annotations.Comment
import TypedRows.Annotations.Override
import TypedRows.RustType

/-!
The annotations in comment lines, sorted by what they are about.
-/

namespace TypedRows

structure CommentAnnotations where
  statement : Annotations
  fields : OrderedMap String Annotations

namespace Annotations

/-- Lays `top` over `base`. A property type in `top` does away with the adapter that belongs to
the type below. -/
def merge (base top : Annotations) : Annotations :=
  (if top.contains Key.propertyType && !top.contains Key.adapter then base.erase Key.adapter
  else base).putAll top.entries

/-- The name a block gives to its field. -/
def identity (key : String) (value : Value) : Except AnnotationsError String :=
  match value with
  | .text s => if (Text.trim s).isEmpty then .error (.emptyIdentity key) else .ok (Text.trim s)
  | _ => .error (.emptyIdentity key)

/-- A property type that is not built in needs a custom adapter. -/
def withAdapter (field : String) (map : Annotations) : Except AnnotationsError Annotations :=
  let custom := match (map.get? Key.propertyType).bind Value.text? with
    | some type => !RustType.isBuiltin type
    | none => false
  match map.get? Key.adapter with
  | none => .ok (if custom then map.put Key.adapter (.text "custom") else map)
  | some (.text "custom") => .ok map
  -- the default adapter does not do for a type that is not built in
  | some (.text "default") =>
    .ok (if custom then map.put Key.adapter (.text "custom") else map)
  | some value => .error (.adapterValue field value)

/-- The field that a block is about, with its annotations. -/
def fieldOfBlock (block : String) (map : Annotations) :
    Except AnnotationsError (String × Annotations) := do
  let rest := (map.erase Key.field).erase Key.dynamicField
  match map.get? Key.field, map.get? Key.dynamicField with
  | some _, some _ => throw (.twoIdentities block)
  | none, none => throw (.noIdentity block)
  | some value, none =>
    let name ← identity Key.field value
    finish name rest
  | none, some value =>
    let name ← identity Key.dynamicField value
    if ((rest.get? Key.propertyType).getD .null).isNull then throw (.untypedDynamicField name)
    finish name (rest.put Key.isDynamicField (.bool true))
where
  finish (name : String) (map : Annotations) :
      Except AnnotationsError (String × Annotations) := do
    let map ← withAdapter name map
    -- a block has to be right by itself, before it is laid over others
    let _ ← FieldOverrides.ofAnnotations name map
    return (name, map)

/-- Lays the annotations over those that the field has. -/
def putField (fields : OrderedMap String Annotations) (name : String) (map : Annotations) :
    OrderedMap String Annotations :=
  match fields.get? name with
  | some below => fields.put name (merge below map)
  | none => fields.put name map

def addFieldBlock (fields : OrderedMap String Annotations) (block : String)
    (map : Annotations) : Except AnnotationsError (OrderedMap String Annotations) := do
  let (name, map) ← fieldOfBlock block map
  return putField fields name map

def parseBlock (block : String) : Except AnnotationsError Annotations :=
  (Block.parse block).mapError fun fault => .badBlock fault block

/-- The entries of all blocks in one map; a later value wins. -/
def ofComments (lines : List String) : Except AnnotationsError Annotations := do
  (← Comment.blocks lines).foldlM (fun acc block =>
    return acc.putAll (← parseBlock block).entries) .empty

/-- The annotations of each field; every block must name one. -/
def fieldsOfComments (lines : List String) :
    Except AnnotationsError (OrderedMap String Annotations) := do
  (← Comment.blocks lines).foldlM (fun acc block => do
    addFieldBlock acc block (← parseBlock block)) .empty

end Annotations

namespace CommentAnnotations

def empty : CommentAnnotations := ⟨.empty, .empty⟩

/-- A block that names no field is about the statement. -/
def addBlock (acc : CommentAnnotations) (block : String) :
    Except AnnotationsError CommentAnnotations := do
  let map ← Annotations.parseBlock block
  if map.contains Key.field || map.contains Key.dynamicField then
    return { acc with fields := ← Annotations.addFieldBlock acc.fields block map }
  else return { acc with statement := acc.statement.putAll map.entries }

def ofComments (lines : List String) : Except AnnotationsError CommentAnnotations := do
  (← Comment.blocks lines).foldlM addBlock empty

end CommentAnnotations

end TypedRows
