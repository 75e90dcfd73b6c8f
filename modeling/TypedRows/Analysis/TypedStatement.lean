import TypedRows.Analysis.Nested
import TypedRows.Analysis.Parameter
import TypedRows.Analysis.Shape

/-!
A statement with the types of its rows and parameters.
-/

namespace TypedRows

open Sql

structure TypedStatement where
  name : String
  «namespace» : String
  sourceFile : String
  sql : String
  kind : StatementKind
  overrides : StatementOverrides
  /-- The result columns, and after them the dynamic fields. -/
  fields : List Field
  /-- The distinct parameters. -/
  parameters : List Parameter
  /-- Every occurrence of a parameter in source order. -/
  bindings : List String
  aliases : OrderedMap String String
  nested : List NestedField
  target : Option String

namespace TypedStatement

structure Place where
  name : String
  «namespace» : String
  sourceFile : String

def field? (statement : TypedStatement) (name : String) : Option Field :=
  statement.fields.find? fun f => Text.sameName f.name name

def parameter? (statement : TypedStatement) (name : String) : Option Parameter :=
  statement.parameters.find? fun p => p.name == name

def flatFields (statement : TypedStatement) : List Field :=
  Field.flat statement.fields statement.nested

/-- The fields of the result columns. No two may have the same name; `seen` holds the names before
in lower case. -/
def columnFields (context : Context) (statement : String) (style : NameStyle)
    (declared : OrderedMap String Annotations) :
    List String → List ResultColumn → Except Error (List Field)
  | _, [] => .ok []
  | seen, column :: rest =>
    let key := Text.foldLower column.name
    if seen.contains key then .error (.duplicateColumn statement column.name)
    else do
      -- fields whose names differ only in case are apart in the comments, and the first is meant
      let own := declared.entries.find? fun entry => Text.sameName entry.1 column.name
      let field ← (Field.ofColumn context style column (own.map Prod.snd)).mapError .annotations
      return field :: (← columnFields context statement style declared (key :: seen) rest)

/-- Lays the declaration of a dynamic field over one of the same name. -/
def addDynamic (fields : OrderedMap String Annotations) (entry : String × Annotations) :
    OrderedMap String Annotations :=
  match fields.get? entry.1 with
  | some below => fields.put entry.1 (below.merge entry.2)
  | none => fields.put entry.1 entry.2

/-- The dynamic fields of a statement: those of the views it reads, and then its own. -/
def dynamicAnnotations (inheritance : Inheritance) (views : List String)
    (declared : OrderedMap String Annotations) : OrderedMap String Annotations :=
  -- of several views that declare a field the first one counts
  let fromViews := OrderedMap.empty.putAllNew (views.flatMap inheritance.dynamicFields)
  (declared.entries.filter fun entry => Annotations.isDynamic entry.2).foldl addDynamic fromViews

def dynamicField (statement : String) (style : NameStyle) (columns : List Field)
    (entry : String × Annotations) : Except Error Field :=
  if columns.any fun column => Text.sameName column.name entry.1 then
    .error (.dynamicField statement (.sameName entry.1))
  else (Field.ofAnnotations style entry.1 entry.2).mapError .annotations

/-- A field that is folded is as nullable as what it is folded into. -/
def settle (nested : List NestedField) (field : Field) : Field :=
  match field.nested? nested with
  | some n => { field with notNull := n.notNull }
  | none => field

def analyse (context : Context) (place : Place) (item : ScriptItem) :
    Except Error TypedStatement := do
  let shape ← Shape.ofStatement context.catalog place.name item.statement
  let comments ← (CommentAnnotations.ofComments item.comments).mapError .annotations
  let overrides ←
    (StatementOverrides.ofAnnotations place.name comments.statement).mapError .annotations
  let style := overrides.nameStyle
  let columns ← columnFields context place.name style comments.fields [] shape.columns
  let dynamic :=
    (dynamicAnnotations context.inheritance shape.views comments.fields).entries
  let fields := columns ++ (← dynamic.mapM (dynamicField place.name style columns))
  let nested ←
    (NestedField.ofFields overrides fields shape.aliases).mapError (.dynamicField place.name)
  let names : Parameter.Names := ⟨shape.aliases, shape.target⟩
  let parameters ← (Parameter.all context names item).mapError .annotations
  return {
    name := place.name
    «namespace» := place.namespace
    sourceFile := place.sourceFile
    sql := item.sql
    kind := shape.kind
    overrides
    fields := fields.map (settle nested)
    parameters
    bindings := item.parameters
    aliases := shape.aliases
    nested
    target := shape.target }

/-- Reads the only statement of a text. -/
def ofText (context : Context) (place : Place) (text : String) :
    Except Error TypedStatement := do
  analyse context place (← (Script.single text).mapError .sql)

end TypedStatement

end TypedRows
