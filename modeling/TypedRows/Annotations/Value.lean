import TypedRows.OrderedMap
import TypedRows.Text.Blank
import TypedRows.Text.Fold
import TypedRows.Text.Shown

/-!
The values that annotations give to their keys.
-/

namespace TypedRows

/-- The value of a key. A key without one has the empty text. -/
inductive Value where
  | null
  | bool (value : Bool)
  | text (value : String)
  | list (items : List String)
  deriving DecidableEq

namespace Value

def text? : Value → Option String
  | text s => some s
  | _ => none

/-- Booleans may also be written as text, in any letter case. -/
def bool? : Value → Option Bool
  | bool b => some b
  | text s =>
    if Text.sameName s "true" then some true
    else if Text.sameName s "false" then some false
    else none
  | _ => none

/-- A text counts as the list of its nonempty parts between commas. -/
def list? : Value → Option (List String)
  | list items => some items
  | text s => some (((Text.split ',' s).map Text.trim).filter fun part => !part.isEmpty)
  | _ => none

def isNull : Value → Bool
  | null => true
  | _ => false

def shown : Value → String
  | null => "Null"
  | bool b => if b then "Bool(true)" else "Bool(false)"
  | text s => "Str(" ++ Text.shown s ++ ")"
  | list items => "List([" ++ String.intercalate ", " (items.map Text.shown) ++ "])"

end Value

abbrev Annotations := OrderedMap String Value

/-! The keys that have a meaning. -/
namespace Key

def field : String := "field"
def dynamicField : String := "dynamicField"
def isDynamicField : String := "isDynamicField"
def propertyName : String := "propertyName"
def propertyType : String := "propertyType"
def adapter : String := "adapter"
def notNull : String := "notNull"
def mappingType : String := "mappingType"
def sourceTable : String := "sourceTable"
def aliasPrefix : String := "aliasPrefix"
def collectionKey : String := "collectionKey"
def queryResult : String := "queryResult"
def implements : String := "implements"
def excludeOverrideFields : String := "excludeOverrideFields"
def propertyNameGenerator : String := "propertyNameGenerator"
def defaultValue : String := "defaultValue"
def sqlTypeHint : String := "sqlTypeHint"
def enableSync : String := "enableSync"
def syncKeyColumnName : String := "syncKeyColumnName"

end Key

end TypedRows
