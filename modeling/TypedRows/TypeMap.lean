import TypedRows.OrderedMap
import TypedRows.Text.Blank
import TypedRows.Text.Fold

/-!
The Rust type for the values of an SQL type.
-/

namespace TypedRows

/-- Rust types chosen for SQL types. The SQL types are trimmed and in upper case. -/
structure TypeMap where
  chosen : OrderedMap String String

namespace TypeMap

def initial : TypeMap := ⟨.empty⟩

def ofPairs (pairs : List (String × String)) : TypeMap :=
  ⟨.ofList (pairs.map fun (sqlType, type) => (Text.foldUpper (Text.trim sqlType), type))⟩

/-- The name of a type without its modifiers. -/
def base (sqlType : String) : String :=
  String.ofList (Text.trimChars (sqlType.toList.takeWhile (· ≠ '(')))

/-- The type where none is chosen, by parts of the name of the SQL type in upper case. -/
def general (sqlType : String) : String :=
  let named := Text.contains sqlType
  if Text.hasPrefix sqlType "BOOL" then "bool"
  else if named "INT" then "i64"
  else if named "CHAR" || named "CLOB" || named "TEXT" then "String"
  else if named "BLOB" then "Vec<u8>"
  else if named "REAL" || named "FLOA" || named "DOUB" then "f64"
  else if named "DATE" || named "TIME" then "String"
  else if base sqlType = "DECIMAL" then "f64"
  else "i64"

/-- The type of values that are not null. A value of unknown type is read as bytes. -/
def rustType (types : TypeMap) (sqlType : Option String) : String :=
  let name := Text.foldUpper (Text.trim (sqlType.getD ""))
  if name.isEmpty then "Vec<u8>"
  else
    match (types.chosen.get? name).or (types.chosen.get? (base name)) with
    | some type => type
    | none => general name

end TypeMap

end TypedRows
