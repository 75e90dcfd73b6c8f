import TypedRows.Sql.Grammar.Name

/-!
Names of types. Standard types are printed in upper case, all others as written.
-/

namespace TypedRows.Sql.Grammar

inductive TypeName where
  | standard (text : String)
  | interval
  | custom (text : String)

def TypeName.text : TypeName → String
  | standard text => text
  | interval => "INTERVAL"
  | custom text => text

/-- A number in parentheses, printed after the name. -/
def optionalLength (name : String) : Parser String := do
  if ← atMark "(" then
    let n ← inParens wholeNumber
    return s!"{name}({n})"
  else return name

def optionalUnsigned (name : String) : Parser String := do
  let text ← optionalLength name
  return if ← takeKeyword "UNSIGNED" then text ++ " UNSIGNED" else text

/-- The length of a text, perhaps with its unit. -/
def characterLength (name : String) : Parser String := do
  if ← atMark "(" then
    inParens do
      if ← takeKeyword "MAX" then return name ++ "(MAX)"
      let n ← wholeNumber
      match ← takeOneOf ["CHARACTERS", "OCTETS"] with
      | some unit => return s!"{name}({n} {unit})"
      | none => return s!"{name}({n})"
  else return name

def character (name : String) : Parser String := do
  if ← takeKeyword "VARYING" then characterLength (name ++ " VARYING")
  else if ← takeKeywords ["LARGE", "OBJECT"] then optionalLength (name ++ " LARGE OBJECT")
  else characterLength name

/-- Precision and scale, printed without a space after the comma. -/
def exactNumber (name : String) : Parser String := do
  if ← atMark "(" then
    inParens do
      let precision ← wholeNumber
      if ← takeMark "," then
        let scale ← wholeNumber
        return s!"{name}({precision},{scale})"
      else return s!"{name}({precision})"
  else return name

def withZone (name : String) : Parser String := do
  let text ← optionalLength name
  if ← takeKeyword "WITH" then
    expectKeywords ["TIME", "ZONE"]
    return text ++ " WITH TIME ZONE"
  else if ← takeKeyword "WITHOUT" then
    expectKeywords ["TIME", "ZONE"]
    return text ++ " WITHOUT TIME ZONE"
  else return text

/-- The precision of a moment, and perhaps its zone. -/
def momentWithZone : Parser String :=
  inParens do
    let n ← wholeNumber
    if ← takeMark "," then
      let zone ← literalString
      return s!"DateTime64({n}, " ++ "'" ++ zone ++ "')"
    else return s!"DateTime64({n})"

def stringList (name : String) : Parser String := do
  let values ← inParens (separated do
    match (← next).token with
    | .string value => return quoted '\'' value
    | _ => unexpected)
  return name ++ "(" ++ commaSeparated values ++ ")"

/-- A modifier of a type that is not standard, or none at the closing parenthesis. -/
def modifier : Parser (Option (List String)) := do
  let symbol ← next
  match symbol.token with
  | .word _ _ => return some [symbol.token.text]
  | .number digits _ => return some [digits]
  | .string value => return some [value]
  | .mark "," => return some []
  | .mark ")" => return none
  | _ => unexpected

def customType : Parser TypeName := do
  let name ← path
  if ← takeMark "(" then
    match (← many modifier).flatten with
    | [] => return .custom name.print
    | modifiers => return .custom (name.print ++ "(" ++ commaSeparated modifiers ++ ")")
  else return .custom name.print

/-- The parser for what may follow the first word of a standard type. -/
def standardType? (word : String) : Option (Parser String) :=
  match word with
  | "TINYINT" | "SMALLINT" | "MEDIUMINT" | "INT" | "INTEGER" | "BIGINT" | "INT2" | "INT4"
  | "INT8" => some (optionalUnsigned word)
  | "BOOLEAN" | "BOOL" | "REAL" | "FLOAT4" | "FLOAT8" | "FLOAT64" | "UUID" | "DATE" | "JSON"
  | "JSONB" | "REGCLASS" | "TEXT" | "BYTEA" | "TRIGGER" | "INT64" => some (return word)
  | "INT16" => some (return "Int16")
  | "INT32" => some (return "Int32")
  | "INT128" => some (return "Int128")
  | "INT256" => some (return "Int256")
  | "UINT8" => some (return "UInt8")
  | "UINT16" => some (return "UInt16")
  | "UINT32" => some (return "UInt32")
  | "UINT64" => some (return "UInt64")
  | "UINT128" => some (return "UInt128")
  | "UINT256" => some (return "UInt256")
  | "FLOAT32" => some (return "Float32")
  | "DATE32" => some (return "Date32")
  | "FLOAT" | "CLOB" | "BINARY" | "VARBINARY" | "BLOB" | "BYTES" | "DATETIME" | "STRING"
  | "TIMESTAMPTZ" | "TIMETZ" => some (optionalLength word)
  | "DOUBLE" =>
    some do return if ← takeKeyword "PRECISION" then "DOUBLE PRECISION" else "DOUBLE"
  | "VARCHAR" | "NVARCHAR" => some (characterLength word)
  | "CHARACTER" | "CHAR" => some (character word)
  | "TIMESTAMP" | "TIME" => some (withZone word)
  | "NUMERIC" | "DECIMAL" | "DEC" | "BIGNUMERIC" | "BIGDECIMAL" => some (exactNumber word)
  | "ENUM" | "SET" => some (stringList word)
  | "DATETIME64" => some momentWithZone
  | "FIXEDSTRING" => 
    some do
      let n ← inParens wholeNumber
      return s!"FixedString({n})"
  | _ => none

/-- The `>` that ends an array. One `>>` ends two arrays; `spare` tells that it was read for an
inner one, and the result that it was read here. -/
def arrayEnd (spare : Bool) : Parser Bool := do
  if spare then return false
  else if ← takeMark ">" then return false
  else
    expectMark ">>"
    return true

/-- A type, and whether a `>` was read beyond it. The number of symbols bounds the nesting. -/
def typeFor : Nat → Parser (TypeName × Bool)
  | 0 => unexpected
  | n + 1 => do
    match ← get with
    | [] => unexpected
    | symbol :: rest =>
      if symbol.word?.isNone then unexpected
      else if symbol.keyword = "INTERVAL" then
        set rest
        return (.interval, false)
      else if symbol.keyword = "ARRAY" then
        set rest
        expectMark "<"
        let (element, spare) ← typeFor n
        return (.standard ("ARRAY<" ++ element.text ++ ">"), ← arrayEnd spare)
      else
        match standardType? symbol.keyword with
        | some follow =>
          set rest
          return (.standard (← follow), false)
        | none => return (← customType, false)

def typeName : Parser TypeName := do
  let (type, spare) ← typeFor ((← get).length + 1)
  if spare then unexpected
  return type

end TypedRows.Sql.Grammar
