import TypedRows.Sql.Grammar.Source

/-!
`INSERT` and `UPDATE`.
-/

namespace TypedRows.Sql.Grammar

section

variable (sub : Nested)

/-- A column of a result. A bare `FROM` is taken for a missing one. -/
def item : Parser Item := do
  match ← itemValue sub none with
  | .star label path => return .star label path
  | .expr _ e =>
    let missing := match e with
      | .column [⟨text, none⟩] => String.ofList (text.toList.flatMap Text.lowercase) == "from"
      | _ => false
    if missing then unexpected
    return .expr (← optionalName reservedForColumn) e

def returning : Parser (List Item) :=
  return (← afterKeywords ["RETURNING"] (separated (item sub))).getD []

def condition : Parser (Option Expr) :=
  afterKeywords ["WHERE"] (expression sub)

def assignment : Parser Assignment := do
  let target ← do
    if ← atMark "(" then Target.tuple <$> inParens (separated path)
    else Target.column <$> path
  expectMark "="
  return ⟨target, ← expression sub⟩

def conflictTarget : Parser String := do
  if ← takeKeywords ["ON", "CONSTRAINT"] then
    let name ← path
    return " ON CONSTRAINT " ++ name.print
  else if ← atMark "(" then
    let columns ← columnList
    return "(" ++ printNames columns ++ ")"
  else return ""

def conflict : Parser Conflict := do
  if ← takeKeyword "ON" then
    if ← takeKeyword "CONFLICT" then
      let target ← conflictTarget
      expectKeyword "DO"
      if ← takeKeyword "NOTHING" then return .nothing target
      expectKeywords ["UPDATE"]
      expectKeyword "SET"
      let assignments ← separated (assignment sub)
      return .update target assignments (← condition sub)
    else
      expectKeywords ["DUPLICATE", "KEY", "UPDATE"]
      return .duplicateKey (← separated (assignment sub))
  else return .none

/-- What to do where a row is in conflict with a constraint. -/
def conflictWords : List String := ["ROLLBACK", "ABORT", "FAIL", "IGNORE", "REPLACE"]

/-- `OR` with one of the words for a conflict, or `REPLACE` alone. -/
def conflictAction : Parser (Option String) := do
  match ← get with
  | ⟨_, "OR"⟩ :: second :: rest =>
    if conflictWords.contains second.keyword then
      set rest
      return some second.keyword
    else return none
  | _ => takeOneOf ["REPLACE"]

def fileFormats : List String :=
  ["AVRO", "JSONFILE", "ORC", "PARQUET", "RCFILE", "SEQUENCEFILE", "TEXTFILE"]

/-- `DIRECTORY`, after this word; `lead` holds those before it. -/
def store (lead : String) : Parser Body := do
  let place ← literalString
  let format ← afterKeywords ["STORED", "AS"] (expectOneOf fileFormats)
  return .store (lead ++ " DIRECTORY '" ++ place ++ "'" ++ clause "STORED AS" format)
    (← sub.query)

def partition : Parser (List Piece) := do
  match ← afterKeywords ["PARTITION"] (inParens (separated (expression sub))) with
  | some list => return .text "PARTITION (" :: withCommas (list.map Piece.expr) ++ [.text ") "]
  | none => return []

/-- `INSERT`, after its first word; it may be left out before `REPLACE`. -/
def insert : Parser Body := do
  let action ← conflictAction
  let manner := match ← takeOneOf ["INTO", "OVERWRITE"] with
    | some word => " " ++ word
    | none => ""
  let onSite := if ← takeKeyword "LOCAL" then " LOCAL" else ""
  if ← takeKeyword "DIRECTORY" then
    let overwrite := if manner = " OVERWRITE" then manner else ""
    return ← store sub ("INSERT" ++ overwrite ++ onSite)
  let word := if ← takeKeyword "TABLE" then " TABLE" else ""
  let lead := match action with
    | some word => "INSERT OR " ++ word ++ " INTO"
    | none => "INSERT" ++ manner ++ word
  let table ← path
  let (columns, parts, source) ← do
    if ← takeKeywords ["DEFAULT", "VALUES"] then pure ([], [], none)
    else
      let columns ← optionalColumnList
      let parts ← partition sub
      pure (columns, parts, some (← sub.query))
  let onConflict ← conflict sub
  return .insert ⟨lead, table, columns, parts, source, onConflict, ← returning sub⟩

def update : Parser Update := do
  let table ← joinedEntries sub
  expectKeyword "SET"
  let assignments ← separated (assignment sub)
  let sources := (← afterKeywords ["FROM"] (joinedEntries sub)).getD []
  let condition ← condition sub
  return ⟨table, assignments, sources, condition, ← returning sub⟩

end

end TypedRows.Sql.Grammar
