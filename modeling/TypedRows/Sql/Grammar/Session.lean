import TypedRows.Sql.Grammar.Definition

/-!
Statements that neither query, change nor define anything: transactions, settings, privileges,
cursors, copies.
-/

namespace TypedRows.Sql.Grammar

/-- A literal number or a parameter. -/
def numberValue : Parser Unit := do
  match ← literal with
  | .number _ _ | .placeholder _ => return
  | _ => unexpected

def kill : Parser Unit := do
  discard (takeOneOf ["CONNECTION", "QUERY"])
  discard wholeNumber

def repairTable : Parser Unit := do
  skipKeyword "REPAIR"
  expectKeyword "TABLE"
  discard path
  discard (takeAny [["ADD", "PARTITIONS"], ["DROP", "PARTITIONS"], ["SYNC", "PARTITIONS"],
    ["PARTITIONS"]])

def uncacheTable : Parser Unit := do
  expectKeyword "TABLE"
  ifPresent
  discard path

def isolation : Parser Unit :=
  expectAny [["READ", "UNCOMMITTED"], ["READ", "COMMITTED"], ["REPEATABLE", "READ"],
    ["SERIALIZABLE"]]

/-- The modes of a transaction; commas between them may be left out. -/
def transactionModes : Parser Unit :=
  discard <| iterate (fun required => do
    if ← takeKeywords ["ISOLATION", "LEVEL"] then
      isolation
      return some (← takeMark ",")
    else if ← takeAny [["READ", "ONLY"], ["READ", "WRITE"]] then return some (← takeMark ",")
    else if required then unexpected
    else return none) false

def transactionWord : Parser Unit := discard (takeOneOf ["TRANSACTION", "WORK"])

def beginTransaction : Parser Unit := do
  discard (takeOneOf ["DEFERRED", "IMMEDIATE", "EXCLUSIVE"])
  transactionWord
  transactionModes

/-- `COMMIT` or `ROLLBACK`, after this word. -/
def endTransaction : Parser Unit := do
  transactionWord
  skipClause ["AND"] do
    skipKeyword "NO"
    expectKeyword "CHAIN"

def rollback : Parser Unit := do
  endTransaction
  skipClause ["TO"] do
    skipKeyword "SAVEPOINT"
    discard identifier

def fetchDirection : Parser Unit := do
  match ← takeOneOf ["NEXT", "PRIOR", "FIRST", "LAST", "ABSOLUTE", "RELATIVE", "FORWARD",
      "BACKWARD", "ALL"] with
  | some "ABSOLUTE" | some "RELATIVE" | none => numberValue
  | some "FORWARD" | some "BACKWARD" =>
    unless ← takeKeyword "ALL" do numberValue
  | some _ => return

def fetchRows : Parser Unit := do
  fetchDirection
  discard (expectOneOf ["FROM", "IN"])
  discard identifier
  skipClause ["INTO"] path

def closeCursor : Parser Unit := do
  unless ← takeKeyword "ALL" do discard identifier

def privilege : Parser Unit := do
  match ← expectOneOf ["CONNECT", "CREATE", "DELETE", "EXECUTE", "INSERT", "REFERENCES", "SELECT",
      "TEMPORARY", "TRIGGER", "TRUNCATE", "UPDATE", "USAGE"] with
  | "INSERT" | "REFERENCES" | "SELECT" | "UPDATE" => discard optionalColumnList
  | _ => return

def privileges : Parser Unit := do
  if ← takeKeyword "ALL" then skipKeyword "PRIVILEGES"
  else discard (separated privilege)
  expectKeyword "ON"
  unless ← takeAny [["ALL", "TABLES", "IN", "SCHEMA"], ["ALL", "SEQUENCES", "IN", "SCHEMA"]] do
    discard (takeOneOf ["SEQUENCE", "SCHEMA", "TABLE"])
  paths

def grant : Parser Unit := do
  privileges
  expectKeyword "TO"
  discard (separated identifier)
  skipKeywords ["WITH", "GRANT", "OPTION"]
  skipClause ["GRANTED", "BY"] identifier

def revoke : Parser Unit := do
  privileges
  expectKeyword "FROM"
  discard (separated identifier)
  skipClause ["GRANTED", "BY"] identifier
  let cascade ← takeKeyword "CASCADE"
  let restrict ← takeKeyword "RESTRICT"
  if cascade && restrict then unexpected

/-- `PRAGMA`, after this word. A value is a string, a number or a parameter. -/
def pragma : Parser Unit := do
  let value : Parser Unit := do
    match ← literal with
    | .string _ | .quotedName _ | .number _ _ | .placeholder _ => return
    | _ => unexpected
  discard path
  if ← takeMark "(" then
    value
    expectMark ")"
  else if ← takeMark "=" then value

/-- The marks that a copy is written with have one character each. -/
def oneCharacter : Parser Unit := do
  if (← literalString).utf8ByteSize ≠ 1 then unexpected

def copyOption : Parser Unit := do
  match ← expectOneOf ["FORMAT", "FREEZE", "DELIMITER", "NULL", "HEADER", "QUOTE", "ESCAPE",
      "FORCE_QUOTE", "FORCE_NOT_NULL", "FORCE_NULL", "ENCODING"] with
  | "FORMAT" => discard identifier
  | "FREEZE" | "HEADER" => discard (takeOneOf ["TRUE", "FALSE"])
  | "DELIMITER" | "QUOTE" | "ESCAPE" => oneCharacter
  | "NULL" | "ENCODING" => discard literalString
  | _ => discard columnList

/-- An option for lists of values with separators. -/
def valuesOption : Parser Unit := do
  match ← expectOneOf ["HEADER", "QUOTE", "ESCAPE", "FORCE"] with
  | "HEADER" => return
  | "FORCE" =>
    expectAny [["NOT", "NULL"], ["QUOTE"]]
    discard (separated identifier)
  | _ =>
    skipKeyword "AS"
    oneCharacter

/-- An option of a copy outside of parentheses. -/
def bareCopyOption : Parser Unit := do
  match ← expectOneOf ["BINARY", "DELIMITER", "NULL", "CSV"] with
  | "BINARY" => return
  | "DELIMITER" =>
    skipKeyword "AS"
    oneCharacter
  | "NULL" =>
    skipKeyword "AS"
    discard literalString
  | _ => discard (many (attempt valuesOption))

/-- Rows that follow a copy, up to a backslash with a point after it. -/
def copiedRows : Parser Unit :=
  discard <| many do
    match ← get with
    | [] => return none
    | first :: rest =>
      set rest
      if first.isMark "\\" then
        if ← takeMark "." then return none
        set (rest.drop 1)
      return some ()

/-- Everything up to an equals sign names what is shown. -/
def shownName : Parser Unit := do
  set ((← get).dropWhile fun symbol => !symbol.isMark "=")

section

variable (sub : Nested)

def analyze : Parser Unit := do
  expectKeyword "TABLE"
  discard path
  discard <| many do
    match ← takeOneOf ["PARTITION", "FOR", "CACHE", "NOSCAN", "COMPUTE"] with
    | some "PARTITION" => some <$> expressionList sub
    | some "FOR" =>
      expectKeyword "COLUMNS"
      discard (attempt (separated identifier))
      return some ()
    | some "CACHE" => some <$> expectKeyword "METADATA"
    | some "COMPUTE" => some <$> expectKeyword "STATISTICS"
    | some _ => return some ()
    | none => return none

def truncate : Parser Unit := do
  skipKeyword "TABLE"
  skipKeyword "ONLY"
  paths
  skipClause ["PARTITION"] (expressionList sub)
  onCluster

def attach : Parser Unit := do
  skipKeyword "DATABASE"
  discard (expression sub)
  expectKeyword "AS"
  discard identifier

/-- `CACHE`, after this word. The text ends with it. -/
def cacheTable : Parser Unit := do
  unless ← takeKeyword "TABLE" do
    discard path
    expectKeyword "TABLE"
  discard path
  discard (properties sub ["OPTIONS"])
  match ← get with
  | [] => return
  | symbol :: _ =>
    if symbol.word?.isNone then unexpected
    skipKeyword "AS"
    discard sub.query

def declareCursor : Parser Unit := do
  discard identifier
  skipKeyword "BINARY"
  discard (takeOneOf ["INSENSITIVE", "ASENSITIVE"])
  discard (takeAny [["SCROLL"], ["NO", "SCROLL"]])
  expectKeyword "CURSOR"
  if (← takeOneOf ["WITH", "WITHOUT"]).isSome then expectKeyword "HOLD"
  expectKeyword "FOR"
  discard sub.query

def callProcedure : Parser Unit := do
  let name ← path
  if ← atMark "(" then discard (callOf sub (intervalOf (primary sub)) name)

/-- `COPY`, after this word. Rows may follow only where they come from the input. -/
def copy : Parser Unit := do
  let queried ← takeMark "("
  if queried then
    discard sub.query
    expectMark ")"
  else
    discard path
    discard optionalColumnList
  let direction ← expectOneOf ["FROM", "TO"]
  if queried && direction = "FROM" then unexpected
  let place ← takeOneOf ["STDIN", "STDOUT", "PROGRAM"]
  if place = some "PROGRAM" || place.isNone then discard literalString
  skipKeyword "WITH"
  if ← atMark "(" then discard (inParens (separated copyOption))
  discard (many (attempt bareCopyOption))
  if place = some "STDIN" then
    expectMark ";"
    copiedRows

def unload : Parser Unit := do
  discard (inParens sub.query)
  expectKeyword "TO"
  discard identifier
  discard (properties sub ["WITH"])

/-- A value of a setting; a query needs no parentheses. -/
def settingValue : Parser Unit := do
  if ← atQuery then discard sub.query else discard (expression sub)

def setting : Parser Unit := do
  let modifier ← takeOneOf ["SESSION", "LOCAL", "HIVEVAR"]
  if modifier = some "HIVEVAR" then expectMark ":"
  else
    let role ← attempt do
      expectKeyword "ROLE"
      discard identifier
    if role.isSome then return
  let name ← if ← takeKeywords ["TIME", "ZONE"] then pure "TIMEZONE" else Path.print <$> path
  let assigned ← if ← takeMark "=" then pure true else takeKeyword "TO"
  if assigned then discard (separated (settingValue sub))
  else if Text.foldUpper name = "TIMEZONE" then discard (expression sub)
  else if name = "CHARACTERISTICS" then
    expectKeywords ["AS", "TRANSACTION"]
    transactionModes
  else if name = "TRANSACTION" && modifier.isNone then
    if ← takeKeyword "SNAPSHOT" then discard literal else transactionModes
  else unexpected

def shownFilter : Parser Unit := do
  if (← takeOneOf ["LIKE", "ILIKE"]).isSome then discard literalString
  else if ← takeKeyword "WHERE" then discard (expression sub)
  else discard (attempt literalString)

/-- The schema whose objects are shown, and which of them. -/
def shownObjects : Parser Unit := do
  if (← takeOneOf ["FROM", "IN"]).isSome then discard identifier
  shownFilter sub

/-- `SHOW`, after this word. Some words are spent though nothing comes of them. -/
def showObjects : Parser Unit := do
  let extended ← takeKeyword "EXTENDED"
  let full ← takeKeyword "FULL"
  skipKeyword "SESSION"
  skipKeyword "GLOBAL"
  if (← takeOneOf ["COLUMNS", "FIELDS"]).isSome then
    discard (expectOneOf ["FROM", "IN"])
    discard path
    if (← takeOneOf ["FROM", "IN"]).isSome then discard identifier
    shownFilter sub
  else if ← takeAny [["TABLES"], ["MATERIALIZED", "VIEWS"], ["VIEWS"]] then shownObjects sub
  else if ← takeKeyword "FUNCTIONS" then shownFilter sub
  else if extended || full then unexpected
  else if ← takeKeyword "CREATE" then
    discard (expectOneOf ["TABLE", "TRIGGER", "FUNCTION", "PROCEDURE", "EVENT", "VIEW"])
    discard path
  else if ← takeKeyword "COLLATION" then shownFilter sub
  else
    skipKeyword "VARIABLES"
    skipKeyword "STATUS"
    if (← takeOneOf ["DATABASES", "SCHEMAS"]).isSome then shownFilter sub else shownName

def assertion : Parser Unit := do
  discard (expression sub)
  skipClause ["AS"] (expression sub)

def execute : Parser Unit := do
  discard path
  if ← takeMark "(" then
    unless ← atMark ")" do
      discard (separated (expression sub))
    expectMark ")"
  else
    match ← get with
    | [] => return
    | symbol :: _ =>
      unless symbol.keyword = "USING" || symbol.isMark ";" do
        discard (separated (expression sub))
  skipClause ["USING"] (separated (expression sub))

/-- What is done with a row. Only a row without a match can be inserted, and such a row of the
source can neither be updated nor deleted. -/
def mergeAction (insertable : Bool) : Parser Unit := do
  match ← expectOneOf ["UPDATE", "INSERT", "DELETE"] with
  | "INSERT" =>
    unless insertable do unexpected
    discard optionalColumnList
    expectKeyword "VALUES"
    discard (values sub)
  | "UPDATE" =>
    if insertable then unexpected
    expectKeyword "SET"
    discard (separated (assignment sub))
  | _ => if insertable then unexpected

def merge : Parser Unit := do
  skipKeyword "INTO"
  discard (factor sub)
  expectKeyword "USING"
  discard (factor sub)
  expectKeyword "ON"
  discard (expression sub)
  discard <| many do
    let symbols ← get
    if symbols.isEmpty || symbols.head?.any (·.isMark ";") then return none
    expectKeyword "WHEN"
    let unmatched ← takeKeyword "NOT"
    expectKeyword "MATCHED"
    let ofTarget ← if unmatched then takeKeywords ["BY", "SOURCE"] else pure false
    if unmatched && !ofTarget then skipKeywords ["BY", "TARGET"]
    skipClause ["AND"] (expression sub)
    expectKeyword "THEN"
    some <$> mergeAction sub (unmatched && !ofTarget)

end

end TypedRows.Sql.Grammar
