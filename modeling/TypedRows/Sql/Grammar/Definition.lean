import TypedRows.Sql.Grammar.Table

/-!
Statements that create, alter or drop something of which nothing is kept.
-/

namespace TypedRows.Sql.Grammar

def ifPresent : Parser Unit := skipKeywords ["IF", "EXISTS"]

def paths : Parser Unit := discard (separated path)

/-- Skips semicolons, and then takes a statement unless the text ends here. An `END` directly after
a statement ends the text too. -/
def nextStatement {α : Type} (statement : Parser α) (found : List α) :
    Parser (Option (List α)) := do
  let semicolons ← many do if ← takeMark ";" then return some () else return none
  let due := !found.isEmpty && semicolons.isEmpty
  match ← get with
  | [] => return none
  | symbol :: _ =>
    if due then
      if symbol.keyword = "END" then return none else unexpected
    return some ((← statement) :: found)

def statements {α : Type} (statement : Parser α) : Parser (List α) := do
  return (← iterate (nextStatement statement) []).reverse

section

variable (sub : Nested)

/-- For whom a policy holds, and what it demands of the rows. -/
def policyRules : Parser Unit := do
  skipClause ["TO"] (separated identifier)
  skipClause ["USING"] (parenthesisedExpression sub)
  skipClause ["WITH", "CHECK"] (parenthesisedExpression sub)

def createPolicy : Parser Unit := do
  discard identifier
  expectKeyword "ON"
  discard path
  skipClause ["AS"] (expectOneOf ["PERMISSIVE", "RESTRICTIVE"])
  skipClause ["FOR"] (expectOneOf ["ALL", "SELECT", "INSERT", "UPDATE", "DELETE"])
  policyRules sub

def createSecret : Parser Unit := do
  ifMissing
  unless ← atMark "(" do
    let placed ← do
      if ← takeKeyword "IN" then looseIdentifier
      else
        discard looseIdentifier
        pure false
    unless placed do
      skipClause ["IN"] looseIdentifier
  inParens do
    expectKeyword "TYPE"
    discard identifier
    if ← takeMark "," then
      discard <| separated do
        discard identifier
        discard identifier

def createExtension : Parser Unit := do
  ifMissing
  discard identifier
  skipClause ["WITH"] do
    skipClause ["SCHEMA"] identifier
    skipClause ["VERSION"] identifier
    skipKeyword "CASCADE"

def createIndex : Parser Unit := do
  skipKeyword "CONCURRENTLY"
  let careful ← takeKeywords ["IF", "NOT", "EXISTS"]
  let nameless ← if careful then pure false else takeKeyword "ON"
  unless nameless do
    discard path
    expectKeyword "ON"
  discard path
  skipClause ["USING"] identifier
  discard (inParens (separated (sortKey sub)))
  skipClause ["INCLUDE"] columnList
  skipClause ["NULLS"] do
    skipKeyword "NOT"
    expectKeyword "DISTINCT"
  skipClause ["WHERE"] (expression sub)

def createVirtualTable : Parser Unit := do
  expectKeyword "TABLE"
  ifMissing
  discard path
  expectKeyword "USING"
  discard identifier
  discard optionalColumnList

def createSchema : Parser Unit := do
  ifMissing
  if ← takeKeyword "AUTHORIZATION" then discard identifier
  else
    discard path
    skipClause ["AUTHORIZATION"] identifier

def createDatabase : Parser Unit := do
  ifMissing
  discard path
  discard <| many do
    if (← takeOneOf ["LOCATION", "MANAGEDLOCATION"]).isSome then some <$> literalString
    else return none

def createRole : Parser Unit := do
  ifMissing
  paths
  skipKeyword "WITH"

def createSequence : Parser Unit := do
  ifMissing
  discard path
  skipClause ["AS"] typeName
  sequenceOptions
  skipClause ["OWNED", "BY"] path

/-- One or more, with commas between them; a comma may follow the last one. The closing
parenthesis ends them. -/
def closedList (p : Parser Unit) : Parser Unit :=
  discard <| iterate (fun closed => do
    if closed then return none
    p
    let comma ← takeMark ","
    if ← takeMark ")" then return some true
    else if comma then return some false
    else unexpected) false

def createType : Parser Unit := do
  discard path
  expectKeyword "AS"
  if ← takeKeyword "ENUM" then
    inParens do
      unless ← atMark ")" do
        discard (separated identifier)
  else if ← takeMark "(" then
    unless ← takeMark ")" do
      closedList do
        discard identifier
        discard typeName
        skipClause ["COLLATE"] path

def createProcedure {α : Type} (statement : Parser α) : Parser Unit := do
  discard path
  if ← takeMark "(" then
    unless ← takeMark ")" do
      closedList do
        if (← get).head?.any (·.word?.isSome) then
          discard identifier
          discard typeName
  expectKeywords ["AS", "BEGIN"]
  discard (statements statement)
  expectKeyword "END"

/-- An argument by which a routine is told from others of its name. -/
def routineArgument : Parser Unit := do
  discard (takeOneOf ["IN", "OUT", "INOUT"])
  match ← typeName with
  | .custom _ => discard typeName
  | _ => pure ()
  if ← takeKeyword "DEFAULT" then discard (expression sub)
  else if ← takeMark "=" then discard (expression sub)

def routine : Parser Unit := do
  discard path
  if ← takeMark "(" then
    unless ← takeMark ")" do
      discard (separated (routineArgument sub))
      expectMark ")"

def dropBehaviour : Parser Unit := discard (takeOneOf ["CASCADE", "RESTRICT"])

def drop : Parser Unit := do
  match ← expectOneOf ["TABLE", "VIEW", "INDEX", "ROLE", "SCHEMA", "DATABASE", "SEQUENCE", "STAGE",
      "TYPE", "FUNCTION", "PROCEDURE", "POLICY", "SECRET"] with
  | "FUNCTION" | "PROCEDURE" =>
    ifPresent
    discard (separated (routine sub))
    dropBehaviour
  | "POLICY" =>
    ifPresent
    discard identifier
    expectKeyword "ON"
    discard path
    dropBehaviour
  | "SECRET" =>
    ifPresent
    discard identifier
    skipClause ["FROM"] looseIdentifier
  | kind =>
    ifPresent
    paths
    let cascade ← takeKeyword "CASCADE"
    let restrict ← takeKeyword "RESTRICT"
    let purge ← takeKeyword "PURGE"
    if cascade && restrict then unexpected
    if kind = "ROLE" && (cascade || restrict || purge) then unexpected

def addition : Parser Unit := do
  if (← tableConstraint sub).isSome then return
  ifMissing
  let partitions ← many (afterKeywords ["PARTITION"] (expressionList sub))
  if partitions.isEmpty then
    skipKeyword "COLUMN"
    discard (column sub)

/-- What follows `DROP` in a change of a table. Some words are spent though nothing comes of
them. -/
def removal : Parser Unit := do
  if ← takeAny [["IF", "EXISTS", "PARTITION"], ["PARTITION"]] then expressionList sub
  else if ← takeKeyword "CONSTRAINT" then
    ifPresent
    discard identifier
    skipKeyword "CASCADE"
  else
    skipKeywords ["PRIMARY", "KEY"]
    skipKeyword "PROJECTION"
    skipKeyword "COLUMN"
    ifPresent
    discard identifier
    skipKeyword "CASCADE"

/-- A type and options in the place of those of a column. -/
def columnShape : Parser Unit := do
  discard typeName
  discard (many (columnOption sub))

def columnChange : Parser Unit := do
  skipKeyword "COLUMN"
  discard identifier
  if ← takeAny [["SET", "NOT", "NULL"], ["DROP", "NOT", "NULL"]] then return
  if ← takeKeywords ["SET", "DEFAULT"] then discard (expression sub)
  else if ← takeKeywords ["DROP", "DEFAULT"] then return
  else if ← takeKeywords ["SET", "DATA", "TYPE"] then discard typeName
  else
    expectKeywords ["ADD", "GENERATED"]
    discard (takeAny [["ALWAYS"], ["BY", "DEFAULT"]])
    expectKeywords ["AS", "IDENTITY"]
    identitySequence

def tableChange : Parser Unit := do
  if ← takeKeyword "ADD" then addition sub
  else if ← takeKeyword "RENAME" then
    if ← takeKeyword "TO" then discard path
    else
      skipKeyword "COLUMN"
      discard identifier
      expectKeyword "TO"
      discard identifier
  else if ← takeKeyword "DISABLE" then
    unless ← takeKeywords ["ROW", "LEVEL", "SECURITY"] do
      discard (expectOneOf ["RULE", "TRIGGER"])
      discard identifier
  else if ← takeKeyword "ENABLE" then
    unless ← takeKeywords ["ROW", "LEVEL", "SECURITY"] do
      expectAny [["ALWAYS", "RULE"], ["ALWAYS", "TRIGGER"], ["REPLICA", "RULE"],
        ["REPLICA", "TRIGGER"], ["RULE"], ["TRIGGER"]]
      discard identifier
  else
    skipKeywords ["CLEAR", "PROJECTION"]
    skipKeywords ["MATERIALIZE", "PROJECTION"]
    if ← takeKeyword "DROP" then removal sub
    else if ← takeKeyword "PARTITION" then
      expressionList sub
      expectKeyword "RENAME"
      expectKeywords ["TO", "PARTITION"]
      expressionList sub
    else if ← takeKeyword "CHANGE" then
      skipKeyword "COLUMN"
      discard identifier
      discard identifier
      columnShape sub
    else if ← takeKeyword "MODIFY" then
      skipKeyword "COLUMN"
      discard identifier
      columnShape sub
    else if ← takeKeyword "ALTER" then columnChange sub
    else if ← takeKeyword "SWAP" then
      expectKeyword "WITH"
      discard path
    else
      unless ← properties sub ["SET", "TBLPROPERTIES"] do unexpected

def alter : Parser Unit := do
  match ← expectOneOf ["VIEW", "TABLE", "INDEX", "POLICY"] with
  | "VIEW" =>
    discard path
    discard optionalColumnList
    discard (properties sub ["WITH"])
    expectKeyword "AS"
    discard sub.query
  | "TABLE" =>
    ifPresent
    skipKeyword "ONLY"
    discard path
    onCluster
    discard (separated (tableChange sub))
    if ← takeAny [["LOCATION"], ["SET", "LOCATION"]] then discard identifier
  | "INDEX" =>
    discard path
    expectKeywords ["RENAME", "TO"]
    discard path
  | _ =>
    discard identifier
    expectKeyword "ON"
    discard path
    if ← takeKeyword "RENAME" then
      expectKeyword "TO"
      discard identifier
    else policyRules sub

end

end TypedRows.Sql.Grammar
