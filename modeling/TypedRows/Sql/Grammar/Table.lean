import TypedRows.Sql.Grammar.Query
import TypedRows.Sql.Statement

/-!
Declarations of tables and views. Where and how the rows are stored is recognised and then
forgotten.
-/

namespace TypedRows.Sql.Grammar

def ifMissing : Parser Unit := skipKeywords ["IF", "NOT", "EXISTS"]

/-- The group of servers on which a statement takes effect. -/
def onCluster : Parser Unit := skipClause ["ON", "CLUSTER"] identifier

/-- A number, perhaps with a sign, or a parameter. -/
def signedNumber : Parser Unit := do
  unless ← takeMark "+" do
    discard (takeMark "-")
  match ← literal with
  | .number _ _ | .placeholder _ => return
  | _ => unexpected

/-- What the numbers of a sequence are, in this order. -/
def sequenceOptions : Parser Unit := do
  let limit (word : String) : Parser Unit := do
    if ← takeKeyword word then signedNumber else skipKeywords ["NO", word]
  skipClause ["INCREMENT"] do
    skipKeyword "BY"
    signedNumber
  limit "MINVALUE"
  limit "MAXVALUE"
  skipClause ["START"] do
    skipKeyword "WITH"
    signedNumber
  skipClause ["CACHE"] signedNumber
  discard (takeAny [["NO", "CYCLE"], ["CYCLE"]])

/-- The sequence of an identity column, if it is given in parentheses. -/
def identitySequence : Parser Unit := do
  if ← takeMark "(" then
    sequenceOptions
    expectMark ")"

/-- What happens to the rows that refer to a key, at most once for each kind of change. -/
def referentialActions : Parser Unit :=
  let action (change : String) : Parser Bool := do
    if ← takeKeywords ["ON", change] then
      expectAny [["RESTRICT"], ["CASCADE"], ["SET", "NULL"], ["NO", "ACTION"], ["SET", "DEFAULT"]]
      return true
    else return false
  eachOnce [action "DELETE", action "UPDATE"]

/-- Whether a constraint may be deferred, is deferred at first, and is enforced. -/
def characteristics : Parser Unit :=
  let initially : Parser Bool := do
    if ← takeKeyword "INITIALLY" then
      discard (expectOneOf ["DEFERRED", "IMMEDIATE"])
      return true
    else return false
  eachOnce [takeAny [["NOT", "DEFERRABLE"], ["DEFERRABLE"]], initially,
    takeAny [["ENFORCED"], ["NOT", "ENFORCED"]]]

section

variable (sub : Nested)

def parenthesisedExpression : Parser Unit := discard (inParens (expression sub))

def expressionList : Parser Unit := discard (inParens (separated (expression sub)))

/-- `name = value`, once or more, in parentheses after the words; whether the words are there. -/
def properties (words : List String) : Parser Bool := do
  if ← takeKeywords words then
    discard <| inParens <| separated do
      discard identifier
      expectMark "="
      discard (expression sub)
    return true
  else return false

/-- After `GENERATED`. What does not follow the pattern ends the column. -/
def generated : Parser (Option ColumnOption) := do
  if ← takeAny [["ALWAYS", "AS", "IDENTITY"], ["BY", "DEFAULT", "AS", "IDENTITY"]] then
    identitySequence
    return some .other
  else if ← takeKeywords ["ALWAYS", "AS"] then
    if ← atMark "(" then
      parenthesisedExpression sub
      discard (takeOneOf ["STORED", "VIRTUAL"])
      return some .other
    else return none
  else return none

/-- An option of a column, if one follows. Some words are spent though they are no option. -/
def columnOption : Parser (Option ColumnOption) := do
  if ← takeKeywords ["CHARACTER", "SET"] then
    discard path
    return some .other
  if ← takeKeywords ["NOT", "NULL"] then return some .notNull
  if ← takeKeyword "COMMENT" then
    match (← next).token with
    | .string _ => return some .other
    | _ => unexpected
  if ← takeKeyword "NULL" then return some .other
  if ← takeKeyword "DEFAULT" then return some (.default (← expression sub))
  if ← takeKeywords ["PRIMARY", "KEY"] then
    characteristics
    return some .primaryKey
  if ← takeKeyword "UNIQUE" then
    characteristics
    return some .other
  if ← takeKeyword "REFERENCES" then
    discard path
    discard optionalColumnList
    referentialActions
    characteristics
    return some .other
  if ← takeKeyword "CHECK" then
    parenthesisedExpression sub
    return some .other
  skipKeyword "AUTO_INCREMENT"
  if (← takeOneOf ["AUTOINCREMENT", "ASC", "DESC"]).isSome then return some .other
  skipKeywords ["ON", "UPDATE"]
  if ← takeKeyword "GENERATED" then return ← generated sub
  if ← takeKeyword "AS" then
    parenthesisedExpression sub
    discard (takeOneOf ["STORED", "VIRTUAL"])
    return some .other
  skipKeyword "IDENTITY"
  if ← takeKeywords ["ON", "CONFLICT"] then
    discard (expectOneOf conflictWords)
    return some .other
  return none

/-- An option with the name of its constraint. -/
def namedOption : Parser (Option ColumnOption) := do
  if ← takeKeyword "CONSTRAINT" then
    discard identifier
    match ← columnOption sub with
    | some option => return some option
    | none => unexpected
  else columnOption sub

/-- Words that follow a column without a type. -/
def startsOption : List String :=
  ["CONSTRAINT", "PRIMARY", "NOT", "UNIQUE", "CHECK", "DEFAULT", "COLLATE", "REFERENCES",
    "GENERATED", "AS"]

def column : Parser ColumnSyntax := do
  let name ← identifier
  let type ← do
    match ← get with
    | symbol :: _ =>
      if symbol.word?.isNone || startsOption.contains symbol.keyword then pure none
      else some <$> typeName
    | [] => pure none
  skipClause ["COLLATE"] path
  let options ← many (namedOption sub)
  return ⟨name.text, type.map TypeName.text, options⟩

/-- The name of an index and `USING` before the columns of a key. -/
def indexName : Parser Unit := do
  discard (attempt identifier)
  skipClause ["USING"] (expectOneOf ["BTREE", "HASH"])

/-- `USING` and comments after the columns of a key. -/
def indexOptions : Parser Unit :=
  discard <| many do
    if ← takeKeyword "USING" then some <$> expectOneOf ["BTREE", "HASH"]
    else afterKeywords ["COMMENT"] literalString

/-- A constraint of a table, if one follows; the columns if it declares the primary key. -/
def tableConstraint : Parser (Option (List (List String))) := do
  let constrained ← takeKeyword "CONSTRAINT"
  if constrained then discard identifier
  match ← takeOneOf ["UNIQUE", "PRIMARY", "FOREIGN", "CHECK"] with
  | some "UNIQUE" =>
    if ["KEY", "INDEX"].contains (← peekKeyword) then unexpected
    indexName
    discard columnList
    indexOptions
    characteristics
    return some []
  | some "PRIMARY" =>
    expectKeyword "KEY"
    indexName
    let columns ← columnList
    indexOptions
    characteristics
    return some [columns.map Ident.text]
  | some "FOREIGN" =>
    expectKeyword "KEY"
    discard columnList
    expectKeyword "REFERENCES"
    discard path
    discard columnList
    referentialActions
    characteristics
    return some []
  | some _ =>
    parenthesisedExpression sub
    return some []
  | none => if constrained then unexpected else return none

/-- A column, or the primary keys that a constraint declares. -/
def tableElement : Parser (ColumnSyntax ⊕ List (List String)) := do
  match ← tableConstraint sub with
  | some keys => return .inr keys
  | none =>
    match ← get with
    | symbol :: _ => if symbol.word?.isSome then .inl <$> column sub else unexpected
    | [] => unexpected

def tableElements : Parser (List (ColumnSyntax ⊕ List (List String))) := do
  if ← takeMark "(" then
    if ← takeMark ")" then return []
    let elements ← separated (tableElement sub)
    expectMark ")"
    return elements
  else return []

/-- The first word and the further words before each mark of a row format. -/
def rowMarks : List (String × List String) :=
  [("FIELDS", ["TERMINATED", "BY"]), ("COLLECTION", ["ITEMS", "TERMINATED", "BY"]),
    ("MAP", ["KEYS", "TERMINATED", "BY"]), ("LINES", ["TERMINATED", "BY"]),
    ("NULL", ["DEFINED", "AS"])]

/-- One mark of a row format. A first word without the further ones is spent. -/
def rowMark : Parser (Option Unit) := do
  match ← takeOneOf (rowMarks.map (·.1)) with
  | none => return none
  | some word =>
    if ← takeKeywords ((rowMarks.lookup word).getD []) then
      discard identifier
      if word = "FIELDS" then skipClause ["ESCAPED", "BY"] identifier
      return some ()
    else return none

/-- How a row is written, after `ROW`. -/
def rowFormat : Parser Unit := do
  expectKeyword "FORMAT"
  if ← takeKeyword "SERDE" then discard literalString
  else
    skipKeyword "DELIMITED"
    discard (many rowMark)

/-- The columns by which the rows are divided. -/
def partitioned : Parser Unit :=
  skipClause ["PARTITIONED", "BY"] (inParens (separated (column sub)))

/-- In what files the rows are kept, and where. -/
def storage : Parser Unit :=
  discard <| many do
    if ← takeKeyword "ROW" then some <$> rowFormat
    else if ← takeKeyword "STORED" then
      expectKeyword "AS"
      if ← takeKeyword "INPUTFORMAT" then
        discard (expression sub)
        expectKeyword "OUTPUTFORMAT"
        discard (expression sub)
      else discard (expectOneOf fileFormats)
      return some ()
    else if ← takeKeyword "LOCATION" then
      discard literalString
      return some ()
    else if ← properties sub ["WITH", "SERDEPROPERTIES"] then return some ()
    else return none

/-- A word after `=`. -/
def assignedWord : Parser Unit := do
  expectMark "="
  if (← next).word?.isNone then unexpected

/-- What concerns the engine that keeps the rows. -/
def engineOptions : Parser Unit := do
  skipClause ["ENGINE"] do
    assignedWord
    optionalColumnList
  skipClause ["AUTO_INCREMENT"] do
    discard (takeMark "=")
    numberBelow (Nat.pow 2 32)
  skipClause ["ORDER", "BY"] do
    if ← takeMark "(" then
      unless ← takeMark ")" do
        discard (separated (expression sub))
        expectMark ")"
    else discard (expression sub)
  skipClause ["DEFAULT", "CHARSET"] assignedWord
  skipClause ["COLLATE"] assignedWord
  skipClause ["ON", "COMMIT"] (expectAny [["DELETE", "ROWS"], ["PRESERVE", "ROWS"], ["DROP"]])

def comment : Parser Unit :=
  skipClause ["COMMENT"] do
    discard (takeMark "=")
    match (← next).token with
    | .string _ => return
    | _ => unexpected

def tableOf (name : Path) (elements : List (ColumnSyntax ⊕ List (List String))) : TableSyntax where
  name := name.base
  columns := elements.filterMap Sum.getLeft?
  primaryKeys := (elements.filterMap Sum.getRight?).flatten
  withoutRowid := false
  fromQuery := false

def createTable : Parser TableSyntax := do
  ifMissing
  let name ← path
  onCluster
  if (← takeOneOf ["LIKE", "ILIKE"]).isSome then loosePath
  if ← takeKeyword "CLONE" then loosePath
  let elements ← tableElements sub
  let withoutRowid ← takeKeywords ["WITHOUT", "ROWID"]
  partitioned sub
  storage sub
  discard (properties sub ["WITH"])
  discard (properties sub ["TBLPROPERTIES"])
  engineOptions sub
  skipKeyword "STRICT"
  comment
  let fromQuery ← afterKeywords ["AS"] sub.query
  return { tableOf name elements with withoutRowid, fromQuery := fromQuery.isSome }

def createExternalTable : Parser TableSyntax := do
  ifMissing
  let name ← path
  let elements ← tableElements sub
  partitioned sub
  storage sub
  discard (properties sub ["TBLPROPERTIES"])
  return tableOf name elements

def createView : Parser ViewDecl := do
  ifMissing
  let name ← path
  let columns ← do
    if ← takeMark "(" then
      if ← takeMark ")" then pure []
      else do
        let columns ← separated identifier
        expectMark ")"
        pure columns
    else pure []
  discard (properties sub ["WITH"])
  skipClause ["CLUSTER"] do
    expectKeyword "BY"
    optionalColumnList
  expectKeyword "AS"
  return ⟨name.base, columns.map Ident.text, ← sub.query⟩

end

end TypedRows.Sql.Grammar
