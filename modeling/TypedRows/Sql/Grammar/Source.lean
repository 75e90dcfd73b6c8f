import TypedRows.Sql.Grammar.Expr

/-!
What follows `FROM`: tables, functions, subqueries and joins.
-/

namespace TypedRows.Sql.Grammar

section

variable (sub : Nested)

def constraint (natural : Bool) : Parser Constraint := do
  if natural then return .natural
  else if ← takeKeyword "ON" then return .condition (← expression sub)
  else if ← takeKeyword "USING" then return .columns (← columnList)
  else return .none

/-- The words of a join that is neither `CROSS`, `APPLY` nor `ASOF`. -/
def joinWords : Parser (Option Link) := do
  match ← peekKeyword with
  | "INNER" | "JOIN" =>
    let _ ← takeKeyword "INNER"
    expectKeyword "JOIN"
    return some .inner
  | "LEFT" =>
    expectKeyword "LEFT"
    match ← expectOneOf ["OUTER", "SEMI", "ANTI", "JOIN"] with
    | "OUTER" => expectKeyword "JOIN"; return some .left
    | "SEMI" => expectKeyword "JOIN"; return some .leftSemi
    | "ANTI" => expectKeyword "JOIN"; return some .leftAnti
    | _ => return some .left
  | "RIGHT" =>
    expectKeyword "RIGHT"
    match ← expectOneOf ["OUTER", "SEMI", "ANTI", "JOIN"] with
    | "OUTER" => expectKeyword "JOIN"; return some .right
    | "SEMI" => expectKeyword "JOIN"; return some .rightSemi
    | "ANTI" => expectKeyword "JOIN"; return some .rightAnti
    | _ => return some .right
  | "FULL" =>
    expectKeyword "FULL"
    let _ ← takeKeyword "OUTER"
    expectKeyword "JOIN"
    return some .full
  | _ => return none

/-- A join, if one follows. The word `GLOBAL` is spent also where none does. -/
def join (factor : Parser Factor) : Parser (Option Entry) := do
  let global ← takeKeyword "GLOBAL"
  if ← takeKeyword "CROSS" then
    let link := match ← expectOneOf ["JOIN", "APPLY"] with
      | "JOIN" => Link.cross
      | _ => .crossApply
    return some ⟨global, link, ← factor, none, .none⟩
  else if ← takeKeyword "OUTER" then
    expectKeyword "APPLY"
    return some ⟨global, .outerApply, ← factor, none, .none⟩
  else if ← takeKeyword "ASOF" then
    expectKeyword "JOIN"
    let right ← factor
    expectKeyword "MATCH_CONDITION"
    let nearest ← inParens (expression sub)
    return some ⟨global, .asOf, right, some nearest, ← constraint sub false⟩
  else
    let natural ← takeKeyword "NATURAL"
    match ← joinWords with
    | some link =>
      let right ← factor
      return some ⟨global, link, right, none, ← constraint sub natural⟩
    | none => if natural then unexpected else return none

def joined (factor : Parser Factor) : Parser (Factor × List Entry) := do
  let first ← factor
  return (first, ← many (join sub factor))

def derived (lateral : Bool) : Parser Factor := do
  let query ← sub.query
  expectMark ")"
  return .derived lateral query (← optionalAlias)

/-- The arguments of a function that is read from, after its opening parenthesis. -/
def rowArguments : Parser (List Item) := do
  if ← takeMark ")" then return []
  let arguments ← separated (argument sub)
  expectMark ")"
  return arguments

/-- What a column of `JSON_TABLE` holds where there is no value, or where there is an error. Of
several rules for the same case the last one counts. -/
def jsonFallbacks : Parser String := do
  let step (found : String × String) : Parser (Option (String × String)) := do
    match ← takeOneOf ["NULL", "ERROR", "DEFAULT"] with
    | none => return none
    | some word =>
      let value ← if word = "DEFAULT" then (" " ++ ·.print) <$> literal else pure ""
      expectKeyword "ON"
      let text := " " ++ word ++ value ++ " ON "
      match ← expectOneOf ["EMPTY", "ERROR"] with
      | "EMPTY" => return some (text ++ "EMPTY", found.2)
      | _ => return some (found.1, text ++ "ERROR")
  let (empty, error) ← iterate step ("", "")
  return empty ++ error

/-- A column of `JSON_TABLE`, of which only the text is kept. The number of symbols bounds the
nesting. -/
def jsonColumn : Nat → Parser String
  | 0 => unexpected
  | n + 1 => do
    if ← takeKeyword "NESTED" then
      let _ ← takeKeyword "PATH"
      let place ← literal
      expectKeyword "COLUMNS"
      let columns ← inParens (separated (jsonColumn n))
      return "NESTED PATH " ++ place.print ++ " COLUMNS (" ++ commaSeparated columns ++ ")"
    let name ← identifier
    if ← takeKeyword "FOR" then
      expectKeyword "ORDINALITY"
      return name.print ++ " FOR ORDINALITY"
    let type ← typeName
    let present := if ← takeKeyword "EXISTS" then " EXISTS" else ""
    expectKeyword "PATH"
    let place ← literal
    return name.print ++ " " ++ type.text ++ present ++ " PATH " ++ place.print ++
      (← jsonFallbacks)

def jsonTable : Parser Factor := do
  let (e, place, columns) ← inParens do
    let e ← expression sub
    expectMark ","
    let place ← literal
    expectKeyword "COLUMNS"
    let n := (← get).length + 1
    return (e, place, ← inParens (separated (jsonColumn n)))
  let aliased ← optionalAlias
  return .phrase [.text "JSON_TABLE(", .expr e,
    .text (", " ++ place.print ++ " COLUMNS(" ++ commaSeparated columns ++ "))" ++
      printAlias aliased)]

/-- An expression that may have a name. -/
def namedPiece (p : Parser Expr) : Parser (List Piece) := do
  let e ← p
  let name ← afterKeywords ["AS"] identifier
  return [.expr e, .text (clause "AS" (name.map Ident.print))]

/-- A call of which the name is printed without quotes. -/
def aggregate : Parser Expr := do
  match (← next).word? with
  | some name => callOf sub (intervalOf (primary sub)) [⟨name.text, none⟩]
  | none => unexpected

def pivotValues : Parser (List Piece) := do
  if ← takeKeyword "ANY" then
    match ← orderPieces sub with
    | [] => return [.text "ANY"]
    | order => return .text "ANY " :: order
  else if ← atQuery then return [.query (← sub.query)]
  else return List.intercalate [.text ", "] (← separated (namedPiece (expression sub)))

/-- `PIVOT`, after this word. -/
def pivot : Parser (List Piece) :=
  inParens do
    let calls ← separated (namedPiece (aggregate sub))
    expectKeyword "FOR"
    let column ← path
    expectKeyword "IN"
    let values ← inParens (pivotValues sub)
    let tail ← do
      if ← takeKeywords ["DEFAULT", "ON", "NULL"] then
        let e ← inParens (expression sub)
        pure [Piece.text ") DEFAULT ON NULL (", .expr e, .text "))"]
      else pure [.text "))"]
    return .text " PIVOT(" :: List.intercalate [.text ", "] calls ++
      .text (" FOR " ++ column.print ++ " IN (") :: values ++ tail

/-- `UNPIVOT`, after this word. -/
def unpivot : Parser (List Piece) :=
  inParens do
    let value ← identifier
    expectKeyword "FOR"
    let name ← identifier
    expectKeyword "IN"
    let columns ← columnList
    return [.text (" UNPIVOT(" ++ value.print ++ " FOR " ++ name.print ++ " IN (" ++
      printNames columns ++ "))")]

/-- One more `PIVOT` or `UNPIVOT` of a factor. -/
def turned (factor : Factor) : Parser (Option Factor) := do
  match ← takeOneOf ["PIVOT", "UNPIVOT"] with
  | none => return none
  | some word =>
    let pieces ← if word = "PIVOT" then pivot sub else unpivot
    let aliased ← optionalAlias
    return some (.pivot factor (pieces ++ [.text (printAlias aliased)]))

def namedTable : Parser Factor := do
  let name ← path
  let arguments ← do
    if ← takeMark "(" then some <$> rowArguments sub else pure none
  let ordinality ← takeKeywords ["WITH", "ORDINALITY"]
  let aliased ← optionalAlias
  let symbols ← get
  let hints ← do
    if ← takeKeyword "WITH" then
      if ← atMark "(" then inParens (separated (expression sub))
      else do
        set symbols
        pure []
    else pure []
  iterate (turned sub) (match arguments with
    | some list => .call false name list ordinality aliased hints
    | none => .table name ordinality aliased hints)

/-- A join in parentheses may nest; the number of symbols bounds the nesting. -/
def factorFor : Nat → Parser Factor
  | 0 => unexpected
  | n + 1 => do
    if ← takeKeyword "LATERAL" then
      if ← takeMark "(" then derived sub true
      else
        let name ← path
        expectMark "("
        let arguments ← rowArguments sub
        return .call true name arguments false (← optionalAlias) []
    else if ← takeKeyword "TABLE" then
      let e ← inParens (expression sub)
      return .tableOf e (← optionalAlias)
    else if ← takeMark "(" then
      match ← attempt (derived sub false) with
      | some factor => iterate (turned sub) factor
      | none =>
        let (first, joins) ← joined sub (factorFor n)
        match first, joins with
        | .nested _ _ _, _ | _, _ :: _ =>
          expectMark ")"
          return .nested first joins (← optionalAlias)
        | _, [] => unexpected
    else
      match ← get with
      | ⟨_, "JSON_TABLE"⟩ :: rest =>
        if rest.head?.any (·.isMark "(") then
          set rest
          jsonTable sub
        else namedTable sub
      | _ => namedTable sub

def factor : Parser Factor := do
  factorFor sub ((← get).length + 1)

def joinedEntries : Parser (List Entry) := do
  let (first, joins) ← joined sub (factor sub)
  return ⟨false, .comma, first, none, .none⟩ :: joins

def sources : Parser (List Entry) :=
  return (← separated (joinedEntries sub)).flatten

end

end TypedRows.Sql.Grammar
