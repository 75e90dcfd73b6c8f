import TypedRows.Sql.Grammar.Write

/-!
Queries, and the levels of nesting that expressions and queries share.
-/

namespace TypedRows.Sql.Grammar

section

variable (sub : Nested)

/-- `ALL`, which leaves no trace, or `DISTINCT`. -/
def distinct : Parser (List Piece) := do
  let all ← takeKeyword "ALL"
  if ← takeKeyword "DISTINCT" then
    if all then unexpected
    if ← takeKeyword "ON" then
      expectMark "("
      let list ← if ← atMark ")" then pure [] else separated (expression sub)
      expectMark ")"
      return .text " DISTINCT ON (" :: withCommas (list.map Piece.expr) ++ [.text ")"]
    else return [.text " DISTINCT"]
  else return []

def top : Parser (List Piece) := do
  if ← takeKeyword "TOP" then
    let (start, count, stop) ← do
      if ← atMark "(" then
        let e ← inParens (expression sub)
        pure ("(", Piece.expr e, ")")
      else
        let n ← wholeNumber
        pure ("", Piece.text (toString n), "")
    let percent := if ← takeKeyword "PERCENT" then " PERCENT" else ""
    let ties := if ← takeKeywords ["WITH", "TIES"] then " WITH TIES" else ""
    return [.text (" TOP " ++ start), count, .text (stop ++ percent ++ ties)]
  else return []

def namedWindow : Parser (List Piece) := do
  let name ← identifier
  expectKeyword "AS"
  expectMark "("
  let parts ← window sub (intervalOf (primary sub))
  return .text (name.print ++ " AS (") :: parts ++ [.text ")"]

def windows : Parser (List Piece) := do
  match ← afterKeywords ["WINDOW"] (separated (namedWindow sub)) with
  | some list => return .text " WINDOW " :: List.intercalate [.text ", "] list
  | none => return []

def qualify : Parser (List Piece) := do
  match ← afterKeywords ["QUALIFY"] (expression sub) with
  | some e => return [.text " QUALIFY ", .expr e]
  | none => return []

/-- `WINDOW` and `QUALIFY` in either order. -/
def windowClauses : Parser (List Piece) := do
  match ← windows sub with
  | [] =>
    let condition ← qualify sub
    return condition ++ (← windows sub)
  | list => return list ++ (← qualify sub)

/-- The table that takes the rows. -/
def intoClause : Parser String := do
  if ← takeKeyword "INTO" then
    let temporary := if (← takeOneOf ["TEMP", "TEMPORARY"]).isSome then " TEMPORARY" else ""
    let unlogged := if ← takeKeyword "UNLOGGED" then " UNLOGGED" else ""
    let table := if ← takeKeyword "TABLE" then " TABLE" else ""
    let name ← path
    return " INTO" ++ temporary ++ unlogged ++ table ++ " " ++ name.print
  else return ""

/-- Words that end the columns of a lateral view. -/
def reservedForView : List String := ["WHERE", "GROUP", "CLUSTER", "HAVING", "LATERAL"]

def lateralView : Parser (Option (List Piece)) := do
  if ← takeKeywords ["LATERAL", "VIEW"] then
    let outer := if ← takeKeyword "OUTER" then " OUTER" else ""
    let e ← expression sub
    let name ← path
    let columns := (← separated (optionalName reservedForView)).filterMap id
    let named := if columns.isEmpty then "" else " AS " ++ printNames columns
    return some [.text (" LATERAL VIEW" ++ outer ++ " "), .expr e,
      .text (" " ++ name.print ++ named)]
  else return none

/-- The expressions after `word BY`. -/
def spreadBy (word : String) : Parser (List Piece) := do
  match ← afterKeywords [word, "BY"] (separated (expression sub)) with
  | some list => return .text (" " ++ word ++ " BY ") :: withCommas (list.map Piece.expr)
  | none => return []

def select : Parser Select := do
  let distinct ← distinct sub
  let top ← top sub
  let items ← separated (item sub)
  let into ← intoClause
  let sources := (← afterKeywords ["FROM"] (sources sub)).getD []
  let lateral ← many (lateralView sub)
  let condition ← condition sub
  let (groupByAll, groupBy) ← do
    if ← takeKeywords ["GROUP", "BY"] then
      if ← takeKeyword "ALL" then pure (true, [])
      else do
        let list ← separated (expression sub)
        pure (false, list)
    else pure (false, [])
  let clusters ← spreadBy sub "CLUSTER"
  let shares ← spreadBy sub "DISTRIBUTE"
  let sorts ← spreadBy sub "SORT"
  let having ← afterKeywords ["HAVING"] (expression sub)
  return {
    lead := distinct ++ top
    items
    into
    sources
    lateral := lateral.flatten
    condition
    groupByAll
    groupBy
    spread := clusters ++ shares ++ sorts
    having
    windows := ← windowClauses sub }

def values : Parser Body := do
  let rows ← separated do
    let explicit ← takeKeyword "ROW"
    let row ← inParens (separated (expression sub))
    return (explicit, row)
  return .values (rows.any (·.1)) (rows.map (·.2))

/-- `TABLE`, after its first word. Three symbols are spent whether the name is qualified or not. -/
def table : Parser Body := do
  let symbols ← get
  set (symbols.drop 3)
  match symbols with
  | first :: second :: rest =>
    match first.word? with
    | none => unexpected
    | some name =>
      if second.isMark "." then
        match rest.head?.bind Symbol.word? with
        | some inner => return .table [name.text, inner.text]
        | none => unexpected
      else return .table [name.text]
  | [first] =>
    match first.word? with
    | some name => return .table [name.text]
    | none => unexpected
  | [] => unexpected

def simpleBody : Parser Body := do
  if ← takeKeyword "SELECT" then Body.select <$> select sub
  else if ← takeMark "(" then
    let query ← sub.query
    expectMark ")"
    return .query query
  else if ← takeKeyword "VALUES" then values sub
  else if ← takeKeyword "TABLE" then table
  else unexpected

def quantifier : Parser String := do
  if ← takeKeywords ["DISTINCT", "BY", "NAME"] then return " DISTINCT BY NAME"
  if ← takeKeywords ["BY", "NAME"] then return " BY NAME"
  if ← takeKeywords ["ALL", "BY", "NAME"] then return " ALL BY NAME"
  match ← takeOneOf ["ALL", "DISTINCT"] with
  | some word => return " " ++ word
  | none => return ""

/-- One more member of a compound, joined by one of `ops`. -/
def member (ops : List (String × SetOp)) (right : Parser Body) (left : Body) :
    Parser (Option Body) := do
  let word ← peekKeyword
  match ops.find? (·.1 = word) with
  | some (_, op) =>
    expectKeyword word
    let quantifier ← quantifier
    return some (.compound op quantifier left (← right))
  | none => return none

/-- `INTERSECT` binds tighter than `UNION` and `EXCEPT`. -/
def body : Parser Body := do
  let intersections : Parser Body := do
    iterate (member [("INTERSECT", .intersect)] (simpleBody sub)) (← simpleBody sub)
  iterate (member [("UNION", .union), ("EXCEPT", .except)] intersections) (← intersections)

def cte : Parser Cte := do
  let name ← identifier
  let columns ← optionalColumnList
  expectKeyword "AS"
  let query ← inParens sub.query
  return ⟨name, columns, query, ← afterKeywords ["FROM"] identifier⟩

/-- The limit, the offset, and the words after the offset. -/
structure Bounds where
  limit : Option Expr
  offset : Option Expr
  rows : String

/-- One round of `LIMIT` and `OFFSET`. With a comma the first number is the offset. -/
def boundsRound (bounds : Bounds) : Parser Bounds := do
  let limit ← do
    if bounds.limit.isNone then
      if ← takeKeyword "LIMIT" then
        if ← takeKeyword "ALL" then pure none else some <$> expression sub
      else pure none
    else pure bounds.limit
  let (offset, rows) ← do
    if bounds.offset.isNone then
      if ← takeKeyword "OFFSET" then
        let e ← expression sub
        match ← takeOneOf ["ROW", "ROWS"] with
        | some word => pure (some e, " " ++ word)
        | none => pure (some e, "")
      else pure (none, "")
    else pure (bounds.offset, bounds.rows)
  match limit, offset with
  | some first, none =>
    if ← takeMark "," then return ⟨some (← expression sub), some first, ""⟩
    else return ⟨limit, offset, rows⟩
  | _, _ => return ⟨limit, offset, rows⟩

def fetch : Parser (List Piece) := do
  if ← takeKeyword "FETCH" then
    let _ ← expectOneOf ["FIRST", "NEXT"]
    let amount ← do
      if (← takeOneOf ["ROW", "ROWS"]).isSome then pure ""
      else
        let value ← literal
        let percent := if ← takeKeyword "PERCENT" then " PERCENT" else ""
        let _ ← expectOneOf ["ROW", "ROWS"]
        pure (" " ++ value.print ++ percent)
    let ties ← if ← takeKeyword "ONLY" then pure " ONLY" else do
      expectKeywords ["WITH", "TIES"]
      pure " WITH TIES"
    return [.text (" FETCH FIRST" ++ amount ++ " ROWS" ++ ties)]
  else return []

/-- A lock, after `FOR`. -/
def lock : Parser String := do
  let word ← expectOneOf ["UPDATE", "SHARE"]
  let table ← afterKeywords ["OF"] path
  let waiting ← do
    if ← takeKeyword "NOWAIT" then pure " NOWAIT"
    else if ← takeKeywords ["SKIP", "LOCKED"] then pure " SKIP LOCKED"
    else pure ""
  return " FOR " ++ word ++ clause "OF" (table.map Path.print) ++ waiting

/-- A string in parentheses, as it is printed after a word. -/
def stringInParens : Parser String := do
  return "('" ++ (← inParens literalString) ++ "')"

/-- The options of a form of output, each after a comma. A comma without an option is spent. Each
option is printed once, in the order of `printed`. -/
def outputOptions (option : Parser (Option (String × String))) (printed : List String) :
    Parser String := do
  let found ← many do if ← takeMark "," then some <$> option else return none
  let found := (found.filterMap id).reverse
  let texts := printed.filterMap fun word =>
    (found.find? (·.1 = word)).map fun (_, text) => ", " ++ word ++ text
  return String.join texts

/-- The form in which the rows are put out, after `FOR`. -/
def outputForm : Parser (Option String) := do
  match ← takeOneOf ["XML", "JSON", "BROWSE"] with
  | some "XML" =>
    let word ← expectOneOf ["RAW", "AUTO", "EXPLICIT", "PATH"]
    let element ← do
      if ["RAW", "PATH"].contains word && (← get).head?.any (·.isMark "(") then stringInParens
      else pure ""
    let options ← outputOptions (do
      match ← takeOneOf ["ELEMENTS", "BINARY", "ROOT", "TYPE"] with
      | some "BINARY" =>
        expectKeyword "BASE64"
        return some ("BINARY", " BASE64")
      | some "ROOT" => return some ("ROOT", ← stringInParens)
      | word => return word.map (·, "")) ["BINARY", "TYPE", "ROOT", "ELEMENTS"]
    return some (" FOR XML " ++ word ++ element ++ options)
  | some "JSON" =>
    let word ← expectOneOf ["AUTO", "PATH"]
    let options ← outputOptions (do
      match ← takeOneOf ["ROOT", "INCLUDE_NULL_VALUES", "WITHOUT_ARRAY_WRAPPER"] with
      | some "ROOT" => return some ("ROOT", ← stringInParens)
      | word => return word.map (·, ""))
      ["ROOT", "INCLUDE_NULL_VALUES", "WITHOUT_ARRAY_WRAPPER"]
    return some (" FOR JSON " ++ word ++ options)
  | some _ => return some " FOR BROWSE"
  | none => return none

/-- The locks; a form of output ends them. -/
def forClauses : Parser (List Piece) := do
  let step (found : List Piece × Bool) : Parser (Option (List Piece × Bool)) := do
    if found.2 then return none
    if ← takeKeyword "FOR" then
      match ← outputForm with
      | some text => return some (.text text :: found.1, true)
      | none => return some (.text (← lock) :: found.1, false)
    else return none
  let (found, _) ← iterate step ([], false)
  return found.reverse

/-- A query that is only a statement which changes data. -/
def ofChange (recursive : Bool) (ctes : List Cte) (body : Body) : Query :=
  ⟨recursive, ctes, body, [], none, none, []⟩

def query : Parser Query := do
  let withWord ← takeKeyword "WITH"
  let recursive ← if withWord then takeKeyword "RECURSIVE" else pure false
  let ctes ← if withWord then separated (cte sub) else pure []
  if ← takeKeyword "INSERT" then return ofChange recursive ctes (← insert sub)
  else if ← takeKeyword "UPDATE" then return ofChange recursive ctes (.update (← update sub))
  else
    let body ← body sub
    let order := (← afterKeywords ["ORDER", "BY"] (separated (sortKey sub))).getD []
    let bounds ← boundsRound sub (← boundsRound sub ⟨none, none, ""⟩)
    let tail := (← fetch) ++ (← forClauses)
    return ⟨recursive, ctes, body, order, bounds.limit, bounds.offset,
      (if bounds.rows.isEmpty then tail else .text bounds.rows :: tail)⟩

end

/-- The parsers with room for `depth` further levels. -/
def level : Nat → Nested
  | 0 => ⟨fun _ => throw .tooDeep, throw .tooDeep⟩
  | depth + 1 =>
    let sub := level depth
    ⟨expressionAbove sub, query sub⟩

end TypedRows.Sql.Grammar
