import TypedRows.Sql.Grammar.TypeName
import TypedRows.Text.Fold

/-!
Expressions, by precedence. All binary operators associate to the left.
-/

namespace TypedRows.Sql.Grammar

structure Precedence where
  or : Nat
  and : Nat
  not : Nat
  /-- The arrows and their like. -/
  arrow : Nat
  is : Nat
  like : Nat
  comparison : Nat
  bitOr : Nat
  bitXor : Nat
  bitAnd : Nat
  xor : Nat
  sum : Nat
  product : Nat
  zone : Nat
  cast : Nat

def precedence : Precedence where
  or := 5
  and := 10
  not := 15
  arrow := 16
  is := 17
  like := 19
  comparison := 20
  bitOr := 21
  bitXor := 22
  bitAnd := 23
  xor := 24
  sum := 30
  product := 40
  zone := 41
  cast := 50

def markOperators : List (String × BinaryOp × Nat) :=
  [("=", .equal, precedence.comparison), ("==", .equal, precedence.comparison),
    ("<>", .notEqual, precedence.comparison), ("<", .less, precedence.comparison),
    ("<=", .lessEqual, precedence.comparison), (">", .greater, precedence.comparison),
    (">=", .greaterEqual, precedence.comparison),
    ("<=>", .nullSafeEqual, precedence.comparison),
    ("+", .add, precedence.sum), ("-", .subtract, precedence.sum),
    ("*", .multiply, precedence.product), ("/", .divide, precedence.product),
    ("%", .modulo, precedence.product), ("||", .concat, precedence.product),
    ("|", .bitOr, precedence.bitOr), ("^", .bitXor, precedence.bitXor),
    ("&", .bitAnd, precedence.bitAnd), ("->", .arrow, precedence.arrow),
    ("->>", .longArrow, precedence.arrow)] ++
  ["~", "~*", "!~", "!~*", "~~", "~~*", "!~~", "!~~*"].map
    (fun text => (text, .named text, precedence.comparison)) ++
  ["#>", "#>>", "@>", "<@", "#-", "@?", "@@"].map
    (fun text => (text, .named text, precedence.arrow))

/-- Marks that are taken for operators but for which there is none. -/
def unknownOperators : List String := ["#", "<<", ">>", "!", "&&", "^@", "::"]

def wordOperators : List (String × BinaryOp × Nat) :=
  [("OR", .or, precedence.or), ("AND", .and, precedence.and),
    ("XOR", .named "XOR", precedence.xor)]

/-- How tightly the words after an operand bind. -/
def wordPrecedence (words : List String) : Nat :=
  match words with
  | "AT" :: "TIME" :: "ZONE" :: _ => precedence.zone
  | "NOT" :: "IN" :: _ | "NOT" :: "BETWEEN" :: _ => precedence.comparison
  | "NOT" :: "LIKE" :: _ | "NOT" :: "ILIKE" :: _ | "NOT" :: "RLIKE" :: _
  | "NOT" :: "REGEXP" :: _ | "NOT" :: "SIMILAR" :: _ => precedence.like
  | "IS" :: _ => precedence.is
  | "IN" :: _ | "BETWEEN" :: _ | "OPERATOR" :: _ => precedence.comparison
  | "LIKE" :: _ | "ILIKE" :: _ | "RLIKE" :: _ | "REGEXP" :: _ | "SIMILAR" :: _ => precedence.like
  | "DIV" :: _ => precedence.product
  | _ => 0

/-- How tightly the operator at the start of the symbols binds; 0 if there is none. -/
def nextPrecedence (symbols : List Symbol) : Nat :=
  match symbols with
  | [] => 0
  | symbol :: _ =>
    match symbol.token with
    | .mark mark =>
      match markOperators.find? (·.1 = mark) with
      | some (_, _, p) => p
      | none =>
        if ["#", "<<", ">>"].contains mark then precedence.bitXor
        else if unknownOperators.contains mark then precedence.cast
        else 0
    | _ =>
      match wordOperators.find? (·.1 = symbol.keyword) with
      | some (_, _, p) => p
      | none => wordPrecedence ((symbols.take 3).map Symbol.keyword)

def operator? (symbol : Symbol) : Option BinaryOp :=
  match symbol.token with
  | .mark mark => (markOperators.find? (·.1 = mark)).map (·.2.1)
  | _ => (wordOperators.find? (·.1 = symbol.keyword)).map (·.2.1)

def atQuery : Parser Bool :=
  return ["SELECT", "WITH"].contains (← peekKeyword)

def phrase (pieces : List Piece) : Expr := .phrase pieces

/-- The pieces with commas between them. -/
def withCommas : List Piece → List Piece
  | [] => []
  | [piece] => [piece]
  | piece :: rest => piece :: .text ", " :: withCommas rest

section

variable (sub : Nested)

def expression : Parser Expr := sub.expr 0

def sortKey : Parser SortKey := do
  let e ← expression sub
  let direction :=
    match ← takeOneOf ["ASC", "DESC"] with
    | some word => " " ++ word
    | none => ""
  if ← takeKeywords ["NULLS", "FIRST"] then return ⟨e, direction ++ " NULLS FIRST"⟩
  else if ← takeKeywords ["NULLS", "LAST"] then return ⟨e, direction ++ " NULLS LAST"⟩
  else return ⟨e, direction⟩

/-- `ORDER BY` and its keys, or no pieces. -/
def orderPieces : Parser (List Piece) := do
  match ← afterKeywords ["ORDER", "BY"] (separated (sortKey sub)) with
  | none => return []
  | some keys =>
    let texts := keys.map fun key => [Piece.expr key.expr, .text key.direction]
    return .text "ORDER BY " :: List.intercalate [Piece.text ", "] texts

/-- An expression, `*` or `path.*`. -/
def itemValue (label : Option Ident) : Parser Item := do
  match wildcard? [] (← get) with
  | some (path, rest) =>
    set rest
    return .star label path
  | none => return .expr label (← expression sub)

def argument : Parser Item := do
  let label ← attempt do
    let name ← identifier
    expectMark "=>"
    return name
  itemValue sub label

/-- What becomes of a list that grows too long. -/
def overflowClause : Parser (List Piece) := do
  if ← takeKeywords ["ON", "OVERFLOW"] then
    if ← takeKeyword "ERROR" then return [.text " ON OVERFLOW ERROR"]
    expectKeyword "TRUNCATE"
    let filler ← do
      match (← get).head?.map Symbol.token with
      | some (.string _) | some (.national _) | some (.hex _) =>
        let e ← expression sub
        pure [Piece.text " ", .expr e]
      | _ => pure []
    let word ← expectOneOf ["WITH", "WITHOUT"]
    expectKeyword "COUNT"
    return .text " ON OVERFLOW TRUNCATE" :: filler ++ [.text (" " ++ word ++ " COUNT")]
  else return []

/-- The arguments of a call, after its opening parenthesis. -/
def callArguments (name : Path) : Parser Call := do
  if ← takeMark ")" then return ⟨name, true, none, [], [], [], none, []⟩
  let treatment ← takeOneOf ["ALL", "DISTINCT"]
  if treatment = some "ALL" then
    if ← atKeywords ["DISTINCT"] then unexpected
  let arguments ← separated (argument sub)
  let order ← orderPieces sub
  let order := if order.isEmpty then [] else .text " " :: order
  let limit ← afterKeywords ["LIMIT"] (expression sub)
  let limit := match limit with
    | some e => [Piece.text " LIMIT ", .expr e]
    | none => []
  let overflow ← overflowClause sub
  expectMark ")"
  return ⟨name, true, treatment, arguments, order ++ limit ++ overflow, [], none, []⟩

def frameBound (interval : Parser Expr) : Parser (List Piece) := do
  if ← takeKeywords ["CURRENT", "ROW"] then return [.text "CURRENT ROW"]
  let size ← do
    if ← takeKeyword "UNBOUNDED" then pure (Piece.text "UNBOUNDED")
    else
      match ← get with
      | ⟨.string _, _⟩ :: _ => Piece.expr <$> interval
      | _ => Piece.expr <$> expression sub
  let side ← expectOneOf ["PRECEDING", "FOLLOWING"]
  return [size, .text (" " ++ side)]

def frame (interval : Parser Expr) : Parser (List Piece) := do
  let unit ← expectOneOf ["ROWS", "RANGE", "GROUPS"]
  if ← takeKeyword "BETWEEN" then
    let first ← frameBound sub interval
    expectKeyword "AND"
    let last ← frameBound sub interval
    return .text (unit ++ " BETWEEN ") :: first ++ .text " AND " :: last
  else return .text (unit ++ " ") :: (← frameBound sub interval)

/-- A window, after its opening parenthesis. -/
def window (interval : Parser Expr) : Parser (List Piece) := do
  let name ← do
    match ← get with
    | symbol :: rest =>
      match symbol.word? with
      | some ident =>
        if allWords.contains symbol.keyword then pure []
        else do
          set rest
          pure [Piece.text ident.print]
      | none => pure []
    | [] => pure []
  let partition ← afterKeywords ["PARTITION", "BY"] (separated (expression sub))
  let partition := match partition with
    | some list => .text "PARTITION BY " :: withCommas (list.map Piece.expr)
    | none => []
  let order ← orderPieces sub
  let bounds ← if ← takeMark ")" then pure [] else do
    let bounds ← frame sub interval
    expectMark ")"
    pure bounds
  let parts := [name, partition, order, bounds].filter fun part => !part.isEmpty
  return List.intercalate [.text " "] parts

/-- What may follow the parentheses of a call. The word `FILTER` is spent also where no filter
follows it. -/
def callSuffix (interval : Parser Expr) (call : Call) : Parser Call := do
  let group ← do
    if ← takeKeywords ["WITHIN", "GROUP"] then
      expectMark "("
      expectKeywords ["ORDER", "BY"]
      let keys ← separated (sortKey sub)
      expectMark ")"
      let texts := keys.map fun key => [Piece.expr key.expr, .text key.direction]
      pure (.text " WITHIN GROUP (ORDER BY " :: List.intercalate [.text ", "] texts ++ [.text ")"])
    else pure []
  let filter ← do
    if ← takeKeyword "FILTER" then
      if ← takeMark "(" then
        if ← takeKeyword "WHERE" then
          let e ← expression sub
          expectMark ")"
          pure (some e)
        else pure none
      else pure none
    else pure none
  let nulls ← do
    match ← takeOneOf ["RESPECT", "IGNORE"] with
    | some word =>
      expectKeyword "NULLS"
      pure [Piece.text (" " ++ word ++ " NULLS")]
    | none => pure []
  let placed ← do
    if ← takeKeyword "OVER" then
      if ← takeMark "(" then
        let parts ← window sub interval
        pure (.text " OVER (" :: parts ++ [.text ")"])
      else
        let name ← identifier
        pure [.text (" OVER " ++ name.print)]
    else pure []
  return { call with group, filter, window := nulls ++ placed }

/-- A call, at its opening parenthesis. -/
def callOf (interval : Parser Expr) (name : Path) : Parser Expr := do
  expectMark "("
  let call ← callArguments sub name
  return .call (← callSuffix sub interval call)

def choice : Parser Expr := do
  let operand ← do
    if ← takeKeyword "WHEN" then pure none
    else
      let e ← expression sub
      expectKeyword "WHEN"
      pure (some e)
  let branch : Parser Branch := do
    let condition ← expression sub
    expectKeyword "THEN"
    return ⟨condition, ← expression sub⟩
  let first ← branch
  let rest ← many (afterKeywords ["WHEN"] branch)
  let otherwise ← afterKeywords ["ELSE"] (expression sub)
  expectKeyword "END"
  return .choose operand (first :: rest) otherwise

/-- A literal, or a parameter whose marker may stand apart from its name. -/
def literal : Parser Literal := do
  let symbol ← next
  match symbol.token with
  | .word _ none =>
    match symbol.keyword with
    | "TRUE" => return .boolean true
    | "FALSE" => return .boolean false
    | "NULL" => return .null
    | _ => unexpected
  | .word text (some .double) => return .quotedName text
  | .number digits long => return .number digits long
  | .string value => return .string value
  | .national value => return .national value
  | .escaped value => return .escaped value
  | .hex digits => return .hex digits
  | .dollar value tag => return .dollar value tag
  | .placeholder text => return .placeholder text
  | .mark mark =>
    if mark = ":" ∨ mark = "@" then
      match (← next).token with
      | .word text _ => return .placeholder (mark ++ text)
      | .number digits false => return .placeholder (mark ++ digits)
      | _ => unexpected
    else unexpected
  | _ => unexpected

def castOf (form : CastForm) : Parser Expr :=
  inParens do
    let e ← expression sub
    expectKeyword "AS"
    let type ← typeName
    let format ← do
      if ← takeKeyword "FORMAT" then
        let value ← literal
        if ← takeKeywords ["AT", "TIME", "ZONE"] then
          let zone ← literal
          pure (" FORMAT " ++ value.print ++ " AT TIME ZONE " ++ zone.print)
        else pure (" FORMAT " ++ value.print)
      else pure ""
    return .cast form e type.text format

/-- `CEIL` and `FLOOR` are no calls: a unit or a number of places may follow the operand. -/
def rounding (word : String) : Parser Expr :=
  inParens do
    let e ← expression sub
    if ← takeKeyword "TO" then
      let unit ← expectOneOf timeFields
      return phrase [.text (word ++ "("), .expr e, .text (" TO " ++ unit ++ ")")]
    else if ← takeMark "," then
      match ← literal with
      | .number digits long =>
        let places := Literal.print (.number digits long)
        return phrase [.text (word ++ "("), .expr e, .text (", " ++ places ++ ")")]
      | _ => unexpected
    else return phrase [.text (word ++ "("), .expr e, .text ")"]

def position (interval : Parser Expr) (name : Ident) : Parser Expr := do
  let standard ← attempt (inParens do
    let part ← sub.expr precedence.comparison
    expectKeyword "IN"
    let whole ← expression sub
    return phrase [.text "POSITION(", .expr part, .text " IN ", .expr whole, .text ")"])
  match standard with
  | some e => return e
  | none => callOf sub interval [name]

def extract : Parser Expr :=
  inParens do
    let unit ← expectOneOf timeFields
    expectKeyword "FROM"
    let e ← expression sub
    return phrase [.text ("EXTRACT(" ++ unit ++ " FROM "), .expr e, .text ")"]

def substring : Parser Expr :=
  inParens do
    let e ← expression sub
    let commas ← takeMark ","
    let start ← do
      if commas then some <$> expression sub else afterKeywords ["FROM"] (expression sub)
    let count ← do
      if ← takeKeyword "FOR" then some <$> expression sub
      else if ← takeMark "," then some <$> expression sub
      else pure none
    return .substring e start count commas

def overlay : Parser Expr :=
  inParens do
    let e ← expression sub
    expectKeyword "PLACING"
    let what ← expression sub
    expectKeyword "FROM"
    let start ← expression sub
    let count ← afterKeywords ["FOR"] (expression sub)
    let tail := match count with
      | some n => [Piece.text " FOR ", .expr n, .text ")"]
      | none => [.text ")"]
    return phrase ([.text "OVERLAY(", .expr e, .text " PLACING ", .expr what, .text " FROM ",
      .expr start] ++ tail)

/-- A comma after the only operand is spent. -/
def trim : Parser Expr :=
  inParens do
    let side := match ← takeOneOf ["BOTH", "LEADING", "TRAILING"] with
      | some "BOTH" => some TrimSide.both
      | some "LEADING" => some TrimSide.leading
      | some _ => some TrimSide.trailing
      | none => none
    let e ← expression sub
    if ← takeKeyword "FROM" then return .trim side (some e) (← expression sub)
    else
      let _ ← takeMark ","
      return .trim side none e

def convert : Parser Expr :=
  inParens do
    let e ← expression sub
    if ← takeKeyword "USING" then
      let set ← path
      return phrase [.text "CONVERT(", .expr e, .text (" USING " ++ set.print ++ ")")]
    expectMark ","
    let type ← typeName
    let set ← afterKeywords ["CHARACTER", "SET"] path
    return phrase [.text "CONVERT(", .expr e,
      .text (", " ++ type.text ++ clause "CHARACTER SET" (set.map Path.print) ++ ")")]

/-- One number, or two if `pair`, in parentheses after a space. -/
def precisionOf (pair : Bool) : Parser String := do
  if ← atMark "(" then
    inParens do
      let n ← wholeNumber
      if pair then
        if ← takeMark "," then
          let m ← wholeNumber
          return s!" ({n}, {m})"
      return s!" ({n})"
  else return ""

/-- The value and the unit of an interval; the value is a primary. -/
def intervalOf (primary : Parser Expr) : Parser Expr := do
  let value ← primary
  let unit ← takeOneOf intervalUnits
  let first := match unit with
    | some word => " " ++ word
    | none => ""
  let seconds := unit = some "SECOND"
  let first := first ++ (← precisionOf seconds)
  let last ← do
    if seconds then pure ""
    else if ← takeKeyword "TO" then
      let word ← expectOneOf timeFields
      let places ← if word = "SECOND" then precisionOf false else pure ""
      pure (" TO " ++ word ++ places)
    else pure ""
  return phrase [.text "INTERVAL ", .expr value, .text (first ++ last)]

def existsOf (negated : Bool) : Parser Expr :=
  return .existsRow negated (← inParens sub.query)

/-- A name, a path or a call. -/
def named (interval : Parser Expr) (first : Ident) : Parser Expr := do
  let rest ← many do if ← takeMark "." then some <$> identifier else return none
  if ← atMark "(" then callOf sub interval (first :: rest)
  else if rest.isEmpty then
    match ← get with
    | ⟨.string value, _⟩ :: after =>
      if Text.hasPrefix first.text "_" then
        set after
        return phrase [.text (first.text ++ " " ++ quoted '\'' value)]
      return .column [first]
    | ⟨.hex digits, _⟩ :: after =>
      if Text.hasPrefix first.text "_" then
        set after
        return phrase [.text (first.text ++ " X'" ++ digits ++ "'")]
      return .column [first]
    | _ => return .column [first]
  else return .column (first :: rest)

/-- What a word in the place of an operand starts. -/
def wordOperand (interval : Parser Expr) (keyword : String) (ident : Ident) : Parser Expr := do
  match keyword with
  | "TRUE" => return .literal (.boolean true)
  | "FALSE" => return .literal (.boolean false)
  | "NULL" => return .literal .null
  | "CURRENT_TIMESTAMP" | "CURRENT_TIME" | "CURRENT_DATE" | "LOCALTIME" | "LOCALTIMESTAMP" =>
    if ← takeMark "(" then return .call (← callArguments sub [ident])
    else return .call ⟨[ident], false, none, [], [], [], none, []⟩
  | "CASE" => choice sub
  | "CONVERT" => convert sub
  | "CAST" => castOf sub .cast
  | "TRY_CAST" => castOf sub .tryCast
  | "SAFE_CAST" => castOf sub .safeCast
  | "EXISTS" => existsOf sub false
  | "EXTRACT" => extract sub
  | "CEIL" | "FLOOR" => rounding sub keyword
  | "POSITION" =>
    if ← atMark "(" then position sub interval ident else named sub interval ident
  | "SUBSTRING" => substring sub
  | "OVERLAY" => overlay sub
  | "TRIM" => trim sub
  | "INTERVAL" => interval
  | "ARRAY" =>
    if ← atMark "(" then
      return .arrayOf ident (← inParens sub.query)
    else named sub interval ident
  | "NOT" =>
    if ← takeKeyword "EXISTS" then existsOf sub true
    else return .unary .not (← sub.expr precedence.not)
  | _ => named sub interval ident

/-- A subquery, an expression in parentheses or a tuple, after the opening parenthesis. -/
def parenthesised : Parser Expr := do
  let e ← do
    if ← atQuery then Expr.subquery <$> sub.query
    else
      match ← separated (expression sub) with
      | [e] => pure (.nested e)
      | list => pure (.tuple list)
  expectMark ")"
  if ← takeMark "." then
    match (← next).word? with
    | some key => return phrase [.expr e, .text ("." ++ key.print)]
    | none => unexpected
  else return e

/-- An operand with the collation after it. -/
def operand (interval : Parser Expr) : Parser Expr := do
  let symbol ← next
  let e ← do
    match symbol.token with
    | .word text quote => wordOperand sub interval symbol.keyword ⟨text, quote⟩
    | .mark "-" => Expr.unary .minus <$> sub.expr precedence.product
    | .mark "+" => Expr.unary .plus <$> sub.expr precedence.product
    | .mark "(" => parenthesised sub
    | .number digits long => pure (.literal (.number digits long))
    | .string value => pure (.literal (.string value))
    | .national value => pure (.literal (.national value))
    | .hex digits => pure (.literal (.hex digits))
    | .dollar value tag => pure (.literal (.dollar value tag))
    | .placeholder text => pure (.literal (.placeholder text))
    | .mark ":" | .mark "@" => do
      modify (symbol :: ·)
      Expr.literal <$> literal
    | _ => unexpected
  match ← afterKeywords ["COLLATE"] path with
  | some collation => return .collate e collation
  | none => return e

/-- A standard type and a string, or an interval. -/
def typedLiteral (interval : Parser Expr) : Parser (Option Expr) :=
  attempt do
    match ← typeName with
    | .interval => interval
    | .standard text =>
      let value ← literalString
      return phrase [.text (text ++ " " ++ quoted '\'' value)]
    | .custom _ => unexpected

/-- What operators apply to. Only intervals nest here, so the number of symbols bounds the
nesting. -/
def primaryFor : Nat → Parser Expr
  | 0 => unexpected
  | n + 1 => do
    let interval := intervalOf (primaryFor n)
    match ← typedLiteral interval with
    | some e => return e
    | none => operand sub interval

def primary : Parser Expr := do
  primaryFor sub ((← get).length + 1)

def escape : Parser (Option String) :=
  afterKeywords ["ESCAPE"] literalString

def isSuffix (e : Expr) : Parser Expr := do
  let negated ← takeKeyword "NOT"
  if ← takeKeyword "NULL" then return .is .null negated e
  else if ← takeKeyword "TRUE" then return .is .truth negated e
  else if ← takeKeyword "FALSE" then return .is .falsity negated e
  else if ← takeKeyword "UNKNOWN" then return .is .unknown negated e
  else
    expectKeywords ["DISTINCT", "FROM"]
    return .isDistinct negated e (← expression sub)

def inSuffix (negated : Bool) (e : Expr) : Parser Expr := do
  if ← takeKeyword "UNNEST" then
    let list ← inParens (expression sub)
    return phrase [.expr e, .text (" " ++ wordIf negated "NOT" ++ "IN UNNEST("), .expr list,
      .text ")"]
  inParens do
    if ← atQuery then return .inQuery negated e (← sub.query)
    else if ← atMark ")" then return .inList negated e []
    else return .inList negated e (← separated (expression sub))

/-- `BETWEEN`, `IN` and the kinds of matching, perhaps negated. -/
def predicateSuffix (e : Expr) : Parser Expr := do
  let negated ← takeKeyword "NOT"
  let pattern : Parser Expr := sub.expr precedence.like
  match ← takeOneOf ["REGEXP", "RLIKE", "IN", "BETWEEN", "LIKE", "ILIKE", "SIMILAR"] with
  | some "REGEXP" =>
    let _ ← takeKeyword "RLIKE"
    return .like .regexp negated false e (← pattern) none
  | some "RLIKE" => return .like .rlike negated false e (← pattern) none
  | some "IN" => inSuffix sub negated e
  | some "BETWEEN" =>
    let low ← sub.expr precedence.comparison
    expectKeyword "AND"
    return .between negated e low (← sub.expr precedence.comparison)
  | some "LIKE" =>
    let any ← takeKeyword "ANY"
    let right ← pattern
    return .like .like negated any e right (← escape)
  | some "ILIKE" =>
    let any ← takeKeyword "ANY"
    let right ← pattern
    return .like .ilike negated any e right (← escape)
  | some _ =>
    expectKeyword "TO"
    let right ← pattern
    return .like .similarTo negated false e right (← escape)
  | none => unexpected

/-- An operator with its right side, which may be compared with all or some of a set. -/
def binarySuffix (op : BinaryOp) (level : Nat) (e : Expr) : Parser Expr := do
  match ← takeOneOf ["ANY", "ALL", "SOME"] with
  | none => return .binary op e (← sub.expr level)
  | some word =>
    let symbols ← get
    expectMark "("
    let right ← do
      if ← atQuery then
        set symbols
        sub.expr level
      else
        let right ← sub.expr level
        expectMark ")"
        pure right
    if [.equal, .notEqual, .less, .lessEqual, .greater, .greaterEqual].contains op then
      let start := " " ++ op.print ++ " " ++ word
      match right with
      | .subquery _ => return phrase [.expr e, .text start, .expr right]
      | _ => return phrase [.expr e, .text (start ++ "("), .expr right, .text ")"]
    else unexpected

/-- One more operator after `e`, if it binds tighter than `level`. -/
def suffix (level : Nat) (e : Expr) : Parser (Option Expr) := do
  let symbols ← get
  let own := nextPrecedence symbols
  if own ≤ level then return none
  match symbols with
  | [] => return none
  | symbol :: rest =>
    match operator? symbol with
    | some op =>
      set rest
      some <$> binarySuffix sub op own e
    | none =>
      if symbol.isMark "::" then
        set rest
        let type ← typeName
        return some (.cast .colons e type.text "")
      if symbol.isMark "!" then
        set rest
        return some (.factorial e)
      match symbol.keyword with
      | "IS" =>
        set rest
        some <$> isSuffix sub e
      | "AT" =>
        set rest
        expectKeywords ["TIME", "ZONE"]
        let zone ← sub.expr own
        return some (phrase [.expr e, .text " AT TIME ZONE ", .expr zone])
      | "NOT" | "IN" | "BETWEEN" | "LIKE" | "ILIKE" | "SIMILAR" | "REGEXP" | "RLIKE" =>
        some <$> predicateSuffix sub e
      | _ => unexpected

/-- An expression whose operators bind tighter than `level`. -/
def expressionAbove (level : Nat) : Parser Expr := do
  iterate (suffix sub level) (← primary sub)

end

end TypedRows.Sql.Grammar
