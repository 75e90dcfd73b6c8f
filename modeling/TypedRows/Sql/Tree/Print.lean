import TypedRows.Sql.Tree

/-!
The text of syntax trees: single spaces, keywords in upper case, names and quotes as written.
-/

namespace TypedRows.Sql

def commaSeparated (texts : List String) : String := String.intercalate ", " texts

/-- `keyword text` after a space, or nothing. -/
def clause (keyword : String) (text : Option String) : String :=
  match text with
  | some t => " " ++ keyword ++ " " ++ t
  | none => ""

/-- The keyword with a space after it if it applies. -/
def wordIf (applies : Bool) (word : String) : String :=
  if applies then word ++ " " else ""

/-- Doubles the quotes in a text. A quote after a backslash stands as it is, and so do two quotes
in a row. -/
def escapeQuotes (quote : Char) (last : Char) : List Char → List Char
  | [] => []
  | c :: rest =>
    if c = quote then
      if last = '\\' then c :: escapeQuotes quote last rest
      else
        match rest with
        | d :: rest' =>
          if d = quote then c :: d :: escapeQuotes quote c rest'
          else c :: c :: escapeQuotes quote c (d :: rest')
        | [] => [c, c]
    else c :: escapeQuotes quote c rest

def quoted (quote : Char) (s : String) : String :=
  String.ofList (quote :: escapeQuotes quote '\x00' s.toList ++ [quote])

namespace Ident

def print (ident : Ident) : String :=
  match ident.quote with
  | none => ident.text
  | some .bracket => "[" ++ ident.text ++ "]"
  | some q => quoted q.opening ident.text

end Ident

def Path.print (path : Path) : String :=
  String.intercalate "." (path.map Ident.print)

def printNames (names : List Ident) : String :=
  commaSeparated (names.map Ident.print)

def Alias.print (a : Alias) : String :=
  a.name.print ++
    if a.columns.isEmpty then "" else " (" ++ printNames a.columns ++ ")"

def printAlias (aliased : Option Alias) : String :=
  clause "AS" (aliased.map Alias.print)

/-- A character of a string with backslash escapes. -/
def escapeChar (c : Char) : List Char :=
  match c with
  | '\'' => ['\\', '\'']
  | '\\' => ['\\', '\\']
  | '\n' => ['\\', 'n']
  | '\t' => ['\\', 't']
  | '\r' => ['\\', 'r']
  | _ => [c]

def Literal.print : Literal → String
  | number digits long => if long then digits ++ "L" else digits
  | string value => quoted '\'' value
  | national value => "N'" ++ value ++ "'"
  | escaped value => "E'" ++ String.ofList (value.toList.flatMap escapeChar) ++ "'"
  | quotedName text => quoted '"' text
  | hex digits => "X'" ++ digits ++ "'"
  | dollar value none => "$$" ++ value ++ "$$"
  | dollar value (some tag) => "$" ++ tag ++ "$" ++ value ++ "$" ++ tag ++ "$"
  | boolean value => if value then "true" else "false"
  | null => "NULL"
  | placeholder text => text

/-- The operator with the space that may follow it. -/
def UnaryOp.print : UnaryOp → String
  | not => "NOT "
  | plus => "+"
  | minus => "-"

def BinaryOp.print : BinaryOp → String
  | equal => "="
  | notEqual => "<>"
  | less => "<"
  | lessEqual => "<="
  | greater => ">"
  | greaterEqual => ">="
  | nullSafeEqual => "<=>"
  | and => "AND"
  | or => "OR"
  | add => "+"
  | subtract => "-"
  | multiply => "*"
  | divide => "/"
  | modulo => "%"
  | concat => "||"
  | bitAnd => "&"
  | bitOr => "|"
  | bitXor => "^"
  | arrow => "->"
  | longArrow => "->>"
  | named text => text

def IsTest.print : IsTest → String
  | null => "NULL"
  | truth => "TRUE"
  | falsity => "FALSE"
  | unknown => "UNKNOWN"

def MatchOp.print : MatchOp → String
  | like => "LIKE"
  | ilike => "ILIKE"
  | similarTo => "SIMILAR TO"
  | rlike => "RLIKE"
  | regexp => "REGEXP"

def CastForm.print : CastForm → String
  | cast | colons => "CAST"
  | tryCast => "TRY_CAST"
  | safeCast => "SAFE_CAST"

def TrimSide.print : TrimSide → String
  | both => "BOTH"
  | leading => "LEADING"
  | trailing => "TRAILING"

def SetOp.print : SetOp → String
  | union => "UNION"
  | except => "EXCEPT"
  | intersect => "INTERSECT"

def Link.print : Link → String
  | comma => ","
  | inner => "JOIN"
  | left => "LEFT JOIN"
  | right => "RIGHT JOIN"
  | full => "FULL JOIN"
  | cross => "CROSS JOIN"
  | leftSemi => "LEFT SEMI JOIN"
  | rightSemi => "RIGHT SEMI JOIN"
  | leftAnti => "LEFT ANTI JOIN"
  | rightAnti => "RIGHT ANTI JOIN"
  | crossApply => "CROSS APPLY"
  | outerApply => "OUTER APPLY"
  | asOf => "ASOF JOIN"

def Target.print : Target → String
  | column path => path.print
  | tuple paths => "(" ++ commaSeparated (paths.map Path.print) ++ ")"

/-- `ANY` before a pattern. No space parts it from the pattern of an `ILIKE` with an escape. -/
def anyWord (op : MatchOp) (escape : Option String) : String :=
  if op = .ilike ∧ escape.isSome then "ANY" else "ANY "

def printHints (hints : List String) : String :=
  if hints.isEmpty then "" else " WITH (" ++ commaSeparated hints ++ ")"

mutual

def Expr.print : Expr → String
  | .column path => path.print
  | .literal value => value.print
  | .nested e => "(" ++ e.print ++ ")"
  | .unary op e => op.print ++ e.print
  | .factorial e => e.print ++ "!"
  | .binary op left right => left.print ++ " " ++ op.print ++ " " ++ right.print
  | .is test negated e => e.print ++ " IS " ++ wordIf negated "NOT" ++ test.print
  | .isDistinct negated left right =>
    left.print ++ " IS " ++ wordIf negated "NOT" ++ "DISTINCT FROM " ++ right.print
  | .like op negated any e pattern escape =>
    e.print ++ " " ++ wordIf negated "NOT" ++ op.print ++ " " ++
      (if any then anyWord op escape else "") ++ pattern.print ++ clause "ESCAPE" (escape.map fun c => "'" ++ c ++ "'")
  | .between negated e low high =>
    e.print ++ " " ++ wordIf negated "NOT" ++ "BETWEEN " ++ low.print ++ " AND " ++ high.print
  | .inList negated e list =>
    e.print ++ " " ++ wordIf negated "NOT" ++ "IN (" ++ commaSeparated (printExprs list) ++ ")"
  | .inQuery negated e query =>
    e.print ++ " " ++ wordIf negated "NOT" ++ "IN (" ++ query.print ++ ")"
  | .existsRow negated query => wordIf negated "NOT" ++ "EXISTS (" ++ query.print ++ ")"
  | .subquery query => "(" ++ query.print ++ ")"
  | .call call => call.print
  | .arrayOf name query => name.print ++ "(" ++ query.print ++ ")"
  | .choose operand branches otherwise =>
    "CASE" ++
      (match operand with
        | some e => " " ++ e.print
        | none => "") ++
      printBranches branches ++
      (match otherwise with
        | some e => " ELSE " ++ e.print
        | none => "") ++
      " END"
  | .cast .colons e type _ => e.print ++ "::" ++ type
  | .cast form e type format => form.print ++ "(" ++ e.print ++ " AS " ++ type ++ format ++ ")"
  | .collate e collation => e.print ++ " COLLATE " ++ collation.print
  | .trim side what e =>
    "TRIM(" ++
      (match side with
        | some s => s.print ++ " "
        | none => "") ++
      (match what with
        | some w => w.print ++ " FROM "
        | none => "") ++
      e.print ++ ")"
  | .substring e start count commas =>
    "SUBSTRING(" ++ e.print ++
      (match start with
        | some s => (if commas then ", " else " FROM ") ++ s.print
        | none => "") ++
      (match count with
        | some n => (if commas then ", " else " FOR ") ++ n.print
        | none => "") ++
      ")"
  | .tuple list => "(" ++ commaSeparated (printExprs list) ++ ")"
  | .phrase pieces => printPieces pieces

def printExprs : List Expr → List String
  | [] => []
  | e :: rest => e.print :: printExprs rest

def Branch.print : Branch → String
  | ⟨condition, result⟩ => " WHEN " ++ condition.print ++ " THEN " ++ result.print

def printBranches : List Branch → String
  | [] => ""
  | branch :: rest => branch.print ++ printBranches rest

def Piece.print : Piece → String
  | .text text => text
  | .expr e => e.print
  | .query query => query.print

def printPieces : List Piece → String
  | [] => ""
  | piece :: rest => piece.print ++ printPieces rest

def Call.print : Call → String
  | ⟨name, parentheses, treatment, arguments, clauses, group, filter, window⟩ =>
    name.print ++
      (if parentheses then
        "(" ++ (match treatment with
          | some word => word ++ " "
          | none => "") ++
        commaSeparated (printArguments arguments) ++ printPieces clauses ++ ")"
      else "") ++
      printPieces group ++
      (match filter with
        | some e => " FILTER (WHERE " ++ e.print ++ ")"
        | none => "") ++
      printPieces window

def Item.printArgument : Item → String
  | .expr label e =>
    (match label with
      | some name => name.print ++ " => "
      | none => "") ++ e.print
  | .star label path =>
    (match label with
      | some name => name.print ++ " => "
      | none => "") ++ (if path.isEmpty then "*" else path.print ++ ".*")

def printArguments : List Item → List String
  | [] => []
  | item :: rest => item.printArgument :: printArguments rest

def Item.print : Item → String
  | .expr label e => e.print ++ clause "AS" (label.map Ident.print)
  | .star _ path => if path.isEmpty then "*" else path.print ++ ".*"

def printItems : List Item → List String
  | [] => []
  | item :: rest => item.print :: printItems rest

def Query.print : Query → String
  | ⟨recursive, ctes, body, order, limit, offset, rest⟩ =>
    (match ctes with
      | [] => ""
      | _ => "WITH " ++ wordIf recursive "RECURSIVE" ++ commaSeparated (printCtes ctes) ++ " ") ++
      body.print ++
      (match order with
        | [] => ""
        | _ => " ORDER BY " ++ commaSeparated (printKeys order)) ++
      (match limit with
        | some e => " LIMIT " ++ e.print
        | none => "") ++
      (match offset with
        | some e => " OFFSET " ++ e.print
        | none => "") ++
      printPieces rest

def Cte.print : Cte → String
  | ⟨name, columns, query, source⟩ =>
    (Alias.print ⟨name, columns⟩) ++ " AS (" ++ query.print ++ ")" ++
      clause "FROM" (source.map Ident.print)

def printCtes : List Cte → List String
  | [] => []
  | cte :: rest => cte.print :: printCtes rest

def SortKey.print : SortKey → String
  | ⟨e, direction⟩ => e.print ++ direction

def printKeys : List SortKey → List String
  | [] => []
  | key :: rest => key.print :: printKeys rest

def Body.print : Body → String
  | .select select => select.print
  | .query query => "(" ++ query.print ++ ")"
  | .compound op quantifier left right =>
    left.print ++ " " ++ op.print ++ quantifier ++ " " ++ right.print
  | .values explicitRow rows => "VALUES " ++ commaSeparated (printRows explicitRow rows)
  | .table path => "TABLE " ++ String.intercalate "." path
  | .insert insert => insert.print
  | .update update => update.print
  | .store lead query => lead ++ " " ++ query.print

def printRows (explicitRow : Bool) : List (List Expr) → List String
  | [] => []
  | row :: rest =>
    ((if explicitRow then "ROW(" else "(") ++ commaSeparated (printExprs row) ++ ")") ::
      printRows explicitRow rest

def Select.print : Select → String
  | ⟨lead, items, into, sources, lateral, condition, groupByAll, groupBy, spread, having,
      windows⟩ =>
    "SELECT" ++ printPieces lead ++ " " ++ commaSeparated (printItems items) ++ into ++
      (match sources with
        | [] => ""
        | _ => " FROM " ++ printEntries true sources) ++
      printPieces lateral ++
      (match condition with
        | some e => " WHERE " ++ e.print
        | none => "") ++
      (if groupByAll then " GROUP BY ALL"
      else match groupBy with
        | [] => ""
        | _ => " GROUP BY " ++ commaSeparated (printExprs groupBy)) ++
      printPieces spread ++
      (match having with
        | some e => " HAVING " ++ e.print
        | none => "") ++
      printPieces windows

/-- The entry with what links it to those before; the first one has no link. -/
def Entry.print (first : Bool) : Entry → String
  | ⟨global, link, factor, nearest, constraint⟩ =>
    (if first then ""
    else if link = .comma then ", "
    else (if global then " GLOBAL" else "") ++ " " ++
      (match constraint with
        | .natural => "NATURAL "
        | _ => "") ++
      link.print ++ " ") ++
    factor.print ++
    (match nearest with
      | some e => " MATCH_CONDITION (" ++ e.print ++ ")"
      | none => "") ++
    (match constraint with
      | .condition e => " ON " ++ e.print
      | .columns names => " USING(" ++ printNames names ++ ")"
      | .none | .natural => "")

def printEntries (first : Bool) : List Entry → String
  | [] => ""
  | entry :: rest => entry.print first ++ printEntries false rest

def Factor.print : Factor → String
  | .table name ordinality aliased hints =>
    name.print ++ (if ordinality then " WITH ORDINALITY" else "") ++ printAlias aliased ++
      printHints (printExprs hints)
  | .call lateral name arguments ordinality aliased hints =>
    wordIf lateral "LATERAL" ++ name.print ++ "(" ++ commaSeparated (printArguments arguments) ++
      ")" ++ (if ordinality then " WITH ORDINALITY" else "") ++ printAlias aliased ++
      printHints (printExprs hints)
  | .derived lateral query aliased =>
    wordIf lateral "LATERAL" ++ "(" ++ query.print ++ ")" ++ printAlias aliased
  | .nested first joins aliased =>
    "(" ++ first.print ++ printEntries false joins ++ ")" ++ printAlias aliased
  | .tableOf e aliased => "TABLE(" ++ e.print ++ ")" ++ printAlias aliased
  | .pivot factor pieces => factor.print ++ printPieces pieces
  | .phrase pieces => printPieces pieces

def Insert.print : Insert → String
  | ⟨lead, table, columns, partition, source, conflict, returning⟩ =>
    lead ++ " " ++ table.print ++ " " ++
      (if columns.isEmpty then "" else "(" ++ printNames columns ++ ") ") ++
      printPieces partition ++
      (match source with
        | some query => query.print
        | none => if columns.isEmpty then "DEFAULT VALUES" else "") ++
      conflict.print ++
      (match returning with
        | [] => ""
        | _ => " RETURNING " ++ commaSeparated (printItems returning))

def Conflict.print : Conflict → String
  | .none => ""
  | .nothing target => " ON CONFLICT" ++ target ++ " DO NOTHING"
  | .update target assignments condition =>
    " ON CONFLICT" ++ target ++ " DO UPDATE SET " ++
      commaSeparated (printAssignments assignments) ++
      (match condition with
        | some e => " WHERE " ++ e.print
        | none => "")
  | .duplicateKey assignments =>
    " ON DUPLICATE KEY UPDATE " ++ commaSeparated (printAssignments assignments)

def Update.print : Update → String
  | ⟨table, assignments, sources, condition, returning⟩ =>
    "UPDATE " ++ printEntries true table ++ " SET " ++
      commaSeparated (printAssignments assignments) ++
      (match sources with
        | [] => ""
        | _ => " FROM " ++ printEntries true sources) ++
      (match condition with
        | some e => " WHERE " ++ e.print
        | none => "") ++
      (match returning with
        | [] => ""
        | _ => " RETURNING " ++ commaSeparated (printItems returning))

def Assignment.print : Assignment → String
  | ⟨target, value⟩ => target.print ++ " = " ++ value.print

def printAssignments : List Assignment → List String
  | [] => []
  | assignment :: rest => assignment.print :: printAssignments rest

end

end TypedRows.Sql
