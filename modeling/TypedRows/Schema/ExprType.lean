import TypedRows.Sql.Tree
import TypedRows.Text.Fold

/-!
The types of expressions, from the types of their parts: the declared type that the value follows,
and whether the value can be null.
-/

namespace TypedRows

open Sql

structure ExprType where
  /-- The type by name, if it is known. -/
  sqlType : Option String
  notNull : Bool
  deriving DecidableEq

/-- How values of a declared type are stored, as far as arithmetic depends on it. -/
inductive Affinity where
  | integer
  | real
  | text
  | other
  deriving DecidableEq

def Affinity.ofType (sqlType : Option String) : Affinity :=
  match sqlType with
  | none => other
  | some t =>
    let upper := Text.foldUpper t
    if Text.contains upper "INT" || Text.hasPrefix upper "BOOL" then integer
    else if ["CHAR", "CLOB", "TEXT"].any (Text.contains upper) then text
    else if ["REAL", "FLOA", "DOUB"].any (Text.contains upper) then real
    else other

namespace ExprType

def named (sqlType : String) (notNull : Bool) : ExprType := ⟨some sqlType, notNull⟩

def unknown : ExprType := ⟨none, false⟩

def nullable (t : ExprType) : ExprType := { t with notNull := false }

def firstKnown (types : List ExprType) : Option String :=
  types.findSome? ExprType.sqlType

def allNotNull (types : List ExprType) : Bool := types.all ExprType.notNull

def ofLiteral : Literal → ExprType
  | .number digits _ =>
    if digits.toList.any fun c => c == '.' || c == 'e' || c == 'E' then named "REAL" true
    else named "INTEGER" true
  | .boolean _ => named "INTEGER" true
  | .hex _ => named "BLOB" true
  | .null | .placeholder _ => unknown
  | .string _ | .national _ | .escaped _ | .quotedName _ | .dollar _ _ => named "TEXT" true

def ofUnary (op : UnaryOp) (t : ExprType) : ExprType :=
  match op with
  | .not => named "INTEGER" t.notNull
  | .plus | .minus => t

def arithmetic (l r : ExprType) : Option String :=
  let la := Affinity.ofType l.sqlType
  let ra := Affinity.ofType r.sqlType
  if la = .real ∨ ra = .real then some "REAL"
  else if la = .integer ∧ ra = .integer then some "INTEGER"
  else l.sqlType.or r.sqlType

/-- Division by zero gives null. The arrows take any value out of a JSON text. -/
def ofBinary (op : BinaryOp) (l r : ExprType) : ExprType :=
  let notNull := l.notNull && r.notNull
  match op with
  | .equal | .notEqual | .less | .lessEqual | .greater | .greaterEqual | .and | .or | .bitAnd
  | .bitOr => named "INTEGER" notNull
  | .nullSafeEqual => named "INTEGER" true
  | .concat => named "TEXT" notNull
  | .add | .subtract | .multiply => ⟨arithmetic l r, notNull⟩
  | .divide | .modulo => ⟨arithmetic l r, false⟩
  | .bitXor | .arrow | .longArrow | .named _ => unknown

/-- `CASE` gives null where no branch applies. -/
def ofChoice (results : List ExprType) (otherwise : Option ExprType) : ExprType :=
  let all := results ++ otherwise.toList
  ⟨firstKnown all, otherwise.isSome && allNotNull all⟩

def ofIs (test : IsTest) : ExprType :=
  match test with
  | .unknown => unknown
  | .null | .truth | .falsity => named "INTEGER" true

/-- The type of a call by the name of the function in upper case. `star` tells that an argument is
a wildcard. -/
def ofCall (name : String) (args : List ExprType) (star : Bool) : ExprType :=
  let strict := allNotNull args
  let first := args.head?.getD unknown
  match name with
  | "COUNT" => named "INTEGER" true
  | "TOTAL" => named "REAL" true
  | "SUM" => named (if Affinity.ofType first.sqlType = .integer then "INTEGER" else "REAL") false
  | "MIN" | "MAX" => if args.length > 1 then ⟨firstKnown args, strict⟩ else first.nullable
  | "AVG" => named "REAL" false
  | "GROUP_CONCAT" | "STRING_AGG" => named "TEXT" false
  | "COALESCE" | "IFNULL" => ⟨firstKnown args, args.any ExprType.notNull⟩
  | "NULLIF" => first.nullable
  | "IIF" =>
    let branches := args.drop 1
    ⟨firstKnown branches, branches.length == 2 && allNotNull branches⟩
  | "LOWER" | "UPPER" | "TRIM" | "LTRIM" | "RTRIM" | "SUBSTR" | "SUBSTRING" | "REPLACE"
  | "PRINTF" | "FORMAT" | "HEX" | "QUOTE" | "CHAR" | "CONCAT" | "CONCAT_WS" | "SOUNDEX" =>
    named "TEXT" strict
  | "TYPEOF" | "SQLITE_VERSION" | "CURRENT_TIMESTAMP" | "CURRENT_DATE" | "CURRENT_TIME" =>
    named "TEXT" true
  | "LENGTH" | "OCTET_LENGTH" | "INSTR" | "UNICODE" | "SIGN" => named "INTEGER" strict
  | "RANDOM" | "CHANGES" | "TOTAL_CHANGES" | "LAST_INSERT_ROWID" | "ROW_NUMBER" | "RANK"
  | "DENSE_RANK" | "NTILE" => named "INTEGER" true
  | "PERCENT_RANK" | "CUME_DIST" => named "REAL" true
  | "ABS" => ⟨first.sqlType.or (some "INTEGER"), strict⟩
  | "ROUND" => named "REAL" strict
  | "RANDOMBLOB" | "ZEROBLOB" => named "BLOB" true
  | "DATE" | "TIME" | "DATETIME" | "STRFTIME" | "TIMEDIFF" => named "TEXT" false
  | "JULIANDAY" => named "REAL" false
  | "UNIXEPOCH" => named "INTEGER" false
  | "JSON" | "JSON_OBJECT" | "JSON_ARRAY" | "JSON_GROUP_ARRAY" | "JSON_GROUP_OBJECT"
  | "JSON_INSERT" | "JSON_REPLACE" | "JSON_SET" | "JSON_REMOVE" | "JSON_PATCH" | "JSON_QUOTE" =>
    named "TEXT" (strict && !star)
  | "JSON_ARRAY_LENGTH" | "JSON_VALID" => named "INTEGER" strict
  | "LAG" | "LEAD" | "FIRST_VALUE" | "LAST_VALUE" | "NTH_VALUE" => first.nullable
  | _ => unknown

end ExprType

end TypedRows
