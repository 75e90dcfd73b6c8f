import TypedRows.OrderedMap
import TypedRows.Sql.Statement

/-!
Named parameters: the types they are cast to, and the columns they are compared with or assigned
to.
-/

namespace TypedRows.Sql

/-- A column with the table it is qualified by. Further qualifiers are dropped. -/
structure ColumnRef where
  table : Option String
  column : String
  deriving DecidableEq

inductive Hint where
  | column (ref : ColumnRef) (assigned : Bool)
  | limit
  deriving DecidableEq

def ColumnRef.ofPath? (path : Path) : Option ColumnRef :=
  match path.reverse with
  | column :: table :: _ => some ⟨some table.text, column.text⟩
  | [column] => some ⟨none, column.text⟩
  | [] => none

namespace Expr

def columnRef? : Expr → Option ColumnRef
  | .column path => ColumnRef.ofPath? path
  | _ => none

/-- The name of a named parameter, without its marker. -/
def parameter? : Expr → Option String
  | .literal (.placeholder text) =>
    match text.toList with
    -- a positional parameter has no name
    | '?' :: _ => none
    | _ :: name => some (String.ofList name)
    | [] => none
  | .nested e => e.parameter?
  | .collate e _ => e.parameter?
  | _ => none

end Expr

def Item.expr? : Item → Option Expr
  | .expr _ e => some e
  | .star _ _ => none

mutual

/-- The column that is compared, seen through collations, trimming and a change of case. -/
def Expr.comparedColumn? : Expr → Option ColumnRef
  | .column path => ColumnRef.ofPath? path
  | .nested e => e.comparedColumn?
  | .collate e _ => e.comparedColumn?
  | .trim _ _ e => e.comparedColumn?
  | .call call => call.comparedColumn?
  | _ => none

def Call.comparedColumn? : Call → Option ColumnRef
  | ⟨name, _, _, arguments, _, _, _, _⟩ =>
    if ["LOWER", "UPPER", "TRIM"].contains (Text.foldUpper name.base) then
      soleColumn? arguments
    else none

/-- The column compared by the only argument that is an expression. -/
def soleColumn? : List Item → Option ColumnRef
  | [] => none
  | item :: rest =>
    match item with
    | .star _ _ => soleColumn? rest
    | .expr _ e => if (rest.filterMap Item.expr?).isEmpty then e.comparedColumn? else none

end

def BinaryOp.isComparison : BinaryOp → Bool
  | equal | notEqual | less | lessEqual | greater | greaterEqual | nullSafeEqual => true
  | _ => false

namespace Hint

/-- The parameter in `value`, if it is one, is assigned to `column`. -/
def assigned (column : String) (value : Expr) : List (String × Hint) :=
  match value.parameter? with
  | some name => [(name, .column ⟨none, column⟩ true)]
  | none => []

def compared (e value : Expr) : List (String × Hint) :=
  match e.comparedColumn?, value.parameter? with
  | some ref, some name => [(name, .column ref false)]
  | _, _ => []

def ofExpr : Expr → List (String × Hint)
  | .binary op left right =>
    if op.isComparison then compared left right ++ compared right left else []
  | .isDistinct _ left right => compared left right ++ compared right left
  | .like op _ _ e pattern _ => if op = .similarTo then [] else compared e pattern
  | .between _ e low high => compared e low ++ compared e high
  | .inList _ e list => list.flatMap (compared e)
  | _ => []

def ofVisit : Visit → List (String × Hint)
  | .expr e => ofExpr e
  | .relation _ => []

def ofAssignment (assignment : Assignment) : List (String × Hint) :=
  match assignment.target, assignment.value with
  | .column path, value => assigned path.base value
  | .tuple paths, .tuple values =>
    if paths.length = values.length then
      (paths.zip values).flatMap fun (path, value) => assigned path.base value
    else []
  | .tuple _, _ => []

/-- The values of the rows go to the columns of the same place. -/
def ofInsert (insert : Insert) : List (String × Hint) :=
  (match insert.source with
    | some ⟨_, _, .values _ rows, _, _, _, _⟩ =>
      rows.flatMap fun row =>
        (insert.columns.zip row).flatMap fun (name, value) => assigned name.text value
    | _ => []) ++
  match insert.conflict with
  | .update _ assignments _ => assignments.flatMap ofAssignment
  | .none | .nothing _ | .duplicateKey _ => []

def ofLimits (query : Query) : List (String × Hint) :=
  (query.limit.toList ++ query.offset.toList).flatMap fun e =>
    match e.parameter? with
    | some name => [(name, .limit)]
    | none => []

end Hint

namespace Statement

/-- The type that each parameter is cast to. -/
def casts (statement : Statement) : OrderedMap String String :=
  OrderedMap.empty.putAllNew (statement.visits.filterMap fun
    -- the first cast that is met decides
    | .expr (.cast _ e type _) => e.parameter?.map fun name => (name, type)
    | _ => none)

/-- What each parameter is assigned to or compared with. Assignments come before comparisons, and
limits last. -/
def hints (statement : Statement) : OrderedMap String Hint :=
  OrderedMap.empty.putAllNew
    ((match statement with
      | insert _ change => Hint.ofInsert change
      | update _ _ change => change.assignments.flatMap Hint.ofAssignment
      | _ => []) ++
    statement.visits.flatMap Hint.ofVisit ++
    (match statement with
      | select query => Hint.ofLimits query
      | _ => []))

end Statement

end TypedRows.Sql
