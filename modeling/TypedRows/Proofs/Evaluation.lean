import TypedRows.Schema.Resolve

/-! The values of expressions, with SQL's rules for null.
Only what null does is fixed here. What an operator gives for other values is left to an engine,
and it may depend on the whole expression, since affinities and collations do. -/

namespace TypedRows

open Sql

/-- The operators on values that are not null. -/
structure Engine (V : Type) where
  literal : Literal → V
  /-- An operator or function that is null only if an operand is. -/
  strict : Expr → List V → V
  /-- A quotient or remainder; none for division by zero. -/
  quotient : Expr → V → V → Option V
  truth : V → Bool
  ofTruth : Bool → V
  equal : Expr → V → V → Bool
  atMost : Expr → V → V → Bool

/-- What an expression reads; a value that is none is null. -/
structure Reading (V : Type) where
  column : ColumnRef → Option V
  parameter : String → Option V
  /-- The first column of the rows of a subquery. -/
  rows : Query → List (Option V)
  /-- The values of forms that are not analysed. -/
  other : Expr → Option V

/-- Conjunction of truth values, of which none is unknown. -/
def bothTrue : Option Bool → Option Bool → Option Bool
  | some false, _ | _, some false => some false
  | some true, some true => some true
  | _, _ => none

def eitherTrue : Option Bool → Option Bool → Option Bool
  | some true, _ | _, some true => some true
  | some false, some false => some false
  | _, _ => none

/-- The values of operands none of which is null. -/
def allValues {V : Type} : List (Option V) → Option (List V)
  | [] => some []
  | none :: _ => none
  | some v :: rest => (allValues rest).map (v :: ·)

namespace Engine

variable {V : Type} (m : Engine V)

def apply (e : Expr) (operands : List (Option V)) : Option V :=
  (allValues operands).map (m.strict e)

def divide (e : Expr) : Option V → Option V → Option V
  | some a, some b => m.quotient e a b
  | _, _ => none

def flag (negated : Bool) (truth : Option Bool) : Option V :=
  truth.map fun b => m.ofTruth (b != negated)

/-- Whether two values are the same, nulls included. -/
def same (e : Expr) : Option V → Option V → Bool
  | some a, some b => m.equal e a b
  | none, none => true
  | _, _ => false

def notAbove (e : Expr) : Option V → Option V → Option Bool
  | some a, some b => some (m.atMost e a b)
  | _, _ => none

/-- Whether the value is in the set. It is in no empty set, even if it is null. -/
def isIn (e : Expr) (value : Option V) (set : List (Option V)) : Option Bool :=
  if set.isEmpty then some false
  else
    match value with
    | none => none
    | some v =>
      if set.any fun w => w.any (m.equal e v) then some true
      else if set.any Option.isNone then none
      else some false

def test (kind : IsTest) (value : Option V) : Bool :=
  match kind with
  | .null | .unknown => value.isNone
  | .truth => value.any m.truth
  | .falsity => value.any fun v => !m.truth v

/-- Whether a branch is taken: its condition holds, or it equals the operand. -/
def takes (e : Expr) (operand : Option (Option V)) (condition : Option V) : Bool :=
  match operand, condition with
  | none, some c => m.truth c
  | some (some a), some c => m.equal e a c
  | _, _ => false

/-- The result of the first branch taken. -/
def choose (e : Expr) (operand : Option (Option V)) (otherwise : Option V) :
    List (Option V × Option V) → Option V
  | [] => otherwise
  | (condition, result) :: rest =>
    if m.takes e operand condition then result else choose e operand otherwise rest

/-- Conditions each before its result, and perhaps a last result alone. -/
def iif : List (Option V) → Option V
  | [] => none
  | [result] => result
  | condition :: result :: rest => if condition.any m.truth then result else iif rest

def nullIf (e : Expr) : List (Option V) → Option V
  | some a :: some b :: _ => if m.equal e a b then none else some a
  | a :: _ => a
  | [] => none

def binary (op : BinaryOp) (e : Expr) (left right other : Option V) : Option V :=
  match op with
  | .and => m.flag false (bothTrue (left.map m.truth) (right.map m.truth))
  | .or => m.flag false (eitherTrue (left.map m.truth) (right.map m.truth))
  | .nullSafeEqual => some (m.ofTruth (m.same e left right))
  | .divide | .modulo => m.divide e left right
  | .equal | .notEqual | .less | .lessEqual | .greater | .greaterEqual | .add | .subtract
  | .multiply | .concat | .bitAnd | .bitOr => m.apply e [left, right]
  | .bitXor | .arrow | .longArrow | .named _ => other

/-- Calls of the functions whose values are known here. -/
def call (name : String) (e : Expr) (args : List (Option V)) (other : Option V) : Option V :=
  if name = "COALESCE" ∨ name = "IFNULL" then args.findSome? id
  else if name = "NULLIF" then m.nullIf e args
  else if name = "IIF" then m.iif args
  else if name = "LOWER" ∨ name = "UPPER" ∨ name = "LENGTH" then m.apply e args
  else other

end Engine

mutual

def Sql.Expr.eval {V : Type} (m : Engine V) (r : Reading V) (e : Expr) : Option V :=
  match e with
  | .column path => (ColumnRef.ofPath? path).bind r.column
  | .literal value =>
    match value with
    | .null => none
    | .placeholder text => r.parameter text
    | value => some (m.literal value)
  | .nested inner => inner.eval m r
  | .unary _ inner => m.apply e [inner.eval m r]
  | .factorial inner => m.apply e [inner.eval m r]
  | .binary op left right => m.binary op e (left.eval m r) (right.eval m r) (r.other e)
  | .is kind negated inner => m.flag negated (some (m.test kind (inner.eval m r)))
  | .isDistinct negated left right =>
    m.flag negated (some (!m.same e (left.eval m r) (right.eval m r)))
  | .like _ _ _ inner pattern _ => m.apply e [inner.eval m r, pattern.eval m r]
  | .between negated inner low high =>
    m.flag negated (bothTrue (m.notAbove e (low.eval m r) (inner.eval m r))
      (m.notAbove e (inner.eval m r) (high.eval m r)))
  | .inList negated inner list => m.flag negated (m.isIn e (inner.eval m r) (evalExprs m r list))
  | .inQuery negated inner query => m.flag negated (m.isIn e (inner.eval m r) (r.rows query))
  | .existsRow negated query => m.flag negated (some (!(r.rows query).isEmpty))
  | .subquery query => (r.rows query).head?.join
  | .call call =>
    match call with
    | ⟨name, _, _, arguments, _, _, _, _⟩ =>
      m.call (Text.foldUpper name.base) e (evalItems m r arguments) (r.other e)
  | .choose operand branches otherwise =>
    m.choose e
      (match operand with
        | some x => some (x.eval m r)
        | none => none)
      (match otherwise with
        | some x => x.eval m r
        | none => none)
      (evalBranches m r branches)
  | .cast _ inner _ _ => m.apply e [inner.eval m r]
  | .collate inner _ => inner.eval m r
  | .trim _ what inner =>
    m.apply e
      ((match what with
        | some x => [x.eval m r]
        | none => []) ++ [inner.eval m r])
  | .substring inner start count _ =>
    m.apply e
      (inner.eval m r ::
        ((match start with
          | some x => [x.eval m r]
          | none => []) ++
        (match count with
          | some x => [x.eval m r]
          | none => [])))
  | .arrayOf _ _ | .tuple _ | .phrase _ => r.other e

def evalExprs {V : Type} (m : Engine V) (r : Reading V) (list : List Expr) : List (Option V) :=
  match list with
  | [] => []
  | e :: rest => e.eval m r :: evalExprs m r rest

def evalItems {V : Type} (m : Engine V) (r : Reading V) (items : List Item) : List (Option V) :=
  match items with
  | [] => []
  | .expr _ e :: rest => e.eval m r :: evalItems m r rest
  | .star _ _ :: rest => evalItems m r rest

def evalBranches {V : Type} (m : Engine V) (r : Reading V) (branches : List Branch) :
    List (Option V × Option V) :=
  match branches with
  | [] => []
  | ⟨condition, result⟩ :: rest =>
    (condition.eval m r, result.eval m r) :: evalBranches m r rest

end

end TypedRows
