import TypedRows.Sql.Tree

/-!
What an analysis meets in a tree, from left to right: every expression before its parts, and the
name of every table, view or common table expression that is read.
-/

namespace TypedRows.Sql

inductive Visit where
  | expr (e : Expr)
  | relation (name : String)

namespace Visit

def expr? : Visit → Option Expr
  | expr e => some e
  | relation _ => none

def relation? : Visit → Option String
  | expr _ => none
  | relation name => some name

end Visit

mutual

def Expr.visits : Expr → List Visit
  | e@(.column _) | e@(.literal _) | e@(.phrase _) => [.expr e]
  | e@(.nested inner) => .expr e :: inner.visits
  | e@(.unary _ inner) => .expr e :: inner.visits
  | e@(.factorial inner) => .expr e :: inner.visits
  | e@(.binary _ left right) => .expr e :: (left.visits ++ right.visits)
  | e@(.is _ _ inner) => .expr e :: inner.visits
  | e@(.isDistinct _ left right) => .expr e :: (left.visits ++ right.visits)
  | e@(.like _ _ _ inner pattern _) => .expr e :: (inner.visits ++ pattern.visits)
  | e@(.between _ inner low high) => .expr e :: (inner.visits ++ low.visits ++ high.visits)
  | e@(.inList _ inner list) => .expr e :: (inner.visits ++ visitsOfExprs list)
  | e@(.inQuery _ inner query) => .expr e :: (inner.visits ++ query.visits)
  | e@(.existsRow _ query) => .expr e :: query.visits
  | e@(.subquery query) => .expr e :: query.visits
  | e@(.call call) => .expr e :: call.visits
  | e@(.arrayOf _ query) => .expr e :: query.visits
  | e@(.choose operand branches otherwise) =>
    .expr e ::
      ((match operand with
        | some inner => inner.visits
        | none => []) ++
      visitsOfBranches branches ++
      (match otherwise with
        | some inner => inner.visits
        | none => []))
  | e@(.cast _ inner _ _) => .expr e :: inner.visits
  | e@(.collate inner _) => .expr e :: inner.visits
  | e@(.trim _ _ inner) => .expr e :: inner.visits
  | e@(.substring inner start count _) =>
    .expr e ::
      (inner.visits ++
      (match start with
        | some s => s.visits
        | none => []) ++
      (match count with
        | some n => n.visits
        | none => []))
  | e@(.tuple list) => .expr e :: visitsOfExprs list

def visitsOfExprs : List Expr → List Visit
  | [] => []
  | e :: rest => e.visits ++ visitsOfExprs rest

def Branch.visits : Branch → List Visit
  | ⟨condition, result⟩ => condition.visits ++ result.visits

def visitsOfBranches : List Branch → List Visit
  | [] => []
  | branch :: rest => branch.visits ++ visitsOfBranches rest

def Call.visits : Call → List Visit
  | ⟨_, _, _, arguments, _, _, filter, _⟩ =>
    visitsOfItems arguments ++
      match filter with
      | some e => e.visits
      | none => []

def Item.visits : Item → List Visit
  | .expr _ e => e.visits
  | .star _ _ => []

def visitsOfItems : List Item → List Visit
  | [] => []
  | item :: rest => item.visits ++ visitsOfItems rest

def Query.visits : Query → List Visit
  | ⟨_, ctes, body, order, limit, offset, _⟩ =>
    visitsOfCtes ctes ++ body.visits ++ visitsOfKeys order ++
      (match limit with
        | some e => e.visits
        | none => []) ++
      (match offset with
        | some e => e.visits
        | none => [])

def Cte.visits : Cte → List Visit
  | ⟨_, _, query, _⟩ => query.visits

def visitsOfCtes : List Cte → List Visit
  | [] => []
  | cte :: rest => cte.visits ++ visitsOfCtes rest

def SortKey.visits : SortKey → List Visit
  | ⟨e, _⟩ => e.visits

def visitsOfKeys : List SortKey → List Visit
  | [] => []
  | key :: rest => key.visits ++ visitsOfKeys rest

def Body.visits : Body → List Visit
  | .select select => select.visits
  | .query query => query.visits
  | .compound _ _ left right => left.visits ++ right.visits
  | .values _ rows => visitsOfRows rows
  | .table _ | .insert _ | .update _ | .store _ _ => []

def visitsOfRows : List (List Expr) → List Visit
  | [] => []
  | row :: rest => visitsOfExprs row ++ visitsOfRows rest

def Select.visits : Select → List Visit
  | ⟨_, items, _, sources, _, condition, groupByAll, groupBy, _, having, _⟩ =>
    visitsOfItems items ++ visitsOfEntries sources ++
      (match condition with
        | some e => e.visits
        | none => []) ++
      (if groupByAll then [] else visitsOfExprs groupBy) ++
      (match having with
        | some e => e.visits
        | none => [])

def Entry.visits : Entry → List Visit
  | ⟨_, _, factor, _, constraint⟩ =>
    factor.visits ++
      match constraint with
      | .condition e => e.visits
      | .none | .natural | .columns _ => []

def visitsOfEntries : List Entry → List Visit
  | [] => []
  | entry :: rest => entry.visits ++ visitsOfEntries rest

def Factor.visits : Factor → List Visit
  | .table name _ _ _ => [.relation name.base]
  | .call _ _ arguments _ _ _ => visitsOfItems arguments
  | .derived _ query _ => query.visits
  | .nested first joins _ => first.visits ++ visitsOfEntries joins
  | .tableOf _ _ | .pivot _ _ | .phrase _ => []

end

def Assignment.visits (assignment : Assignment) : List Visit :=
  assignment.value.visits

def Conflict.visits : Conflict → List Visit
  | .update _ assignments condition =>
    assignments.flatMap Assignment.visits ++ visitsOfExprs condition.toList
  | .none | .nothing _ | .duplicateKey _ => []

def Insert.visits (insert : Insert) : List Visit :=
  (match insert.source with
    | some query => query.visits
    | none => []) ++
  insert.conflict.visits ++ visitsOfItems insert.returning

/-- The table that is changed, and what is joined to it, is not among the visits. -/
def Update.visits (update : Update) : List Visit :=
  update.assignments.flatMap Assignment.visits ++ visitsOfEntries update.sources ++
    visitsOfExprs update.condition.toList ++ visitsOfItems update.returning

end TypedRows.Sql
