import TypedRows.OrderedMap
import TypedRows.Sql.Tree.Visit
import TypedRows.Text.Fold

/-!
The tables, views and common table expressions that a query reads, and the reference names under
which it does.
-/

namespace TypedRows

open Sql

/-- Adds a name unless it is there in some letter case. -/
def addName (names : List String) (name : String) : List String :=
  if names.any fun n => Text.sameName n name then names else names ++ [name]

/-- What a query reads at any depth, each name once. -/
def Sql.Query.references (query : Query) : List String :=
  (query.visits.filterMap Visit.relation?).foldl addName []

mutual

/-- Each reference name in the `FROM` clauses of a query with the name it stands for. Subqueries
within expressions are not looked into. -/
def Sql.Query.aliasPairs : Query → List (String × String)
  | ⟨_, ctes, body, _, _, _, _⟩ => aliasPairsOfCtes ctes ++ body.aliasPairs

def aliasPairsOfCtes : List Cte → List (String × String)
  | [] => []
  | ⟨_, _, query, _⟩ :: rest => query.aliasPairs ++ aliasPairsOfCtes rest

def Sql.Body.aliasPairs : Body → List (String × String)
  | .select select => select.aliasPairs
  | .query query => query.aliasPairs
  | .compound _ _ left right => left.aliasPairs ++ right.aliasPairs
  | .values _ _ | .table _ | .insert _ | .update _ | .store _ _ => []

def Sql.Select.aliasPairs : Select → List (String × String)
  | ⟨_, _, _, sources, _, _, _, _, _, _, _⟩ => aliasPairsOfEntries sources

def aliasPairsOfEntries : List Entry → List (String × String)
  | [] => []
  | ⟨_, _, factor, _, _⟩ :: rest => factor.aliasPairs ++ aliasPairsOfEntries rest

def Sql.Factor.aliasPairs : Factor → List (String × String)
  | .table name _ aliased _ =>
    match aliased with
    | some a => [(a.name.text, name.base)]
    | none => [(name.base, name.base)]
  | .derived _ query aliased =>
    match aliased with
    | some a => (a.name.text, a.name.text) :: query.aliasPairs
    | none => query.aliasPairs
  | .nested first joins _ => first.aliasPairs ++ aliasPairsOfEntries joins
  | .call _ _ _ _ _ _ | .tableOf _ _ | .pivot _ _ | .phrase _ => []

/-- The first `SELECT` of a query, which may be compound. -/
def Sql.Query.firstSelect? : Query → Option Select
  | ⟨_, _, body, _, _, _, _⟩ => body.firstSelect?

def Sql.Body.firstSelect? : Body → Option Select
  | .select select => some select
  | .query query => query.firstSelect?
  | .compound _ _ left _ => left.firstSelect?
  | .values _ _ | .table _ | .insert _ | .update _ | .store _ _ => none

end

/-- The reference names of a query; the first use of a name decides what it stands for. -/
def Sql.Query.aliases (query : Query) : OrderedMap String String :=
  OrderedMap.empty.putAllNew query.aliasPairs

/-- The table or view that an entry reads by name. -/
def Sql.Factor.tableName? : Factor → Option String
  | .table name _ _ _ => some name.base
  | _ => none

end TypedRows
