import TypedRows.Sql.Tree

/-!
What can be wrong with the names in a schema or a query.
-/

namespace TypedRows

inductive ResolveError where
  | cteColumns (name : String) (named returned : Nat)
  | noRows
  | unsupportedBody (text : String)
  | starWithoutSources
  | noTableForStar (table : String)
  | compoundColumns (first other : Nat)
  | noTable (table : String)
  | noColumn (name : String)
  | noColumnOf (table name : String)
  | noReturnedColumn (name table : String)
  | ambiguousColumn (name : String)
  | cyclicView (name : String)
  | noObject (name : String)
  | noTargetTable (name : String)
  | definedTwice (name : String)
  | view (name : String) (cause : ResolveError)
  | viewColumns (name : String) (named returned : Nat)
  deriving DecidableEq

namespace ResolveError

/-- Whether the fault is put down to the schema and not to the query. -/
def ofSchema : ResolveError → Bool
  | cyclicView _ | noObject _ | noTargetTable _ | definedTwice _ | view _ _
  | viewColumns _ _ _ => true
  | _ => false

def message : ResolveError → String
  | cteColumns name named returned =>
    s!"SQL error: CTE `{name}` names {named} columns but its SELECT returns {returned}"
  | noRows => "SQL error: VALUES without rows"
  | unsupportedBody text => s!"SQL error: unsupported query body `{text}`"
  | starWithoutSources => "SQL error: `*` used without a FROM clause"
  | noTableForStar table => s!"SQL error: no such table `{table}` for `{table}.*`"
  | compoundColumns first other =>
    s!"SQL error: compound SELECT members return {first} and {other} columns"
  | noTable table => s!"SQL error: no such table `{table}`"
  | noColumn name => s!"SQL error: no such column `{name}`"
  | noColumnOf table name => s!"SQL error: no such column `{table}.{name}`"
  | noReturnedColumn name table => s!"SQL error: no such column `{name}` in `{table}`"
  | ambiguousColumn name => s!"SQL error: ambiguous column name `{name}`"
  | cyclicView name => s!"schema error: view `{name}` is part of a view definition cycle"
  | noObject name => s!"schema error: no such table or view `{name}`"
  | noTargetTable name => s!"schema error: no such table `{name}`"
  | definedTwice name => s!"schema error: table or view `{name}` is defined more than once"
  | view name cause => s!"schema error: cannot resolve view `{name}`: " ++ cause.message
  | viewColumns name named returned =>
    s!"schema error: view `{name}` names {named} columns but its SELECT returns {returned}"

end ResolveError

end TypedRows
