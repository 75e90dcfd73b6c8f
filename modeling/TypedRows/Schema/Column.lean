/-!
The columns of tables and of results.
-/

namespace TypedRows

/-- A column of a table or view. -/
structure Origin where
  object : String
  column : String
  deriving DecidableEq

/-- A column of a result as the query alone shows it. -/
structure ResultColumn where
  /-- The alias, the name of the column, or the text of the expression. -/
  name : String
  /-- The name of the `FROM` entry that the value comes from. -/
  tableAlias : Option String
  /-- The names of the `FROM` entries on the way to the value, outermost first. -/
  aliasPath : List String
  /-- The column that the value is copied from unchanged. -/
  origin : Option Origin
  sqlType : Option String
  notNull : Bool
  /-- Whether the value is never null as long as outer joins find their rows. -/
  declaredNotNull : Bool
  /-- Whether an outer join on the way may find no row. -/
  joinedNullable : Bool
  /-- The text of a computed column. -/
  expression : Option String
  deriving DecidableEq

namespace ResultColumn

/-- A column of which only the name is known. -/
def unknown (name : String) : ResultColumn where
  name
  tableAlias := none
  aliasPath := []
  origin := none
  sqlType := none
  notNull := false
  declaredNotNull := false
  joinedNullable := false
  expression := none

end ResultColumn

end TypedRows
