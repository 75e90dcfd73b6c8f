import TypedRows.Annotations.Error
import TypedRows.Schema.Error
import TypedRows.Sql.Error

/-!
What can be wrong with a project, and the messages that say so.
-/

namespace TypedRows

inductive ReturningFault where
  | otherStar (table : String)
  | aliased (text : String)
  | notColumn (text : String)
  | otherColumn (table name : String)
  deriving DecidableEq

inductive DynamicFault where
  | sameName (field : String)
  | noColumns (field source : String) (aliasPrefix : Option String)
  | mappedTwice (column first second : String)
  | noCollectionKey (field : String)
  | keyNotColumn (key : String)
  deriving DecidableEq

/-- What two statements say differently about a field. -/
inductive FieldTrait where
  | present
  | absent
  | notNull (value : Bool)
  | propertyType (type : String)
  deriving DecidableEq

structure ConflictSide where
  statement : String
  sourceFile : String
  trait : FieldTrait
  deriving DecidableEq

/-- Two statements that disagree about the shape of a shared result. -/
structure SharedConflict where
  result : String
  «namespace» : String
  field : String
  existing : ConflictSide
  incoming : ConflictSide
  deriving DecidableEq

inductive MigrationNameFault where
  | pattern
  | tooLarge
  | digits
  deriving DecidableEq

inductive Error where
  | annotations (cause : AnnotationsError)
  | sql (cause : Sql.SqlError)
  | resolve (cause : ResolveError)
  | notQuery (statement : String)
  | duplicateColumn (statement name : String)
  | returning (statement : String) (fault : ReturningFault)
  | dynamicField (statement : String) (fault : DynamicFault)
  | sharedResult (conflict : SharedConflict)
  | migrationName (file : String) (fault : MigrationNameFault)
  | migrationVersion (version : Nat) (first second : String)
  deriving DecidableEq

/-- The digits of a migration number. -/
def versionDigits : Nat := 4

namespace ReturningFault

def message : ReturningFault → String
  | otherStar table => s!"`{table}.*` does not name the target table"
  | aliased text => s!"`{text}` uses an alias; return the bare column"
  | notColumn text => s!"expression `{text}` is not a bare column"
  | otherColumn table name => s!"`{table}.{name}` does not belong to the target table"

end ReturningFault

namespace DynamicFault

def message : DynamicFault → String
  | sameName field => s!"dynamic field `{field}` has the same name as a result column"
  | noColumns field source aliasPrefix =>
    s!"dynamic field `{field}` maps no columns from `{source}`" ++
      match aliasPrefix with
      | some p => s!" with prefix `{p}`"
      | none => ""
  | mappedTwice column first second =>
    s!"column `{column}` is mapped by both `{first}` and `{second}`"
  | noCollectionKey field =>
    s!"collection `{field}` requires a statement-level `collectionKey`"
  | keyNotColumn key => s!"collectionKey `{key}` is not a result column"

end DynamicFault

namespace FieldTrait

def message : FieldTrait → String
  | present => "present"
  | absent => "absent"
  | notNull value => s!"notNull={value}"
  | propertyType type => s!"propertyType={type}"

end FieldTrait

namespace ConflictSide

def message (side : ConflictSide) : String :=
  s!"statement `{side.statement}` ({side.sourceFile}) has " ++ side.trait.message

end ConflictSide

namespace SharedConflict

def message (conflict : SharedConflict) : String :=
  s!"shared result `{conflict.result}` in namespace `{conflict.namespace}` " ++
    s!"has conflicting definitions for field `{conflict.field}`: " ++
    conflict.existing.message ++ " but " ++ conflict.incoming.message

end SharedConflict

namespace MigrationNameFault

def message : MigrationNameFault → String
  | pattern => "expected NNNN.sql or NNNN_description.sql"
  | tooLarge => "version number is too large"
  | digits => s!"version must have exactly {versionDigits} digits"

end MigrationNameFault

namespace Error

def message : Error → String
  | annotations cause => "invalid annotation: " ++ cause.message
  | sql cause => "SQL error: " ++ cause.message
  | resolve cause => cause.message
  | notQuery statement =>
    s!"SQL error: query `{statement}` must be a SELECT, INSERT, UPDATE or DELETE statement"
  | duplicateColumn statement name =>
    s!"statement `{statement}` returns column `{name}` more than once; alias one of the columns"
  | returning statement fault =>
    s!"statement `{statement}` has an unsupported RETURNING clause: " ++ fault.message
  | dynamicField statement fault => s!"dynamic field error in `{statement}`: " ++ fault.message
  | sharedResult conflict => conflict.message
  | migrationName file fault => s!"invalid migration file name `{file}`: " ++ fault.message
  | migrationVersion version first second =>
    s!"duplicate migration version {version}: `{first}` and `{second}`"

end Error

end TypedRows
