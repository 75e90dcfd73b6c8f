import TypedRows.Analysis.TypedStatement

/-!
Results that several statements of a namespace share, registered one statement after the other.
-/

namespace TypedRows

structure SharedResult where
  name : String
  «namespace» : String
  fields : List Field
  /-- The statement that was registered first. -/
  statement : String
  sourceFile : String
  implements : List String
  collectionKey : Option String
  nested : List NestedField

/-- The name of a shared result within its namespace. -/
structure ResultKey where
  «namespace» : String
  name : String
  deriving DecidableEq

structure SharedResults where
  results : OrderedMap ResultKey SharedResult
  /-- The fields that get no accessor. -/
  excluded : OrderedMap ResultKey (List String)

namespace SharedResult

def id (result : SharedResult) : String :=
  result.namespace ++ "::" ++ result.name

def fieldNamed? (fields : List Field) (name : String) : Option Field :=
  fields.find? fun f => Text.sameName f.name name

/-- What two statements say differently about a field that both have. -/
def difference? (ours theirs : Field) : Option (FieldTrait × FieldTrait) :=
  if ours.notNull ≠ theirs.notNull then some (.notNull ours.notNull, .notNull theirs.notNull)
  else if ours.propertyType ≠ theirs.propertyType then
    some (.propertyType ours.propertyType, .propertyType theirs.propertyType)
  else none

/-- The first field about which two lists disagree, and what each says. A missing field comes
before any difference. -/
def disagreement? (ours theirs : List Field) : Option (String × FieldTrait × FieldTrait) :=
  let missing := ours.find? fun f => (fieldNamed? theirs f.name).isNone
  let added := theirs.find? fun f => (fieldNamed? ours f.name).isNone
  let different := ours.findSome? fun f =>
    ((fieldNamed? theirs f.name).bind (difference? f)).map fun (a, b) => (f.name, a, b)
  ((missing.map fun f => (f.name, .present, .absent)).or
    (added.map fun f => (f.name, .absent, .present))).or different

def check (result : SharedResult) (statement : TypedStatement) : Except Error Unit :=
  match disagreement? result.fields statement.fields with
  | none => .ok ()
  | some (field, ours, theirs) => .error (.sharedResult {
      result := result.name
      «namespace» := result.namespace
      field
      existing := ⟨result.statement, result.sourceFile, ours⟩
      incoming := ⟨statement.name, statement.sourceFile, theirs⟩ })

/-- The result as the first statement defines it. -/
def ofStatement (key : ResultKey) (statement : TypedStatement) : SharedResult where
  name := key.name
  «namespace» := key.namespace
  fields := statement.fields
  statement := statement.name
  sourceFile := statement.sourceFile
  implements := []
  collectionKey := statement.overrides.collectionKey
  nested := statement.nested

end SharedResult

/-- The elements of both lists, those of the first one first. -/
def union (first second : List String) : List String :=
  second.foldl (fun acc x => if acc.contains x then acc else acc ++ [x]) first

namespace SharedResults

def empty : SharedResults := ⟨.empty, .empty⟩

def get? (results : SharedResults) (key : ResultKey) : Option SharedResult :=
  results.results.get? key

def excludedOf (results : SharedResults) (key : ResultKey) : List String :=
  (results.excluded.get? key).getD []

/-- The fields that a statement wants without accessor, counted among those of its result. -/
def exclude (results : SharedResults) (key : ResultKey) (statement : TypedStatement) :
    SharedResults :=
  let names := union (results.excludedOf key) statement.overrides.excludeOverrideFields
  { results with excluded := results.excluded.put key names }

/-- The result with what a statement implements. The first statement defines it. -/
def shared (results : SharedResults) (key : ResultKey) (statement : TypedStatement) :
    SharedResult :=
  let result := (results.get? key).getD (SharedResult.ofStatement key statement)
  { result with implements := union result.implements statement.overrides.implements }

/-- Whether a statement agrees with the result that is there, if one is. -/
def agree (results : SharedResults) (key : ResultKey) (statement : TypedStatement) :
    Except Error Unit :=
  match results.get? key with
  | some existing => existing.check statement
  | none => .ok ()

/-- Steps on the shared results. What one step has changed stays so when a later one fails. -/
abbrev Registration := ExceptT Error (StateM SharedResults)

/-- Registers a statement under the name it gives to its result. The first one defines the result;
each later one must agree with it on the names, types and nullability of the fields. -/
def registration (statement : TypedStatement) («namespace» : String) :
    Registration SharedResult := do
  match statement.overrides.queryResult with
  | none => throw (.annotations (.noQueryResult statement.name))
  | some name =>
    let key : ResultKey := ⟨«namespace», name⟩
    liftExcept ((← get).agree key statement)
    -- a statement that is refused has changed nothing up to here, and now nothing can fail
    modify fun results => results.exclude key statement
    let result := (← get).shared key statement
    modify fun results => { results with results := results.results.put key result }
    return result

/-- The shared results after a registration, with the result, or why it is refused. -/
def register (results : SharedResults) (statement : TypedStatement) («namespace» : String) :
    Except Error (SharedResults × SharedResult) :=
  match (registration statement «namespace»).run.run results with
  | (.ok result, after) => .ok (after, result)
  | (.error e, _) => .error e

/-- The fields without accessor for a statement: its own, and those of all statements that share
its result. -/
def effectiveExcluded (results : SharedResults) (statement : TypedStatement)
    («namespace» : String) : List String :=
  let own := statement.overrides.excludeOverrideFields
  match statement.overrides.queryResult with
  | some name => union (results.excludedOf ⟨«namespace», name⟩) own
  | none => own.eraseDups

def all (results : SharedResults) : List SharedResult := results.results.values

def inNamespace (results : SharedResults) («namespace» : String) : List SharedResult :=
  results.all.filter fun r => r.namespace == «namespace»

end SharedResults

end TypedRows
