import TypedRows.Emit.Nesting

/-!
The generated module of a namespace: the shared results first, then each statement.
-/

namespace TypedRows.Emit

def constantsOf (statement : TypedStatement) : List Constant :=
  let base := Naming.shoutyCase statement.name
  let names := statement.bindings.map fun name => "\"" ++ name ++ "\""
  [{ doc := s!"`{statement.sourceFile}`"
     name := base ++ "_SQL"
     type := "&str"
     value := RawString.encode statement.sql },
   { doc := "Parameter names in binding order."
     name := base ++ "_BINDINGS"
     type := "&[&str]"
     value := "&[" ++ String.intercalate ", " names ++ "]" }]

def parameterStructs (statement : TypedStatement) (base : String) : List Struct :=
  if statement.parameters.isEmpty then []
  else [⟨base ++ "Params", none, statement.parameters.map fun p =>
    ⟨p.propertyName, p.rustType⟩⟩]

/-- What is defined for a statement, and the names of nested structs after that. -/
structure StatementPart where
  constants : List Constant
  structs : List Struct
  nesting : Option Nesting
  emitted : List String

/-- The row of a statement with a shared result is defined there; a statement without result
columns has none. -/
def StatementPart.ofStatement (statement : TypedStatement) (emitted : List String) :
    StatementPart :=
  let base := Naming.pascalCase statement.name
  let parameters := parameterStructs statement base
  if statement.fields.isEmpty then ⟨constantsOf statement, parameters, none, emitted⟩
  else
    match statement.overrides.queryResult with
    | some shared =>
      ⟨constantsOf statement, parameters,
        Nesting.ofStatement? statement base (Naming.pascalCase shared), emitted⟩
    | none =>
      let rowName := base ++ "Row"
      let (structs, emitted) := nestedStructs emitted statement.nested
      let row := Struct.ofRow rowName none statement.flatFields statement.nested
      ⟨constantsOf statement, parameters ++ structs ++ [row],
        Nesting.ofStatement? statement base rowName, emitted⟩

def StatementPart.lines (part : StatementPart) : Lines :=
  part.constants.flatMap Constant.lines ++ part.structs.flatMap Struct.lines ++
    match part.nesting with
    | some nesting => nesting.flatRow.lines ++ nesting.lines
    | none => []

def sharedParts (results : SharedResults) (emitted : List String) :
    List SharedResult → List SharedPart × List String
  | [] => ([], emitted)
  | result :: rest =>
    let excluded := results.excludedOf ⟨result.namespace, result.name⟩
    let part := SharedPart.ofResult result excluded emitted
    let (parts, after) := sharedParts results part.emitted rest
    (part :: parts, after)

def statementParts (emitted : List String) : List TypedStatement → List StatementPart
  | [] => []
  | statement :: rest =>
    let part := StatementPart.ofStatement statement emitted
    part :: statementParts part.emitted rest

def namespaceText (name : String) (statements : List TypedStatement)
    (results : SharedResults) : String :=
  let (shared, emitted) := sharedParts results [] (results.inNamespace name)
  Lines.text (
    [s!"//! Queries of namespace `{name}`. Generated by rowgen; do not edit.", "",
      "#![allow(dead_code)]", ""] ++
    shared.flatMap SharedPart.lines ++
    (statementParts emitted statements).flatMap StatementPart.lines)

end TypedRows.Emit
