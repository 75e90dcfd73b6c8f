import Mathlib.Tactic.Tauto
import TypedRows.Emit.Namespace
import TypedRows.Proofs.CatalogOrder

/-! The structs that the module of a namespace defines. The names of nested structs and of shared
rows are handed on through the whole module, and of the structs that are to have one name only the
first is defined, whatever the members of the others. -/

namespace TypedRows.Emit

/-! Structs that are defined under a name not taken so far. -/

/-- The structs of nested values, whether they are defined or not. -/
def nestedOf (nested : List NestedField) : List Struct :=
  (nested.filter hasStruct).map Struct.ofNested

inductive Decl where
  | constant (constant : Constant)
  | struct (struct : Struct)
  | accessors (accessors : Accessors)
  | function (lines : Lines)

def Decl.lines : Decl → Lines
  | constant c => c.lines
  | struct s => s.lines
  | accessors a => a.lines
  | function lines => lines

def SharedPart.decls (part : SharedPart) : List Decl :=
  part.structs.map .struct ++ part.accessors.map .accessors

def Nesting.decls (nesting : Nesting) : List Decl :=
  [.struct nesting.flatRow, .function nesting.lines]

def StatementPart.decls (part : StatementPart) : List Decl :=
  part.constants.map .constant ++ part.structs.map .struct ++
    part.nesting.toList.flatMap Nesting.decls

def namespaceDecls (name : String) (statements : List TypedStatement)
    (results : SharedResults) : List Decl :=
  let (shared, taken) := sharedParts results [] (results.inNamespace name)
  shared.flatMap SharedPart.decls ++
    (statementParts taken statements).flatMap StatementPart.decls

def heading (name : String) : Lines :=
  [s!"//! Queries of namespace `{name}`. Generated by rowgen; do not edit.", "",
    "#![allow(dead_code)]", ""]

theorem SharedPart.lines_eq (part : SharedPart) : part.lines = part.decls.flatMap Decl.lines := by
  rw [lines, decls, List.flatMap_append, List.flatMap_map, List.flatMap_map]
  rfl

theorem StatementPart.lines_eq (part : StatementPart) :
    part.lines = part.decls.flatMap Decl.lines := by
  rw [lines, decls, List.flatMap_append, List.flatMap_append, List.flatMap_map, List.flatMap_map]
  cases part.nesting with
  | none => rfl
  | some nesting =>
    simp [Nesting.decls, Decl.lines]

theorem namespaceText_eq (name : String) (statements : List TypedStatement)
    (results : SharedResults) :
    namespaceText name statements results =
      Lines.text (heading name ++
        (namespaceDecls name statements results).flatMap Decl.lines) := by
  rw [namespaceText, namespaceDecls]
  dsimp only
  rw [List.flatMap_append, List.flatMap_assoc, List.flatMap_assoc, ← List.append_assoc]
  simp only [← SharedPart.lines_eq, ← StatementPart.lines_eq]
  rfl

/-! What one result and one statement define, and from that what all of them define one after the
other. -/

def sharedRow (result : SharedResult) : Struct :=
  Struct.ofRow (Naming.pascalCase result.name)
    (some s!"Shared result `{result.name}`, first defined by `{result.statement}`.")
    (Field.flat result.fields result.nested) result.nested

def sharedStructs (result : SharedResult) : List Struct :=
  nestedOf result.nested ++ [sharedRow result]

def rowNameOf (statement : TypedStatement) : String :=
  match statement.overrides.queryResult with
  | some shared => Naming.pascalCase shared
  | none => Naming.pascalCase statement.name ++ "Row"

def ownsRow (statement : TypedStatement) : Bool :=
  !statement.fields.isEmpty && statement.overrides.queryResult.isNone

/-- The nested structs that a statement defines unless their names are taken. -/
def ownStructs (statement : TypedStatement) : List Struct :=
  if ownsRow statement then nestedOf statement.nested else []

/-- The structs that a statement defines in any case: those of its parameters and its rows, and of
the rows that are to be folded. -/
def namedStructs (statement : TypedStatement) : List Struct :=
  let base := Naming.pascalCase statement.name
  parameterStructs statement base ++
    (if ownsRow statement then
      [Struct.ofRow (rowNameOf statement) none statement.flatFields statement.nested]
    else []) ++
    if statement.fields.isEmpty then []
    else ((Nesting.ofStatement? statement base (rowNameOf statement)).map
      Nesting.flatRow).toList

/-- The nested structs and shared rows of a module in the order in which they are met. -/
def offered (name : String) (statements : List TypedStatement) (results : SharedResults) :
    List Struct :=
  (results.inNamespace name).flatMap sharedStructs ++ statements.flatMap ownStructs

/-- The structs that are filled in: those of the shared results, and those of the values nested in
the rows of each statement. -/
def wanted (name : String) (statements : List TypedStatement) (results : SharedResults) :
    List Struct :=
  (results.inNamespace name).map sharedRow ++ statements.flatMap fun s => nestedOf s.nested

open Sql TypedStatement

def petSchema : List ScriptItem :=
  [⟨"", .createTable ⟨"pet", [⟨"id", some "INTEGER", true, false, none⟩], false⟩, [], [], []⟩]

/-- `SELECT * FROM pet` with a dynamic field. -/
def petQuery (field : String) : ScriptItem :=
  ⟨"", .select (Catalog.selectAll "pet"), ["@@\x7bqueryResult=row\x7d", field], [], []⟩

/-- What is filled in although nothing of that name is declared. -/
def undeclared (name : String) (statements : List TypedStatement) (results : SharedResults) :
    List Struct :=
  (wanted name statements results).filter fun s =>
    (offered name statements results).all (fun t => t.name != s.name) &&
      (statements.flatMap namedStructs).all fun t => t.name != s.name

end TypedRows.Emit
