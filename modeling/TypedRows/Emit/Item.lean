import TypedRows.Emit.Lines
import TypedRows.Emit.RawString
import TypedRows.RustType

/-!
The parts of a generated module: constants, structs and implementations of accessors.
-/

namespace TypedRows.Emit

def keywords : List String := [
  "as", "break", "const", "continue", "crate", "else", "enum", "extern", "false", "fn", "for",
  "if", "impl", "in", "let", "loop", "match", "mod", "move", "mut", "pub", "ref", "return",
  "self", "Self", "static", "struct", "super", "trait", "true", "type", "unsafe", "use", "where",
  "while", "async", "await", "dyn", "abstract", "become", "box", "do", "final", "macro",
  "override", "priv", "try", "typeof", "unsized", "virtual", "yield"]

/-- A keyword is marked so that it can be a name. -/
def identifier (name : String) : String :=
  if keywords.contains name then "r#" ++ name else name

/-- Whether a type is one that the generated module defines itself: a plain name that is not built
in. -/
def isDefinedType (type : String) : Bool :=
  (match type.toList with
    | c :: rest => c.isAlpha && rest.all fun c => c.isAlphanum || c == '_'
    | [] => false) && !RustType.isBuiltin type

structure Member where
  name : String
  type : String
  deriving DecidableEq

structure Struct where
  name : String
  doc : Option String
  members : List Member
  deriving DecidableEq

/-- Accessors that a trait asks of a struct. -/
structure Accessors where
  trait : String
  struct : String
  members : List Member
  deriving DecidableEq

structure Constant where
  doc : String
  name : String
  type : String
  value : String
  deriving DecidableEq

def Member.lines (member : Member) : Lines :=
  [s!"pub {identifier member.name}: {member.type},"]

def Struct.lines (struct : Struct) : Lines :=
  struct.doc.toList.map ("/// " ++ ·) ++
    ["#[derive(Debug, Clone, PartialEq)]"] ++
    Lines.block s!"pub struct {struct.name}" (struct.members.flatMap Member.lines) ++ [""]

/-- An accessor that gives a reference to the property. -/
def Member.accessorLines (member : Member) : Lines :=
  let name := identifier member.name
  Lines.block s!"fn {name}(&self) -> &{member.type}" [s!"&self.{name}"]

def Accessors.lines (accessors : Accessors) : Lines :=
  Lines.block s!"impl {accessors.trait} for {accessors.struct}"
    (accessors.members.flatMap Member.accessorLines) ++ [""]

def Constant.lines (constant : Constant) : Lines :=
  ["/// " ++ constant.doc, s!"pub const {constant.name}: {constant.type} = {constant.value};", ""]

end TypedRows.Emit
