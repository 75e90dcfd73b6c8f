import TypedRows.Text.Blank

/-!
The Rust types that a column can be read into without a conversion of its own.
-/

namespace TypedRows.RustType

def builtins : List String :=
  ["i8", "i16", "i32", "i64", "u8", "u16", "u32", "u64", "f32", "f64", "bool", "String",
    "Vec<u8>"]

/-- What `Option<...>` encloses, or the whole type. Blanks do not count. -/
def inner (type : String) : String :=
  let cs := type.toList.filter fun c => !Text.isBlank c
  match cs with
  | 'O' :: 'p' :: 't' :: 'i' :: 'o' :: 'n' :: '<' :: rest =>
    match rest.reverse with
    | '>' :: body => String.ofList body.reverse
    | _ => String.ofList cs
  | _ => String.ofList cs

def isBuiltin (type : String) : Bool :=
  builtins.contains (inner type)

end TypedRows.RustType
