/-!
JSON as it is written out, over several lines.
-/

namespace TypedRows

mutual

inductive Json where
  | null
  | bool (value : Bool)
  | number (value : Nat)
  | text (text : String)
  | list (items : List Json)
  | object (members : List JsonMember)

structure JsonMember where
  key : String
  value : Json

end

namespace Json

def hexDigit (n : Nat) : Char :=
  if n < 10 then Char.ofNat ('0'.toNat + n) else Char.ofNat ('a'.toNat + n - 10)

/-- A character within a string. Only quotes, backslashes and control characters are escaped. -/
def escape (c : Char) : List Char :=
  match c with
  | '"' => ['\\', '"']
  | '\\' => ['\\', '\\']
  | '\x08' => ['\\', 'b']
  | '\x0c' => ['\\', 'f']
  | '\n' => ['\\', 'n']
  | '\r' => ['\\', 'r']
  | '\t' => ['\\', 't']
  | c =>
    if c.toNat < 32 then
      ['\\', 'u', '0', '0', hexDigit (c.toNat / 16), hexDigit (c.toNat % 16)]
    else [c]

def quote (text : String) : String :=
  "\"" ++ String.ofList (text.toList.flatMap escape) ++ "\""

/-- Parts in brackets, each on lines of its own. -/
def enclose (opening closing margin : String) (parts : List String) : String :=
  if parts.isEmpty then opening ++ closing
  else
    opening ++ "\n" ++ String.intercalate ",\n" (parts.map (margin ++ "  " ++ ·)) ++ "\n" ++
      margin ++ closing

mutual

/-- The text of a value. `margin` precedes every line but the first. -/
def pretty (json : Json) (margin : String) : String :=
  match json with
  | .null => "null"
  | .bool value => if value then "true" else "false"
  | .number value => toString value
  | .text s => quote s
  | .list items => enclose "[" "]" margin (prettyItems items (margin ++ "  "))
  | .object members => enclose "\x7b" "\x7d" margin (prettyMembers members (margin ++ "  "))

def prettyItems (items : List Json) (margin : String) : List String :=
  match items with
  | [] => []
  | item :: rest => item.pretty margin :: prettyItems rest margin

def prettyMembers (members : List JsonMember) (margin : String) : List String :=
  match members with
  | [] => []
  | ⟨key, value⟩ :: rest =>
    (quote key ++ ": " ++ value.pretty margin) :: prettyMembers rest margin

end

def ofOption {α : Type} (encode : α → Json) : Option α → Json
  | some value => encode value
  | none => .null

def texts (list : List String) : Json := .list (list.map .text)

/-- An object with members in the order given. -/
def ofMembers (members : List (String × Json)) : Json :=
  .object (members.map fun (key, value) => ⟨key, value⟩)

end Json

end TypedRows
