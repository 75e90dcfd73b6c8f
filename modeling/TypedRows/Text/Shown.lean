import TypedRows.Text.Letter

/-!
Texts shown in double quotes, with escapes for quotes, backslashes and what is not printable.
-/

namespace TypedRows.Text

/-- The digits of a code point in lowercase hexadecimal. -/
def hexDigits (n : Nat) : List Char :=
  Nat.toDigits 16 n

def showChar (c : Char) : List Char :=
  match c with
  | '\x00' => ['\\', '0']
  | '\t' => ['\\', 't']
  | '\n' => ['\\', 'n']
  | '\r' => ['\\', 'r']
  | '"' => ['\\', '"']
  | '\\' => ['\\', '\\']
  | _ =>
    if inRuns unprintableRuns c then ['\\', 'u', '{'] ++ hexDigits c.toNat ++ ['}'] else [c]

def shown (s : String) : String :=
  String.ofList ('"' :: s.toList.flatMap showChar ++ ['"'])

end TypedRows.Text
