import TypedRows.Sql.Token.Scan
import TypedRows.Text.Blank
import TypedRows.Text.Fold

/-!
Lexemes: the tokens of a source file sorted into kinds, each with its text, so that the text of a
statement can be put together again.
-/

namespace TypedRows.Sql

/-- The kind of a lexeme with the value it denotes. -/
inductive Kind where
  | word (text : String) (quoted : Bool)
  | number (digits : String)
  | string (value : String)
  | blob (digits : String)
  /-- A named parameter, without its marker. -/
  | parameter (name : String)
  | positional (text : String)
  | openParen
  | closeParen
  | comma
  | dot
  | semicolon
  | star
  | operator (text : String)
  /-- A comment with its marks, but without the newline that ends its line. -/
  | comment (text : String)
  | space
  deriving DecidableEq

namespace Kind

def isTrivia : Kind → Bool
  | space | comment _ => true
  | _ => false

/-- Whether the lexeme is the unquoted word `keyword`, in any letter case. -/
def isKeyword (keyword : String) : Kind → Bool
  | word text false => Text.sameName text keyword
  | _ => false

def isOperator (op : String) : Kind → Bool
  | operator text => text == op
  | _ => false

end Kind

structure Lexeme where
  kind : Kind
  text : String
  deriving DecidableEq

namespace Lexeme

def isTrivia (lexeme : Lexeme) : Bool := lexeme.kind.isTrivia

def ofMark (mark : String) : Kind :=
  match mark with
  | "(" => .openParen
  | ")" => .closeParen
  | "," => .comma
  | "." => .dot
  | ";" => .semicolon
  | "*" => .star
  | _ => .operator mark

def ofToken (token : Token) : Lexeme :=
  let kind : Kind := match token with
    | .word text quote => .word text quote.isSome
    | .number digits _ => .number digits
    | .string value => .string value
    | .hex value => .blob value
    | .placeholder text =>
      match text.toList with
      | '$' :: name => .parameter (String.ofList name)
      | _ => .positional text
    | .space | .newline | .tab => .space
    | .lineComment text =>
      .comment (String.ofList
        ('-' :: '-' :: Text.dropWhileEnd (fun c => c == '\r' || c == '\n') text.toList))
    | .blockComment body => .comment ("/*" ++ body ++ "*/")
    | .mark mark => ofMark mark
    -- strings in the spelling of other dialects are only passed on
    | .national _ | .escaped _ | .dollar _ _ => .operator token.text
  ⟨kind, token.text⟩

/-- A colon or an at sign and the unquoted word directly after it make one lexeme. -/
def ofTokens : List Token → List Lexeme
  | [] => []
  | .mark mark :: .word name none :: rest =>
    if mark = ":" ∨ mark = "@" then ⟨.parameter name, mark ++ name⟩ :: ofTokens rest
    else ofToken (.mark mark) :: ofToken (.word name none) :: ofTokens rest
  | token :: rest => ofToken token :: ofTokens rest

def scan (sql : String) : Except ScanError (List Lexeme) :=
  ofTokens <$> Token.scan sql

end Lexeme

end TypedRows.Sql
