/-!
The tokens of SQL text, blanks and comments included.
-/

namespace TypedRows.Sql

/-- What may enclose a name. -/
inductive QuoteMark where
  | double
  | backtick
  | bracket
  | single
  deriving DecidableEq

namespace QuoteMark

def opening : QuoteMark → Char
  | double => '"'
  | backtick => '`'
  | bracket => '['
  | single => '\''

def closing : QuoteMark → Char
  | double => '"'
  | backtick => '`'
  | bracket => ']'
  | single => '\''

end QuoteMark

inductive Token where
  /-- A name or keyword; the text of a quoted one is without its marks. -/
  | word (text : String) (quote : Option QuoteMark)
  /-- The second part tells whether an `L` follows the digits. -/
  | number (digits : String) (long : Bool)
  | string (value : String)
  | national (value : String)
  /-- A string whose backslash escapes have been decoded. -/
  | escaped (value : String)
  | hex (value : String)
  | dollar (value : String) (tag : Option String)
  /-- A parameter with its `$` or `?`. -/
  | placeholder (text : String)
  | space
  | newline
  | tab
  /-- The text after the two dashes, with the newline that ends it. -/
  | lineComment (text : String)
  | blockComment (body : String)
  /-- An operator, a punctuation mark, or any other character. -/
  | mark (text : String)
  deriving DecidableEq

namespace Token

/-- The token as it is written out. Quotes inside strings and names are not doubled again. -/
def text : Token → String
  | word text none => text
  | word text (some q) => String.singleton q.opening ++ text ++ String.singleton q.closing
  | number digits long => if long then digits ++ "L" else digits
  | string value => "'" ++ value ++ "'"
  | national value => "N'" ++ value ++ "'"
  | escaped value => "E'" ++ value ++ "'"
  | hex value => "X'" ++ value ++ "'"
  | dollar value none => "$$" ++ value ++ "$$"
  | dollar value (some tag) => "$" ++ tag ++ "$" ++ value ++ "$" ++ tag ++ "$"
  | placeholder text => text
  | space => " "
  | newline => "\n"
  | tab => "\t"
  | lineComment text => "--" ++ text
  | blockComment body => "/*" ++ body ++ "*/"
  | mark text => text

/-- Whether the token is a blank or a comment. -/
def isTrivia : Token → Bool
  | space | newline | tab | lineComment _ | blockComment _ => true
  | _ => false

end Token

end TypedRows.Sql
