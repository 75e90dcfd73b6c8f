import TypedRows.Text.Digits

/-!
Strings, numbers and keys in a configuration file, as TOML writes them. A reader takes the
characters that are left and gives back those after what it has read.
-/

namespace TypedRows.Config

/-- Reads a value from the front of a text. -/
abbrev Reader (α : Type) := List Char → Option (α × List Char)

def isSpace (c : Char) : Bool := c == ' ' || c == '\t'

/-- A character that may stand in a comment or a string. -/
def isPlain (c : Char) : Bool :=
  c == '\t' || (32 ≤ c.toNat && c.toNat != 127)

def skipSpaces (cs : List Char) : List Char := cs.dropWhile isSpace

/-- What follows a newline. -/
def afterNewline? : List Char → Option (List Char)
  | '\n' :: rest => some rest
  | '\r' :: '\n' :: rest => some rest
  | _ => none

def skipComment (cs : List Char) : List Char :=
  match cs with
  | '#' :: rest => rest.dropWhile isPlain
  | _ => cs

def hexNumber? (digits : List Char) : Option Nat := Text.digitsValue? 16 0 digits

def unicode? (digits : List Char) : Option Char :=
  (hexNumber? digits).bind Text.scalar?

/-- The character that a single letter stands for after a backslash. -/
def escaped? : Char → Option Char
  | 'b' => some '\x08'
  | 't' => some '\t'
  | 'n' => some '\n'
  | 'f' => some '\x0c'
  | 'r' => some '\r'
  | '"' => some '"'
  | '\\' => some '\\'
  | _ => none

def consChar (c : Char) (body : Option (List Char × List Char)) :
    Option (List Char × List Char) :=
  body.map fun (cs, rest) => (c :: cs, rest)

/-- A string in double quotes after its opening quote. -/
def basicBody : Reader (List Char)
  | '"' :: rest => some ([], rest)
  | '\\' :: 'u' :: a :: b :: c :: d :: rest =>
    (unicode? [a, b, c, d]).bind fun u => consChar u (basicBody rest)
  | '\\' :: 'U' :: a :: b :: c :: d :: e :: f :: g :: h :: rest =>
    (unicode? [a, b, c, d, e, f, g, h]).bind fun u => consChar u (basicBody rest)
  | '\\' :: c :: rest => (escaped? c).bind fun u => consChar u (basicBody rest)
  | c :: rest => if isPlain c then consChar c (basicBody rest) else none
  | [] => none

/-- A string in single quotes after its opening quote. -/
def literalBody : Reader (List Char)
  | '\'' :: rest => some ([], rest)
  | c :: rest => if isPlain c then consChar c (literalBody rest) else none
  | [] => none

/-- Up to two quotes may stand before the three that close a string of several lines. -/
def closing? (quote : Char) : Reader (List Char)
  | a :: b :: c :: rest =>
    if a = quote ∧ b = quote ∧ c = quote then
      match rest with
      | d :: e :: rest =>
        if d = quote ∧ e = quote then some ([quote, quote], rest)
        else if d = quote then some ([quote], e :: rest)
        else some ([], d :: e :: rest)
      | [d] => if d = quote then some ([quote], []) else some ([], [d])
      | [] => some ([], [])
    else none
  | _ => none

/-- A string of several lines in double quotes. After a backslash at the end of a line, blanks and
newlines are skipped; `skipping` tells that this goes on. -/
def multiBasicBody (skipping : Bool) (cs : List Char) : Option (List Char × List Char) :=
  match cs with
  | [] => none
  | c :: rest =>
    if skipping && (isSpace c || c == '\n') then multiBasicBody true rest
    else if skipping && c == '\r' && rest.head? == some '\n' then multiBasicBody true rest
    else
      match closing? '"' (c :: rest) with
      | some found => some found
      | none =>
        match c, rest with
        | '\r', '\n' :: rest => consChar '\n' (multiBasicBody false rest)
        | '\n', rest => consChar '\n' (multiBasicBody false rest)
        | '\\', 'u' :: a :: b :: c :: d :: rest =>
          (unicode? [a, b, c, d]).bind fun u => consChar u (multiBasicBody false rest)
        | '\\', 'U' :: a :: b :: c :: d :: e :: f :: g :: h :: rest =>
          (unicode? [a, b, c, d, e, f, g, h]).bind fun u =>
            consChar u (multiBasicBody false rest)
        | '\\', d :: rest =>
          match escaped? d with
          | some u => consChar u (multiBasicBody false rest)
          | none =>
            if (afterNewline? (skipSpaces (d :: rest))).isSome then
              multiBasicBody true (d :: rest)
            else none
        | c, rest => if isPlain c then consChar c (multiBasicBody false rest) else none
  termination_by cs.length

/-- A string of several lines in single quotes. -/
def multiLiteralBody : Reader (List Char)
  | [] => none
  | c :: rest =>
    match closing? '\'' (c :: rest) with
    | some found => some found
    | none =>
      match c, rest with
      | '\r', '\n' :: rest => consChar '\n' (multiLiteralBody rest)
      | '\n', rest => consChar '\n' (multiLiteralBody rest)
      | c, rest => if isPlain c then consChar c (multiLiteralBody rest) else none

/-- The newline after the opening quotes of a string of several lines does not count. -/
def trimNewline (cs : List Char) : List Char := (afterNewline? cs).getD cs

/-- A string of any of the four forms. -/
def string? (cs : List Char) : Option (String × List Char) :=
  let body := match cs with
    | '"' :: '"' :: '"' :: rest => multiBasicBody false (trimNewline rest)
    | '\'' :: '\'' :: '\'' :: rest => multiLiteralBody (trimNewline rest)
    | '"' :: rest => basicBody rest
    | '\'' :: rest => literalBody rest
    | _ => none
  body.map fun (text, rest) => (String.ofList text, rest)

def isBareKey (c : Char) : Bool := c.isAlphanum || c == '_' || c == '-'

/-- A part of a key: a bare word, or a string on one line. -/
def simpleKey? (cs : List Char) : Option (String × List Char) :=
  match cs with
  | '"' :: rest => (basicBody rest).map fun (text, rest) => (String.ofList text, rest)
  | '\'' :: rest => (literalBody rest).map fun (text, rest) => (String.ofList text, rest)
  | _ =>
    let word := cs.takeWhile isBareKey
    if word.isEmpty then none else some (String.ofList word, cs.drop word.length)

/-- Keys must have fewer parts, and values fewer levels. -/
def nestingLimit : Nat := 80

/-- At most `count` parts of a key with dots between them. -/
def keyParts? : Nat → Reader (List String)
  | 0, _ => none
  | count + 1, cs => do
    let (part, rest) ← simpleKey? (skipSpaces cs)
    match skipSpaces rest with
    | '.' :: rest =>
      let (parts, rest) ← keyParts? count rest
      return (part :: parts, rest)
    | rest => return ([part], rest)

def key? : Reader (List String) := keyParts? (nestingLimit - 1)

/-! Numbers. Only whether they are well formed is of interest. -/

/-- The digits without the underscores, each of which stands between two digits. -/
def digitRun? (isDigit : Char → Bool) (cs : List Char) : Option (List Char) :=
  let groups := cs.splitOn '_'
  if groups.all fun g => !g.isEmpty && g.all isDigit then some groups.flatten else none

def dropSign : List Char → List Char
  | '+' :: rest | '-' :: rest => rest
  | cs => cs

/-- Digits without a zero in front. -/
def decimal? (cs : List Char) : Option Nat :=
  (digitRun? Char.isDigit cs).bind fun digits =>
    if digits.head? == some '0' && digits.length != 1 then none
    else Text.digitsValue? 10 0 digits

def isBase (radix : Nat) (c : Char) : Bool :=
  match Text.hexValue? c with
  | some d => d < radix
  | none => false

def fits (limit : Nat) : Option Nat → Bool
  | some n => n ≤ limit
  | none => false

/-- An integer of 64 bits with a sign. -/
def isInteger (cs : List Char) : Bool :=
  let based := fun radix digits =>
    fits (Nat.pow 2 63 - 1) ((digitRun? (isBase radix) digits).bind (Text.digitsValue? radix 0))
  match cs with
  | '0' :: 'x' :: digits => based 16 digits
  | '0' :: 'o' :: digits => based 8 digits
  | '0' :: 'b' :: digits => based 2 digits
  | '-' :: digits => fits (Nat.pow 2 63) (decimal? digits)
  | _ => fits (Nat.pow 2 63 - 1) (decimal? (dropSign cs))

/-- Whether `digits` times ten to the power of `exponent` is too large for a floating-point number of
64 bits, which then would be infinite. -/
def overflows (digits : List Char) (exponent : Int) : Bool :=
  let limit := Nat.pow 2 1024 - Nat.pow 2 970
  let value := (Text.digitsValue? 10 0 digits).getD 0
  match exponent with
  | .ofNat n => value != 0 && (310 ≤ n || limit ≤ value * Nat.pow 10 n)
  | .negSucc n => limit * Nat.pow 10 (min (n + 1) digits.length) ≤ value

def isMark (c : Char) : Bool := c == '.' || c == 'e' || c == 'E'

def exponent? (cs : List Char) : Option Int := do
  let digits ← digitRun? Char.isDigit (dropSign cs)
  let n ← Text.digitsValue? 10 0 digits
  return if cs.head? == some '-' then -n else n

/-- The digits of a number and the exponent that goes with them. There must be a fraction, an
exponent or both. -/
def floatParts? (cs : List Char) : Option (List Char × Int) := do
  let whole := cs.takeWhile fun c => !isMark c
  let _ ← decimal? whole
  let digits ← digitRun? Char.isDigit whole
  match cs.drop whole.length with
  | '.' :: rest =>
    let places := rest.takeWhile fun c => !isMark c
    let more ← digitRun? Char.isDigit places
    match rest.drop places.length with
    | [] => return (digits ++ more, -more.length)
    | '.' :: _ => none
    | _ :: tail => return (digits ++ more, (← exponent? tail) - more.length)
  | _ :: tail => return (digits, ← exponent? tail)
  | [] => none

/-- A number with a fraction, an exponent or both. A positive one must not be too large. -/
def isFloat (cs : List Char) : Bool :=
  let body := dropSign cs
  if body == "inf".toList || body == "nan".toList then true
  else
    match floatParts? body with
    | some (digits, exponent) => cs.head? == some '-' || !overflows digits exponent
    | none => false

end TypedRows.Config
