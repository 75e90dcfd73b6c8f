import TypedRows.Sql.Tree.Print
import TypedRows.Text.Letter

/-!
Parsers over the tokens of a statement. A parser that fails may be given up for another one, but
not where the nesting is too deep. The parser of a statement starts after the words by which the
statement is told from others.
-/

namespace TypedRows.Sql.Grammar

/-- A token with its word in upper case if it is an unquoted word, and else the empty word. -/
structure Symbol where
  token : Token
  keyword : String

namespace Symbol

def ofToken (token : Token) : Symbol :=
  match token with
  | .word text none => ⟨token, String.ofList (text.toList.flatMap Text.uppercase)⟩
  | _ => ⟨token, ""⟩

/-- The name a word or a string can stand for. -/
def name? (symbol : Symbol) : Option Ident :=
  match symbol.token with
  | .word text quote => some ⟨text, quote⟩
  | .string value => some ⟨value, some .single⟩
  | _ => none

def word? (symbol : Symbol) : Option Ident :=
  match symbol.token with
  | .word text quote => some ⟨text, quote⟩
  | _ => none

def isMark (symbol : Symbol) (mark : String) : Bool :=
  symbol.token = .mark mark

end Symbol

inductive Failure where
  | unexpected
  | tooDeep
  deriving DecidableEq

abbrev Parser (α : Type) := StateT (List Symbol) (Except Failure) α

variable {α β : Type}

def unexpected : Parser α := throw .unexpected

def next : Parser Symbol := do
  match ← get with
  | symbol :: rest => set rest; return symbol
  | [] => unexpected

/-- The keyword of the next symbol, empty if it is not an unquoted word. -/
def peekKeyword : Parser String := do
  match ← get with
  | symbol :: _ => return symbol.keyword
  | [] => return ""

def atMark (mark : String) : Parser Bool := do
  match ← get with
  | symbol :: _ => return symbol.isMark mark
  | [] => return false

def takeMark (mark : String) : Parser Bool := do
  match ← get with
  | symbol :: rest => if symbol.isMark mark then set rest; return true else return false
  | [] => return false

def expectMark (mark : String) : Parser Unit := do
  unless ← takeMark mark do unexpected

def startsWith : List String → List Symbol → Bool
  | [], _ => true
  | _, [] => false
  | word :: words, symbol :: rest => symbol.keyword == word && startsWith words rest

def atKeywords (words : List String) : Parser Bool :=
  return startsWith words (← get)

/-- Takes all the words if all of them follow, or none. -/
def takeKeywords (words : List String) : Parser Bool := do
  let symbols ← get
  if startsWith words symbols then set (symbols.drop words.length); return true
  else return false

def takeKeyword (word : String) : Parser Bool := takeKeywords [word]

/-- Takes the words of the first of the lists that follows as a whole. -/
def takeAny : List (List String) → Parser Bool
  | [] => return false
  | words :: rest => do
    if ← takeKeywords words then return true
    takeAny rest

def expectAny (choices : List (List String)) : Parser Unit := do
  unless ← takeAny choices do unexpected

def expectKeywords (words : List String) : Parser Unit := do
  unless ← takeKeywords words do unexpected

def expectKeyword (word : String) : Parser Unit := expectKeywords [word]

/-- Spends the words if they are there. -/
def skipKeywords (words : List String) : Parser Unit := discard (takeKeywords words)

def skipKeyword (word : String) : Parser Unit := skipKeywords [word]

/-- Takes the next word if it is one of `words`. -/
def takeOneOf (words : List String) : Parser (Option String) := do
  match ← get with
  | symbol :: rest =>
    if words.contains symbol.keyword then set rest; return some symbol.keyword else return none
  | [] => return none

def expectOneOf (words : List String) : Parser String := do
  match ← takeOneOf words with
  | some word => return word
  | none => unexpected

/-- Goes back to where it started if `p` finds something unexpected. -/
def attempt (p : Parser α) : Parser (Option α) := fun symbols =>
  match p symbols with
  | .ok (a, rest) => .ok (some a, rest)
  | .error .unexpected => .ok (none, symbols)
  | .error .tooDeep => .error .tooDeep

/-- Repeats `step` on a value until it gives none. -/
def iterateFor (step : α → Parser (Option α)) : Nat → α → Parser α
  | 0, a => return a
  | n + 1, a => do
    match ← step a with
    | some a => iterateFor step n a
    | none => return a

/-- Each step is taken to spend a symbol, so their number bounds the steps. -/
def iterate (step : α → Parser (Option α)) (a : α) : Parser α := do
  iterateFor step ((← get).length + 1) a

/-- What `step` gives until it gives none. -/
def many (step : Parser (Option α)) : Parser (List α) := do
  let found ← iterate (fun acc => return (← step).map (· :: acc)) []
  return found.reverse

/-- One or more, with commas between them. -/
def separated (p : Parser α) : Parser (List α) := do
  let first ← p
  let rest ← many do if ← takeMark "," then some <$> p else return none
  return first :: rest

def inParens (p : Parser α) : Parser α := do
  expectMark "("
  let a ← p
  expectMark ")"
  return a

/-- `p` if the words are there. -/
def afterKeywords (words : List String) (p : Parser α) : Parser (Option α) := do
  if ← takeKeywords words then some <$> p else return none

/-- Spends the words and what follows them, if the words are there. -/
def skipClause (words : List String) (p : Parser α) : Parser Unit :=
  discard (afterKeywords words p)

/-- What is left of the choices after the first that takes something; none if no choice does. -/
def takeFrom : List (Parser Bool) → Parser (Option (List (Parser Bool)))
  | [] => return none
  | choice :: rest => do
    if ← choice then return some rest
    return (← takeFrom rest).map (choice :: ·)

/-- Takes what the choices offer, in any order and each at most once. -/
def eachOnce (choices : List (Parser Bool)) : Parser Unit :=
  discard (iterate takeFrom choices)

/-- The parsers for what stands one level deeper. -/
structure Nested where
  /-- An expression whose operators bind tighter than the given precedence. -/
  expr : Nat → Parser Expr
  query : Parser Query

end TypedRows.Sql.Grammar
