import TypedRows.Sql.Grammar.Parser
import TypedRows.Sql.Grammar.Reserved

/-!
Names, paths, aliases and lists of columns.
-/

namespace TypedRows.Sql.Grammar

def identifier : Parser Ident := do
  match (← next).name? with
  | some ident => return ident
  | none => unexpected

def path : Parser Path := do
  let first ← identifier
  let rest ← many do if ← takeMark "." then some <$> identifier else return none
  return first :: rest

/-- The alias that follows, if any. A word in `reserved` needs `AS` before it. -/
def optionalName (reserved : List String) : Parser (Option Ident) := do
  if ← takeKeyword "AS" then
    return some (← identifier)
  match ← get with
  | symbol :: rest =>
    match symbol.name? with
    | some ident =>
      if reserved.contains symbol.keyword then return none
      set rest
      return some ident
    | none => return none
  | [] => return none

def columnList : Parser (List Ident) :=
  inParens (separated identifier)

def optionalColumnList : Parser (List Ident) := do
  if ← atMark "(" then columnList else return []

def optionalAlias : Parser (Option Alias) := do
  match ← optionalName reservedForTable with
  | some name => return some ⟨name, ← optionalColumnList⟩
  | none => return none

/-- `*` or `path.*` at the start of the symbols. -/
def wildcard? (path : Path) : List Symbol → Option (Path × List Symbol)
  | ⟨.mark "*", _⟩ :: rest => some (path.reverse, rest)
  | symbol :: ⟨.mark ".", _⟩ :: rest =>
    match symbol.name? with
    | some ident => wildcard? (ident :: path) rest
    | none => none
  | _ => none

/-- A string literal, or a word without a meaning of its own. -/
def literalString : Parser String := do
  let symbol ← next
  match symbol.token with
  | .string value => return value
  | .word text _ => if allWords.contains symbol.keyword then unexpected else return text
  | _ => unexpected

/-- A whole number below the bound. -/
def numberBelow (bound : Nat) : Parser Nat := do
  match (← next).token with
  | .number digits _ =>
    match digits.toList.all Char.isDigit, digits.toNat? with
    | true, some n => if n < bound then return n else unexpected
    | _, _ => unexpected
  | _ => unexpected

def wholeNumber : Parser Nat := numberBelow (Nat.pow 2 64)

/-- Whether a name follows; a symbol that is none is spent all the same. -/
def looseIdentifier : Parser Bool := do
  match ← get with
  | symbol :: rest =>
    set rest
    return symbol.name?.isSome
  | [] => return false

/-- A path that ends at the first part which is no name. -/
def loosePath : Parser Unit :=
  discard <| many do
    if ← looseIdentifier then
      if ← takeMark "." then return some ()
    return none

end TypedRows.Sql.Grammar
