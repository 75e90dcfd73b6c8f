import TypedRows.Error
import TypedRows.Text.Letter
import TypedRows.Text.Digits

/-!
The names of migration files: a number, and perhaps a description.
-/

namespace TypedRows

/-- A migration file name taken apart. -/
structure MigrationName where
  digits : String
  version : Nat
  description : Option String
  deriving DecidableEq

namespace MigrationName

/-- The digits of a name without its extension, and what follows them: nothing, or an underscore
and characters other than dots. -/
def split? (stem : List Char) : Option (List Char × List Char) :=
  let (digits, rest) := stem.span Text.isDecimal
  if digits.isEmpty then none
  else
    match rest with
    | [] => some (digits, [])
    | '_' :: tail => if tail.contains '.' then none else some (digits, rest)
    | _ => none

/-- The description without the underscores before it. -/
def descriptionOf (rest : List Char) : Option String :=
  let text := rest.dropWhile (· == '_')
  if text.isEmpty then none else some (String.ofList text)

/-- Only the digits 0 to 9 make a number. -/
def parse (file : String) : Except Error MigrationName :=
  match (Text.dropSuffix? file ".sql").bind fun stem => split? stem.toList with
  | none => .error (.migrationName file .pattern)
  | some (digits, rest) =>
    match Text.word32? 10 digits with
    | none => .error (.migrationName file .tooLarge)
    | some version =>
      .ok { digits := String.ofList digits, version, description := descriptionOf rest }

end MigrationName

end TypedRows
