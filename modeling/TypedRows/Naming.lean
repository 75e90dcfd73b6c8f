import TypedRows.Text.Letter
import TypedRows.Text.Blank

/-!
The words of a name, and the styles in which they are put together again.
-/

namespace TypedRows

namespace Naming

/-- The case of the last cased character of a word, if it has one. -/
inductive Mode where
  | boundary
  | lower
  | upper
  deriving DecidableEq

def Mode.after (mode : Mode) (c : Char) : Mode :=
  if Text.isLowercase c then .lower
  else if Text.isUppercase c then .upper
  else mode

/-- Splits letters and digits before a capital that follows a lowercase letter, and before the
last of several capitals if a lowercase letter follows it. `acc` is the current word, last
character first. -/
def humps (mode : Mode) (acc : List Char) : List Char → List (List Char)
  | [] => if acc.isEmpty then [] else [acc.reverse]
  | [c] => [(c :: acc).reverse]
  | c :: d :: rest =>
    if mode.after c = .lower ∧ Text.isUppercase d = true then
      (c :: acc).reverse :: humps .boundary [] (d :: rest)
    -- `HTTPServer`: the capital belongs to the word that goes on in lower case
    else if mode = .upper ∧ Text.isUppercase c = true ∧ Text.isLowercase d = true then
      acc.reverse :: humps .boundary [c] (d :: rest)
    else humps (mode.after c) (c :: acc) (d :: rest)

/-- The runs of letters and digits. -/
def alphanumericRuns (acc : List Char) : List Char → List (List Char)
  | [] => if acc.isEmpty then [] else [acc.reverse]
  | c :: rest =>
    if Text.isAlphanumeric c then alphanumericRuns (c :: acc) rest
    else if acc.isEmpty then alphanumericRuns [] rest
    else acc.reverse :: alphanumericRuns [] rest

def words (s : String) : List (List Char) :=
  (alphanumericRuns [] s.toList).flatMap (humps .boundary [])

/-- A sigma at the end of a word takes its final form. -/
def lowerWord : List Char → List Char
  | [] => []
  | ['Σ'] => ['ς']
  | c :: rest => Text.lowercase c ++ lowerWord rest

def upperWord (word : List Char) : List Char :=
  word.flatMap Text.uppercase

def capitalWord : List Char → List Char
  | [] => []
  | c :: rest => Text.uppercase c ++ lowerWord rest

def snakeCase (s : String) : String :=
  String.ofList (List.intercalate ['_'] ((words s).map lowerWord))

def shoutyCase (s : String) : String :=
  String.ofList (List.intercalate ['_'] ((words s).map upperWord))

def lowerCamelCase (s : String) : String :=
  match words s with
  | [] => ""
  | first :: rest => String.ofList (lowerWord first ++ rest.flatMap capitalWord)

/-- Capitalises the parts between underscores and leaves the rest of each as it is. -/
def pascalCase (s : String) : String :=
  String.ofList ((Text.splitChars '_' s.toList).flatMap fun
    | [] => []
    | c :: rest => c.toUpper :: rest)

end Naming

/-- How the name of a property is made from the name of a column. -/
inductive NameStyle where
  | snake
  | lowerCamel
  | plain
  deriving DecidableEq

namespace NameStyle

def ofString? : String → Option NameStyle
  | "snake_case" | "snakeCase" => some snake
  | "lowerCamelCase" | "camelCase" => some lowerCamel
  | "plain" => some plain
  | _ => none

def apply : NameStyle → String → String
  | snake, name => Naming.snakeCase name
  | lowerCamel, name => Naming.lowerCamelCase name
  | plain, name => name

end NameStyle

end TypedRows
