/-!
The values of a configuration file. Numbers and booleans are told apart from the others, but not
from each other.
-/

namespace TypedRows

mutual

inductive ConfigValue where
  | text (text : String)
  /-- A date, a time or both. -/
  | moment (text : String)
  | plain
  | list (items : List ConfigValue)
  | table (entries : List ConfigEntry)

structure ConfigEntry where
  key : String
  value : ConfigValue

end

/-- The entries of a table. A date or a time counts as a table with one entry. -/
def ConfigValue.entries? : ConfigValue → Option (List ConfigEntry)
  | table entries => some entries
  | moment s => some [⟨"$__toml_private_datetime", .text s⟩]
  | text _ | plain | list _ => none

def ConfigEntry.find? (entries : List ConfigEntry) (key : String) : Option ConfigValue :=
  (entries.find? fun entry => entry.key == key).map ConfigEntry.value

end TypedRows
