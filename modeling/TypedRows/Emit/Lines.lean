/-!
Source code as lines, from which the text is put together.
-/

namespace TypedRows.Emit

/-- Lines without the newlines that end them. -/
abbrev Lines := List String

namespace Lines

def indent (lines : Lines) : Lines := lines.map ("    " ++ ·)

/-- A head, a body in braces and what follows the closing brace. -/
def blockThen (head : String) (body : Lines) (tail : String) : Lines :=
  (head ++ " \x7b") :: indent body ++ ["\x7d" ++ tail]

def block (head : String) (body : Lines) : Lines := blockThen head body ""

/-- Text in braces on one line. -/
def inline (head body : String) : String := head ++ " \x7b " ++ body ++ " \x7d"

def text (lines : Lines) : String :=
  String.join (lines.map (· ++ "\n"))

end Lines

end TypedRows.Emit
