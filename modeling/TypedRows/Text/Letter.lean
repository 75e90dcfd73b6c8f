import TypedRows.Text.Table

/-!
Classes and case of single characters over all of Unicode. Below 128 the tables are not consulted.
-/

namespace TypedRows.Text

def inRuns (runs : List Run) (c : Char) : Bool :=
  runs.any (·.contains c.toNat)

def isAlphabetic (c : Char) : Bool :=
  if c.toNat < 128 then c.isAlpha else inRuns alphabeticRuns c

def isNumeric (c : Char) : Bool :=
  if c.toNat < 128 then c.isDigit else inRuns numericRuns c

def isAlphanumeric (c : Char) : Bool :=
  isAlphabetic c || isNumeric c

def isDecimal (c : Char) : Bool :=
  if c.toNat < 128 then c.isDigit else inRuns decimalRuns c

def isUppercase (c : Char) : Bool :=
  if c.toNat < 128 then c.isUpper else inRuns uppercaseRuns c

def isLowercase (c : Char) : Bool :=
  if c.toNat < 128 then c.isLower else inRuns lowercaseRuns c

/-- The image of `c` under a case mapping, one or more characters. -/
def mapCase (shifts : List Shift) (sequences : List (Nat × List Nat)) (c : Char) : List Char :=
  match sequences.find? (·.1 == c.toNat) with
  | some (_, image) => image.map Char.ofNat
  | none =>
    match shifts.find? (·.contains c.toNat) with
    | some shift => [Char.ofNat (shift.apply c.toNat)]
    | none => [c]

def uppercase (c : Char) : List Char :=
  if c.toNat < 128 then [c.toUpper] else mapCase upperShifts upperSequences c

def lowercase (c : Char) : List Char :=
  if c.toNat < 128 then [c.toLower] else mapCase lowerShifts lowerSequences c

end TypedRows.Text
