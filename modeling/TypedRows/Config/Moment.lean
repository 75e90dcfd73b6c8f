import TypedRows.Config.Scalar
import TypedRows.Text.Blank

/-!
Dates and times in a configuration file, and the one text that each of them has.
-/

namespace TypedRows.Config

def daysIn (year month : Nat) : Nat :=
  if month = 2 then
    if year % 4 = 0 ∧ (year % 100 ≠ 0 ∨ year % 400 = 0) then 29 else 28
  else if [4, 6, 9, 11].contains month then 30
  else 31

/-- A number of exactly `count` digits. -/
def digits? : Nat → Nat → Reader Nat
  | 0, acc, cs => some (acc, cs)
  | count + 1, acc, c :: rest =>
    if c.isDigit then digits? count (acc * 10 + (c.toNat - '0'.toNat)) rest else none
  | _ + 1, _, [] => none

/-- What follows `year-month-day`. -/
def afterDate? (cs : List Char) : Option (List Char) :=
  match digits? 4 0 cs with
  | some (year, '-' :: rest) =>
    match digits? 2 0 rest with
    | some (month, '-' :: rest) =>
      match digits? 2 0 rest with
      | some (day, rest) =>
        if 1 ≤ month ∧ month ≤ 12 ∧ 1 ≤ day ∧ day ≤ daysIn year month then some rest else none
      | none => none
    | _ => none
  | _ => none

/-- What follows `hour:minute`. -/
def afterMinute? (cs : List Char) : Option (List Char) :=
  match digits? 2 0 cs with
  | some (hour, ':' :: rest) =>
    match digits? 2 0 rest with
    | some (minute, rest) => if hour ≤ 23 ∧ minute ≤ 59 then some rest else none
    | none => none
  | _ => none

/-- What follows `hour:minute:second`. A minute may have a leap second. -/
def afterSecond? (cs : List Char) : Option (List Char) :=
  match afterMinute? cs with
  | some (':' :: rest) =>
    match digits? 2 0 rest with
    | some (second, rest) => if second ≤ 60 then some rest else none
    | none => none
  | _ => none

/-- A fraction of a second to the nanosecond, without zeros at the end. -/
def fraction (digits : List Char) : List Char :=
  match Text.dropWhileEnd (· == '0') (digits.take 9) with
  | [] => []
  | kept => '.' :: kept

def time? : Reader (List Char) := fun cs =>
  match afterSecond? cs with
  | some ('.' :: c :: rest) =>
    if c.isDigit then
      let digits := (c :: rest).takeWhile Char.isDigit
      some (cs.take 8 ++ fraction digits, (c :: rest).drop digits.length)
    else none
  | some rest => some (cs.take 8, rest)
  | none => none

/-- An offset from universal time, if there is one. -/
def offset? : List Char → Option (List Char)
  | [] => some []
  | ['Z'] | ['z'] => some ['Z']
  | sign :: rest =>
    if (sign == '+' || sign == '-') && afterMinute? rest == some [] then
      some ((if rest == "00:00".toList then '+' else sign) :: rest)
    else none

/-- The text of a date, a time, or both with or without an offset. -/
def moment? (cs : List Char) : Option (List Char) :=
  match afterDate? cs with
  | some [] => some cs
  | some (c :: rest) =>
    if c == 'T' || c == 't' || c == ' ' then do
      let (time, rest) ← time? rest
      return cs.take 10 ++ 'T' :: time ++ (← offset? rest)
    else none
  | none =>
    match time? cs with
    | some (time, []) => some time
    | _ => none

end TypedRows.Config
