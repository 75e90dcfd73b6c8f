/-!
Reading numbers written in digits, and characters given by their code point.
-/

namespace TypedRows.Text

def hexValue? (c : Char) : Option Nat :=
  if c.isDigit then some (c.toNat - '0'.toNat)
  else if 'a' ≤ c && c ≤ 'f' then some (c.toNat - 'a'.toNat + 10)
  else if 'A' ≤ c && c ≤ 'F' then some (c.toNat - 'A'.toNat + 10)
  else none

def digitsValue? (radix : Nat) : Nat → List Char → Option Nat
  | acc, [] => some acc
  | acc, c :: rest =>
    match hexValue? c with
    | some d => if d < radix then digitsValue? radix (acc * radix + d) rest else none
    | none => none

/-- A 32-bit number without sign, up to radix 16. One plus may precede the digits. -/
def word32? (radix : Nat) (cs : List Char) : Option Nat :=
  let digits := match cs with
    | '+' :: rest => rest
    | _ => cs
  if digits.isEmpty then none
  else (digitsValue? radix 0 digits).filter (· < Nat.pow 2 32)

/-- The character of a code point; the surrogates have none. -/
def scalar? (n : Nat) : Option Char :=
  if n.isValidChar then some (Char.ofNat n) else none

end TypedRows.Text
