import TypedRows.Sql.Token
import TypedRows.Text.Digits
import TypedRows.Text.Letter

/-!
Reading SQL text into tokens. The scan ends because what a token leaves is never longer than what
follows its first character (`next_length`).
-/

namespace TypedRows.Sql

inductive ScanError where
  | openName
  | openString
  | badEscape
  | openDollar
  | openComment
  deriving DecidableEq

namespace ScanError

def message : ScanError → String
  | openName => "a quoted name is not closed"
  | openString => "a string is not closed"
  | badEscape => "a string with escapes is malformed or not closed"
  | openDollar => "a dollar-quoted string is not closed"
  | openComment => "a block comment is not closed"

end ScanError

namespace Token

def isNameStart (c : Char) : Bool :=
  c.isAlpha || c == '_' || (0x7f ≤ c.toNat && c.toNat ≤ 0xffff)

def isNamePart (c : Char) : Bool :=
  isNameStart c || c.isDigit

/-- The text up to `close`, which stands for itself where it is doubled. -/
def quotedBody (close : Char) (acc : List Char) : List Char → Option (List Char × List Char)
  | [] => none
  | c :: rest =>
    if c = close then
      match rest with
      | d :: rest' =>
        if d = close then quotedBody close (close :: acc) rest' else some (acc.reverse, d :: rest')
      | [] => some (acc.reverse, [])
    else quotedBody close (c :: acc) rest

/-- The character that a backslash and `c` stand for in a national or binary string. -/
def backslashed (c : Char) : Char :=
  match c with
  | '0' => '\x00'
  | 'a' => '\x07'
  | 'b' => '\x08'
  | 'f' => '\x0c'
  | 'n' => '\n'
  | 'r' => '\r'
  | 't' => '\t'
  | 'Z' => '\x1a'
  | _ => c

/-- The content of a national or binary string, in which a backslash escapes. -/
def backslashBody (acc : List Char) : List Char → Option (List Char × List Char)
  | [] => none
  | '\'' :: '\'' :: rest => backslashBody ('\'' :: acc) rest
  | '\'' :: rest => some (acc.reverse, rest)
  | '\\' :: c :: rest => backslashBody (backslashed c :: acc) rest
  | ['\\'] => none
  | c :: rest => backslashBody (c :: acc) rest

/-- The ASCII character of a byte written in the given radix. -/
def byteChar? (radix : Nat) (digits : List Char) : Option Char :=
  match Text.word32? radix digits with
  | some n => if n % 256 < 128 then some (Char.ofNat (n % 256)) else none
  | none => none

def codePoint? (width : Nat) (cs : List Char) : Option Char :=
  if cs.length < width then none else (Text.word32? 16 (cs.take width)).bind Text.scalar?

def isOctal (c : Char) : Bool := '0' ≤ c && c ≤ '7'

/-- Reads what follows a backslash in a string with escapes. -/
def unescape? : List Char → Option (Char × List Char)
  | [] => none
  | 'b' :: rest => some ('\x08', rest)
  | 'f' :: rest => some ('\x0c', rest)
  | 'n' :: rest => some ('\n', rest)
  | 'r' :: rest => some ('\r', rest)
  | 't' :: rest => some ('\t', rest)
  | 'u' :: rest => (codePoint? 4 rest).map (·, rest.drop 4)
  | 'U' :: rest => (codePoint? 8 rest).map (·, rest.drop 8)
  | 'x' :: rest =>
    match (rest.take 2).takeWhile fun c => (Text.hexValue? c).isSome with
    | [] => some ('x', rest)
    | digits => (byteChar? 16 digits).map (·, rest.drop digits.length)
  | c :: rest =>
    if isOctal c then
      let digits := (rest.take 2).takeWhile isOctal
      (byteChar? 8 (c :: digits)).map (·, rest.drop digits.length)
    else some (c, rest)

theorem unescape?_length {cs rest : List Char} {c : Char} (h : unescape? cs = some (c, rest)) :
    rest.length < cs.length := by
  unfold unescape? at h
  split at h <;> (try split at h) <;>
    simp only [Option.some.injEq, Prod.mk.injEq, Option.map_eq_some_iff, reduceCtorEq] at h <;>
    grind

/-- The content of a string with escapes. No escape may stand for the null character. -/
def escapedBody (acc : List Char) (cs : List Char) : Option (List Char × List Char) :=
  match cs with
  | [] => none
  | '\'' :: '\'' :: rest => escapedBody ('\'' :: acc) rest
  | '\'' :: rest => some (acc.reverse, rest)
  | '\\' :: rest =>
    match _ : unescape? rest with
    | some (c, rest') => if c = '\x00' then none else escapedBody (c :: acc) rest'
    | none => none
  | c :: rest => escapedBody (c :: acc) rest
termination_by cs.length
decreasing_by
  · simp only [List.length_cons]
    omega
  · have := unescape?_length ‹_›
    simp only [List.length_cons]
    omega
  · simp only [List.length_cons]
    omega

/-- The text between `$$` and `$$`; `half` tells that a dollar precedes. -/
def dollarBody (half : Bool) (acc : List Char) : List Char → Option (List Char × List Char)
  | [] => none
  | c :: rest =>
    if half then
      if c = '$' then some (acc.reverse, rest) else dollarBody false (c :: '$' :: acc) rest
    else if c = '$' then dollarBody true acc rest
    else dollarBody false (c :: acc) rest

/-- The text between two fences `$tag$`. `due` holds what is left of the tag after a dollar; a
character that does not fit it is spent. -/
def taggedBody (tag : List Char) (due : Option (List Char)) (acc : List Char) :
    List Char → Option (List Char × List Char)
  | [] => none
  | c :: rest =>
    match due with
    | none => taggedBody tag (if c = '$' then some tag else none) (c :: acc) rest
    | some [] =>
      -- the dollar and the tag of the closing fence have been kept with the text
      if c = '$' then some ((acc.drop (tag.length + 1)).reverse, rest)
      else taggedBody tag none (c :: acc) rest
    | some (t :: ts) => taggedBody tag (if c = t then some ts else none) (c :: acc) rest

/-- The body of a comment whose opening has been read. `last` is the character before; a slash and
a star nest also where they share a character with the closing of an inner comment. -/
def commentBody (depth : Nat) (last : Char) (acc : List Char) :
    List Char → Option (List Char × List Char)
  | [] => none
  | c :: rest =>
    if last = '/' ∧ c = '*' then commentBody (depth + 1) c (c :: acc) rest
    else if last = '*' ∧ c = '/' then
      match depth with
      -- the star of the closing mark has been kept with the text
      | 0 | 1 => some (acc.tail.reverse, rest)
      | d + 2 => commentBody (d + 1) c (c :: acc) rest
    else commentBody depth c (c :: acc) rest

/-- The exponent at the start of `cs`, if a digit follows its letter and sign. -/
def exponent (cs : List Char) : List Char :=
  match cs with
  | e :: rest =>
    if e = 'e' ∨ e = 'E' then
      let (sign, digits) := match rest with
        | '+' :: more => (['+'], more)
        | '-' :: more => (['-'], more)
        | _ => ([], rest)
      let digits := digits.takeWhile Char.isDigit
      if digits.isEmpty then [] else e :: sign ++ digits
    else []
  | [] => []

/-- Digits, one period, digits, exponent; a lone period is a mark. -/
def numberBody (cs : List Char) : List Char :=
  let whole := cs.takeWhile Char.isDigit
  let rest := cs.drop whole.length
  let fraction := match rest with
    | '.' :: more => '.' :: more.takeWhile Char.isDigit
    | _ => []
  let mantissa := whole ++ fraction
  if mantissa = ['.'] then mantissa else mantissa ++ exponent (cs.drop mantissa.length)

/-- Operators of more than one character, the longer before those that start them. -/
def operators : List String :=
  ["!~~*", "->>", "||/", "!~~", "!~*", "<=>", "~~*", "#>>", "->", "||", "|/", "=>", "==", "!=", "!!",
    "!~", "<=", "<>", "<<", "<@", ">=", ">>", "::", ":=", "&&", "^@", "~*", "~~", "#-", "#>", "@>",
    "@?", "@@"]

/-- The operator at the start of `c :: rest` and what follows it. -/
def operator (c : Char) (rest : List Char) : Token × List Char :=
  match operators.find? fun op => op.toList.isPrefixOf (c :: rest) with
  | some op => (.mark (if op = "!=" then "<>" else op), rest.drop (op.length - 1))
  | none => (.mark (String.singleton c), rest)

/-- A token and what follows it, or the fault of an enclosed text that does not end. -/
def closed (fault : ScanError) (make : String → Token) (body : Option (List Char × List Char)) :
    Except ScanError (Token × List Char) :=
  match body with
  | some (text, rest) => .ok (make (String.ofList text), rest)
  | none => .error fault

def dollarToken (rest : List Char) : Except ScanError (Token × List Char) :=
  match rest with
  | '$' :: rest => closed .openDollar (.dollar · none) (dollarBody false [] rest)
  | _ =>
    let tag := rest.takeWhile fun c => Text.isAlphanumeric c || c == '_'
    match rest.drop tag.length with
    | '$' :: after =>
      closed .openDollar (.dollar · (some (String.ofList tag))) (taggedBody tag none [] after)
    | after => .ok (.placeholder (String.ofList ('$' :: tag)), after)

def numberToken (c : Char) (rest : List Char) : Token × List Char :=
  match c, rest with
  | '0', 'x' :: more =>
    let digits := more.takeWhile fun c => (Text.hexValue? c).isSome
    (.hex (String.ofList digits), more.drop digits.length)
  | _, _ =>
    let digits := numberBody (c :: rest)
    if digits = ['.'] then (.mark ".", rest)
    else
      match rest.drop (digits.length - 1) with
      | 'L' :: after => (.number (String.ofList digits) true, after)
      | after => (.number (String.ofList digits) false, after)

def wordToken (c : Char) (rest : List Char) : Token × List Char :=
  let text := rest.takeWhile isNamePart
  (.word (String.ofList (c :: text)) none, rest.drop text.length)

def lineToken (rest : List Char) : Token × List Char :=
  let line := rest.takeWhile (· ≠ '\n')
  match rest.drop line.length with
  | _ :: after => (.lineComment (String.ofList (line ++ ['\n'])), after)
  | [] => (.lineComment (String.ofList line), [])

def nameToken (quote : QuoteMark) (rest : List Char) : Except ScanError (Token × List Char) :=
  closed .openName (.word · (some quote)) (quotedBody quote.closing [] rest)

/-- The token that starts with `c`, and what follows it in `rest`. -/
def next (c : Char) (rest : List Char) : Except ScanError (Token × List Char) :=
  match c, rest with
  | ' ', _ | '\x0b', _ | '\x0c', _ => .ok (.space, rest)
  | '\t', _ => .ok (.tab, rest)
  | '\n', _ => .ok (.newline, rest)
  | '\r', '\n' :: after => .ok (.newline, after)
  | '\r', _ => .ok (.newline, rest)
  | '\'', _ => closed .openString .string (quotedBody '\'' [] rest)
  | '"', _ => nameToken .double rest
  | '`', _ => nameToken .backtick rest
  | '[', _ => nameToken .bracket rest
  | '-', '-' :: after => .ok (lineToken after)
  | '/', '*' :: after => closed .openComment .blockComment (commentBody 1 ' ' [] after)
  | '?', _ =>
    let digits := rest.takeWhile Text.isNumeric
    .ok (.placeholder (String.ofList ('?' :: digits)), rest.drop digits.length)
  | '$', _ => dollarToken rest
  | _, '\'' :: after =>
    if c = 'N' ∨ c = 'n' then closed .openString .national (backslashBody [] after)
    else if c = 'E' ∨ c = 'e' then closed .badEscape .escaped (escapedBody [] after)
    else if c = 'X' ∨ c = 'x' then closed .openString .hex (backslashBody [] after)
    else if c.isDigit ∨ c = '.' then .ok (numberToken c rest)
    else if isNameStart c then .ok (wordToken c rest)
    else .ok (operator c rest)
  | _, _ =>
    if c.isDigit ∨ c = '.' then .ok (numberToken c rest)
    else if isNameStart c then .ok (wordToken c rest)
    else .ok (operator c rest)

/-! What a token leaves is not longer than what it was read from. -/

theorem length_of_drop_eq_cons {n : Nat} {c : Char} {cs rest : List Char}
    (h : cs.drop n = c :: rest) : rest.length < cs.length := by
  have := congrArg List.length h
  simp only [List.length_drop, List.length_cons] at this
  omega

theorem quotedBody_length {close : Char} {acc text cs rest : List Char}
    (h : quotedBody close acc cs = some (text, rest)) : rest.length ≤ cs.length := by
  fun_induction quotedBody close acc cs <;> grind

theorem backslashBody_length {acc text cs rest : List Char}
    (h : backslashBody acc cs = some (text, rest)) : rest.length ≤ cs.length := by
  fun_induction backslashBody acc cs <;> grind

theorem escapedBody_length {acc text cs rest : List Char}
    (h : escapedBody acc cs = some (text, rest)) : rest.length ≤ cs.length := by
  fun_induction escapedBody acc cs <;> grind [→ unescape?_length]

theorem dollarBody_length {half : Bool} {acc text cs rest : List Char}
    (h : dollarBody half acc cs = some (text, rest)) : rest.length ≤ cs.length := by
  fun_induction dollarBody half acc cs <;> grind

theorem taggedBody_length {tag : List Char} {due : Option (List Char)} {acc text cs rest : List Char}
    (h : taggedBody tag due acc cs = some (text, rest)) : rest.length ≤ cs.length := by
  fun_induction taggedBody tag due acc cs <;> grind

theorem commentBody_length {depth : Nat} {last : Char} {acc text cs rest : List Char}
    (h : commentBody depth last acc cs = some (text, rest)) : rest.length ≤ cs.length := by
  fun_induction commentBody depth last acc cs <;> grind

theorem closed_length {fault : ScanError} {make : String → Token}
    {body : Option (List Char × List Char)} {token : Token} {n : Nat} {after : List Char}
    (hb : ∀ text rest, body = some (text, rest) → rest.length ≤ n)
    (h : closed fault make body = .ok (token, after)) : after.length ≤ n := by
  unfold closed at h
  split at h
  · simp only [Except.ok.injEq, Prod.mk.injEq] at h
    exact h.2 ▸ hb _ _ rfl
  · simp at h

theorem dollarToken_length {rest after : List Char} {token : Token}
    (h : dollarToken rest = .ok (token, after)) : after.length ≤ rest.length := by
  unfold dollarToken at h
  split at h
  · exact closed_length (fun _ _ hb => Nat.le_succ_of_le (dollarBody_length hb)) h
  · dsimp only at h
    split at h
    · rename_i hd
      refine closed_length (fun _ _ hb => ?_) h
      have := taggedBody_length hb
      have := length_of_drop_eq_cons hd
      omega
    · simp only [Except.ok.injEq, Prod.mk.injEq] at h
      rw [← h.2]
      simp

theorem numberToken_length (c : Char) (rest : List Char) :
    (numberToken c rest).2.length ≤ rest.length := by
  unfold numberToken
  split
  · simp; omega
  · dsimp only
    split
    · simp
    · split
      · exact Nat.le_of_lt (length_of_drop_eq_cons ‹_›)
      · simp

theorem wordToken_length (c : Char) (rest : List Char) :
    (wordToken c rest).2.length ≤ rest.length := by
  simp [wordToken]

theorem lineToken_length (rest : List Char) : (lineToken rest).2.length ≤ rest.length := by
  unfold lineToken
  dsimp only
  split
  · exact Nat.le_of_lt (length_of_drop_eq_cons ‹_›)
  · simp

theorem operator_length (c : Char) (rest : List Char) :
    (operator c rest).2.length ≤ rest.length := by
  unfold operator
  split <;> simp

theorem next_length {c : Char} {rest after : List Char} {token : Token}
    (h : next c rest = .ok (token, after)) : after.length ≤ rest.length := by
  have pair {p : Token × List Char} (hp : p.2.length ≤ rest.length)
      (h : (Except.ok p : Except ScanError _) = .ok (token, after)) : after.length ≤ rest.length := by
    cases h; exact hp
  have hn := numberToken_length c rest
  have hw := wordToken_length c rest
  have ho := operator_length c rest
  unfold next at h
  split at h
  case h_8 | h_9 | h_10 | h_11 => exact closed_length (fun _ _ hb => quotedBody_length hb) h
  case h_13 => exact closed_length (fun _ _ hb => Nat.le_succ_of_le (commentBody_length hb)) h
  case h_15 => exact dollarToken_length h
  case h_12 => have := lineToken_length; grind
  case h_16 =>
    split at h
    · exact closed_length (fun _ _ hb => Nat.le_succ_of_le (backslashBody_length hb)) h
    split at h
    · exact closed_length (fun _ _ hb => Nat.le_succ_of_le (escapedBody_length hb)) h
    split at h
    · exact closed_length (fun _ _ hb => Nat.le_succ_of_le (backslashBody_length hb)) h
    grind
  all_goals grind

/-- The tokens of `cs`, or the first fault. -/
def scanChars (cs : List Char) : Except ScanError (List Token) :=
  match cs with
  | [] => .ok []
  | c :: rest =>
    match _ : next c rest with
    | .ok (token, after) => (token :: ·) <$> scanChars after
    | .error fault => .error fault
termination_by cs.length
decreasing_by
  have := next_length ‹_›
  simp
  omega

def scan (sql : String) : Except ScanError (List Token) :=
  scanChars sql.toList

end Token

end TypedRows.Sql
