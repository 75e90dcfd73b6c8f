import TypedRows.Annotations.Value
import TypedRows.Text.Digits

/-!
Reading a block in braces: entries `key = value` with commas or newlines between them. A key
stands alone, or its value is a bare text, a quoted text or a list.
-/

namespace TypedRows

inductive BlockFault where
  | noOpening
  | unbalancedBraces
  | textAfterClosing
  | afterValue (c : Char)
  | noKey
  | nestedObject
  | inValue (c : Char)
  | unbalancedAngles
  | openList
  | emptyElement
  | inList (c : Char)
  | openString
  | openEscape
  | badCodePoint
  | badEscape (c : Char)
  deriving DecidableEq

namespace BlockFault

def message : BlockFault → String
  | noOpening => "expected `\x7b`"
  | unbalancedBraces => "unbalanced braces"
  | textAfterClosing => "unexpected text after closing brace"
  | afterValue c => "unexpected `" ++ String.singleton c ++ "` after value"
  | noKey => "expected a key"
  | nestedObject => "nested objects are not supported"
  | inValue c => "unexpected `" ++ String.singleton c ++ "` in value"
  | unbalancedAngles => "unbalanced `<` in value"
  | openList => "unterminated list"
  | emptyElement => "empty list element"
  | inList c => "unexpected `" ++ String.singleton c ++ "` in list"
  | openString => "unterminated string"
  | openEscape => "unterminated escape"
  | badCodePoint => "invalid unicode escape"
  | badEscape c => "invalid escape `\\" ++ String.singleton c ++ "`"

end BlockFault

namespace Block

/-- What was read, and the characters after it. -/
abbrev Read (α : Type) := Except BlockFault (α × List Char)

def isInlineBlank (c : Char) : Bool := c == ' ' || c == '\t' || c == '\r'

/-- The character a backslash and `c` stand for, if `c` is no code point. -/
def escaped? : Char → Option Char
  | '"' => some '"'
  | '\\' => some '\\'
  | '/' => some '/'
  | 'n' => some '\n'
  | 't' => some '\t'
  | 'r' => some '\r'
  | 'b' => some '\x08'
  | 'f' => some '\x0c'
  | _ => none

/-- A quoted text, after its opening quote. -/
def quoted (acc : List Char) : List Char → Read String
  | [] => .error .openString
  | '"' :: rest => .ok (String.ofList acc.reverse, rest)
  | ['\\'] => .error .openEscape
  | '\\' :: 'u' :: a :: b :: c :: d :: rest =>
    match (Text.word32? 16 [a, b, c, d]).bind Text.scalar? with
    | some char => quoted (char :: acc) rest
    | none => .error .badCodePoint
  | '\\' :: 'u' :: _ => .error .badCodePoint
  | '\\' :: c :: rest =>
    match escaped? c with
    | some char => quoted (char :: acc) rest
    | none => .error (.badEscape c)
  | c :: rest => quoted (c :: acc) rest

/-- A bare text up to one of `stops`; between angle brackets only a newline stops it. -/
def bare (stops : List Char) (angles : Nat) (acc : List Char) : List Char → Read String
  | [] => finish acc []
  | c :: rest =>
    if c = '<' then bare stops (angles + 1) (c :: acc) rest
    else if c = '>' then bare stops (angles - 1) (c :: acc) rest
    else if c = '{' ∨ c = '[' ∨ c = '"' then .error (.inValue c)
    else if c ∈ stops ∧ (angles = 0 ∨ c = '\n') then finish acc (c :: rest)
    else bare stops angles (c :: acc) rest
where
  finish (acc rest : List Char) : Read String :=
    if angles > 0 then .error .unbalancedAngles
    else .ok (String.ofList (Text.trimChars acc.reverse), rest)

def endsKey (c : Char) : Bool :=
  Text.isBlank c || ['=', ':', ',', '{', '}', '[', ']', '"'].contains c

def key (cs : List Char) : Read String :=
  match cs with
  | '"' :: rest => quoted [] rest
  | _ =>
    let text := cs.takeWhile fun c => !endsKey c
    if text.isEmpty then .error .noKey else .ok (String.ofList text, cs.drop text.length)

def element (cs : List Char) : Read String :=
  match cs with
  | '"' :: rest => quoted [] rest
  | _ =>
    match bare [',', ']', '\n'] 0 [] cs with
    | .ok (text, rest) => if text.isEmpty then .error .emptyElement else .ok (text, rest)
    | .error fault => .error fault

theorem quoted_length {acc cs rest : List Char} {text : String}
    (h : quoted acc cs = .ok (text, rest)) : rest.length < cs.length := by
  fun_induction quoted acc cs <;> simp_all <;> omega

/-- A bare text that takes no character is what was read before, trimmed. -/
theorem bare_length {stops acc cs rest : List Char} {angles : Nat} {text : String}
    (h : bare stops angles acc cs = .ok (text, rest)) :
    rest.length ≤ cs.length ∧
      (rest.length = cs.length → text = String.ofList (Text.trimChars acc.reverse)) := by
  fun_induction bare stops angles acc cs <;> grind [bare.finish]

theorem key_length {cs rest : List Char} {text : String} (h : key cs = .ok (text, rest)) :
    rest.length < cs.length := by
  unfold key at h
  split at h
  · exact Nat.lt_succ_of_lt (quoted_length h)
  · dsimp only at h
    split at h
    · cases h
    · rename_i hne
      simp only [Except.ok.injEq, Prod.mk.injEq] at h
      rw [← h.2]
      have hle := List.Sublist.length_le (List.takeWhile_sublist (fun c => !endsKey c) (l := cs))
      have hpos : 0 < (cs.takeWhile fun c => !endsKey c).length := by
        rw [List.length_pos_iff]
        simpa using hne
      simp only [List.length_drop]
      omega

theorem element_length {cs rest : List Char} {text : String}
    (h : element cs = .ok (text, rest)) : rest.length < cs.length := by
  unfold element at h
  split at h
  · exact Nat.lt_succ_of_lt (quoted_length h)
  · split at h
    · rename_i hb
      split at h
      · cases h
      · rename_i hne
        obtain ⟨rfl, rfl⟩ := h
        obtain ⟨hle, heq⟩ := bare_length hb
        refine Nat.lt_of_le_of_ne hle fun e => hne ?_
        rw [heq e]
        decide
    · cases h

theorem dropWhile_length (p : Char → Bool) (cs : List Char) :
    (cs.dropWhile p).length ≤ cs.length :=
  (List.dropWhile_sublist p).length_le

theorem length_of_dropWhile_eq_cons {p : Char → Bool} {c : Char} {cs rest : List Char}
    (h : cs.dropWhile p = c :: rest) : rest.length < cs.length := by
  have := dropWhile_length p cs
  rw [h] at this
  exact this

/-- The elements of a list up to its closing bracket. A comma may follow the last one. -/
def elements (acc : List String) (cs : List Char) : Read (List String) :=
  match _ : cs.dropWhile Text.isBlank with
  | [] => .error .openList
  | ']' :: rest => .ok (acc.reverse, rest)
  | c :: rest =>
    match _ : element (c :: rest) with
    | .error fault => .error fault
    | .ok (item, after) =>
      match _ : after.dropWhile Text.isBlank with
      | [] => .error .openList
      | ',' :: rest' => elements (item :: acc) rest'
      | ']' :: rest' => .ok ((item :: acc).reverse, rest')
      | d :: _ => .error (.inList d)
termination_by cs.length
decreasing_by
  rename_i h₁ h₂ h₃
  have := dropWhile_length Text.isBlank cs
  have := dropWhile_length Text.isBlank after
  have := element_length h₂
  simp only [h₁, h₃, List.length_cons] at *
  omega

def ofBare (text : String) : Value :=
  match text with
  | "null" => .null
  | "true" => .bool true
  | "false" => .bool false
  | _ => .text text

def value (cs : List Char) : Read Value :=
  match cs with
  | '"' :: rest => (quoted [] rest).map fun (text, after) => (.text text, after)
  | '[' :: rest => (elements [] rest).map fun (items, after) => (.list items, after)
  | '{' :: _ => .error .nestedObject
  | _ => (bare [',', '}', '\n'] 0 [] cs).map fun (text, after) => (ofBare text, after)

/-- What follows a key: a value after `=` or `:`, or nothing. -/
def assigned (cs : List Char) : Read Value :=
  match cs.dropWhile isInlineBlank with
  | '=' :: rest | ':' :: rest => value (rest.dropWhile isInlineBlank)
  | rest => .ok (.text "", rest)

theorem elements_length {acc items : List String} {cs rest : List Char}
    (h : elements acc cs = .ok (items, rest)) : rest.length ≤ cs.length := by
  fun_induction elements acc cs <;>
    grind [→ length_of_dropWhile_eq_cons, → element_length]

theorem map_eq_ok {α β : Type} {r : Read α} {f : α × List Char → β × List Char}
    {b : β × List Char} (h : r.map f = .ok b) : ∃ a, r = .ok a ∧ f a = b := by
  cases r with
  | error fault => cases h
  | ok a => exact ⟨a, rfl, Except.ok.inj h⟩

theorem value_length {cs rest : List Char} {v : Value} (h : value cs = .ok (v, rest)) :
    rest.length ≤ cs.length := by
  unfold value at h
  split at h
  case h_3 => cases h
  all_goals
    obtain ⟨⟨x, after⟩, hx, hf⟩ := map_eq_ok h
    cases hf
  · exact Nat.le_succ_of_le (Nat.le_of_lt (quoted_length hx))
  · exact Nat.le_succ_of_le (elements_length hx)
  · exact (bare_length hx).1

theorem assigned_length {cs rest : List Char} {v : Value} (h : assigned cs = .ok (v, rest)) :
    rest.length ≤ cs.length := by
  unfold assigned at h
  split at h <;>
    grind [→ value_length, dropWhile_length, → length_of_dropWhile_eq_cons]

/-- The entries of a block after its opening brace, with what follows the closing one. -/
def entries (acc : Annotations) (cs : List Char) : Read Annotations :=
  match _ : cs.dropWhile fun c => Text.isBlank c || c == ',' with
  | [] => .error .unbalancedBraces
  | '}' :: rest => .ok (acc, rest)
  | c :: rest =>
    match _ : key (c :: rest) with
    | .error fault => .error fault
    | .ok (name, afterKey) =>
      match _ : assigned afterKey with
      | .error fault => .error fault
      | .ok (v, afterValue) =>
        match afterValue.dropWhile isInlineBlank with
        | [] => .error .unbalancedBraces
        | d :: _ =>
          if d = ',' ∨ d = '\n' ∨ d = '}' then
            entries (acc.put name v) (afterValue.dropWhile isInlineBlank)
          else .error (.afterValue d)
termination_by cs.length
decreasing_by
  rename_i h₁ h₂ h₃
  have := dropWhile_length (fun c => Text.isBlank c || c == ',') cs
  have := dropWhile_length isInlineBlank afterValue
  have := key_length h₂
  have := assigned_length h₃
  simp only [h₁, List.length_cons] at *
  omega

def parseChars (cs : List Char) : Except BlockFault Annotations :=
  match cs.dropWhile Text.isBlank with
  | '{' :: rest =>
    match entries .empty rest with
    | .error fault => .error fault
    | .ok (map, after) =>
      if (after.dropWhile Text.isBlank).isEmpty then .ok map else .error .textAfterClosing
  | _ => .error .noOpening

/-- The entries of a block; a key given twice has its last value. -/
def parse (text : String) : Except BlockFault Annotations :=
  parseChars text.toList

end Block

end TypedRows
