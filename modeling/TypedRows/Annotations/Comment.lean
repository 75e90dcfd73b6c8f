import TypedRows.Annotations.Error

/-!
Finding the blocks `@@` and braces in comment lines. A block may go on over several lines and ends
where its braces balance, braces inside quoted texts not counted.
-/

namespace TypedRows

namespace Comment

/-- The content of a comment line without the marks of the comment. -/
def content (line : String) : List Char :=
  let cs := Text.trimChars line.toList
  let cs := match cs with
    | '-' :: '-' :: rest => rest
    | '/' :: '*' :: rest => rest
    | _ => cs
  let cs := match cs.reverse with
    | '/' :: '*' :: rest => rest.reverse
    | _ => cs
  match cs.dropWhile Text.isBlank with
  | ['*'] => []
  | '*' :: c :: rest => if Text.isBlank c then c :: rest else '*' :: c :: rest
  | cs => cs

/-- A block that has not ended, last character first. -/
structure OpenBlock where
  text : List Char
  depth : Nat
  quoted : Bool
  escaped : Bool
  deriving DecidableEq

/-- A block that holds no more than its opening brace. -/
def OpenBlock.start : OpenBlock := ⟨['{'], 1, false, false⟩

def OpenBlock.add (block : OpenBlock) (c : Char) : OpenBlock :=
  let text := c :: block.text
  if block.quoted then
    if block.escaped then { block with text, escaped := false }
    else if c = '\\' then { block with text, escaped := true }
    else if c = '"' then { block with text, quoted := false }
    else { block with text }
  -- braces count outside of quotes only
  else if c = '"' then { block with text, quoted := true }
  else if c = '{' then { block with text, depth := block.depth + 1 }
  else if c = '}' then { block with text, depth := block.depth - 1 }
  else { block with text }

/-- The blocks that end in a line, and the one that is open at its end. -/
def scanLine : Option OpenBlock → List Char → List String × Option OpenBlock
  | block, [] => ([], block)
  | none, '@' :: '@' :: '{' :: rest => scanLine (some .start) rest
  | none, _ :: rest => scanLine none rest
  | some block, c :: rest =>
    let block := block.add c
    if block.depth = 0 then
      let (found, last) := scanLine none rest
      (String.ofList block.text.reverse :: found, last)
    else scanLine (some block) rest

def scanLines (block : Option OpenBlock) : List String → List String × Option OpenBlock
  | [] => ([], block)
  | line :: rest =>
    let (found, last) := scanLine block (content line)
    -- the newline belongs to the block: it ends a bare value
    let last := last.map fun b => { b with text := '\n' :: b.text }
    let (more, last) := scanLines last rest
    (found ++ more, last)

/-- The blocks in the lines, each with its braces. -/
def blocks (lines : List String) : Except AnnotationsError (List String) :=
  match scanLines none lines with
  | (found, none) => .ok found
  | (_, some block) => .error (.openBlock (String.ofList block.text.reverse))

end Comment

end TypedRows
