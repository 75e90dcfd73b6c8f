/-!
Raw string literals: `r`, some hashes and a quote, the text as it is, a quote and as many hashes.
-/

namespace TypedRows.RawString

/-- More hashes than follow any quote in the text, and at least one. -/
def fence : List Char → Nat
  | [] => 1
  | c :: rest =>
    if c = '"' then max ((rest.takeWhile (· = '#')).length + 1) (fence rest) else fence rest

def encode (text : String) : String :=
  let hashes := String.ofList (List.replicate (fence text.toList) '#')
  "r" ++ hashes ++ "\"" ++ text ++ "\"" ++ hashes

end TypedRows.RawString
