import Mathlib.Algebra.GroupWithZero.Nat
import TypedRows.Proofs.TokenText

/-! The weight of a text. A token weighs no more than what it was read from, and weighs less where
a mark was doubled or a character escaped. -/

namespace TypedRows.Sql.Token

/-- Blanks and the `L` of a number weigh nothing; the `0` of `0x` stands for two marks. -/
def charWeight (c : Char) : Nat :=
  if c ∈ 'L' :: blanks then 0 else if c = '0' then 2 else 1

def weight (cs : List Char) : Nat := (cs.map charWeight).sum

@[simp] theorem weight_nil : weight [] = 0 := rfl

@[simp] theorem weight_cons (c : Char) (cs : List Char) :
    weight (c :: cs) = charWeight c + weight cs := by
  simp [weight]

@[simp] theorem weight_append (first second : List Char) :
    weight (first ++ second) = weight first + weight second := by
  simp [weight]

@[simp] theorem weight_reverse (cs : List Char) : weight cs.reverse = weight cs := by
  simp [weight, List.sum_reverse]

theorem weight_le_of_sublist {first second : List Char} (h : first.Sublist second) :
    weight first ≤ weight second := by
  induction h with
  | slnil => exact Nat.le_refl _
  | cons c _ ih =>
    rw [weight_cons]
    omega
  | cons_cons c _ ih =>
    rw [weight_cons, weight_cons]
    omega

theorem weight_drop_le (n : Nat) (cs : List Char) : weight (cs.drop n) ≤ weight cs :=
  weight_le_of_sublist (List.drop_sublist n cs)

theorem charWeight_le (c : Char) : charWeight c ≤ 2 := by
  unfold charWeight
  split
  · omega
  · split <;> omega

theorem charWeight_quote {c : Char} (h : c ∈ escapes) : charWeight c = 1 := by
  have all : ∀ d ∈ escapes, charWeight d = 1 := forall_mem_of_all (by decide)
  exact all c h

theorem charWeight_pos {c : Char} (h : c ∉ 'L' :: blanks) : 0 < charWeight c := by
  rw [charWeight, if_neg h]
  split <;> omega

theorem charWeight_blank {c : Char} (h : c ∈ blanks) : charWeight c = 0 :=
  if_pos (List.mem_cons_of_mem _ h)

/-- A body that is read from `cs` up to its closing mark, after what `acc` already holds. It weighs
no more than what it is read from, and the same only if every character it adds is `Plain`. -/
structure Weighed (Plain : Char → Prop) (acc cs body rest : List Char) : Prop where
  le : weight body + 1 + weight rest ≤ weight cs + weight acc
  plain : weight body + 1 + weight rest = weight cs + weight acc → ∀ c ∈ body, c ∈ acc ∨ Plain c

namespace Weighed

variable {Plain : Char → Prop} {acc cs body rest : List Char}

theorem closing {close : Char} (one : charWeight close = 1) :
    Weighed Plain acc (close :: rest) acc.reverse rest where
  le := by
    rw [weight_cons, weight_reverse, one]
    omega
  plain _ _ member := .inl (List.mem_reverse.mp member)

/-- One character more, read from what stands in front of `left`. -/
theorem step {left : List Char} {d : Char} (later : Weighed Plain (d :: acc) left body rest)
    (le : charWeight d + weight left ≤ weight cs)
    (plain : charWeight d + weight left = weight cs → Plain d) :
    Weighed Plain acc cs body rest := by
  have total := later.le
  rw [weight_cons] at total
  refine ⟨by omega, fun same c member => ?_⟩
  rcases later.plain (by rw [weight_cons]; omega) c member with kept | apart
  · cases kept with
    | head => exact .inr (plain (by omega))
    | tail _ kept => exact .inl kept
  · exact .inr apart

/-- A character that is read from a longer spelling of it, which alone makes the body lighter. -/
theorem step_lighter {left : List Char} {d : Char} (later : Weighed Plain (d :: acc) left body rest)
    (lt : charWeight d + weight left < weight cs) : Weighed Plain acc cs body rest :=
  later.step (Nat.le_of_lt lt) fun same => absurd same (Nat.ne_of_lt lt)

theorem step_self {left : List Char} {d : Char} (later : Weighed Plain (d :: acc) left body rest)
    (plain : Plain d) : Weighed Plain acc (d :: left) body rest :=
  later.step (Nat.le_of_eq (weight_cons d left).symm) fun _ => plain

theorem whole (h : Weighed Plain [] cs body rest) :
    weight body + 1 + weight rest ≤ weight cs ∧
      (weight body + 1 + weight rest = weight cs → ∀ c ∈ body, Plain c) :=
  ⟨h.le, fun same c member => (h.plain same c member).resolve_left List.not_mem_nil⟩

end Weighed

theorem quotedBody_weight {close : Char} {acc cs body rest : List Char}
    (one : charWeight close = 1) (h : quotedBody close acc cs = some (body, rest)) :
    Weighed (· ≠ close) acc cs body rest := by
  fun_induction quotedBody close acc cs with
  | case1 => cases h
  | case2 acc rest' ih =>
    refine (ih h).step_lighter ?_
    simp only [weight_cons, one]
    omega
  | case3 | case4 =>
    cases h
    exact .closing one
  | case5 acc c rest' other ih => exact (ih h).step_self other

theorem backslashed_weight (c : Char) : charWeight (backslashed c) ≤ charWeight c := by
  unfold backslashed
  split <;> first | decide | exact Nat.le_refl _

theorem backslashBody_weight {acc cs body rest : List Char}
    (h : backslashBody acc cs = some (body, rest)) : Weighed (· ∉ escapes) acc cs body rest := by
  have quote : charWeight '\'' = 1 := rfl
  have slash : charWeight '\\' = 1 := rfl
  fun_induction backslashBody acc cs with
  | case1 | case5 => cases h
  | case2 acc rest' ih =>
    refine (ih h).step_lighter ?_
    simp only [weight_cons, quote]
    omega
  | case3 acc rest' other =>
    cases h
    exact .closing quote
  | case4 acc c rest' ih =>
    refine (ih h).step_lighter ?_
    have lighter := backslashed_weight c
    simp only [weight_cons, slash]
    omega
  | case6 acc c rest' _ noQuote pair lone ih =>
    refine (ih h).step_self fun member => ?_
    simp only [escapes, List.mem_cons, List.not_mem_nil, or_false] at member
    rcases member with same | same
    · exact noQuote same
    · cases rest' with
      | nil => exact lone same rfl
      | cons d more => exact pair d more same rfl

theorem unescape?_weight {cs rest : List Char} {c : Char} (h : unescape? cs = some (c, rest)) :
    charWeight c + weight rest ≤ weight cs + 1 ∧ (c ∈ escapes → weight rest < weight cs) := by
  have light := charWeight_le c
  -- an escape of more than a backslash and the character itself
  have long (d : Char) (more : List Char) (n : Nat) (same : cs = d :: more)
      (some : 0 < charWeight d) (left : rest = more.drop n) :
      charWeight c + weight rest ≤ weight cs + 1 ∧ (c ∈ escapes → weight rest < weight cs) := by
    have drop := weight_drop_le n more
    rw [same, left, weight_cons]
    exact ⟨by omega, fun _ => by omega⟩
  unfold unescape? at h
  split at h
  case h_1 => cases h
  case h_2 | h_3 | h_4 | h_5 | h_6 =>
    cases h
    exact long _ _ 0 rfl (by decide) rfl
  case h_7 | h_8 =>
    obtain ⟨d, _, same⟩ := Option.map_eq_some_iff.mp h
    cases same
    exact long _ _ _ rfl (by decide) rfl
  case h_9 =>
    split at h
    · cases h
      exact long _ _ 0 rfl (by decide) rfl
    · obtain ⟨d, _, same⟩ := Option.map_eq_some_iff.mp h
      cases same
      exact long _ _ _ rfl (by decide) rfl
  case h_10 d more _ _ _ _ _ _ _ _ =>
    split at h
    · rename_i octal
      obtain ⟨e, _, same⟩ := Option.map_eq_some_iff.mp h
      cases same
      refine long _ _ _ rfl (charWeight_pos fun member => ?_) rfl
      have all : ∀ e ∈ 'L' :: blanks, isOctal e = false := forall_mem_of_all (by decide)
      cases (all d member).symm.trans octal
    · cases h
      rw [weight_cons]
      exact ⟨by omega, fun member => by rw [charWeight_quote member]; omega⟩

theorem escapedBody_weight {acc cs body rest : List Char}
    (h : escapedBody acc cs = some (body, rest)) : Weighed (· ∉ escapes) acc cs body rest := by
  have quote : charWeight '\'' = 1 := rfl
  have slash : charWeight '\\' = 1 := rfl
  fun_induction escapedBody acc cs with
  | case1 | case4 | case6 => cases h
  | case2 acc rest' ih =>
    refine (ih h).step_lighter ?_
    simp only [weight_cons, quote]
    omega
  | case3 acc rest' other =>
    cases h
    exact .closing quote
  | case5 acc more c left found some ih =>
    obtain ⟨le, strict⟩ := unescape?_weight found
    refine (ih h).step (by rw [weight_cons, slash]; omega) fun same member => ?_
    -- an escape that stands for a mark is lighter than its spelling, so it is not the same
    have lt := strict member
    have one := charWeight_quote member
    rw [weight_cons, slash] at same
    omega
  | case7 acc c rest' _ noQuote noSlash ih =>
    exact (ih h).step_self (by simp_all [escapes])

theorem commentBody_weight {depth : Nat} {last : Char} {acc cs body rest : List Char}
    (h : commentBody depth last acc cs = some (body, rest)) : weight rest ≤ weight cs := by
  fun_induction commentBody depth last acc cs with
  | case1 => cases h
  | case3 | case4 =>
    cases h
    rw [weight_cons]
    omega
  | case2 _ _ _ _ _ _ ih | case5 _ _ _ _ _ _ _ ih | case6 _ _ _ _ _ _ _ ih =>
    have le := ih h
    rw [weight_cons]
    omega

theorem lineToken_weight {rest after : List Char} {token : Token}
    (h : lineToken rest = (token, after)) : weight after ≤ weight rest := by
  unfold lineToken at h
  dsimp only at h
  have drop := weight_drop_le (rest.takeWhile fun c => c ≠ '\n').length rest
  split at h
  · rename_i c more found
    cases h
    rw [found, weight_cons] at drop
    exact Nat.le_trans (Nat.le_add_left _ _) drop
  · cases h
    exact Nat.zero_le _

theorem dollarBody_weight {rest body after : List Char}
    (h : dollarBody false [] rest = some (body, after)) :
    weight body + 2 + weight after = weight rest := by
  obtain ⟨used, rfl, same, _⟩ := dollarBody_span h
  have total := congrArg weight same
  simp only [weight_append, weight_cons, weight_nil, List.reverse_nil, Bool.false_eq_true,
    if_false, show charWeight '$' = 1 from rfl] at total ⊢
  omega

theorem taggedBody_weight {tag rest body after : List Char}
    (h : taggedBody tag none [] rest = some (body, after)) :
    weight body + weight tag + 2 + weight after = weight rest := by
  obtain ⟨used, rfl, same, _⟩ := taggedBody_span (fits_none _ _) h
  have total := congrArg weight same
  simp only [weight_append, weight_cons, weight_nil, List.reverse_nil,
    show charWeight '$' = 1 from rfl] at total ⊢
  omega

theorem weight_spelled (text : List Char) : weight (spelled text) = weight text := by
  unfold spelled
  split
  · rename_i same
    rw [same]
    rfl
  · rfl

/-- A literal with a letter in front of its quote, read with `c` for the letter. -/
theorem lettered_weight {token : Token} {letter c : Char} {rest body after : List Char}
    (text : token.text.toList = letter :: '\'' :: (body ++ ['\'']))
    (isPlain : token.plain = body.all (· ∉ escapes))
    (letters : charWeight letter = 1 ∧ charWeight c = 1)
    (h : Weighed (· ∉ escapes) [] rest body after) :
    weight token.text.toList + weight after ≤ weight (c :: '\'' :: rest) ∧
      (weight token.text.toList + weight after = weight (c :: '\'' :: rest) →
        token.plain = true) := by
  have quote : charWeight '\'' = 1 := rfl
  obtain ⟨le, plain⟩ := h.whole
  rw [text, isPlain]
  simp only [weight_cons, weight_append, weight_nil, quote, letters]
  exact ⟨by omega, fun same => List.all_eq_true.mpr fun d member =>
    decide_eq_true (plain (by omega) d member)⟩

/-- A token weighs no more than what it was read from, and the same only if it is plain. -/
theorem Read.weight_le {cs after : List Char} {token : Token} (h : Read cs token after)
    (sig : token.isTrivia = false) :
    weight token.text.toList + weight after ≤ weight cs ∧
      (weight token.text.toList + weight after = weight cs → token.plain = true) := by
  have quote : charWeight '\'' = 1 := rfl
  have dollar : charWeight '$' = 1 := rfl
  -- a token that is printed as it was read
  have verbatim (text : List Char) (same : token.text.toList = text) (plain : token.plain = true)
      (le : weight text + weight after ≤ weight cs) :
      weight token.text.toList + weight after ≤ weight cs ∧
        (weight token.text.toList + weight after = weight cs → token.plain = true) := by
    rw [same]
    exact ⟨le, fun _ => plain⟩
  cases h with
  | space | tab | newline | returned | newlines | line | block => cases sig
  | string h =>
    obtain ⟨le, plain⟩ := (quotedBody_weight rfl h).whole
    simp only [text_string, weight_cons, weight_append, weight_nil, quote]
    refine ⟨by omega, fun same => ?_⟩
    simpa [Token.plain] using fun member => plain (by omega) _ member rfl
  | @name quote rest body _ hq h =>
    have one : charWeight quote.closing = 1 ∧ charWeight quote.opening = 1 := by
      cases quote <;> exact ⟨rfl, rfl⟩
    obtain ⟨le, plain⟩ := (quotedBody_weight one.1 h).whole
    simp only [text_name, weight_cons, weight_append, weight_nil, one]
    refine ⟨by omega, fun same => ?_⟩
    simpa [Token.plain] using fun member => plain (by omega) _ member rfl
  | national hc h =>
    refine lettered_weight (text_national _) (by simp [Token.plain]) ⟨rfl, ?_⟩
      (backslashBody_weight h)
    rcases hc with rfl | rfl <;> rfl
  | escaped hc h =>
    refine lettered_weight (text_escaped _) (by simp [Token.plain]) ⟨rfl, ?_⟩
      (escapedBody_weight h)
    rcases hc with rfl | rfl <;> rfl
  | hex hc h =>
    refine lettered_weight (text_hex _) (by simp [Token.plain]) ⟨rfl, ?_⟩
      (backslashBody_weight h)
    rcases hc with rfl | rfl <;> rfl
  | hexDigits inside stop =>
    have marks : charWeight 'X' = 1 ∧ charWeight 'x' = 1 ∧ charWeight '0' = 2 := ⟨rfl, rfl, rfl⟩
    simp only [text_hex, weight_cons, weight_append, weight_nil, quote, marks]
    refine ⟨by omega, fun _ => ?_⟩
    have all : ∀ d ∈ escapes, isHexDigit d = false := forall_mem_of_all (by decide)
    simpa [Token.plain] using fun c member quoted =>
      Bool.eq_false_iff.mp (all c quoted) (inside c member)
  | number parts filled noHex stop =>
    refine verbatim _ String.toList_ofList rfl ?_
    simp only [weight_append]
    omega
  | long parts filled =>
    refine verbatim _ (text_long _) rfl ?_
    simp only [weight_append, weight_cons, weight_nil, show charWeight 'L' = 0 from rfl]
    omega
  | period stop =>
    refine verbatim ['.'] rfl rfl ?_
    simp only [weight_cons, weight_nil]
    omega
  | dollar h =>
    have same := dollarBody_weight h
    refine verbatim _ (text_dollar _) rfl ?_
    simp only [weight_append, weight_cons, weight_nil, dollar]
    omega
  | tagged some inside h =>
    have same := taggedBody_weight h
    refine verbatim _ (text_tagged _ _) rfl ?_
    simp only [weight_append, weight_cons, weight_nil, dollar]
    omega
  | parameter inside stop noFence =>
    refine verbatim _ String.toList_ofList rfl ?_
    simp only [weight_cons, weight_append]
    omega
  | positional inside stop =>
    refine verbatim _ String.toList_ofList rfl ?_
    simp only [weight_cons, weight_append]
    omega
  | word start inside stop noLiteral =>
    refine verbatim _ String.toList_ofList rfl ?_
    simp only [weight_cons, weight_append]
    omega
  | @mark c rest _ _ ordinary noDigit noPeriod noName noComment h =>
    obtain ⟨more, rfl, mark, alone, rfl⟩ := operator_cases h
    refine verbatim _ String.toList_ofList rfl ?_
    rw [weight_spelled]
    simp only [weight_cons, weight_append]
    omega

/-- What follows a blank or a comment weighs no more than the whole, and less after a comment. -/
theorem Read.weight_trivia {cs after : List Char} {token : Token} (h : Read cs token after)
    (trivia : token.isTrivia = true) :
    weight after ≤ weight cs ∧
      (weight after = weight cs → token = .space ∨ token = .tab ∨ token = .newline) := by
  have dash : charWeight '-' = 1 := rfl
  have slash : charWeight '/' = 1 := rfl
  cases h with
  | space h =>
    rw [weight_cons]
    exact ⟨by omega, fun _ => .inl rfl⟩
  | tab =>
    rw [weight_cons]
    exact ⟨by omega, fun _ => .inr (.inl rfl)⟩
  | newline | returned =>
    rw [weight_cons]
    exact ⟨by omega, fun _ => .inr (.inr rfl)⟩
  | newlines =>
    rw [weight_cons, weight_cons]
    exact ⟨by omega, fun _ => .inr (.inr rfl)⟩
  | line h =>
    have le := lineToken_weight h
    rw [weight_cons, weight_cons, dash]
    exact ⟨by omega, fun same => by omega⟩
  | block h =>
    have le := commentBody_weight h
    rw [weight_cons, weight_cons, slash]
    exact ⟨by omega, fun same => by omega⟩
  | _ => cases trivia

end TypedRows.Sql.Token
