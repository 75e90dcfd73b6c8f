import TypedRows.Proofs.TokenReading
import TypedRows.Text.Blank

/-! What is printed after a token looks like what was read after it, as far as its reader looks. -/

namespace TypedRows.Sql.Token

/-- The blanks that are no part of a word. -/
def blanks : List Char := [' ', '\t', '\n', '\x0b', '\x0c', '\r']

/-- The capitals that literals are printed with. -/
def capitals : List Char := ['N', 'E', 'X']

/-- The characters of a power of ten after which its reader looks on. -/
def powerMarks : List Char := ['e', 'E', '+', '-']

/-- What was read and what is printed in its place. -/
inductive Echo : List Char → List Char → Prop where
  | stop {source : List Char} : Echo source []
  | blank {source out : List Char} {d : Char} (h : d ∈ blanks) : Echo source (d :: out)
  | literal {source out : List Char} {c d : Char} (hc : c ∈ '0' :: literalLetters)
      (hd : d ∈ capitals) : Echo (c :: source) (d :: '\'' :: out)
  | unequal {source out : List Char} : Echo ('!' :: source) ('<' :: out)
  | head {source out : List Char} {c : Char} (h : c ∉ powerMarks) : Echo (c :: source) (c :: out)
  | same {source out : List Char} {c : Char} (h : Echo source out) : Echo (c :: source) (c :: out)

namespace Echo

variable {source out : List Char}

theorem head_cases (h : Echo source out) {d : Char} (hd : out.head? = some d) :
    d ∈ blanks ∨ (d ∈ capitals ∧ ∃ c ∈ '0' :: literalLetters, source.head? = some c) ∨
      (d = '<' ∧ source.head? = some '!') ∨ source.head? = some d := by
  cases h with
  | stop => cases hd
  | blank h => cases hd; exact .inl h
  | literal hc h => cases hd; exact .inr (.inl ⟨h, _, hc, rfl⟩)
  | unequal => cases hd; exact .inr (.inr (.inl ⟨rfl, rfl⟩))
  | head _ => cases hd; exact .inr (.inr (.inr rfl))
  | same _ => cases hd; exact .inr (.inr (.inr rfl))

/-- A character that is only printed where it was read. -/
theorem head_of_head (h : Echo source out) {d : Char} (hd : out.head? = some d)
    (apart : d ∉ '<' :: (blanks ++ capitals)) : source.head? = some d := by
  simp only [List.mem_cons, List.mem_append, not_or] at apart
  rcases h.head_cases hd with blank | ⟨capital, _⟩ | ⟨less, _⟩ | same
  · exact absurd blank apart.2.1
  · exact absurd capital apart.2.2
  · exact absurd less apart.1
  · exact same

theorem head_ne (h : Echo source out) {d : Char} (apart : d ∉ '<' :: (blanks ++ capitals))
    (no : source.head? ≠ some d) : out.head? ≠ some d :=
  fun hd => no (h.head_of_head hd apart)

theorem stops (h : Echo source out) {p : Char → Bool} (stop : StopsAt p source)
    (marks : (('<' :: blanks).all fun d => !p d) = true)
    (letters : ('0' :: literalLetters).all p = true ∨ (capitals.all fun d => !p d) = true) :
    StopsAt p out := by
  intro d hd
  simp only [List.all_eq_true, Bool.not_eq_true'] at marks letters
  rcases h.head_cases hd with blank | ⟨capital, c, letter, hc⟩ | ⟨rfl, _⟩ | same
  · exact marks d (List.mem_cons_of_mem _ blank)
  · rcases letters with all | none
    · have no := stop c hc
      rw [all c letter] at no
      cases no
    · exact none d capital
  · exact marks _ List.mem_cons_self
  · exact stop d same

/-- A text that is printed as it was read. What follows a blank at its end does not matter. -/
theorem append {text : List Char} (some : text ≠ [])
    (h : (∃ c ∈ text.getLast?, Text.isBlank c = true) ∨ Echo source out) :
    Echo (text ++ source) (text ++ out) := by
  induction text with
  | nil => exact absurd rfl some
  | cons c more ih =>
    cases more with
    | nil =>
      rcases h with ⟨d, last, blank⟩ | h
      · cases last
        refine .head fun member => ?_
        have all : ∀ d ∈ powerMarks, Text.isBlank d = false := forall_mem_of_all (by decide)
        exact Bool.eq_false_iff.mp (all c member) blank
      · exact .same h
    | cons d more =>
      refine .same (ih (List.cons_ne_nil _ _) ?_)
      rwa [List.getLast?_cons_cons] at h

end Echo

/-- A digit at the start, perhaps after a sign. -/
def Scaled (cs : List Char) : Prop :=
  ∃ sign d more, cs = sign ++ d :: more ∧ (sign = [] ∨ sign = ['+'] ∨ sign = ['-']) ∧
    d.isDigit = true

theorem digit_apart {d : Char} (digit : d.isDigit = true) : d ∉ '<' :: (blanks ++ capitals) := by
  intro member
  have all : ∀ c ∈ '<' :: (blanks ++ capitals), c.isDigit = false := forall_mem_of_all (by decide)
  rw [all d member] at digit
  cases digit

theorem Echo.scaled {source out : List Char} (h : Echo source out) (hs : Scaled out) :
    Scaled source := by
  -- a digit is only printed where it was read
  have read {source more : List Char} {d : Char} (h : Echo source (d :: more))
      (digit : d.isDigit = true) : ∃ more, source = d :: more :=
    List.head?_eq_some_iff.mp (h.head_of_head rfl (digit_apart digit))
  have after {sign d : Char} {more : List Char} (h : Echo source (sign :: d :: more))
      (hs : sign = '+' ∨ sign = '-') (digit : d.isDigit = true) :
      ∃ more, source = sign :: d :: more := by
    have marks : sign ∉ '<' :: (blanks ++ capitals) ∧ sign ∈ powerMarks := by
      rcases hs with rfl | rfl <;> decide
    simp only [List.mem_cons, List.mem_append, not_or] at marks
    cases h with
    | blank blank => exact absurd blank marks.1.2.1
    | literal _ capital => exact absurd capital marks.1.2.2
    | unequal => exact absurd rfl marks.1.1
    | head other => exact absurd marks.2 other
    | same rest =>
      obtain ⟨more, rfl⟩ := read rest digit
      exact ⟨more, rfl⟩
  obtain ⟨sign, d, more, rfl, signs, digit⟩ := hs
  rcases signs with rfl | rfl | rfl
  · obtain ⟨more, rfl⟩ := read h digit
    exact ⟨[], d, more, rfl, .inl rfl, digit⟩
  · obtain ⟨more, rfl⟩ := after h (.inl rfl) digit
    exact ⟨['+'], d, more, rfl, .inr (.inl rfl), digit⟩
  · obtain ⟨more, rfl⟩ := after h (.inr rfl) digit
    exact ⟨['-'], d, more, rfl, .inr (.inr rfl), digit⟩

theorem exponent_cons_eq_nil (e : Char) (rest : List Char) :
    exponent (e :: rest) = [] ↔ ¬((e = 'e' ∨ e = 'E') ∧ Scaled rest) := by
  have power : Scaled rest → (e = 'e' ∨ e = 'E') → exponent (e :: rest) ≠ [] := by
    rintro ⟨sign, d, more, rfl, signs, digit⟩ letter
    obtain ⟨text, after, same, _, _, inside, stop⟩ := exists_takeWhile Char.isDigit (d :: more)
    have some : text ≠ [] := by
      rintro rfl
      rw [List.nil_append] at same
      rw [← same, stopsAt_cons, digit] at stop
      cases stop
    have found := exponent_of_power (.mk letter signs some inside) stop
    rw [List.cons_append, List.append_assoc, ← same] at found
    rw [found]
    exact List.cons_ne_nil _ _
  constructor
  · rintro none ⟨letter, scaled⟩
    exact power scaled letter none
  · intro no
    rcases exponent_cases (e :: rest) with none | ⟨p, after, same, _, hp, _⟩
    · exact none
    · exfalso
      cases hp with
      | @mk e' sign digits letter signs some inside =>
        cases same
        refine no ⟨letter, ?_⟩
        obtain ⟨d, more, rfl⟩ := List.exists_cons_of_ne_nil some
        exact ⟨sign, d, more ++ after, by simp, signs, inside d List.mem_cons_self⟩

/-- No power of ten is printed where none was read. -/
theorem Echo.exponent_eq_nil {source out : List Char} (h : Echo source out)
    (none : exponent source = []) : exponent out = [] := by
  have letters {e : Char} (p : e ∈ '<' :: blanks) : ¬(e = 'e' ∨ e = 'E') := by
    rintro (rfl | rfl) <;> revert p <;> decide
  cases h with
  | stop => rfl
  | blank h => exact (exponent_cons_eq_nil _ _).mpr fun p => letters (List.mem_cons_of_mem _ h) p.1
  | literal hc hd =>
    rw [exponent_cons_eq_nil]
    rintro ⟨_, sign, d, more, same, signs, digit⟩
    rcases signs with rfl | rfl | rfl <;> cases same
    cases digit
  | unequal => exact (exponent_cons_eq_nil _ _).mpr fun p => letters List.mem_cons_self p.1
  | head h =>
    rw [exponent_cons_eq_nil]
    rintro ⟨rfl | rfl, _⟩ <;> exact h (by decide)
  | same h =>
    rw [exponent_cons_eq_nil] at none ⊢
    exact fun p => none ⟨p.1, h.scaled p.2⟩

end TypedRows.Sql.Token
