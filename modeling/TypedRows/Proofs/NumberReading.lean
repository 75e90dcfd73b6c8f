import TypedRows.Proofs.Trimming
import TypedRows.Sql.Token.Scan

/-! The digits of a number, and what must not follow them. -/

namespace TypedRows.Sql.Token

/-- The first of the characters, if there is one, does not have the property. -/
def StopsAt (p : Char → Bool) (after : List Char) : Prop :=
  ∀ c ∈ after.head?, p c = false

@[simp] theorem stopsAt_nil (p : Char → Bool) : StopsAt p [] := fun _ h => by cases h

@[simp] theorem stopsAt_cons {p : Char → Bool} {c : Char} {rest : List Char} :
    StopsAt p (c :: rest) ↔ p c = false := by
  simp [StopsAt]

theorem exists_takeWhile (p : Char → Bool) (cs : List Char) :
    ∃ text after, cs = text ++ after ∧ cs.takeWhile p = text ∧ cs.drop text.length = after ∧
      (∀ c ∈ text, p c = true) ∧ StopsAt p after := by
  induction cs with
  | nil => exact ⟨[], [], rfl, rfl, rfl, List.forall_mem_nil _, stopsAt_nil p⟩
  | cons c rest ih =>
    by_cases h : p c = true
    · obtain ⟨text, after, rfl, ht, hd, inside, stop⟩ := ih
      refine ⟨c :: text, after, rfl, ?_, ?_, ?_, stop⟩
      · rw [List.takeWhile_cons_of_pos h, ht]
      · exact hd
      · intro d member
        cases member with
        | head => exact h
        | tail _ member => exact inside d member
    · refine ⟨[], c :: rest, rfl, List.takeWhile_cons_of_neg h, rfl, List.forall_mem_nil _, ?_⟩
      rw [stopsAt_cons]
      exact Bool.not_eq_true _ ▸ h

theorem takeWhile_of_stop {p : Char → Bool} {text after : List Char}
    (inside : ∀ c ∈ text, p c = true) (stop : StopsAt p after) :
    (text ++ after).takeWhile p = text := by
  rw [List.takeWhile_append_of_pos inside]
  cases after with
  | nil => simp
  | cons c rest =>
    rw [stopsAt_cons] at stop
    simp [stop]

/-- A power of ten: its letter, perhaps a sign, and digits. -/
inductive Power : List Char → Prop where
  | mk {e : Char} {sign digits : List Char} (letter : e = 'e' ∨ e = 'E')
      (signed : sign = [] ∨ sign = ['+'] ∨ sign = ['-']) (some : digits ≠ [])
      (inside : ∀ d ∈ digits, d.isDigit = true) : Power (e :: (sign ++ digits))

/-- The sign at the start, if there is one, and what follows it. -/
def signed (cs : List Char) : List Char × List Char :=
  match cs with
  | '+' :: more => (['+'], more)
  | '-' :: more => (['-'], more)
  | _ => ([], cs)

theorem exponent_cons (e : Char) (rest : List Char) :
    exponent (e :: rest) = if e = 'e' ∨ e = 'E' then
      if ((signed rest).2.takeWhile Char.isDigit).isEmpty then []
      else e :: (signed rest).1 ++ (signed rest).2.takeWhile Char.isDigit
    else [] := exponent.eq_def _

theorem signed_of_digit {digits after : List Char} (some : digits ≠ [])
    (inside : ∀ d ∈ digits, d.isDigit = true) : signed (digits ++ after) = ([], digits ++ after) := by
  obtain ⟨d, more, rfl⟩ := List.exists_cons_of_ne_nil some
  have digit := inside d List.mem_cons_self
  unfold signed
  rw [List.cons_append]
  split
  · rename_i same
    cases same
    cases digit
  · rename_i same
    cases same
    cases digit
  · rfl

theorem exponent_of_power {power after : List Char} (h : Power power)
    (stop : StopsAt Char.isDigit after) : exponent (power ++ after) = power := by
  cases h with
  | @mk e sign digits letter hs some inside =>
    have taken := takeWhile_of_stop inside stop
    have parts : signed (sign ++ (digits ++ after)) = (sign, digits ++ after) := by
      rcases hs with rfl | rfl | rfl
      · exact show signed (digits ++ after) = _ from signed_of_digit some inside
      · rfl
      · rfl
    rw [List.cons_append, List.append_assoc, exponent_cons, if_pos letter, parts]
    dsimp only
    rw [taken, if_neg (by simpa using some)]
    rfl

theorem exponent_cases (cs : List Char) :
    exponent cs = [] ∨
      ∃ power after, cs = power ++ after ∧ exponent cs = power ∧ Power power ∧
        StopsAt Char.isDigit after := by
  cases cs with
  | nil => exact .inl rfl
  | cons e rest =>
    rw [exponent_cons]
    split
    · rename_i letter
      obtain ⟨sign, more, same, hs, parts⟩ : ∃ sign more, rest = sign ++ more ∧
          (sign = [] ∨ sign = ['+'] ∨ sign = ['-']) ∧ signed rest = (sign, more) := by
        unfold signed
        split
        · exact ⟨['+'], _, rfl, .inr (.inl rfl), rfl⟩
        · exact ⟨['-'], _, rfl, .inr (.inr rfl), rfl⟩
        · exact ⟨[], _, rfl, .inl rfl, rfl⟩
      rw [parts]
      obtain ⟨digits, after, rfl, taken, _, inside, stop⟩ := exists_takeWhile Char.isDigit more
      dsimp only
      rw [taken]
      cases digits with
      | nil => exact .inl rfl
      | cons d digits =>
        refine .inr ⟨e :: (sign ++ d :: digits), after, ?_, rfl, ?_, stop⟩
        · simp [same]
        · exact .mk letter hs (List.cons_ne_nil _ _) inside
    · exact .inl rfl

/-- The parts of a number: digits, a fraction with its period, a power of ten. `after` does not
make any of them longer. -/
structure Numeral (whole fraction power after : List Char) : Prop where
  digits : ∀ d ∈ whole, d.isDigit = true
  period : fraction = [] ∨ ∃ more, fraction = '.' :: more ∧ ∀ d ∈ more, d.isDigit = true
  scale : power = [] ∨ Power power
  some : whole ++ fraction ≠ ['.']
  stop : StopsAt Char.isDigit after
  noPeriod : fraction = [] → power = [] → after.head? ≠ .some '.'
  noPower : power = [] → exponent after = []

theorem Power.head {power : List Char} (h : Power power) :
    ∃ e more, power = e :: more ∧ (e = 'e' ∨ e = 'E') := by
  cases h with
  | mk letter signed some inside => exact ⟨_, _, rfl, letter⟩

theorem not_digit_of_letter {e : Char} (h : e = 'e' ∨ e = 'E') : e.isDigit = false := by
  rcases h with rfl | rfl <;> rfl

namespace Numeral

variable {whole fraction power after : List Char}

theorem power_stops (h : Numeral whole fraction power after) :
    StopsAt Char.isDigit (power ++ after) := by
  rcases h.scale with rfl | scale
  · exact h.stop
  · obtain ⟨e, more, rfl, letter⟩ := scale.head
    exact stopsAt_cons.mpr (not_digit_of_letter letter)

theorem fraction_stops (h : Numeral whole fraction power after) :
    StopsAt Char.isDigit (fraction ++ (power ++ after)) := by
  rcases h.period with rfl | ⟨more, rfl, _⟩
  · exact h.power_stops
  · exact stopsAt_cons.mpr rfl

theorem exponent_eq (h : Numeral whole fraction power after) :
    exponent (power ++ after) = power := by
  rcases h.scale with rfl | scale
  · exact h.noPower rfl
  · exact exponent_of_power scale h.stop

end Numeral

def fractionOf (cs : List Char) : List Char :=
  match cs with
  | '.' :: more => '.' :: more.takeWhile Char.isDigit
  | _ => []

theorem numberBody_eq (cs : List Char) :
    numberBody cs =
      if cs.takeWhile Char.isDigit ++ fractionOf (cs.drop (cs.takeWhile Char.isDigit).length) = ['.']
      then cs.takeWhile Char.isDigit ++ fractionOf (cs.drop (cs.takeWhile Char.isDigit).length)
      else cs.takeWhile Char.isDigit ++ fractionOf (cs.drop (cs.takeWhile Char.isDigit).length) ++
        exponent (cs.drop (cs.takeWhile Char.isDigit ++
          fractionOf (cs.drop (cs.takeWhile Char.isDigit).length)).length) :=
  numberBody.eq_def cs

theorem numberBody_of_numeral {whole fraction power after : List Char}
    (h : Numeral whole fraction power after) :
    numberBody (whole ++ (fraction ++ (power ++ after))) = whole ++ fraction ++ power := by
  have taken := takeWhile_of_stop h.digits h.fraction_stops
  have found : fractionOf (fraction ++ (power ++ after)) = fraction := by
    rcases h.period with rfl | ⟨more, rfl, inside⟩
    · unfold fractionOf
      split
      · rename_i same
        exfalso
        rcases h.scale with rfl | scale
        · exact h.noPeriod rfl rfl (congrArg List.head? same)
        · obtain ⟨e, more, rfl, letter⟩ := scale.head
          cases same
          rcases letter with letter | letter <;> cases letter
      · rfl
    · exact congrArg ('.' :: ·) (takeWhile_of_stop inside h.power_stops)
  rw [numberBody_eq, taken, List.drop_left, found, if_neg h.some, ← List.append_assoc whole,
    List.drop_left, h.exponent_eq]

theorem exists_power (rest : List Char) (stop : StopsAt Char.isDigit rest) :
    ∃ power after, rest = power ++ after ∧ (power = [] ∨ Power power) ∧
      StopsAt Char.isDigit after ∧ (power = [] → after = rest ∧ exponent after = []) := by
  rcases exponent_cases rest with none | ⟨power, after, rfl, _, scale, stop'⟩
  · exact ⟨[], rest, rfl, .inl rfl, stop, fun _ => ⟨rfl, none⟩⟩
  · refine ⟨power, after, rfl, .inr scale, stop', fun empty => ?_⟩
    obtain ⟨e, more, rfl, _⟩ := scale.head
    cases empty

/-- A lone period is no number. Anything else is read in the three parts. -/
theorem numberBody_cases (cs : List Char) :
    (∃ rest, cs = '.' :: rest ∧ StopsAt Char.isDigit rest ∧ numberBody cs = ['.']) ∨
      ∃ whole fraction power after, cs = whole ++ (fraction ++ (power ++ after)) ∧
        Numeral whole fraction power after := by
  obtain ⟨whole, rest, rfl, taken, _, digits, stop⟩ := exists_takeWhile Char.isDigit cs
  by_cases period : rest.head? = some '.'
  · obtain ⟨more, rfl⟩ := List.head?_eq_some_iff.mp period
    obtain ⟨ds, rest, rfl, takenDs, _, inside, stop'⟩ := exists_takeWhile Char.isDigit more
    by_cases lone : whole ++ '.' :: ds = ['.']
    · left
      obtain ⟨rfl, rfl⟩ : whole = [] ∧ ds = [] := by
        cases whole with
        | nil => exact ⟨rfl, (List.cons.inj lone).2⟩
        | cons d more => simp at lone
      refine ⟨rest, rfl, stop', ?_⟩
      have found : fractionOf ('.' :: rest) = ['.'] := congrArg ('.' :: ·) takenDs
      rw [numberBody_eq, taken, List.length_nil, List.drop_zero]
      simp only [List.nil_append, found, if_true]
    · right
      obtain ⟨power, after, rfl, scale, stop'', noPower⟩ := exists_power rest stop'
      refine ⟨whole, '.' :: ds, power, after, rfl, ?_⟩
      refine ⟨digits, .inr ⟨ds, rfl, inside⟩, scale, lone, stop'', fun none => ?_,
        fun none => (noPower none).2⟩
      cases none
  · right
    obtain ⟨power, after, rfl, scale, stop', noPower⟩ := exists_power rest stop
    refine ⟨whole, [], power, after, rfl, digits, .inl rfl, scale, ?_, stop', ?_, ?_⟩
    · intro same
      rw [List.append_nil] at same
      subst same
      cases digits '.' List.mem_cons_self
    · intro _ none
      rw [(noPower none).1]
      exact period
    · exact fun none => (noPower none).2

namespace Numeral

variable {whole fraction power after : List Char}

theorem ne_period (h : Numeral whole fraction power after) : whole ++ fraction ++ power ≠ ['.'] := by
  intro same
  rcases h.scale with rfl | scale
  · exact h.some (by simpa using same)
  · obtain ⟨e, more, rfl, letter⟩ := scale.head
    rcases List.append_eq_singleton_iff.mp same with ⟨_, last⟩ | ⟨_, none⟩
    · cases last
      rcases letter with letter | letter <;> cases letter
    · cases none

/-- What a number starts with, which is a digit or a period. -/
theorem filled_of_start (h : Numeral whole fraction power after) {c : Char} {rest : List Char}
    (same : c :: rest = whole ++ (fraction ++ (power ++ after)))
    (start : c.isDigit = true ∨ c = '.') : whole ++ fraction ≠ [] := by
  intro none
  obtain ⟨rfl, rfl⟩ := List.append_eq_nil_iff.mp none
  rcases h.scale with rfl | scale
  · rw [List.nil_append, List.nil_append, List.nil_append] at same
    have stop := h.stop
    have noPeriod := h.noPeriod rfl rfl
    rw [← same] at stop noPeriod
    rcases start with digit | rfl
    · rw [stopsAt_cons, digit] at stop
      cases stop
    · exact noPeriod rfl
  · obtain ⟨e, more, rfl, letter⟩ := scale.head
    cases same
    rcases start with digit | rfl
    · rw [not_digit_of_letter letter] at digit
      cases digit
    · rcases letter with letter | letter <;> cases letter

theorem start (h : Numeral whole fraction power after) (filled : whole ++ fraction ≠ []) :
    ∃ c more, whole ++ fraction ++ power = c :: more ∧ (c.isDigit = true ∨ c = '.') := by
  cases whole with
  | cons c more => exact ⟨c, _, rfl, .inl (h.digits c List.mem_cons_self)⟩
  | nil =>
    rcases h.period with rfl | ⟨more, rfl, _⟩
    · exact absurd rfl filled
    · exact ⟨'.', _, rfl, .inr rfl⟩

end Numeral

end TypedRows.Sql.Token
