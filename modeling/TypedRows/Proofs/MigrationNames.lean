import TypedRows.Migration.FileName
import Mathlib.Data.List.TakeDrop
import Mathlib.Data.List.TakeWhile

/-! The names of migration files. The digits before the description may be those of any script, but
only the digits from 0 to 9 make a number. -/

namespace TypedRows

namespace Text

theorem isDigit_iff {c : Char} : c.isDigit = true ↔ 48 ≤ c.toNat ∧ c.toNat ≤ 57 := by
  simp only [Char.isDigit, Bool.and_eq_true, decide_eq_true_eq, ge_iff_le, UInt32.le_iff_toNat_le]
  rfl

theorem isDecimal_of_isDigit {c : Char} (h : c.isDigit = true) : isDecimal c = true := by
  have small : c.toNat < 128 := by
    have := isDigit_iff.mp h
    omega
  rw [isDecimal, if_pos small, h]

/-- Letters stand for ten and more. -/
theorem hexValue?_of_letter {c : Char} {d : Nat} (letter : c.isDigit = false)
    (h : hexValue? c = some d) : 10 ≤ d := by
  unfold hexValue? at h
  rw [letter] at h
  simp only [Bool.false_eq_true, if_false] at h
  split at h
  · have value := Option.some.inj h
    omega
  · split at h
    · have value := Option.some.inj h
      omega
    · cases h

theorem digitsValue?_eq_some_iff {acc n : Nat} {digits : List Char} :
    digitsValue? 10 acc digits = some n ↔
      (∀ c ∈ digits, c.isDigit = true) ∧ Nat.ofDigitChars 10 digits acc = n := by
  induction digits generalizing acc with
  | nil => simp [digitsValue?, Nat.ofDigitChars]
  | cons c rest ih =>
    rw [digitsValue?, List.forall_mem_cons]
    cases digit : c.isDigit with
    | true =>
      have value : hexValue? c = some (c.toNat - '0'.toNat) := by
        rw [hexValue?, if_pos digit]
      have small : c.toNat - '0'.toNat < 10 := by
        have range := isDigit_iff.mp digit
        change c.toNat - 48 < 10
        omega
      simp only [value, small, if_true, ih, true_and]
      rw [Nat.mul_comm acc]
      rfl
    | false =>
      simp only [Bool.false_eq_true, false_and, iff_false]
      split
      · rename_i d value
        rw [if_neg (Nat.not_lt.mpr (hexValue?_of_letter digit value))]
        exact nofun
      · exact nofun

theorem word32?_eq_some_iff {digits : List Char} (unsigned : '+' ∉ digits) {n : Nat} :
    word32? 10 digits = some n ↔
      digits ≠ [] ∧ (∀ c ∈ digits, c.isDigit = true) ∧ Nat.ofDigitChars 10 digits 0 = n ∧
        n < Nat.pow 2 32 := by
  unfold word32?
  split
  · simp at unsigned
  · dsimp only
    cases digits with
    | nil => simp
    | cons c rest =>
      rw [List.isEmpty_cons, if_neg Bool.false_ne_true, Option.filter_eq_some_iff,
        digitsValue?_eq_some_iff, decide_eq_true_eq]
      simp only [ne_eq, reduceCtorEq, not_false_eq_true, true_and, and_assoc]

theorem dropSuffix?_eq_some {name stop stem : String} :
    dropSuffix? name stop = some stem ↔ name.toList = stem.toList ++ stop.toList := by
  rw [dropSuffix?, afterPrefix?, Option.map_eq_some_iff]
  constructor
  · rintro ⟨cs, after, rfl⟩
    split at after
    · rename_i starts
      cases after
      obtain ⟨rest, whole⟩ := List.isPrefixOf_iff_prefix.mp starts
      rw [← whole, List.drop_left, String.toList_ofList, ← List.reverse_reverse stop.toList,
        ← List.reverse_append, whole, List.reverse_reverse]
    · cases after
  · intro whole
    refine ⟨stem.toList.reverse, ?_, by simp⟩
    rw [whole, List.reverse_append, if_pos (List.isPrefixOf_iff_prefix.mpr (by simp)),
      List.drop_left]

theorem ofDigitChars_lt {digits : List Char} (decimal : ∀ c ∈ digits, c.isDigit = true)
    (acc : Nat) :
    Nat.ofDigitChars 10 digits acc < (acc + 1) * Nat.pow 10 digits.length := by
  induction digits generalizing acc with
  | nil => simp [Nat.ofDigitChars]
  | cons c rest ih =>
    obtain ⟨digit, others⟩ := List.forall_mem_cons.mp decimal
    have value : c.toNat - 48 ≤ 9 := by
      have range := isDigit_iff.mp digit
      omega
    calc Nat.ofDigitChars 10 (c :: rest) acc
        = Nat.ofDigitChars 10 rest (10 * acc + (c.toNat - 48)) := rfl
      _ < (10 * acc + (c.toNat - 48) + 1) * Nat.pow 10 rest.length := ih others _
      _ ≤ (acc + 1) * 10 * Nat.pow 10 rest.length := Nat.mul_le_mul_right _ (by omega)
      _ = (acc + 1) * (Nat.pow 10 rest.length * 10) := by rw [Nat.mul_assoc, Nat.mul_comm 10]

theorem isSuffixOf_eq (name stop : String) :
    stop.toList.isSuffixOf name.toList = (dropSuffix? name stop).isSome := by
  rw [dropSuffix?, Option.isSome_map, afterPrefix?, List.isSuffixOf]
  cases stop.toList.reverse.isPrefixOf name.toList.reverse <;> rfl

end Text

namespace MigrationName

/-- What may stand between the digits of a name and its extension. -/
def IsTail (rest : List Char) : Prop :=
  rest = [] ∨ ∃ text, rest = '_' :: text ∧ '.' ∉ text

/-- The name is made of digits from 0 to 9, a tail and the extension. -/
structure Spells (name : String) (digits rest : List Char) : Prop where
  whole : name.toList = digits ++ rest ++ ".sql".toList
  ne_nil : digits ≠ []
  decimal : ∀ c ∈ digits, c.isDigit = true
  tail : IsTail rest

/-- The name has four digits, which make the number. -/
def Numbered (name : String) (number : Nat) : Prop :=
  ∃ digits rest, Spells name digits rest ∧ digits.length = 4 ∧
    Nat.ofDigitChars 10 digits 0 = number

theorem IsTail.takeWhile {rest : List Char} (tail : IsTail rest) :
    rest.takeWhile Text.isDecimal = [] := by
  obtain rfl | ⟨text, rfl, _⟩ := tail
  · rfl
  · exact List.takeWhile_cons_of_neg (by decide)

theorem split?_eq_some_iff {stem digits rest : List Char} :
    split? stem = some (digits, rest) ↔
      stem = digits ++ rest ∧ digits ≠ [] ∧ (∀ c ∈ digits, Text.isDecimal c = true) ∧
        IsTail rest := by
  rw [split?, List.span_eq_takeWhile_dropWhile]
  dsimp only
  constructor
  · intro h
    have inside : ∀ c ∈ stem.takeWhile Text.isDecimal, Text.isDecimal c = true :=
      fun c member => List.mem_takeWhile_imp member
    have whole := stem.takeWhile_append_dropWhile (p := Text.isDecimal)
    split at h
    · cases h
    · rename_i some'
      rw [List.isEmpty_iff] at some'
      split at h
      · rename_i none'
        cases h
        rw [none'] at whole
        exact ⟨whole.symm, some', inside, .inl rfl⟩
      · rename_i text marked
        split at h
        · cases h
        · rename_i plain
          cases h
          rw [marked] at whole ⊢
          exact ⟨whole.symm, some', inside, .inr ⟨text, rfl, by simpa using plain⟩⟩
      · cases h
  · rintro ⟨rfl, some', decimal, tail⟩
    rw [List.takeWhile_append_of_pos decimal, tail.takeWhile, List.append_nil,
      List.dropWhile_append_of_pos decimal, if_neg (by simpa using some')]
    obtain rfl | ⟨text, rfl, plain⟩ := tail
    · rfl
    · have kept : ('_' :: text).dropWhile Text.isDecimal = '_' :: text :=
        List.dropWhile_cons_of_neg (by decide)
      rw [kept]
      exact if_neg (by simpa using plain)

/-- Reading a name finds its digits and its tail, if their number has 32 bits. -/
theorem parse_eq_ok_iff {name : String} {parsed : MigrationName} :
    parse name = .ok parsed ↔ ∃ digits rest, Spells name digits rest ∧
      Nat.ofDigitChars 10 digits 0 < Nat.pow 2 32 ∧
      parsed = ⟨String.ofList digits, Nat.ofDigitChars 10 digits 0, descriptionOf rest⟩ := by
  rw [parse]
  constructor
  · intro h
    split at h
    · cases h
    · rename_i digits rest found
      obtain ⟨stem, ended, cut⟩ := Option.bind_eq_some_iff.mp found
      obtain ⟨whole, ne_nil, decimal, tail⟩ := split?_eq_some_iff.mp cut
      have unsigned : '+' ∉ digits := fun sign => absurd (decimal _ sign) (by decide)
      split at h
      · cases h
      · rename_i version value
        cases h
        obtain ⟨_, digit, rfl, small⟩ := (Text.word32?_eq_some_iff unsigned).mp value
        refine ⟨digits, rest, ⟨?_, ne_nil, digit, tail⟩, small, rfl⟩
        rw [Text.dropSuffix?_eq_some.mp ended, whole]
  · rintro ⟨digits, rest, spells, small, rfl⟩
    have ended : Text.dropSuffix? name ".sql" = some (String.ofList (digits ++ rest)) := by
      rw [Text.dropSuffix?_eq_some, spells.whole]
      simp
    have cut : split? (String.ofList (digits ++ rest)).toList = some (digits, rest) := by
      rw [String.toList_ofList, split?_eq_some_iff]
      exact ⟨rfl, spells.ne_nil,
        fun c member => Text.isDecimal_of_isDigit (spells.decimal c member), spells.tail⟩
    have unsigned : '+' ∉ digits := fun sign => absurd (spells.decimal _ sign) (by decide)
    have value : Text.word32? 10 digits = some (Nat.ofDigitChars 10 digits 0) :=
      (Text.word32?_eq_some_iff unsigned).mpr ⟨spells.ne_nil, spells.decimal, rfl, small⟩
    rw [ended, Option.bind_some, cut]
    dsimp only
    rw [value]

theorem parse_eq_error {name : String} {e : Error} (h : parse name = .error e) :
    ∃ fault, e = .migrationName name fault := by
  rw [parse] at h
  split at h
  · cases h
    exact ⟨.pattern, rfl⟩
  · split at h
    · cases h
      exact ⟨.tooLarge, rfl⟩
    · cases h

/-- A name has a number if it can be read and has as many digits as a number has. -/
theorem numbered_iff {name : String} {number : Nat} : Numbered name number ↔
    ∃ parsed, parse name = .ok parsed ∧ parsed.digits.toList.length = versionDigits ∧
      parsed.version = number := by
  constructor
  · rintro ⟨digits, rest, spells, four, rfl⟩
    have small := Text.ofDigitChars_lt spells.decimal 0
    rw [four] at small
    have fits := Nat.lt_trans small (by decide : (0 + 1) * Nat.pow 10 4 < Nat.pow 2 32)
    refine ⟨_, parse_eq_ok_iff.mpr ⟨digits, rest, spells, fits, rfl⟩, ?_, rfl⟩
    rw [String.toList_ofList, four]
    rfl
  · rintro ⟨parsed, read, four, rfl⟩
    obtain ⟨digits, rest, spells, _, rfl⟩ := parse_eq_ok_iff.mp read
    rw [String.toList_ofList] at four
    exact ⟨digits, rest, spells, four, rfl⟩

end MigrationName

end TypedRows
