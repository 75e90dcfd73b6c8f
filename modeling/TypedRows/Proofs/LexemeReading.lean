import TypedRows.Proofs.Outcome
import TypedRows.Proofs.TokenWeight

/-! Lexemes read one after the other. -/

namespace TypedRows.Sql

namespace Token

theorem Read.unique {cs after after' : List Char} {token token' : Token} (h : Read cs token after)
    (h' : Read cs token' after') : token = token' ∧ after = after' := by
  obtain ⟨c, rest, same, found⟩ := next_of_read h
  obtain ⟨c', rest', same', found'⟩ := next_of_read h'
  cases same.symm.trans same'
  cases found.symm.trans found'
  exact ⟨rfl, rfl⟩

theorem scanChars_nil {cs : List Char} : scanChars cs = .ok [] ↔ cs = [] := by
  cases cs with
  | nil => simp [scanChars]
  | cons c rest =>
    rw [scanChars]
    constructor
    · intro h
      split at h
      · obtain ⟨more, _, same⟩ := map_eq_ok.mp h
        cases same
      · cases h
    · intro h
      cases h

theorem scanChars_cons {cs : List Char} {token : Token} {tokens : List Token} :
    scanChars cs = .ok (token :: tokens) ↔
      ∃ after, Read cs token after ∧ scanChars after = .ok tokens := by
  constructor
  · intro h
    cases cs with
    | nil =>
      rw [scanChars] at h
      cases h
    | cons c rest =>
      rw [scanChars] at h
      split at h
      · rename_i found
        obtain ⟨more, hmore, same⟩ := map_eq_ok.mp h
        cases same
        exact ⟨_, read_of_next found, hmore⟩
      · cases h
  · rintro ⟨after, read, found⟩
    obtain ⟨c, rest, rfl, hnext⟩ := next_of_read read
    rw [scanChars]
    split
    · rename_i hnext'
      cases hnext.symm.trans hnext'
      exact map_eq_ok.mpr ⟨tokens, found, rfl⟩
    · rename_i hnext'
      cases hnext.symm.trans hnext'

end Token

namespace Lexeme

/-- The characters, the lexeme at their start, and what is left of them. -/
inductive Read : List Char → Lexeme → List Char → Prop where
  | token {cs after : List Char} {token : Token} (h : Token.Read cs token after)
      (alone : token = .mark ":" ∨ token = .mark "@" → ¬Token.StartsWord after) :
      Read cs (ofToken token) after
  | parameter {cs mid after : List Char} {mark name : String} (hm : mark = ":" ∨ mark = "@")
      (h : Token.Read cs (.mark mark) mid) (word : Token.Read mid (.word name none) after) :
      Read cs ⟨.parameter name, mark ++ name⟩ after

theorem Read.unique {cs after after' : List Char} {lexeme lexeme' : Lexeme}
    (h : Read cs lexeme after) (h' : Read cs lexeme' after') :
    lexeme = lexeme' ∧ after = after' := by
  cases h with
  | token h alone =>
    cases h' with
    | token h' _ =>
      obtain ⟨rfl, rfl⟩ := h.unique h'
      exact ⟨rfl, rfl⟩
    | parameter hm h' word =>
      obtain ⟨rfl, rfl⟩ := h.unique h'
      refine absurd ⟨_, _, word⟩ (alone ?_)
      rcases hm with rfl | rfl
      · exact .inl rfl
      · exact .inr rfl
  | parameter hm h word =>
    cases h' with
    | token h' alone =>
      obtain ⟨rfl, rfl⟩ := h.unique h'
      refine absurd ⟨_, _, word⟩ (alone ?_)
      rcases hm with rfl | rfl
      · exact .inl rfl
      · exact .inr rfl
    | parameter hm' h' word' =>
      obtain ⟨same, rfl⟩ := h.unique h'
      obtain ⟨same', rfl⟩ := word.unique word'
      cases same
      cases same'
      exact ⟨rfl, rfl⟩

/-- Lexemes read one after the other, and what is left. -/
inductive Reads : List Char → List Lexeme → List Char → Prop where
  | nil {cs : List Char} : Reads cs [] cs
  | cons {cs mid after : List Char} {lexeme : Lexeme} {rest : List Lexeme}
      (h : Read cs lexeme mid) (next : Reads mid rest after) : Reads cs (lexeme :: rest) after

theorem Reads.append {cs after : List Char} {first second : List Lexeme}
    (h : Reads cs (first ++ second) after) :
    ∃ mid, Reads cs first mid ∧ Reads mid second after := by
  induction first generalizing cs with
  | nil => exact ⟨cs, .nil, h⟩
  | cons lexeme first ih =>
    cases h with
    | cons h next =>
      obtain ⟨mid, left, right⟩ := ih next
      exact ⟨mid, .cons h left, right⟩

theorem ofTokens_cons {token : Token} {rest : List Token}
    (alone : token = .mark ":" ∨ token = .mark "@" →
      ∀ name more, rest ≠ .word name none :: more) :
    ofTokens (token :: rest) = ofToken token :: ofTokens rest := by
  rw [ofTokens.eq_def]
  split
  · rename_i same
    cases same
  · rename_i mark name more same
    cases same
    have other : ¬(mark = ":" ∨ mark = "@") := by
      rintro (rfl | rfl)
      · exact alone (.inl rfl) name more rfl
      · exact alone (.inr rfl) name more rfl
    rw [if_neg other, ofTokens.eq_def (.word name none :: more)]
  · rename_i same
    cases same
    rfl

theorem ofTokens_parameter {mark name : String} {rest : List Token} (h : mark = ":" ∨ mark = "@") :
    ofTokens (.mark mark :: .word name none :: rest) =
      ⟨.parameter name, mark ++ name⟩ :: ofTokens rest := by
  rw [ofTokens, if_pos h]

theorem reads_of_scanChars {cs : List Char} {tokens : List Token}
    (h : Token.scanChars cs = .ok tokens) : Reads cs (ofTokens tokens) [] := by
  induction tokens using ofTokens.induct generalizing cs with
  | case1 =>
    rw [Token.scanChars_nil.mp h]
    exact .nil
  | case2 mark name rest hm ih =>
    obtain ⟨mid, read, h⟩ := Token.scanChars_cons.mp h
    obtain ⟨after, word, h⟩ := Token.scanChars_cons.mp h
    rw [ofTokens_parameter hm]
    exact .cons (.parameter hm read word) (ih h)
  | case3 mark name rest hm ih =>
    obtain ⟨mid, read, h⟩ := Token.scanChars_cons.mp h
    obtain ⟨after, word, h⟩ := Token.scanChars_cons.mp h
    rw [ofTokens, if_neg hm]
    refine .cons (.token read fun same => ?_) (.cons (.token word nofun) (ih h))
    exact absurd (same.imp Token.mark.inj Token.mark.inj) hm
  | case4 token rest apart ih =>
    obtain ⟨after, read, found⟩ := Token.scanChars_cons.mp h
    have alone (same : token = .mark ":" ∨ token = .mark "@") (name : String) (more : List Token) :
        rest ≠ .word name none :: more := by
      rintro rfl
      rcases same with rfl | rfl
      · exact apart _ _ _ rfl rfl
      · exact apart _ _ _ rfl rfl
    rw [ofTokens_cons alone]
    refine .cons (.token read fun same => ?_) (ih found)
    rintro ⟨name, left, word⟩
    cases rest with
    | nil =>
      rw [Token.scanChars_nil.mp found] at word
      obtain ⟨_, _, none, _⟩ := Token.next_of_read word
      cases none
    | cons token' more =>
      obtain ⟨_, read', _⟩ := Token.scanChars_cons.mp found
      obtain ⟨rfl, _⟩ := read'.unique word
      exact alone same name more rfl

theorem Reads.scanChars {cs : List Char} {lexemes : List Lexeme} (h : Reads cs lexemes []) :
    ∃ tokens, Token.scanChars cs = .ok tokens ∧ ofTokens tokens = lexemes := by
  generalize hend : ([] : List Char) = left at h
  induction h with
  | nil =>
    subst hend
    exact ⟨[], Token.scanChars_nil.mpr rfl, rfl⟩
  | cons h next ih =>
    obtain ⟨tokens, found, rfl⟩ := ih hend
    cases h with
    | token h alone =>
      refine ⟨_, Token.scanChars_cons.mpr ⟨_, h, found⟩, ofTokens_cons ?_⟩
      rintro same name more rfl
      obtain ⟨after, word, _⟩ := Token.scanChars_cons.mp found
      exact alone same ⟨name, after, word⟩
    | parameter hm h word =>
      have found := Token.scanChars_cons.mpr ⟨_, word, found⟩
      exact ⟨_, Token.scanChars_cons.mpr ⟨_, h, found⟩, ofTokens_parameter hm⟩

/-- The lexemes of a text are what is read from it one after the other. -/
theorem scan_eq_ok {sql : String} {lexemes : List Lexeme} :
    scan sql = .ok lexemes ↔ Reads sql.toList lexemes [] := by
  constructor
  · intro h
    obtain ⟨tokens, found, rfl⟩ := map_eq_ok.mp h
    exact reads_of_scanChars found
  · intro h
    obtain ⟨tokens, found, rfl⟩ := h.scanChars
    exact map_eq_ok.mpr ⟨tokens, found, rfl⟩

end Lexeme

end TypedRows.Sql
