/-!
Comparison and folding of the letters A to Z, and searching inside a text. All of it leaves
characters outside ASCII alone.
-/

namespace TypedRows.Text

def foldLower (s : String) : String := s.toLower

def foldUpper (s : String) : String := s.toUpper

/-- Equality up to the case of ASCII letters, by which SQL compares names. -/
def sameName (a b : String) : Bool :=
  foldLower a == foldLower b

def hasPrefix (s start : String) : Bool :=
  start.toList.isPrefixOf s.toList

def infixOf (part : List Char) : List Char → Bool
  | [] => part.isEmpty
  | c :: rest => part.isPrefixOf (c :: rest) || infixOf part rest

/-- Whether `part` occurs in `s`. -/
def contains (s part : String) : Bool :=
  infixOf part.toList s.toList

/-- What follows `start` in the characters, if they start with it. -/
def afterPrefix? (start : List Char) (cs : List Char) : Option (List Char) :=
  if start.isPrefixOf cs then some (cs.drop start.length) else none

/-- What follows `start` in `s`, if `s` starts with it. -/
def dropPrefix? (s start : String) : Option String :=
  (afterPrefix? start.toList s.toList).map String.ofList

/-- What precedes `stop` in `s`, if `s` ends with it. -/
def dropSuffix? (s stop : String) : Option String :=
  (afterPrefix? stop.toList.reverse s.toList.reverse).map fun cs => String.ofList cs.reverse

theorem toLower_toLower (c : Char) : c.toLower.toLower = c.toLower := by
  by_cases upper : c.val ≥ 'A'.val ∧ c.val ≤ 'Z'.val
  · have low : c.toLower.val = c.val + 32 := by
      have shifted : c.toLower = ⟨c.val + 32, _⟩ := dif_pos upper
      rw [shifted]
    have still : ¬(c.toLower.val ≥ 'A'.val ∧ c.toLower.val ≤ 'Z'.val) := by
      rintro ⟨_, top⟩
      rw [low] at top
      have h1 : (65 : UInt32) ≤ c.val := upper.1
      have h2 : c.val ≤ (90 : UInt32) := upper.2
      have h3 : c.val + 32 ≤ (90 : UInt32) := top
      rw [UInt32.le_iff_toNat_le] at h1 h2 h3
      rw [UInt32.toNat_add] at h3
      simp at h1 h2 h3
      omega
    exact dif_neg still
  · have same : c.toLower = c := dif_neg upper
    rw [same, same]

@[simp] theorem foldLower_foldLower (s : String) : foldLower (foldLower s) = foldLower s := by
  change ((s.map Char.toLower).map Char.toLower) = s.map Char.toLower
  rw [String.map_map]
  congr 1
  funext c
  exact toLower_toLower c

theorem toList_foldLower (s : String) : (foldLower s).toList = s.toList.map Char.toLower := by
  exact String.toList_map

theorem foldLower_eq_iff {s t : String} :
    foldLower s = t ↔ s.toList.map Char.toLower = t.toList := by
  rw [← String.toList_inj, toList_foldLower]

theorem sameName_iff {a b : String} : sameName a b = true ↔ foldLower a = foldLower b := by
  rw [sameName, beq_iff_eq]

theorem sameName_eq_decide {a b : String} (folded : foldLower b = b) :
    sameName a b = decide (foldLower a = b) := by
  rw [Bool.eq_iff_iff, sameName_iff, folded, decide_eq_true_iff]

theorem sameName_eq_toList (a b : String) :
    sameName a b = (a.toList.map Char.toLower == b.toList.map Char.toLower) := by
  rw [Bool.eq_iff_iff, sameName_iff, foldLower_eq_iff, toList_foldLower, beq_iff_eq]

theorem sameName_refl (a : String) : sameName a a = true := by
  simp [sameName]

theorem sameName_comm (a b : String) : sameName a b = sameName b a := by
  simp only [sameName]
  exact Bool.beq_comm

theorem sameName_trans {a b c : String} (hab : sameName a b = true) (hbc : sameName b c = true) :
    sameName a c = true := by
  simp only [sameName, beq_iff_eq] at *
  rw [hab, hbc]

theorem sameName_of_common {a b c : String} (ha : sameName a c = true) (hb : sameName b c = true) :
    sameName a b = true :=
  sameName_trans ha (sameName_comm b c ▸ hb)

end TypedRows.Text
