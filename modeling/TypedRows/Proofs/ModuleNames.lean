import Mathlib.Data.List.Nodup
import TypedRows.Emit.Files

/-! The names of the generated modules and of their files. Each namespace is named after its words
in lower case, which leave out every mark; so two files have one path exactly if two namespaces have
the same words, or one has those of a file that is always there. -/

namespace TypedRows

namespace Naming

/-- What the characters of a name in lower case are: no mark before the digits is among them. -/
def Plain (c : Char) : Prop := c.toNat = 0 ∨ 0x30 ≤ c.toNat

instance (c : Char) : Decidable (Plain c) := inferInstanceAs (Decidable (_ ∨ _))

theorem ofNat_cases (n : Nat) : (Char.ofNat n).toNat = n ∨ Char.ofNat n = Char.ofNat 0 := by
  rw [Char.ofNat]
  by_cases valid : n.isValidChar
  · rw [dif_pos valid]
    exact .inl rfl
  · rw [dif_neg valid]
    exact .inr rfl

theorem plain_ofNat {n : Nat} (h : 0x30 ≤ n) : Plain (Char.ofNat n) := by
  obtain value | none' := ofNat_cases n
  · exact .inr (value.symm ▸ h)
  · rw [none']
    exact .inl rfl

/-- What holds of the first 128 characters is checked for each. -/
theorem ascii_forall {P : Char → Prop} (h : ∀ n < 128, P (Char.ofNat n)) {c : Char}
    (ascii : c.toNat < 128) : P c := by
  have found := h c.toNat ascii
  rwa [Char.ofNat_toNat] at found

theorem plain_of_isAlphanumeric {c : Char} (h : Text.isAlphanumeric c = true) : Plain c := by
  by_cases ascii : c.toNat < 128
  · rw [Text.isAlphanumeric, Text.isAlphabetic, Text.isNumeric, if_pos ascii, if_pos ascii] at h
    exact ascii_forall (P := fun c => (c.isAlpha || c.isDigit) = true → Plain c)
      (by decide +kernel) ascii h
  · exact .inr (by omega)

/-- Outside of ASCII, a character that changes in lower case comes to stand after the marks of
ASCII that are plain. -/
theorem mem_lowercase {c d : Char} (member : d ∈ Text.lowercase c) :
    (c.toNat < 128 ∧ d = c.toLower) ∨ d = c ∨ ∃ n, 0x60 ≤ n ∧ d = Char.ofNat n := by
  have targets : ∀ shift ∈ Text.lowerShifts, 0x60 ≤ shift.target := by decide +kernel
  have images : ∀ image ∈ Text.lowerSequences, ∀ n ∈ image.2, 0x60 ≤ n := by decide
  rw [Text.lowercase] at member
  split at member
  · rename_i ascii
    exact .inl ⟨ascii, List.mem_singleton.mp member⟩
  · rw [Text.mapCase] at member
    split at member
    · rename_i found
      obtain ⟨n, inside, rfl⟩ := List.mem_map.mp member
      exact .inr (.inr ⟨n, images _ (List.mem_of_find?_eq_some found) n inside, rfl⟩)
    · split at member
      · rename_i shift found
        have target := targets shift (List.mem_of_find?_eq_some found)
        exact .inr (.inr ⟨_, by rw [Text.Shift.apply]; omega, List.mem_singleton.mp member⟩)
      · exact .inr (.inl (List.mem_singleton.mp member))

theorem plain_lowercase {c : Char} (h : Plain c) : ∀ d ∈ Text.lowercase c, Plain d := by
  intro d member
  obtain ⟨ascii, rfl⟩ | rfl | ⟨n, after, rfl⟩ := mem_lowercase member
  · exact ascii_forall (P := fun c => Plain c → Plain c.toLower) (by decide +kernel) ascii h
  · exact h
  · exact plain_ofNat (by omega)

theorem alphanumericRuns_isAlphanumeric {acc cs : List Char}
    (before : ∀ c ∈ acc, Text.isAlphanumeric c = true) :
    ∀ run ∈ alphanumericRuns acc cs, ∀ c ∈ run, Text.isAlphanumeric c = true := by
  have own : ∀ c ∈ acc.reverse, Text.isAlphanumeric c = true :=
    fun c member => before c (List.mem_reverse.mp member)
  induction cs generalizing acc with
  | nil =>
    rw [alphanumericRuns]
    split
    · simp
    · exact List.forall_mem_singleton.mpr own
  | cons c rest ih =>
    rw [alphanumericRuns]
    split
    · rename_i letter
      have more : ∀ d ∈ c :: acc, Text.isAlphanumeric d = true :=
        List.forall_mem_cons.mpr ⟨letter, before⟩
      exact ih more fun d member => more d (List.mem_reverse.mp member)
    · split
      · exact ih (by simp) (by simp)
      · exact List.forall_mem_cons.mpr ⟨own, ih (by simp) (by simp)⟩

theorem humps_subset (mode : Mode) (acc cs : List Char) :
    ∀ word ∈ humps mode acc cs, ∀ c ∈ word, c ∈ acc ∨ c ∈ cs := by
  fun_induction humps mode acc cs with
  | case1 mode acc none => simp
  | case2 mode acc some => simp
  | case3 => simp
  | case4 mode acc c d rest ends ih =>
    refine List.forall_mem_cons.mpr ⟨fun x inside => ?_, fun word member x inside => ?_⟩
    · obtain rfl | before := List.mem_cons.mp (List.mem_reverse.mp inside)
      · exact .inr List.mem_cons_self
      · exact .inl before
    · exact (ih word member x inside).elim nofun
        fun later => .inr (List.mem_cons_of_mem _ later)
  | case5 mode acc c d rest ends last ih =>
    refine List.forall_mem_cons.mpr ⟨fun x inside => ?_, fun word member x inside => ?_⟩
    · exact .inl (List.mem_reverse.mp inside)
    · obtain only | later := ih word member x inside
      · exact .inr (List.mem_singleton.mp only ▸ List.mem_cons_self)
      · exact .inr (List.mem_cons_of_mem _ later)
  | case6 mode acc c d rest ends last ih =>
    intro word member x inside
    obtain before | later := ih word member x inside
    · obtain rfl | before := List.mem_cons.mp before
      · exact .inr List.mem_cons_self
      · exact .inl before
    · exact .inr (List.mem_cons_of_mem _ later)

theorem plain_words {s : String} : ∀ word ∈ words s, ∀ c ∈ word, Plain c := by
  intro word member c inside
  obtain ⟨run, there, part⟩ := List.mem_flatMap.mp member
  have letters := @alphanumericRuns_isAlphanumeric [] s.toList nofun run there
  exact plain_of_isAlphanumeric
    (letters c ((humps_subset .boundary [] run word part c inside).resolve_left nofun))

theorem plain_lowerWord {word : List Char} (h : ∀ c ∈ word, Plain c) :
    ∀ c ∈ lowerWord word, Plain c := by
  fun_induction lowerWord word with
  | case1 => simp
  | case2 =>
    intro c member
    rw [List.mem_singleton.mp member]
    decide
  | case3 c rest _ ih =>
    obtain ⟨first, others⟩ := List.forall_mem_cons.mp h
    exact List.forall_mem_append.mpr ⟨plain_lowercase first, ih others⟩

theorem plain_join {pieces : List (List Char)} (all : ∀ piece ∈ pieces, ∀ c ∈ piece, Plain c) :
    ∀ c ∈ List.intercalate ['_'] pieces, Plain c := by
  induction pieces with
  | nil => simp
  | cons piece rest ih =>
    obtain ⟨first, others⟩ := List.forall_mem_cons.mp all
    cases rest with
    | nil =>
      rw [List.intercalate_singleton]
      exact first
    | cons next more =>
      rw [List.intercalate_cons_cons]
      refine List.forall_mem_append.mpr ⟨List.forall_mem_append.mpr ⟨first, ?_⟩, ih others⟩
      exact List.forall_mem_singleton.mpr (by decide)

theorem plain_snakeCase (s : String) : ∀ c ∈ (snakeCase s).toList, Plain c := by
  rw [snakeCase, String.toList_ofList]
  refine plain_join fun piece member => ?_
  obtain ⟨word, there, rfl⟩ := List.mem_map.mp member
  exact plain_lowerWord (plain_words word there)

theorem not_mem_snakeCase (s : String) {mark : Char} (h : ¬ Plain mark) :
    mark ∉ (snakeCase s).toList :=
  fun member => h (plain_snakeCase s mark member)

/-! The words of a name can be read off from it in snake case: none of them is empty or holds the
mark between them. -/

theorem underscore_not_mem_lowercase {c : Char} (h : c ≠ '_') : '_' ∉ Text.lowercase c := by
  intro member
  obtain ⟨ascii, same⟩ | same | ⟨n, after, same⟩ := mem_lowercase member
  · exact h (ascii_forall (P := fun c => '_' = c.toLower → c = '_') (by decide +kernel) ascii same)
  · exact h same.symm
  · have read := ofNat_cases n
    rw [← same] at read
    obtain value | none' := read
    · have mark : ('_').toNat = 0x5f := by decide
      omega
    · exact absurd none' (by decide)

theorem lowercase_ne_nil (c : Char) : Text.lowercase c ≠ [] := by
  have images : ∀ image ∈ Text.lowerSequences, image.2 ≠ [] := by decide
  rw [Text.lowercase]
  split
  · exact List.cons_ne_nil _ _
  · rw [Text.mapCase]
    split
    · rename_i found
      exact fun none' => images _ (List.mem_of_find?_eq_some found) (List.map_eq_nil_iff.mp none')
    · split <;> exact List.cons_ne_nil _ _

theorem underscore_not_mem_lowerWord {word : List Char} (h : '_' ∉ word) :
    '_' ∉ lowerWord word := by
  fun_induction lowerWord word with
  | case1 => exact h
  | case2 => decide
  | case3 c rest _ ih =>
    obtain ⟨first, others⟩ := not_or.mp (List.mem_cons.not.mp h)
    rw [List.mem_append, not_or]
    exact ⟨underscore_not_mem_lowercase fun same => first same.symm, ih others⟩

theorem lowerWord_ne_nil {word : List Char} (h : word ≠ []) : lowerWord word ≠ [] := by
  fun_cases lowerWord word with
  | case1 => exact h
  | case2 => exact List.cons_ne_nil _ _
  | case3 c rest => exact fun none' => lowercase_ne_nil c (List.append_eq_nil_iff.mp none').1

/-- A capital has been read only if the word is not empty. -/
theorem humps_ne_nil {mode : Mode} {acc cs : List Char} (read : mode ≠ .boundary → acc ≠ []) :
    ∀ word ∈ humps mode acc cs, word ≠ [] := by
  fun_induction humps mode acc cs with
  | case1 mode acc none' => simp
  | case2 mode acc some' => simpa using some'
  | case3 => simp
  | case4 mode acc c d rest ends ih =>
    exact List.forall_mem_cons.mpr ⟨by simp, ih fun other => absurd rfl other⟩
  | case5 mode acc c d rest ends last ih =>
    refine List.forall_mem_cons.mpr ⟨?_, ih fun other => absurd rfl other⟩
    have capital : mode ≠ .boundary := by rw [last.1]; exact nofun
    simpa using read capital
  | case6 mode acc c d rest ends last ih => exact ih fun _ => List.cons_ne_nil _ _

theorem words_forall {s : String} : ∀ word ∈ words s, word ≠ [] ∧ '_' ∉ word := by
  intro word member
  obtain ⟨run, there, part⟩ := List.mem_flatMap.mp member
  refine ⟨humps_ne_nil (fun other => absurd rfl other) word part, fun mark => ?_⟩
  have inside := (humps_subset .boundary [] run word part '_' mark).resolve_left nofun
  have letter := @alphanumericRuns_isAlphanumeric [] s.toList nofun run there '_' inside
  exact absurd letter (by decide)

theorem join_injective {xs ys : List (List Char)} (hx : ∀ x ∈ xs, x ≠ [] ∧ '_' ∉ x)
    (hy : ∀ y ∈ ys, y ≠ [] ∧ '_' ∉ y)
    (same : List.intercalate ['_'] xs = List.intercalate ['_'] ys) : xs = ys := by
  have split : ∀ {zs : List (List Char)}, (∀ z ∈ zs, z ≠ [] ∧ '_' ∉ z) → zs ≠ [] →
      (List.intercalate ['_'] zs).splitOn '_' = zs := fun hz some' =>
    List.splitOn_intercalate '_' (fun z member => (hz z member).2) some'
  -- without words there is nothing; but nothing is also the text of one empty piece
  have empty : ∀ {zs : List (List Char)}, (∀ z ∈ zs, z ≠ [] ∧ '_' ∉ z) →
      List.intercalate ['_'] zs = [] → zs = [] := by
    intro zs hz nothing
    by_contra some'
    have read := split hz some'
    rw [nothing] at read
    exact (hz [] (by rw [← read]; decide)).1 rfl
  by_cases none' : xs = []
  · subst none'
    exact (empty hy same.symm).symm
  · have some' : ys ≠ [] := by
      rintro rfl
      exact none' (empty hx same)
    rw [← split hx none', same, split hy some']

/-- Names are the same in snake case just if they have the same words in lower case. -/
theorem snakeCase_eq_iff {a b : String} :
    snakeCase a = snakeCase b ↔ (words a).map lowerWord = (words b).map lowerWord := by
  have pieces : ∀ s, ∀ piece ∈ (words s).map lowerWord, piece ≠ [] ∧ '_' ∉ piece := by
    intro s piece member
    obtain ⟨word, there, rfl⟩ := List.mem_map.mp member
    obtain ⟨some', free⟩ := words_forall word there
    exact ⟨lowerWord_ne_nil some', underscore_not_mem_lowerWord free⟩
  rw [snakeCase, snakeCase, String.ofList_inj]
  exact ⟨join_injective (pieces a) (pieces b), fun same => by rw [same]⟩

end Naming

namespace Emit

/-- A keyword and its mark are told from a name without the mark. -/
theorem identifier_inj {a b : String} (ha : '#' ∉ a.toList) (hb : '#' ∉ b.toList)
    (same : identifier a = identifier b) : a = b := by
  have marked : ∀ name, '#' ∈ ("r#" ++ name : String).toList := by
    intro name
    rw [String.toList_append]
    exact List.mem_append_left _ (by decide)
  rw [identifier, identifier] at same
  split at same <;> split at same
  · exact String.append_right_inj _ |>.mp same
  · exact absurd (same ▸ marked a) hb
  · exact absurd (same ▸ marked b) ha
  · exact same

def moduleNames (project : Project) : List String :=
  project.namespaces.map fun entry => Naming.snakeCase entry.1

def declaredModules (project : Project) : List String :=
  (moduleNames project).map identifier ++ [migrationsModule]

theorem rootText_eq (project : Project) :
    rootText project = Lines.text (["//! Generated by rowgen; do not edit.", ""] ++
      (declaredModules project).map fun name => s!"pub mod {name};") := by
  rw [rootText, declaredModules, moduleNames, List.map_map]
  rfl

theorem paths_eq (project : Project) : (files project).map GeneratedFile.path =
    (moduleNames project ++ [migrationsModule, "mod"]).map (· ++ ".rs") := by
  rw [files, moduleNames, List.map_append, List.map_append, List.map_map, List.map_map]
  rfl

theorem nodup_paths_iff (project : Project) : ((files project).map GeneratedFile.path).Nodup ↔
    (moduleNames project).Nodup ∧ migrationsModule ∉ moduleNames project ∧
      "mod" ∉ moduleNames project := by
  have extended : Function.Injective (· ++ ".rs" : String → String) :=
    fun a b same => (String.append_left_inj _).mp same
  have others : [migrationsModule, "mod"].Nodup := by decide
  rw [paths_eq, List.nodup_map_iff extended, List.nodup_append']
  simp only [others, true_and, List.disjoint_cons_right, List.disjoint_nil_right, and_true]

theorem nodup_declaredModules_iff (project : Project) : (declaredModules project).Nodup ↔
    (moduleNames project).Nodup ∧ migrationsModule ∉ moduleNames project := by
  have plain : ∀ name ∈ moduleNames project ++ [migrationsModule], '#' ∉ name.toList := by
    refine List.forall_mem_append.mpr ⟨fun name member => ?_, ?_⟩
    · obtain ⟨entry, _, rfl⟩ := List.mem_map.mp member
      exact Naming.not_mem_snakeCase entry.1 (by decide)
    · exact List.forall_mem_singleton.mpr (by decide)
  have kept : identifier migrationsModule = migrationsModule := by decide
  have all : declaredModules project =
      (moduleNames project ++ [migrationsModule]).map identifier := by
    rw [declaredModules, List.map_append, List.map_singleton, kept]
  have unmarked : (declaredModules project).Nodup ↔
      (moduleNames project ++ [migrationsModule]).Nodup := by
    rw [all]
    refine ⟨List.Nodup.of_map identifier, fun distinct => distinct.map_on fun a ha b hb => ?_⟩
    exact identifier_inj (plain a ha) (plain b hb)
  rw [unmarked, List.nodup_append', List.disjoint_singleton]
  simp

end Emit

end TypedRows
