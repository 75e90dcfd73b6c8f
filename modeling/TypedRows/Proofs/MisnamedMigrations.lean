import TypedRows.Proofs.NumberedMigrations
import Mathlib.Data.List.Pairwise

/-! When the outcome depends on the order in which a directory lists its files. The candidates are
sorted by name before they are compared, so that a duplicate or a short number is reported alike for
every order. But a name that cannot be read is reported while they are collected, in the order in
which the files come. -/

namespace TypedRows.MigrationSet

variable {files order before after : List (String × String)} {file : String × String}

def fileNames (files : List (String × String)) : List String :=
  files.filterMap fun file => Path.fileName? file.1

/-- The name of the file ends in `.sql`, but what is before that is not a number of 32 bits, with or
without a description. -/
def Misnamed (file : String × String) : Prop :=
  ∃ name, Path.fileName? file.1 = some name ∧ isSql file = true ∧
    ∀ digits rest, MigrationName.Spells name digits rest →
      Nat.pow 2 32 ≤ Nat.ofDigitChars 10 digits 0

/-- The error says that the name of this file is wrong. -/
def Blames (order : List (String × String)) (file : String × String) : Prop :=
  ∃ name fault, Path.fileName? file.1 = some name ∧
    ofFiles order = .error (.migrationName name fault)

theorem misnamed_iff : Misnamed file ↔ ∃ name fault, Path.fileName? file.1 = some name ∧
    Candidate.ofFile file = .error (.migrationName name fault) := by
  constructor
  · rintro ⟨name, named, ends, unread⟩
    rw [ofFile_of_sql named ends]
    cases read : MigrationName.parse name with
    | error e =>
      obtain ⟨fault, rfl⟩ := MigrationName.parse_eq_error read
      exact ⟨name, fault, named, rfl⟩
    | ok parsed =>
      obtain ⟨digits, rest, spells, small, _⟩ := MigrationName.parse_eq_ok_iff.mp read
      exact absurd small (Nat.not_lt.mpr (unread digits rest spells))
  · rintro ⟨name, fault, named, fails⟩
    cases ends : isSql file with
    | false =>
      rw [ofFile_of_other ends] at fails
      cases fails
    | true =>
      rw [ofFile_of_sql named ends] at fails
      refine ⟨name, named, ends, fun digits rest spells => Nat.not_lt.mp fun small => ?_⟩
      rw [MigrationName.parse_eq_ok_iff.mpr ⟨digits, rest, spells, small, rfl⟩] at fails
      cases fails

theorem exists_ofFile_iff : (∃ c, Candidate.ofFile file = .ok c) ↔ ¬ Misnamed file := by
  constructor
  · rintro ⟨c, read⟩ misnamed
    obtain ⟨_, _, _, fails⟩ := misnamed_iff.mp misnamed
    rw [read] at fails
    cases fails
  · intro fine
    cases ends : isSql file with
    | false => exact ⟨none, ofFile_of_other ends⟩
    | true =>
      obtain ⟨name, named, _⟩ := (Option.any_eq_true _ _).mp ends
      by_contra fails
      refine fine ⟨name, named, ends, fun digits rest spells => Nat.not_lt.mp fun small => fails ?_⟩
      rw [ofFile_of_sql named ends,
        MigrationName.parse_eq_ok_iff.mpr ⟨digits, rest, spells, small, rfl⟩]
      exact ⟨_, rfl⟩

theorem misnamed_of_error {e : Error} (fails : Candidate.ofFile file = .error e) :
    Misnamed file := by
  by_contra fine
  obtain ⟨c, read⟩ := exists_ofFile_iff.mpr fine
  rw [read] at fails
  cases fails

/-- The first misnamed file decides the error. -/
theorem mapM_ofFile_eq_error_iff {e : Error} : files.mapM Candidate.ofFile = .error e ↔
    ∃ before file after, files = before ++ file :: after ∧ (∀ f ∈ before, ¬ Misnamed f) ∧
      Candidate.ofFile file = .error e := by
  simp only [mapM_eq_error_iff, exists_ofFile_iff]

theorem ofFiles_of_error {e : Error} (h : files.mapM Candidate.ofFile = .error e) :
    ofFiles files = .error e := by
  rw [ofFiles, h]
  rfl

theorem blames_first (fine : ∀ f ∈ before, ¬ Misnamed f) (misnamed : Misnamed file) :
    Blames (before ++ file :: after) file := by
  obtain ⟨name, fault, named, fails⟩ := misnamed_iff.mp misnamed
  exact ⟨name, fault, named,
    ofFiles_of_error (mapM_ofFile_eq_error_iff.mpr ⟨before, file, after, rfl, fine, fails⟩)⟩

/-- A name stands for one file. -/
theorem eq_of_fileName (distinct : (fileNames files).Nodup) {a b : String × String} (ha : a ∈ files)
    (hb : b ∈ files) {name : String} (na : Path.fileName? a.1 = some name)
    (nb : Path.fileName? b.1 = some name) : a = b := by
  have pairs := List.pairwise_filterMap.mp distinct
  have : Std.Symm fun a b : String × String => ∀ n, Path.fileName? a.1 = some n →
      ∀ m, Path.fileName? b.1 = some m → n ≠ m :=
    ⟨fun _ _ apart m hm n hn => (apart n hn m hm).symm⟩
  by_contra apart
  exact pairs.forall ha hb apart name na name nb rfl

theorem candidateNames_nodup {cs : List Candidate} (read : candidates files = .ok cs)
    (distinct : (fileNames files).Nodup) : (cs.map Candidate.fileName).Nodup := by
  have each := candidates_eq_ok_iff.mp read
  have names : (cs.map Candidate.fileName).map some =
      (sqlFiles files).map fun file => Path.fileName? file.1 := by
    rw [List.map_map]
    exact map_eq_of_forall₂ each fun file c of => of.fileName.symm
  have same : cs.map Candidate.fileName = fileNames (sqlFiles files) := by
    rw [fileNames, ← Function.id_comp fun file : String × String => Path.fileName? file.1,
      ← List.filterMap_map, ← names, List.filterMap_map]
    simp
  rw [same]
  exact (List.filter_sublist.filterMap _).nodup distinct

/-- A misnamed file is reported for every order, if it is the only one. -/
theorem mapM_ofFile_perm {e : Error} (h : order.Perm files)
    (only : ∀ a ∈ files, ∀ b ∈ files, Misnamed a → Misnamed b → a = b)
    (fails : files.mapM Candidate.ofFile = .error e) : order.mapM Candidate.ofFile = .error e := by
  obtain ⟨before, file, after, rfl, _, fails⟩ := mapM_ofFile_eq_error_iff.mp fails
  have inside : file ∈ before ++ file :: after := by simp
  cases moved : order.mapM Candidate.ofFile with
  | ok made =>
    obtain ⟨c, _, read⟩ := exists_of_mem_left (mapM_eq_ok moved) (h.mem_iff.mpr inside)
    rw [read] at fails
    cases fails
  | error e' =>
    obtain ⟨_, file', _, rfl, _, fails'⟩ := mapM_ofFile_eq_error_iff.mp moved
    have inside' := h.mem_iff.mp (List.mem_append_right _ List.mem_cons_self)
    obtain rfl := only _ inside' _ inside (misnamed_of_error fails') (misnamed_of_error fails)
    rw [fails] at fails'
    cases fails'
    rfl

theorem ofFiles_eq_of_perm (h : order.Perm files) (distinct : (fileNames files).Nodup)
    (only : ∀ a ∈ files, ∀ b ∈ files, Misnamed a → Misnamed b → a = b) :
    ofFiles order = ofFiles files := by
  cases read : files.mapM Candidate.ofFile with
  | ok made =>
    have own : candidates files = .ok (made.filterMap id) := by
      rw [candidates, read]
      rfl
    exact ofFiles_perm h own (candidateNames_nodup own distinct)
  | error e => rw [ofFiles_of_error read, ofFiles_of_error (mapM_ofFile_perm h only read)]

/-- Files of distinct names make the same set, or the same error, in every order exactly if at most
one of them is misnamed. Of several the first is reported. -/
theorem ofFiles_perm_iff (files : List (String × String)) (distinct : (fileNames files).Nodup) :
    ((∀ order, order.Perm files → ofFiles order = ofFiles files) ↔
      ∀ a ∈ files, ∀ b ∈ files, Misnamed a → Misnamed b → a = b) ∧
    ∀ before file after, files = before ++ file :: after → (∀ f ∈ before, ¬ Misnamed f) →
      Misnamed file → Blames files file := by
  refine ⟨⟨fun stable a ha b hb ma mb => ?_, fun only order perm => ?_⟩, ?_⟩
  · -- each of the two is reported when it comes first
    have alone : ∀ file ∈ files, Misnamed file → Blames files file := by
      intro file inside misnamed
      have first := @blames_first [] (files.erase file) file (List.forall_mem_nil _) misnamed
      rwa [Blames, List.nil_append, stable _ (List.perm_cons_erase inside).symm] at first
    obtain ⟨name, fault, na, ea⟩ := alone a ha ma
    obtain ⟨name', fault', nb, eb⟩ := alone b hb mb
    rw [ea] at eb
    cases eb
    exact eq_of_fileName distinct ha hb na nb
  · exact ofFiles_eq_of_perm perm distinct only
  · rintro before file after rfl fine misnamed
    exact blames_first fine misnamed

/-- Two files without numbers. -/
def numberless : List (String × String) := [("b.sql", ""), ("a.sql", "")]

theorem ofFiles_perm_iff_numberless :
    (fileNames numberless).Nodup ∧
      ¬ (∀ order, order.Perm numberless → ofFiles order = ofFiles numberless) ∧
      Blames numberless ("b.sql", "") ∧ Blames numberless.reverse ("a.sql", "") := by
  have distinct : (fileNames numberless).Nodup := by decide
  have b : Misnamed ("b.sql", "") := misnamed_iff.mpr ⟨"b.sql", .pattern, by decide, rfl⟩
  have a : Misnamed ("a.sql", "") := misnamed_iff.mpr ⟨"a.sql", .pattern, by decide, rfl⟩
  obtain ⟨stable, first⟩ := ofFiles_perm_iff numberless distinct
  obtain ⟨_, first'⟩ := ofFiles_perm_iff numberless.reverse (by decide)
  refine ⟨distinct, fun same => ?_, ?_, ?_⟩
  · have equal := stable.mp same _ (.head _) _ (.tail _ (.head _)) b a
    exact absurd equal (by decide)
  · exact first [] _ [_] rfl (List.forall_mem_nil _) b
  · exact first' [] _ [_] rfl (List.forall_mem_nil _) a

end TypedRows.MigrationSet
