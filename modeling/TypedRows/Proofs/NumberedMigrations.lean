import TypedRows.Migration.MigrationSet
import TypedRows.Proofs.MigrationNames
import TypedRows.Proofs.Outcome
import Mathlib.Data.List.Nodup
import Mathlib.Data.List.Perm.Basic

/-! Which files make a set of migrations, and what the set holds. The names are read first, then
their numbers are compared, and only then their digits are counted; so of two spellings of a number
the second is a duplicate. Since no number is there twice, it makes no difference whether the set is
kept as a list or under its numbers. -/

namespace TypedRows

open Sql

namespace MigrationSet

def isSql (file : String × String) : Bool :=
  (Path.fileName? file.1).any fun name => ".sql".toList.isSuffixOf name.toList

def sqlFiles (files : List (String × String)) : List (String × String) :=
  files.filter isSql

def HasNumber (file : String × String) (number : Nat) : Prop :=
  ∃ name, Path.fileName? file.1 = some name ∧ MigrationName.Numbered name number

/-- Puts a migration in the place of its version, and in place of another of that version. -/
def put (migration : Migration) : List Migration → List Migration
  | [] => [migration]
  | other :: rest =>
    if migration.version < other.version then migration :: other :: rest
    else if migration.version = other.version then migration :: rest
    else other :: put migration rest

/-! The steps in which files become a set. -/

def candidates (files : List (String × String)) : Except Error (List Candidate) :=
  List.filterMap id <$> files.mapM Candidate.ofFile

def byName (cs : List Candidate) : List Candidate :=
  cs.mergeSort fun a b => decide (a.fileName ≤ b.fileName)

def byVersion (migrations : List Migration) : List Migration :=
  migrations.mergeSort fun a b => decide (a.version ≤ b.version)

def ofCandidates (cs : List Candidate) : Except Error MigrationSet := do
  checkVersions [] cs
  cs.forM checkDigits
  let migrations ← cs.mapM Candidate.migration
  return ⟨byVersion migrations⟩

theorem ofFiles_eq (files : List (String × String)) :
    ofFiles files = candidates files >>= fun cs => ofCandidates (byName cs) := by
  rw [ofFiles, candidates, map_eq_pure_bind, bind_assoc]
  rfl

/-- A candidate has the path, the name and the text of its file, and its name can be read. -/
structure Candidate.Of (file : String × String) (candidate : Candidate) : Prop where
  fileName : Path.fileName? file.1 = some candidate.fileName
  path : candidate.path = file.1
  sql : candidate.sql = file.2
  name : MigrationName.parse candidate.fileName = .ok candidate.name

section Candidates

variable {files order : List (String × String)} {file : String × String} {c : Candidate}
  {cs : List Candidate}

theorem ofFile_of_other (other : isSql file = false) : Candidate.ofFile file = .ok none := by
  rw [isSql] at other
  rw [Candidate.ofFile]
  cases named : Path.fileName? file.1 with
  | none => rfl
  | some name =>
    rw [named, Option.any_some, Text.isSuffixOf_eq, Option.isSome_eq_false_iff] at other
    dsimp only
    rw [if_pos other]

theorem ofFile_of_sql {name : String} (named : Path.fileName? file.1 = some name)
    (ends : isSql file = true) : Candidate.ofFile file =
      (fun parsed => some ⟨name, file.1, file.2, parsed⟩) <$> MigrationName.parse name := by
  rw [isSql, named, Option.any_some, Text.isSuffixOf_eq] at ends
  rw [Candidate.ofFile, named]
  dsimp only
  rw [Option.isNone_eq_false_iff.mpr ends, if_neg Bool.false_ne_true, map_eq_pure_bind]

theorem isSql_of_parse {name : String} {parsed : MigrationName}
    (named : Path.fileName? file.1 = some name) (read : MigrationName.parse name = .ok parsed) :
    isSql file = true := by
  obtain ⟨digits, rest, spells, _⟩ := MigrationName.parse_eq_ok_iff.mp read
  rw [isSql, named, Option.any_some, List.isSuffixOf_iff_suffix]
  exact ⟨_, spells.whole.symm⟩

theorem ofFile_eq_some_iff : Candidate.ofFile file = .ok (some c) ↔ c.Of file := by
  constructor
  · intro h
    cases ends : isSql file with
    | false =>
      rw [ofFile_of_other ends] at h
      cases h
    | true =>
      obtain ⟨name, named, _⟩ := (Option.any_eq_true _ _).mp ends
      rw [ofFile_of_sql named ends] at h
      obtain ⟨parsed, read, made⟩ := map_eq_ok.mp h
      cases made
      exact ⟨named, rfl, rfl, read⟩
  · rintro ⟨named, path, sql, read⟩
    rw [ofFile_of_sql named (isSql_of_parse named read), read, ← path, ← sql]
    rfl

theorem candidates_cons (file : String × String) (rest : List (String × String)) :
    candidates (file :: rest) = do
      let first ← Candidate.ofFile file
      let others ← candidates rest
      return first.toList ++ others := by
  rw [candidates, candidates, List.mapM_cons]
  cases Candidate.ofFile file with
  | error e => rfl
  | ok first =>
    cases rest.mapM Candidate.ofFile with
    | error e => rfl
    | ok others => cases first <;> rfl

/-- The candidates are the files whose names end in `.sql`, in their order. -/
theorem candidates_eq_ok_iff :
    candidates files = .ok cs ↔ List.Forall₂ (fun file c => c.Of file) (sqlFiles files) cs := by
  induction files generalizing cs with
  | nil =>
    rw [sqlFiles, List.filter_nil, List.forall₂_nil_left_iff]
    exact ⟨fun h => (Except.ok.inj h).symm, fun h => congrArg _ h.symm⟩
  | cons file rest ih =>
    rw [candidates_cons, sqlFiles, List.filter_cons]
    cases ends : isSql file with
    | false =>
      rw [ofFile_of_other ends, if_neg Bool.false_ne_true, ← sqlFiles, ← ih]
      cases candidates rest <;> rfl
    | true =>
      rw [if_pos rfl, List.forall₂_cons_left_iff]
      constructor
      · intro h
        obtain ⟨first, read, h⟩ := bind_eq_ok h
        obtain ⟨others, later, h⟩ := bind_eq_ok h
        cases h
        obtain ⟨name, named, _⟩ := (Option.any_eq_true _ _).mp ends
        rw [ofFile_of_sql named ends] at read
        obtain ⟨parsed, parse, rfl⟩ := map_eq_ok.mp read
        exact ⟨⟨name, file.1, file.2, parsed⟩, others, ⟨named, rfl, rfl, parse⟩, ih.mp later, rfl⟩
      · rintro ⟨c, others, first, later, rfl⟩
        have read : Candidate.ofFile file = .ok (some c) := ofFile_eq_some_iff.mpr first
        have rest' : candidates rest = .ok others := ih.mpr later
        rw [bind_of_ok read, bind_of_ok rest']
        rfl

theorem checkVersions_eq_ok_iff {seen : List Candidate} : checkVersions seen cs = .ok () ↔
    (cs.map fun c => c.name.version).Nodup ∧
      ∀ c ∈ cs, ∀ s ∈ seen, s.name.version ≠ c.name.version := by
  induction cs generalizing seen with
  | nil => simp [checkVersions]
  | cons c rest ih =>
    rw [checkVersions]
    cases found : seen.find? fun s => s.name.version == c.name.version with
    | some first =>
      have same := List.find?_some found
      have known := List.mem_of_find?_eq_some found
      refine iff_of_false nofun fun apart => ?_
      exact apart.2 c List.mem_cons_self first known (by simpa using same)
    | none =>
      rw [List.find?_eq_none] at found
      simp only [beq_iff_eq] at found
      rw [ih, List.map_cons, List.nodup_cons, List.forall_mem_cons, List.mem_map]
      constructor
      · rintro ⟨distinct, apart⟩
        refine ⟨⟨?_, distinct⟩, found, fun d later s known => apart d later s (.tail _ known)⟩
        rintro ⟨d, later, same⟩
        exact apart d later c (.head _) same.symm
      · rintro ⟨⟨new, distinct⟩, _, apart⟩
        refine ⟨distinct, fun d later s known => ?_⟩
        obtain rfl | known := List.mem_cons.mp known
        · exact fun same => new ⟨d, later, same.symm⟩
        · exact apart d later s known

/-- A migration can be made of a candidate whose text can be cut into lexemes. -/
theorem exists_migration_iff :
    (∃ m, c.migration = .ok m) ↔ ∃ lexemes, Lexeme.scan c.sql = .ok lexemes := by
  rw [Candidate.migration, Script.chunks]
  cases Lexeme.scan c.sql with
  | error fault => exact iff_of_false (fun ⟨_, h⟩ => nomatch h) (fun ⟨_, h⟩ => nomatch h)
  | ok lexemes => exact iff_of_true ⟨_, rfl⟩ ⟨_, rfl⟩

theorem migration_eq_ok {m : Migration} (h : c.migration = .ok m) :
    m.version = c.name.version ∧ m.fileName = c.fileName ∧ m.path = c.path ∧ m.sql = c.sql := by
  obtain ⟨chunks, _, made⟩ := bind_eq_ok h
  cases made
  exact ⟨rfl, rfl, rfl, rfl⟩

theorem checkDigits_eq_ok_iff :
    checkDigits c = .ok () ↔ c.name.digits.toList.length = versionDigits := by
  rw [checkDigits]
  split
  · exact iff_of_true rfl ‹_›
  · exact iff_of_false nofun ‹_›

theorem ofCandidates_eq_ok_iff {set : MigrationSet} : ofCandidates cs = .ok set ↔
    (cs.map fun c => c.name.version).Nodup ∧
      (∀ c ∈ cs, c.name.digits.toList.length = versionDigits) ∧
      ∃ migrations, List.Forall₂ (fun c m => c.migration = .ok m) cs migrations ∧
        set = ⟨byVersion migrations⟩ := by
  have apart : checkVersions [] cs = .ok () ↔ (cs.map fun c => c.name.version).Nodup := by
    rw [checkVersions_eq_ok_iff, and_iff_left fun _ _ _ known => nomatch known]
  have wide : cs.forM checkDigits = .ok () ↔
      ∀ c ∈ cs, c.name.digits.toList.length = versionDigits := by
    rw [forM_eq_ok_iff]
    exact forall₂_congr fun c _ => checkDigits_eq_ok_iff
  rw [← apart, ← wide, ofCandidates]
  constructor
  · intro h
    obtain ⟨_, distinct, h⟩ := bind_eq_ok h
    obtain ⟨_, four, h⟩ := bind_eq_ok h
    obtain ⟨migrations, made, h⟩ := bind_eq_ok h
    cases h
    exact ⟨distinct, four, migrations, mapM_eq_ok made, rfl⟩
  · rintro ⟨distinct, four, migrations, made, rfl⟩
    rw [bind_of_ok distinct, bind_of_ok four, bind_of_ok (mapM_of_forall₂ made)]
    rfl

/-! Sorting by name and by version. -/

theorem byName_perm (cs : List Candidate) : (byName cs).Perm cs :=
  List.mergeSort_perm ..

theorem byVersion_perm (migrations : List Migration) : (byVersion migrations).Perm migrations :=
  List.mergeSort_perm ..

theorem mergeSort_sorted {α β : Type} [LE β] [DecidableLE β] {key : α → β}
    (trans : ∀ a b c : β, a ≤ b → b ≤ c → a ≤ c) (total : ∀ a b : β, a ≤ b ∨ b ≤ a)
    (xs : List α) : (xs.mergeSort fun a b => decide (key a ≤ key b)).Pairwise
      fun a b => key a ≤ key b := by
  refine (List.pairwise_mergeSort ?_ ?_ xs).imp of_decide_eq_true
  · simp only [decide_eq_true_eq]
    exact fun _ _ _ => trans _ _ _
  · simp only [Bool.or_eq_true, decide_eq_true_eq]
    exact fun _ _ => total _ _

theorem byName_sorted (cs : List Candidate) :
    (byName cs).Pairwise fun a b => a.fileName ≤ b.fileName :=
  mergeSort_sorted (fun _ _ _ => String.le_trans) String.le_total cs

theorem byVersion_sorted (migrations : List Migration) :
    (byVersion migrations).Pairwise fun a b => a.version ≤ b.version :=
  mergeSort_sorted (fun _ _ _ => Nat.le_trans) Nat.le_total migrations

/-- Candidates with distinct names are sorted in one way. -/
theorem byName_eq {ds : List Candidate} (h : cs.Perm ds)
    (distinct : (ds.map Candidate.fileName).Nodup) : byName cs = byName ds := by
  have perm := ((byName_perm cs).trans h).trans (byName_perm ds).symm
  refine perm.eq_of_pairwise (fun a b ha hb below above => ?_) (byName_sorted cs) (byName_sorted ds)
  have inDs : a ∈ ds := h.mem_iff.mp ((byName_perm cs).mem_iff.mp ha)
  exact List.inj_on_of_nodup_map distinct inDs ((byName_perm ds).mem_iff.mp hb)
    (String.le_antisymm below above)

/-- A file name has one number, so candidates with distinct numbers have distinct names. -/
theorem fileNames_nodup (h : List.Forall₂ (fun file c => c.Of file) files cs)
    (distinct : (cs.map fun c => c.name.version).Nodup) : (cs.map Candidate.fileName).Nodup := by
  let number := fun name => ((MigrationName.parse name).toOption.map MigrationName.version).getD 0
  refine List.Nodup.of_map number ?_
  rw [List.map_map]
  refine (List.map_congr_left fun c member => ?_).symm ▸ distinct
  obtain ⟨file, _, of⟩ := exists_of_mem_right h member
  change number c.fileName = c.name.version
  simp only [number, of.name]
  rfl

/-- Files in another order make the same candidates. -/
theorem ofFiles_perm (h : order.Perm files) (read : candidates files = .ok cs)
    (distinct : (cs.map Candidate.fileName).Nodup) : ofFiles order = ofFiles files := by
  have filtered : (sqlFiles order).Perm (sqlFiles files) := h.filter _
  obtain ⟨ds, each, perm⟩ := List.perm_comp_forall₂ filtered (candidates_eq_ok_iff.mp read)
  rw [ofFiles_eq, ofFiles_eq, read, candidates_eq_ok_iff.mpr each]
  exact congrArg ofCandidates (byName_eq perm distinct)

theorem ofFiles_eq_ok_iff {set : MigrationSet} : ofFiles files = .ok set ↔
    ∃ cs, List.Forall₂ (fun file c => c.Of file) (sqlFiles files) cs ∧
      (cs.map fun c => c.name.version).Nodup ∧
      (∀ c ∈ cs, c.name.digits.toList.length = versionDigits) ∧
      ∃ migrations, List.Forall₂ (fun c m => c.migration = .ok m) (byName cs) migrations ∧
        set = ⟨byVersion migrations⟩ := by
  have sorted : ∀ cs, ((byName cs).map fun c => c.name.version).Nodup ↔
      (cs.map fun c => c.name.version).Nodup := fun cs => ((byName_perm cs).map _).nodup_iff
  have same : ∀ cs c, c ∈ byName cs ↔ c ∈ cs := fun cs c => (byName_perm cs).mem_iff
  rw [ofFiles_eq]
  constructor
  · intro h
    obtain ⟨cs, read, h⟩ := bind_eq_ok h
    rw [ofCandidates_eq_ok_iff] at h
    simp only [sorted, same] at h
    exact ⟨cs, candidates_eq_ok_iff.mp read, h⟩
  · rintro ⟨cs, read, h⟩
    rw [bind_of_ok (candidates_eq_ok_iff.mpr read), ofCandidates_eq_ok_iff]
    simp only [sorted, same]
    exact h

theorem Candidate.Of.hasNumber_iff (h : c.Of file) {number : Nat} : HasNumber file number ↔
    c.name.digits.toList.length = versionDigits ∧ c.name.version = number := by
  constructor
  · rintro ⟨name, named, numbered⟩
    rw [h.fileName] at named
    cases named
    obtain ⟨parsed, read, four, version⟩ := MigrationName.numbered_iff.mp numbered
    rw [h.name] at read
    cases read
    exact ⟨four, version⟩
  · rintro ⟨four, version⟩
    exact ⟨_, h.fileName, MigrationName.numbered_iff.mpr ⟨_, h.name, four, version⟩⟩

theorem exists_of_hasNumber {number : Nat} (h : HasNumber file number) :
    ∃ c : Candidate, c.Of file ∧ c.name.digits.toList.length = versionDigits ∧
      c.name.version = number := by
  obtain ⟨name, named, numbered⟩ := h
  obtain ⟨parsed, read, four, version⟩ := MigrationName.numbered_iff.mp numbered
  exact ⟨⟨name, file.1, file.2, parsed⟩, ⟨named, rfl, rfl, read⟩, four, version⟩

/-- Files have numbers if they become candidates with as many digits as numbers have. -/
theorem forall₂_hasNumber_iff {numbers : List Nat} : List.Forall₂ HasNumber files numbers ↔
    ∃ cs : List Candidate, List.Forall₂ (fun file c => c.Of file) files cs ∧
      (∀ c ∈ cs, c.name.digits.toList.length = versionDigits) ∧
      cs.map (fun c => c.name.version) = numbers := by
  constructor
  · intro h
    induction h with
    | nil => exact ⟨[], .nil, nofun, rfl⟩
    | cons first _ ih =>
      obtain ⟨c, of, four, rfl⟩ := exists_of_hasNumber first
      obtain ⟨cs, others, wide, rfl⟩ := ih
      exact ⟨c :: cs, .cons of others, List.forall_mem_cons.mpr ⟨four, wide⟩, rfl⟩
  · rintro ⟨cs, h, wide, rfl⟩
    induction h with
    | nil => exact .nil
    | cons first _ ih =>
      obtain ⟨four, wide⟩ := List.forall_mem_cons.mp wide
      exact .cons (first.hasNumber_iff.mpr ⟨four, rfl⟩) (ih wide)

theorem exists_ofFiles_iff : (∃ set, ofFiles files = .ok set) ↔
    (∃ numbers, List.Forall₂ HasNumber (sqlFiles files) numbers ∧ numbers.Nodup) ∧
      ∀ file ∈ sqlFiles files, ∃ lexemes, Lexeme.scan file.2 = .ok lexemes := by
  constructor
  · rintro ⟨set, h⟩
    obtain ⟨cs, each, distinct, wide, migrations, made, _⟩ := ofFiles_eq_ok_iff.mp h
    refine ⟨⟨_, forall₂_hasNumber_iff.mpr ⟨cs, each, wide, rfl⟩, distinct⟩, fun file member => ?_⟩
    obtain ⟨c, inside, of⟩ := exists_of_mem_left each member
    obtain ⟨m, _, own⟩ := exists_of_mem_left made ((byName_perm cs).mem_iff.mpr inside)
    rw [← of.sql]
    exact exists_migration_iff.mp ⟨m, own⟩
  · rintro ⟨⟨numbers, numbered, distinct⟩, texts⟩
    obtain ⟨cs, each, wide, rfl⟩ := forall₂_hasNumber_iff.mp numbered
    have made : ∀ c ∈ byName cs, ∃ m, c.migration = .ok m := by
      intro c member
      obtain ⟨file, inside, of⟩ := exists_of_mem_right each ((byName_perm cs).mem_iff.mp member)
      rw [exists_migration_iff, of.sql]
      exact texts file inside
    obtain ⟨migrations, made⟩ := exists_mapM made
    exact ⟨_, ofFiles_eq_ok_iff.mpr ⟨cs, each, distinct, wide, migrations, mapM_eq_ok made, rfl⟩⟩

end Candidates

section Puts

variable {m : Migration} {kept order : List Migration}

def Ascending (migrations : List Migration) : Prop :=
  migrations.Pairwise fun a b => a.version < b.version

theorem put_perm (new : m.version ∉ kept.map Migration.version) :
    (put m kept).Perm (m :: kept) := by
  induction kept with
  | nil => exact .refl _
  | cons other rest ih =>
    rw [List.map_cons, List.mem_cons, not_or] at new
    rw [put, if_neg new.1]
    split
    · exact .refl _
    · exact ((ih new.2).cons other).trans (.swap m other rest)

theorem put_ascending (new : m.version ∉ kept.map Migration.version) (h : Ascending kept) :
    Ascending (put m kept) := by
  induction kept with
  | nil => exact List.pairwise_singleton ..
  | cons other rest ih =>
    rw [List.map_cons, List.mem_cons, not_or] at new
    obtain ⟨above, h⟩ := List.pairwise_cons.mp h
    rw [put, if_neg new.1]
    split
    · rename_i below
      refine List.pairwise_cons.mpr ⟨?_, List.pairwise_cons.mpr ⟨above, h⟩⟩
      exact List.forall_mem_cons.mpr ⟨below, fun n later => below.trans (above n later)⟩
    · rename_i notBelow
      refine List.pairwise_cons.mpr ⟨fun n inside => ?_, ih new.2 h⟩
      obtain rfl | later := List.mem_cons.mp ((put_perm new.2).mem_iff.mp inside)
      · have apart := new.1
        omega
      · exact above n later

/-- Under distinct versions nothing is replaced. -/
theorem foldl_put (distinct : ((order ++ kept).map Migration.version).Nodup)
    (h : Ascending kept) :
    (order.foldl (fun kept m => put m kept) kept).Perm (order ++ kept) ∧
      Ascending (order.foldl (fun kept m => put m kept) kept) := by
  induction order generalizing kept with
  | nil => exact ⟨.refl _, h⟩
  | cons m rest ih =>
    rw [List.cons_append, List.map_cons, List.nodup_cons, List.map_append, List.mem_append,
      not_or] at distinct
    have swapped : (rest ++ put m kept).Perm (m :: (rest ++ kept)) :=
      ((put_perm distinct.1.2).append_left rest).trans List.perm_middle
    have next := ih (((swapped.map _).nodup_iff).mpr ?_) (put_ascending distinct.1.2 h)
    · exact ⟨next.1.trans swapped, next.2⟩
    · rw [List.map_cons, List.nodup_cons, List.map_append, List.mem_append, not_or]
      exact distinct

theorem Ascending.nodup (h : Ascending kept) : (kept.map Migration.version).Nodup := by
  rw [List.Nodup, List.pairwise_map]
  exact h.imp fun below => Nat.ne_of_lt below

theorem Ascending.eq_of_perm {other : List Migration} (h : Ascending kept) (h' : Ascending other)
    (perm : kept.Perm other) : kept = other :=
  perm.eq_of_pairwise (fun _ _ _ _ below above => absurd below (Nat.lt_asymm above)) h h'

end Puts

/-- The set holds the files whose names end in `.sql`, each once and under its number. -/
structure Holds (set : MigrationSet) (files : List (String × String)) : Prop where
  files : (set.migrations.map fun m => (m.path, m.sql)).Perm (sqlFiles files)
  numbered : ∀ m ∈ set.migrations, Path.fileName? m.path = some m.fileName ∧
    MigrationName.Numbered m.fileName m.version
  ascending : Ascending set.migrations
  latest : ∀ version, set.latest? = some version ↔
    version ∈ set.migrations.map Migration.version ∧
      ∀ m ∈ set.migrations, m.version ≤ version
  kept : ∀ order : List Migration, order.Perm set.migrations →
    order.foldl (fun kept m => put m kept) [] = set.migrations

theorem Ascending.latest_iff {migrations : List Migration} (h : Ascending migrations)
    {version : Nat} : MigrationSet.latest? ⟨migrations⟩ = some version ↔
      version ∈ migrations.map Migration.version ∧ ∀ m ∈ migrations, m.version ≤ version := by
  have last : ∀ (before : List Migration) (l m : Migration), Ascending (before ++ [l]) →
      m ∈ before ++ [l] → m.version ≤ l.version := by
    intro before l m h member
    obtain inside | rfl := List.mem_append.mp member |>.imp_right List.mem_singleton.mp
    · exact Nat.le_of_lt ((List.pairwise_append.mp h).2.2 m inside l (List.mem_singleton_self l))
    · exact Nat.le_refl _
  rw [latest?, Option.map_eq_some_iff]
  constructor
  · rintro ⟨l, ends, rfl⟩
    obtain ⟨before, rfl⟩ := List.getLast?_eq_some_iff.mp ends
    exact ⟨List.mem_map_of_mem (List.mem_append_right _ (List.mem_singleton_self l)),
      fun m => last before l m h⟩
  · rintro ⟨member, above⟩
    obtain ⟨m, inside, rfl⟩ := List.mem_map.mp member
    obtain ⟨before, l, rfl⟩ := (List.eq_nil_or_concat' migrations).resolve_left
      (List.ne_nil_of_mem inside)
    refine ⟨l, List.getLast?_concat, Nat.le_antisymm ?_ (last before l m h inside)⟩
    exact above l (List.mem_append_right _ (List.mem_singleton_self l))

theorem ascending_byVersion {migrations : List Migration}
    (distinct : (migrations.map Migration.version).Nodup) : Ascending (byVersion migrations) := by
  have apart := (((byVersion_perm migrations).map Migration.version).nodup_iff).mpr distinct
  rw [List.Nodup, List.pairwise_map] at apart
  exact (byVersion_sorted migrations).imp₂ (fun _ _ => Nat.lt_of_le_of_ne) apart

theorem Ascending.kept {migrations order : List Migration} (h : Ascending migrations)
    (perm : order.Perm migrations) :
    order.foldl (fun kept m => put m kept) [] = migrations := by
  have distinct := ((perm.map Migration.version).nodup_iff).mpr h.nodup
  obtain ⟨same, sorted⟩ := @foldl_put [] order (by rwa [List.append_nil]) .nil
  rw [List.append_nil] at same
  exact sorted.eq_of_perm h (same.trans perm)

theorem holds_of_ofFiles {files : List (String × String)} {set : MigrationSet}
    (h : ofFiles files = .ok set) : set.Holds files := by
  obtain ⟨cs, each, distinct, wide, migrations, made, rfl⟩ := ofFiles_eq_ok_iff.mp h
  have versions := map_eq_of_forall₂ made fun c m own => (migration_eq_ok own).1
  have contents : migrations.map (fun m => (m.path, m.sql)) =
      (byName cs).map fun c => (c.path, c.sql) :=
    map_eq_of_forall₂ made fun c m own => by
      obtain ⟨_, _, path, sql⟩ := migration_eq_ok own
      rw [path, sql]
  have ascending : Ascending (byVersion migrations) := by
    apply ascending_byVersion
    rw [versions]
    exact (((byName_perm cs).map _).nodup_iff).mpr distinct
  constructor
  case files =>
    have own : cs.map (fun c => (c.path, c.sql)) = (sqlFiles files).map id :=
      map_eq_of_forall₂ each fun file c of => by rw [of.path, of.sql]; rfl
    rw [List.map_id] at own
    have sorted : ((byVersion migrations).map fun m => (m.path, m.sql)).Perm
        (migrations.map fun m => (m.path, m.sql)) := (byVersion_perm migrations).map _
    rw [contents] at sorted
    exact own ▸ sorted.trans ((byName_perm cs).map _)
  case numbered =>
    intro m member
    have made' := (byVersion_perm migrations).mem_iff.mp member
    obtain ⟨c, inside, own⟩ := exists_of_mem_right made made'
    obtain ⟨file, _, of⟩ := exists_of_mem_right each ((byName_perm cs).mem_iff.mp inside)
    obtain ⟨version, fileName, path, _⟩ := migration_eq_ok own
    rw [version, fileName, path, of.path]
    exact ⟨of.fileName, MigrationName.numbered_iff.mpr
      ⟨_, of.name, wide c ((byName_perm cs).mem_iff.mp inside), rfl⟩⟩
  case ascending => exact ascending
  case latest => exact fun version => ascending.latest_iff
  case kept => exact fun order => ascending.kept

/-- Files make a set exactly if the names of those that end in `.sql` have four digits and distinct
numbers, and their texts can be cut into lexemes. The set holds all of them, and is the same for
every order of the files. -/
theorem ofFiles_numbered (files : List (String × String)) :
    ((∃ set, ofFiles files = .ok set) ↔
      (∃ numbers, List.Forall₂ HasNumber (sqlFiles files) numbers ∧ numbers.Nodup) ∧
      ∀ file ∈ sqlFiles files, ∃ lexemes, Lexeme.scan file.2 = .ok lexemes) ∧
    ∀ set, ofFiles files = .ok set →
      set.Holds files ∧ ∀ order, order.Perm files → ofFiles order = .ok set := by
  refine ⟨exists_ofFiles_iff, fun set h => ⟨holds_of_ofFiles h, fun order perm => ?_⟩⟩
  obtain ⟨cs, each, distinct, _⟩ := ofFiles_eq_ok_iff.mp h
  rw [← h]
  exact ofFiles_perm perm (candidates_eq_ok_iff.mpr each) (fileNames_nodup each distinct)

/-- Two migrations and a file of another kind, in no order. -/
def scattered : List (String × String) :=
  [("m/0010_b.sql", "SELECT 1; SELECT 2"), ("m/notes.txt", "'"), ("m/0002.sql", "")]

theorem ofFiles_numbered_scattered : ∃ set, ofFiles scattered = .ok set ∧ set.Holds scattered ∧
    ofFiles scattered.reverse = .ok set := by
  have sql : sqlFiles scattered = [("m/0010_b.sql", "SELECT 1; SELECT 2"), ("m/0002.sql", "")] := by
    decide
  have ten : HasNumber ("m/0010_b.sql", "SELECT 1; SELECT 2") 10 :=
    ⟨"0010_b.sql", by decide, ['0', '0', '1', '0'], ['_', 'b'],
      ⟨by decide, by decide, List.all_eq_true.mp rfl, .inr ⟨['b'], rfl, by decide⟩⟩, rfl,
      by decide⟩
  have two : HasNumber ("m/0002.sql", "") 2 :=
    ⟨"0002.sql", by decide, ['0', '0', '0', '2'], [],
      ⟨by decide, by decide, List.all_eq_true.mp rfl, .inl rfl⟩, rfl, by decide⟩
  have read : ∀ file ∈ sqlFiles scattered, (Lexeme.scan file.2).toOption.isSome = true := by
    rw [sql]
    decide +kernel
  obtain ⟨accepted, holds⟩ := ofFiles_numbered scattered
  obtain ⟨set, made⟩ := accepted.mpr
    ⟨⟨[10, 2], sql ▸ .cons ten (.cons two .nil), by decide⟩, fun file member => by
      obtain ⟨lexemes, scanned⟩ := Option.isSome_iff_exists.mp (read file member)
      exact ⟨lexemes, toOption_eq_some.mp scanned⟩⟩
  obtain ⟨own, perm⟩ := holds set made
  exact ⟨set, made, own, perm _ (List.reverse_perm scattered)⟩

end MigrationSet

end TypedRows
