import TypedRows.Emit.Write
import TypedRows.Files.FileTree
import TypedRows.Proofs.MapLookup
import TypedRows.Proofs.ModuleNames
import TypedRows.Proofs.Outcome

/-! What is in a directory after the generated files have been written into it, one after the other.
A file is read back as it was written unless a later one has been written to its place. -/

namespace TypedRows

namespace Text

variable {sep : Char} {last : List Char}

theorem splitChars_ne_nil (sep : Char) (cs : List Char) : splitChars sep cs ≠ [] := by
  cases cs with
  | nil => simp [splitChars]
  | cons c rest =>
    rw [splitChars]
    split
    · simp
    · split <;> simp

theorem splitChars_of_not_mem (h : sep ∉ last) : splitChars sep last = [last] := by
  induction last with
  | nil => rfl
  | cons c rest ih =>
    rw [List.mem_cons, not_or] at h
    rw [splitChars, ih h.2]
    exact if_neg fun same => h.1 same.symm

/-- What follows the last separator is the last piece. -/
theorem splitChars_append (before : List Char) (h : sep ∉ last) :
    splitChars sep (before ++ sep :: last) = splitChars sep before ++ [last] := by
  induction before with
  | nil =>
    have first : splitChars sep (sep :: last) = [[], last] := by
      rw [splitChars, splitChars_of_not_mem h]
      exact if_pos rfl
    exact first
  | cons c rest ih =>
    rw [List.cons_append, splitChars, ih, splitChars]
    cases pieces : splitChars sep rest with
    | nil => exact absurd pieces (splitChars_ne_nil sep rest)
    | cons piece more =>
      dsimp only [List.cons_append]
      split <;> rfl

end Text

namespace Path

/-- A name of a file, and not a way to somewhere else. -/
structure Simple (name : String) : Prop where
  noSlash : '/' ∉ name.toList
  step : name ≠ "" ∧ name ≠ "." ∧ name ≠ ".."

theorem isAbsolute_of_simple {name : String} (simple : Simple name) : isAbsolute name = false := by
  rw [isAbsolute, beq_eq_false_iff_ne]
  exact fun start => simple.noSlash (List.mem_of_head? start)

theorem parts_join (dir : String) {name : String} (simple : Simple name) :
    ∃ before, parts (join dir name) = before ++ [name] := by
  have split : ∀ before : List Char, parts (String.ofList (before ++ '/' :: name.toList)) =
      (Text.splitChars '/' before).map String.ofList ++ [name] := by
    intro before
    rw [parts, Text.split, String.toList_ofList, Text.splitChars_append before simple.noSlash,
      List.map_append, List.map_singleton, String.ofList_toList]
  rw [join, isAbsolute_of_simple simple, Bool.false_or]
  split
  · refine ⟨[], ?_⟩
    rw [parts, Text.split, Text.splitChars_of_not_mem simple.noSlash, List.map_singleton,
      String.ofList_toList, List.nil_append]
  · split
    · rename_i ends
      obtain ⟨before, same⟩ := List.getLast?_eq_some_iff.mp (eq_of_beq ends)
      have whole : dir ++ name = String.ofList (before ++ '/' :: name.toList) := by
        rw [← String.toList_inj, String.toList_append, String.toList_ofList, same,
          List.append_assoc]
        rfl
      exact ⟨_, whole ▸ split before⟩
    · have whole : dir ++ "/" ++ name = String.ofList (dir.toList ++ '/' :: name.toList) := by
        rw [← String.toList_inj]
        simp
      exact ⟨_, whole ▸ split dir.toList⟩

end Path

namespace FileTree

variable {tree after : FileTree}

/-- Where a part of a path leads from a directory. -/
def next (place : Place) (part : String) : Except FileFault Place :=
  if part = "" ∨ part = "." then .ok place
  else if part = ".." then .ok place.up
  else if nameLimit < part.utf8ByteSize then .error .nameTooLong
  else
    match place.down part with
    | some place => .ok place
    | none => .error .notFound

theorem follow_cons {place : Place} (directory : tree.node? place = some .directory)
    (part : String) (rest : List String) : tree.follow place (part :: rest) =
      next place part >>= fun place => tree.follow place rest := by
  rw [follow, directory, next]
  dsimp only
  split
  · rfl
  · split
    · rfl
    · split
      · rfl
      · cases place.down part <;> rfl

theorem directory_of_follow {place last : Place} {part : String} {rest : List String}
    (h : tree.follow place (part :: rest) = .ok last) : tree.node? place = some .directory := by
  rw [follow] at h
  split at h
  · cases h
  · cases h
  · assumption

theorem follow_append {place last : Place} {first second : List String}
    (h : tree.follow place (first ++ second) = .ok last) :
    ∃ middle, tree.follow place first = .ok middle ∧ tree.follow middle second = .ok last := by
  induction first generalizing place with
  | nil => exact ⟨place, rfl, h⟩
  | cons part rest ih =>
    have directory := directory_of_follow h
    rw [List.cons_append, follow_cons directory] at h
    obtain ⟨place', step, h⟩ := bind_eq_ok h
    obtain ⟨middle, before, after⟩ := ih h
    refine ⟨middle, ?_, after⟩
    rw [follow_cons directory, bind_of_ok step]
    exact before

theorem next_simple {name : String} (simple : Path.Simple name) {place last : Place}
    (h : next place name = .ok last) : ∃ names, last = .within (names ++ [name]) := by
  obtain ⟨notEmpty, notDot, notUp⟩ := simple.step
  rw [next, if_neg (by simp [notEmpty, notDot]), if_neg notUp] at h
  split at h
  · cases h
  · cases place with
    | beyond => cases h
    | within names =>
      cases h
      exact ⟨names, rfl⟩

theorem place_cases (path : String) : (∃ fault, ∀ tree : FileTree, tree.place path = .error fault) ∨
    ∀ tree : FileTree, tree.place path =
      tree.follow (if Path.isAbsolute path then .beyond else .within []) (Path.parts path) := by
  by_cases none : path.isEmpty = true
  · exact .inl ⟨_, fun _ => if_pos none⟩
  by_cases nul : path.toList.contains '\x00' = true
  · exact .inl ⟨_, fun _ => (if_neg none).trans (if_pos nul)⟩
  by_cases long : pathLimit ≤ path.utf8ByteSize
  · exact .inl ⟨_, fun _ => (if_neg none).trans ((if_neg nul).trans (if_pos long))⟩
  exact .inr fun _ => (if_neg none).trans ((if_neg nul).trans (if_neg long))

theorem place_eq_ok {path : String} {last : Place} (h : tree.place path = .ok last) :
    (∀ other : FileTree, other.place path =
      other.follow (if Path.isAbsolute path then .beyond else .within []) (Path.parts path)) ∧
    tree.follow (if Path.isAbsolute path then .beyond else .within []) (Path.parts path) =
      .ok last := by
  obtain ⟨fault, refused⟩ | followed := place_cases path
  · rw [refused] at h
    cases h
  · exact ⟨followed, followed tree ▸ h⟩

theorem place_join {dir name : String} (simple : Path.Simple name) {last : Place}
    (h : tree.place (Path.join dir name) = .ok last) :
    ∃ names, last = .within (names ++ [name]) := by
  obtain ⟨before, parts⟩ := Path.parts_join dir simple
  obtain ⟨-, followed⟩ := place_eq_ok h
  rw [parts] at followed
  obtain ⟨middle, _, final⟩ := follow_append followed
  rw [follow_cons (directory_of_follow final)] at final
  obtain ⟨place, step, rest⟩ := bind_eq_ok final
  cases rest
  exact next_simple simple step

def withFile (tree : FileTree) (names : List String) (text : String) : FileTree :=
  ⟨tree.nodes.put names (.file text.toUTF8)⟩

/-- Whether a file may be put at a place: there is no directory. -/
def Writable (tree : FileTree) (names : List String) : Prop :=
  tree.node? (.within names) ≠ some .directory

theorem Writable.ne_nil {names : List String} (h : tree.Writable names) : names ≠ [] := by
  rintro rfl
  exact h rfl

theorem node?_withFile {names : List String} (text : String) {place : Place}
    (other : place ≠ .within names) :
    (tree.withFile names text).node? place = tree.node? place := by
  cases place with
  | beyond => rfl
  | within own =>
    cases own with
    | nil => rfl
    | cons first rest =>
      exact OrderedMap.get?_put_of_ne _ _ fun same => other (congrArg Place.within same)

theorem node?_withFile_self {names : List String} (writable : tree.Writable names)
    (text : String) :
    (tree.withFile names text).node? (.within names) = some (.file text.toUTF8) := by
  cases names with
  | nil => exact absurd rfl writable.ne_nil
  | cons first rest => exact OrderedMap.get?_put_self _ _ _

/-- A way through directories is not changed by a file. -/
theorem follow_withFile {names : List String} (writable : tree.Writable names) (text : String)
    {place last : Place} {parts : List String} (h : tree.follow place parts = .ok last) :
    (tree.withFile names text).follow place parts = .ok last := by
  induction parts generalizing place with
  | nil => exact h
  | cons part rest ih =>
    have directory := directory_of_follow h
    have other : place ≠ .within names := by
      rintro rfl
      exact writable directory
    rw [follow_cons directory] at h
    obtain ⟨place', step, h⟩ := bind_eq_ok h
    rw [follow_cons ((node?_withFile text other).trans directory), bind_of_ok step]
    exact ih h

theorem place_withFile {names : List String} (writable : tree.Writable names) (text : String)
    {path : String} {last : Place} (h : tree.place path = .ok last) :
    (tree.withFile names text).place path = .ok last := by
  obtain ⟨follows, followed⟩ := place_eq_ok h
  rw [follows]
  exact follow_withFile writable text followed

theorem write_eq_ok {path text : String} (h : tree.write path text = .ok after) :
    ∃ names, tree.place path = .ok (.within names) ∧ tree.Writable names ∧
      after = tree.withFile names text := by
  obtain ⟨place, found, h⟩ := bind_eq_ok h
  split at h
  · cases h
  · rename_i names open'
    split at h
    · cases h
    · rename_i trimmed
      cases h
      rw [not_not.mp trimmed] at found
      exact ⟨names, found, open', rfl⟩
  · cases h

theorem read_of_node {path text : String} {place : Place} (found : tree.place path = .ok place)
    (node : tree.node? place = some (.file text.toUTF8)) : tree.read path = .ok text := by
  have decoded : String.fromUTF8? text.toUTF8 = some text := by
    rw [String.fromUTF8?]
    exact dif_pos text.isValidUTF8
  have there : tree.find path = .ok (.file text.toUTF8) := by
    rw [find, bind_of_ok found, node]
    rfl
  rw [read, bind_of_ok there]
  dsimp only
  rw [decoded]
  rfl

/-- A file with that text is at the place of a path. -/
def Holds (tree : FileTree) (path text : String) : Prop :=
  ∃ place, tree.place path = .ok place ∧ tree.node? place = some (.file text.toUTF8)

theorem Holds.read {path text : String} (h : tree.Holds path text) : tree.read path = .ok text := by
  obtain ⟨place, found, node⟩ := h
  exact read_of_node found node

theorem holds_written {path text : String} (h : tree.write path text = .ok after) :
    after.Holds path text := by
  obtain ⟨names, found, writable, rfl⟩ := write_eq_ok h
  exact ⟨_, place_withFile writable text found, node?_withFile_self writable text⟩

section Directory

variable {dir name other text : String}

/-- A file stays as it is when one of another name is written into its directory. -/
theorem Holds.kept (h : tree.Holds (Path.join dir name) text) {more : String}
    (step : tree.write (Path.join dir other) more = .ok after) (simple : Path.Simple name)
    (simple' : Path.Simple other) (apart : name ≠ other) :
    after.Holds (Path.join dir name) text := by
  obtain ⟨place, found, node⟩ := h
  obtain ⟨names, found', writable, rfl⟩ := write_eq_ok step
  obtain ⟨own, rfl⟩ := place_join simple found
  obtain ⟨theirs, same⟩ := place_join simple' found'
  refine ⟨_, place_withFile writable more found, ?_⟩
  rw [node?_withFile more, node]
  intro e
  have ends : own ++ [name] = theirs ++ [other] := Place.within.inj (e.trans same)
  exact apart (List.singleton_inj.mp (List.append_inj' ends rfl).2)

end Directory

end FileTree

namespace Emit

open FileTree

variable {dir : String} {tree after : FileTree} {batch : List GeneratedFile}

/-- The tree with the files written into a directory. -/
def writeAll (dir : String) (tree : FileTree) (batch : List GeneratedFile) :
    Except FileFault FileTree :=
  batch.foldlM (fun tree file => tree.write (Path.join dir file.path) file.text) tree

theorem holds_of_absent {name text : String} (h : tree.Holds (Path.join dir name) text)
    (simple : Path.Simple name) (all : ∀ file ∈ batch, Path.Simple file.path)
    (absent : ∀ file ∈ batch, file.path ≠ name) (run : writeAll dir tree batch = .ok after) :
    after.Holds (Path.join dir name) text := by
  induction batch generalizing tree with
  | nil =>
    cases run
    exact h
  | cons file rest ih =>
    obtain ⟨first, others⟩ := List.forall_mem_cons.mp all
    obtain ⟨other, absent⟩ := List.forall_mem_cons.mp absent
    rw [writeAll, List.foldlM_cons] at run
    obtain ⟨next, step, run⟩ := bind_eq_ok run
    exact ih (h.kept step simple first other.symm) others absent run

/-- The files are all there exactly if those of one path have one text. -/
theorem writeAll_reads_iff (all : ∀ file ∈ batch, Path.Simple file.path)
    (run : writeAll dir tree batch = .ok after) :
    (∀ file ∈ batch, after.read (Path.join dir file.path) = .ok file.text) ↔
      ∀ f ∈ batch, ∀ g ∈ batch, f.path = g.path → f.text = g.text := by
  constructor
  · intro reads f hf g hg same
    have twice := reads f hf
    rw [same, reads g hg] at twice
    exact (Except.ok.inj twice).symm
  · intro agree
    suffices holds : ∀ file ∈ batch, after.Holds (Path.join dir file.path) file.text from
      fun file member => (holds file member).read
    induction batch generalizing tree with
    | nil => simp
    | cons file rest ih =>
      obtain ⟨first, others⟩ := List.forall_mem_cons.mp all
      rw [writeAll, List.foldlM_cons] at run
      obtain ⟨next, step, run⟩ := bind_eq_ok run
      have later := ih others run fun f hf g hg =>
        agree f (List.mem_cons_of_mem _ hf) g (List.mem_cons_of_mem _ hg)
      refine List.forall_mem_cons.mpr ⟨?_, later⟩
      -- the file itself is there, or a later one of its path and text
      by_cases again : ∃ g ∈ rest, g.path = file.path
      · obtain ⟨g, member, same⟩ := again
        rw [← same, ← agree g (List.mem_cons_of_mem _ member) file List.mem_cons_self same]
        exact later g member
      · exact holds_of_absent (holds_written step) first others
          (fun g member same => again ⟨g, member, same⟩) run

/-! The writing of a project, step by step. -/

theorem bind_run_eq_ok {α β : Type} {x : Attempt (StateM FileTree) α}
    {f : α → Attempt (StateM FileTree) β} {b : β}
    (h : (x >>= f).run.run tree = (.ok b, after)) :
    ∃ a middle, x.run.run tree = (.ok a, middle) ∧ (f a).run.run middle = (.ok b, after) := by
  have run : (x >>= f).run.run tree = match x.run.run tree with
      | (.ok a, middle) => (f a).run.run middle
      | (.error e, middle) => (.error e, middle) := by
    simp only [ExceptT.run, StateT.run, bind, ExceptT.bind, ExceptT.mk, StateT.bind,
      ExceptT.bindCont]
    cases x tree with
    | mk result middle => cases result <;> rfl
  rw [run] at h
  split at h
  · rename_i a middle ran
    exact ⟨a, middle, ran, h⟩
  · cases h

theorem ofFile_run_eq_ok {α : Type} {during : Option String}
    {step : StateM FileTree (Except FileFault α)} {a : α}
    (h : (Attempt.ofFile during step).run.run tree = (.ok a, after)) :
    step.run tree = (.ok a, after) := by
  change ((step.run tree).1.mapError _, (step.run tree).2) = _ at h
  obtain ⟨result, state⟩ := Prod.mk.inj h
  exact Prod.ext (mapError_eq_ok.mp result) state

theorem attempt_run_eq_ok {change' : FileTree → Except FileFault FileTree} {u : Unit}
    (h : (attempt change').run tree = (.ok u, after)) : change' tree = .ok after := by
  rw [attempt, StateT.run_modifyGet] at h
  cases changed : change' tree with
  | ok next =>
    rw [changed] at h
    cases h
    rfl
  | error fault =>
    rw [changed] at h
    cases h

theorem writeFile_eq_ok {file : GeneratedFile} {path : String}
    (run : (writeFile fileSystem dir file).run.run tree = (.ok path, after)) :
    tree.write (Path.join dir file.path) file.text = .ok after := by
  have write : fileSystem.write (Path.join dir file.path) file.text =
    attempt fun tree => tree.write (Path.join dir file.path) file.text := rfl
  obtain ⟨_, middle, wrote, rest⟩ := bind_run_eq_ok run
  cases rest
  have attempted := ofFile_run_eq_ok wrote
  rw [write] at attempted
  have changed := attempt_run_eq_ok attempted
  exact changed

theorem mapM_writeFile {paths : List String}
    (run : (batch.mapM (writeFile fileSystem dir)).run.run tree = (.ok paths, after)) :
    writeAll dir tree batch = .ok after := by
  induction batch generalizing tree paths with
  | nil =>
    rw [List.mapM_nil] at run
    cases run
    rfl
  | cons file rest ih =>
    rw [List.mapM_cons] at run
    obtain ⟨path, middle, first, run⟩ := bind_run_eq_ok run
    obtain ⟨others, last, later, run⟩ := bind_run_eq_ok run
    cases run
    rw [writeAll, List.foldlM_cons, bind_of_ok (writeFile_eq_ok first)]
    exact ih later

theorem simple_path {project : Project} : ∀ file ∈ files project, Path.Simple file.path := by
  have named : ∀ name : String, '/' ∉ name.toList → Path.Simple (name ++ ".rs") := by
    intro name noSlash
    have ends : (name ++ ".rs").toList.getLast? = some 's' := by
      rw [String.toList_append]
      simp
    refine ⟨?_, ?_, ?_, ?_⟩
    · rw [String.toList_append, List.mem_append, not_or]
      exact ⟨noSlash, by decide⟩
    all_goals
      intro same
      rw [same] at ends
      revert ends
      decide
  refine List.forall_mem_append.mpr ⟨fun file member => ?_, ?_⟩
  · obtain ⟨entry, _, rfl⟩ := List.mem_map.mp member
    exact named _ (Naming.not_mem_snakeCase entry.1 (by decide))
  · refine List.forall_mem_cons.mpr ⟨named migrationsModule (by decide), ?_⟩
    exact List.forall_mem_singleton.mpr (named "mod" (by decide))

theorem writeProject_reads_iff {project : Project} {settings : Settings} {out : Option String}
    {paths : List String}
    (run : (writeProject fileSystem project settings out).run.run tree = (.ok paths, after)) :
    (∀ file ∈ files project, after.read (Path.join
      (Path.join (out.getD settings.outputPath) settings.moduleName) file.path) =
        .ok file.text) ↔
      ∀ f ∈ files project, ∀ g ∈ files project, f.path = g.path → f.text = g.text := by
  obtain ⟨_, made, _, run⟩ := bind_run_eq_ok run
  exact writeAll_reads_iff simple_path (mapM_writeFile run)

/-- Two files of a project have one path only if two namespaces have the same words, or one has
those of the module of the migrations or of the root. The root declares each module once unless two
namespaces have the same words, or one has those of the module of the migrations. What has been
written is all there exactly if files of one path have one text. -/
theorem files_apart_iff (project : Project) :
    (((files project).map GeneratedFile.path).Nodup ↔
      (moduleNames project).Nodup ∧ migrationsModule ∉ moduleNames project ∧
        "mod" ∉ moduleNames project) ∧
    rootText project = Lines.text (["//! Generated by rowgen; do not edit.", ""] ++
      (declaredModules project).map fun name => s!"pub mod {name};") ∧
    ((declaredModules project).Nodup ↔
      (moduleNames project).Nodup ∧ migrationsModule ∉ moduleNames project) ∧
    ∀ (settings : Settings) (out : Option String) (tree after : FileTree) (paths : List String),
      (writeProject fileSystem project settings out).run.run tree = (.ok paths, after) →
      ((∀ file ∈ files project, after.read (Path.join
        (Path.join (out.getD settings.outputPath) settings.moduleName) file.path) =
          .ok file.text) ↔
        ∀ f ∈ files project, ∀ g ∈ files project, f.path = g.path → f.text = g.text) ∧
      (((files project).map GeneratedFile.path).Nodup →
        ∀ file ∈ files project, after.read (Path.join
          (Path.join (out.getD settings.outputPath) settings.moduleName) file.path) =
            .ok file.text) := by
  refine ⟨nodup_paths_iff project, rootText_eq project, nodup_declaredModules_iff project, ?_⟩
  intro settings out tree after paths run
  have reads := writeProject_reads_iff run
  refine ⟨reads, fun distinct => reads.mpr fun f hf g hg same => ?_⟩
  rw [List.inj_on_of_nodup_map distinct hf hg same]

def bareProject (names : List String) : Project :=
  ⟨.empty, names.map fun name => (name, []), .empty, .empty⟩

-- names that differ in case only, and the name of the root
theorem files_apart_examples :
    ((files (bareProject ["default", "foo"])).map GeneratedFile.path).Nodup ∧
    ¬ ((files (bareProject ["Foo", "foo"])).map GeneratedFile.path).Nodup ∧
    ¬ (declaredModules (bareProject ["Foo", "foo"])).Nodup ∧
    ¬ ((files (bareProject ["mod"])).map GeneratedFile.path).Nodup := by
  obtain ⟨apart, -, -, -⟩ := files_apart_iff (bareProject ["default", "foo"])
  obtain ⟨same, -, declared, -⟩ := files_apart_iff (bareProject ["Foo", "foo"])
  obtain ⟨root, -, -, -⟩ := files_apart_iff (bareProject ["mod"])
  rw [apart, same, declared, root]
  decide +kernel

end Emit

end TypedRows
