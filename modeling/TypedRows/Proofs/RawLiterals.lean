import TypedRows.Emit.Migrations
import TypedRows.Proofs.NamespaceStructs

/-! Raw string literals are read back as the text they were written for. The fence has more hashes
than follow any quote of the text, so the literal ends at the quote behind the text and nowhere
before it. -/

namespace TypedRows

namespace RawString

/-- The text up to the first quote that so many hashes follow, and what stands behind them. -/
def body? (hashes : Nat) : List Char → Option (List Char × List Char)
  | [] => none
  | c :: rest =>
    if c = '"' ∧ List.replicate hashes '#' <+: rest then some ([], rest.drop hashes)
    else (body? hashes rest).map fun (text, after) => (c :: text, after)

/-- The text of the raw string literal that a source starts with, and what stands behind it. After
`r`, some hashes and a quote the literal ends at the first quote that is followed by as many hashes.
No carriage return may stand in it. -/
def read? : List Char → Option (List Char × List Char)
  | 'r' :: source =>
    let hashes := (source.takeWhile (· = '#')).length
    match source.drop hashes with
    | '"' :: source => (body? hashes source).filter fun (text, _) => '\r' ∉ text
    | _ => none
  | _ => none

/-- No quote of the text is followed by so many hashes. -/
def Unclosed (hashes : Nat) (text : List Char) : Prop :=
  ∀ rest, '"' :: rest <:+ text → ¬List.replicate hashes '#' <+: rest

theorem unclosed_cons {hashes : Nat} {c : Char} {text : List Char} :
    Unclosed hashes (c :: text) ↔
      ¬(c = '"' ∧ List.replicate hashes '#' <+: text) ∧ Unclosed hashes text := by
  simp only [Unclosed, List.suffix_cons_iff, List.cons.injEq]
  constructor
  · intro h
    refine ⟨fun ⟨quote, run⟩ => h text (.inl ⟨quote.symm, rfl⟩) run, fun rest inside => ?_⟩
    exact h rest (.inr inside)
  · rintro ⟨here, later⟩ rest (⟨rfl, rfl⟩ | inside) run
    · exact here ⟨rfl, run⟩
    · exact later rest inside run

theorem replicate_prefix_iff {n : Nat} {c : Char} {l : List Char} :
    List.replicate n c <+: l ↔ n ≤ (l.takeWhile (· = c)).length := by
  induction n generalizing l with
  | zero => simp
  | succ n ih =>
    cases l with
    | nil => simp [List.replicate_succ]
    | cons first rest =>
      rw [List.replicate_succ, List.cons_prefix_cons, ih]
      by_cases same : first = c
      · simp [same]
      · have other : c ≠ first := fun e => same e.symm
        simp [same, other]

/-- A quote ends every run of hashes, so a run does not go on into the fence. -/
theorem replicate_prefix_append_quote {n : Nat} {text after : List Char} :
    List.replicate n '#' <+: text ++ '"' :: after ↔ List.replicate n '#' <+: text := by
  have same : (text ++ '"' :: after).takeWhile (· = '#') = text.takeWhile (· = '#') := by
    induction text with
    | nil => simp
    | cons c rest ih => by_cases hash : c = '#' <;> simp [hash, ih]
  rw [replicate_prefix_iff, replicate_prefix_iff, same]

/-- The fence is the least positive number of hashes that follow no quote of the text. -/
theorem fence_le_iff {text : List Char} {n : Nat} : fence text ≤ n ↔ 0 < n ∧ Unclosed n text := by
  induction text with
  | nil => simp [fence, Unclosed, Nat.succ_le_iff]
  | cons c rest ih =>
    rw [fence, unclosed_cons]
    by_cases quote : c = '"'
    · rw [if_pos quote, Nat.max_le, ih, replicate_prefix_iff, Nat.succ_le_iff, ← Nat.not_le]
      simp only [quote, true_and]
      tauto
    · simp [quote, ih]

theorem body?_eq_some_iff {hashes : Nat} {source text after : List Char} :
    body? hashes source = some (text, after) ↔
      source = text ++ '"' :: (List.replicate hashes '#' ++ after) ∧ Unclosed hashes text := by
  induction source generalizing text with
  | nil => simp [body?]
  | cons c source ih =>
    rw [body?]
    by_cases ends : c = '"' ∧ List.replicate hashes '#' <+: source
    · rw [if_pos ends]
      obtain ⟨rfl, behind, rfl⟩ := ends
      constructor
      · intro h
        cases h
        exact ⟨by simp, by simp [Unclosed]⟩
      · rintro ⟨split, unclosed⟩
        cases text with
        | nil => simpa using split
        | cons first text =>
          -- the literal would go on over a quote that closes it
          rw [List.cons_append, List.cons.injEq] at split
          obtain ⟨rfl, split⟩ := split
          have run : List.replicate hashes '#' <+: List.replicate hashes '#' ++ behind :=
            List.prefix_append _ _
          rw [split, replicate_prefix_append_quote] at run
          exact absurd ⟨rfl, run⟩ (unclosed_cons.mp unclosed).1
    · rw [if_neg ends]
      cases text with
      | nil =>
        have impossible : ¬(c :: source = '"' :: (List.replicate hashes '#' ++ after)) := by
          intro split
          obtain ⟨rfl, rfl⟩ := List.cons.inj split
          exact ends ⟨rfl, List.prefix_append _ _⟩
        simp [impossible]
      | cons first text =>
        have goes : (body? hashes source).map (fun (text, after) => (c :: text, after)) =
            some (first :: text, after) ↔
              c = first ∧ body? hashes source = some (text, after) := by
          cases body? hashes source with
          | none => simp
          | some found => simp [Prod.ext_iff, and_assoc]
        rw [goes, ih, unclosed_cons, List.cons_append, List.cons.injEq]
        constructor
        · rintro ⟨rfl, rfl, unclosed⟩
          refine ⟨⟨rfl, rfl⟩, fun ⟨quote, run⟩ => ends ⟨quote, ?_⟩, unclosed⟩
          exact replicate_prefix_append_quote.mpr run
        · rintro ⟨⟨rfl, rfl⟩, _, unclosed⟩
          exact ⟨rfl, rfl, unclosed⟩

/-- What is read is what the rule for literals says: the source has two fences of one length with
the text between them, which no part of the text closes. -/
theorem read?_eq_some_iff {source text after : List Char} :
    read? source = some (text, after) ↔
      ∃ hashes, source = 'r' :: (List.replicate hashes '#' ++
          '"' :: (text ++ '"' :: (List.replicate hashes '#' ++ after))) ∧
        Unclosed hashes text ∧ '\r' ∉ text := by
  constructor
  · intro h
    unfold read? at h
    split at h
    · rename_i source
      dsimp only at h
      split at h
      · rename_i body behind
        obtain ⟨read, plain⟩ := Option.filter_eq_some_iff.mp h
        obtain ⟨rfl, unclosed⟩ := body?_eq_some_iff.mp read
        refine ⟨_, ?_, unclosed, by simpa using plain⟩
        have run : List.replicate (source.takeWhile (· = '#')).length '#' <+: source :=
          replicate_prefix_iff.mpr (Nat.le_refl _)
        have whole := List.prefix_iff_eq_append.mp run
        rw [List.length_replicate, behind] at whole
        rw [whole]
      · cases h
    · cases h
  · rintro ⟨hashes, rfl, unclosed, plain⟩
    have run : (List.replicate hashes '#' ++ '"' :: (text ++ '"' ::
        (List.replicate hashes '#' ++ after))).takeWhile (· = '#') =
          List.replicate hashes '#' := by
      simp [List.takeWhile_append_of_pos]
    have read : body? hashes (text ++ '"' :: (List.replicate hashes '#' ++ after)) =
        some (text, after) := body?_eq_some_iff.mpr ⟨rfl, unclosed⟩
    simp [read?, run, read, plain]

theorem read?_encode_iff (text : String) (after : List Char) :
    read? ((encode text).toList ++ after) = some (text.toList, after) ↔ '\r' ∉ text.toList := by
  rw [read?_eq_some_iff]
  constructor
  · rintro ⟨_, _, _, plain⟩
    exact plain
  · intro plain
    refine ⟨fence text.toList, by simp [encode], ?_, plain⟩
    exact (fence_le_iff.mp (Nat.le_refl _)).2

end RawString

namespace Emit

open RawString

theorem Lines.text_append (lines others : Lines) :
    Lines.text (lines ++ others) = Lines.text lines ++ Lines.text others := by
  simp [Lines.text]

/-- Lines that stand together among others have their text in one piece. -/
theorem Lines.exists_text_of_infix {part lines : Lines} (inside : part <:+: lines) :
    ∃ before after, Lines.text lines = before ++ Lines.text part ++ after := by
  obtain ⟨earlier, later, rfl⟩ := inside
  exact ⟨Lines.text earlier, Lines.text later, by simp only [Lines.text_append]⟩

theorem constants_ofStatement (statement : TypedStatement) (taken : List String) :
    (StatementPart.ofStatement statement taken).constants = constantsOf statement := by
  rw [StatementPart.ofStatement]
  dsimp only
  split
  · rfl
  · split <;> rfl

/-- Whatever names are taken, each statement has its constants in the module. -/
theorem exists_part_of_mem (taken : List String) {statements : List TypedStatement}
    {statement : TypedStatement} (member : statement ∈ statements) :
    ∃ part ∈ statementParts taken statements, part.constants = constantsOf statement := by
  induction statements generalizing taken with
  | nil => cases member
  | cons first rest ih =>
    rw [statementParts]
    cases member with
    | head => exact ⟨_, List.mem_cons_self, constants_ofStatement statement taken⟩
    | tail _ later =>
      obtain ⟨part, inside, own⟩ := ih _ later
      exact ⟨part, List.mem_cons_of_mem _ inside, own⟩

theorem constant_mem_namespaceDecls (name : String) {statements : List TypedStatement}
    (results : SharedResults) {statement : TypedStatement} (member : statement ∈ statements)
    {constant : Constant} (own : constant ∈ constantsOf statement) :
    Decl.constant constant ∈ namespaceDecls name statements results := by
  obtain ⟨part, inside, constants⟩ := exists_part_of_mem
    (sharedParts results [] (results.inNamespace name)).2 member
  rw [namespaceDecls]
  refine List.mem_append_right _ (List.mem_flatMap.mpr ⟨part, inside, ?_⟩)
  simp [StatementPart.decls, constants, own]

/-- The literal of a constant stands between its type and a semicolon. -/
theorem exists_value_of_mem (name : String) {statements : List TypedStatement}
    (results : SharedResults) {statement : TypedStatement} (member : statement ∈ statements)
    {constant : Constant} (own : constant ∈ constantsOf statement) :
    ∃ before after, namespaceText name statements results =
      before ++ ("pub const " ++ constant.name ++ ": " ++ constant.type ++ " = ") ++
        constant.value ++ ";" ++ after := by
  have declared := constant_mem_namespaceDecls name results member own
  have inside : constant.lines <:+: heading name ++
      (namespaceDecls name statements results).flatMap Decl.lines := by
    have lines : constant.lines ∈ (namespaceDecls name statements results).map Decl.lines :=
      List.mem_map.mpr ⟨_, declared, rfl⟩
    exact (List.infix_of_mem_flatten lines).trans (List.suffix_append _ _).isInfix
  obtain ⟨before, after, text⟩ := Lines.exists_text_of_infix inside
  refine ⟨before ++ "/// " ++ constant.doc ++ "\n", "\n\n" ++ after, ?_⟩
  rw [namespaceText_eq, text, ← String.toList_inj]
  simp [Lines.text, Constant.lines, toString]

theorem exists_statementsLines {set : MigrationSet} {m : Migration} (member : m ∈ set.migrations) :
    ∃ before after, migrationsText set = before ++ Lines.text (statementsLines m) ++ after := by
  have inside : statementsLines m <:+: set.migrations.flatMap statementsLines :=
    List.infix_of_mem_flatten (List.mem_map.mpr ⟨m, member, rfl⟩)
  refine Lines.exists_text_of_infix (inside.trans ?_)
  simp only [List.append_assoc]
  exact (List.infix_append' _ _ _).trans (List.suffix_append _ _).isInfix

/-- A raw string literal is read back as its text, whatever follows it, exactly if no carriage
return stands in the text. So each statement of a module is read back from the constant that holds
it, and the statements of each migration from the list of them, one after the other. -/
theorem read?_literals_iff :
    (∀ text after, read? ((encode text).toList ++ after) = some (text.toList, after) ↔
      '\r' ∉ text.toList) ∧
    (∀ name statements results, ∀ statement ∈ statements, ∃ before source after,
      (namespaceText name statements results).toList =
        before ++ ("pub const " ++ Naming.shoutyCase statement.name ++ "_SQL: &str = ").toList ++
          source ∧
      (read? source = some (statement.sql.toList, ';' :: after) ↔
        '\r' ∉ statement.sql.toList)) ∧
    ∀ set : MigrationSet, ∀ m ∈ set.migrations, ∃ before literals after,
      migrationsText set = before ++
        Lines.text (s!"const MIGRATION_{paddedVersion m.version}: &[&str] = &[" ::
          Lines.indent literals ++ ["];", ""]) ++ after ∧
      List.Forall₂ (fun text literal => read? literal.toList = some (text.toList, [',']) ↔
        '\r' ∉ text.toList) m.statements literals := by
  refine ⟨read?_encode_iff, fun name statements results statement member => ?_,
    fun set m member => ?_⟩
  · obtain ⟨before, after, text⟩ := exists_value_of_mem name results member
      (List.mem_cons_self : _ ∈ constantsOf statement)
    refine ⟨before.toList, (encode statement.sql).toList ++ ';' :: after.toList, after.toList, ?_,
      read?_encode_iff statement.sql (';' :: after.toList)⟩
    rw [text]
    simp [List.append_assoc]
  · obtain ⟨before, after, text⟩ := exists_statementsLines member
    refine ⟨before, m.statements.map fun s => encode s ++ ",", after, text, ?_⟩
    rw [List.forall₂_map_right_iff]
    refine List.forall₂_same.mpr fun s _ => ?_
    rw [String.toList_append]
    exact read?_encode_iff s [',']

/-- A text with a run of hashes behind each of its quotes. -/
def hashed : String := "SELECT '\"##' AS \"#\""

example : encode hashed = "r###\"SELECT '\"##' AS \"#\"\"###" := by decide +kernel

def hashedStatement : TypedStatement :=
  ⟨"q", "n", "q.sql", hashed, .select, .initial, [], [], [], .empty, [], none⟩

def hashedSet : MigrationSet :=
  ⟨[⟨7, none, "0007.sql", "0007.sql", "", ["PRAGMA a = '\"'", hashed], ""⟩]⟩

theorem read?_literals_hashed : '\r' ∉ hashed.toList ∧ hashedStatement ∈ [hashedStatement] ∧
    (∃ before source after, (namespaceText "n" [hashedStatement] ⟨.empty, .empty⟩).toList =
        before ++ ("pub const " ++ Naming.shoutyCase "q" ++ "_SQL: &str = ").toList ++ source ∧
      read? source = some (hashed.toList, ';' :: after)) ∧
    ∃ before literals after, migrationsText hashedSet = before ++
        Lines.text (s!"const MIGRATION_{paddedVersion 7}: &[&str] = &[" ::
          Lines.indent literals ++ ["];", ""]) ++ after ∧
      List.Forall₂ (fun text literal => read? literal.toList = some (text.toList, [',']))
        ["PRAGMA a = '\"'", hashed] literals := by
  have plain : '\r' ∉ hashed.toList := by decide +kernel
  obtain ⟨_, inModule, inMigrations⟩ := read?_literals_iff
  obtain ⟨before, source, after, text, read⟩ :=
    inModule "n" [hashedStatement] ⟨.empty, .empty⟩ hashedStatement List.mem_cons_self
  refine ⟨plain, List.mem_cons_self, ⟨before, source, after, text, read.mpr plain⟩, ?_⟩
  obtain ⟨before, literals, after, text, read⟩ :=
    inMigrations hashedSet _ List.mem_cons_self
  refine ⟨before, literals, after, text, ?_⟩
  obtain _ | ⟨first, _ | ⟨second, _ | _⟩⟩ := read
  exact .cons (first.mpr (by decide +kernel)) (.cons (second.mpr plain) .nil)

end Emit

end TypedRows
