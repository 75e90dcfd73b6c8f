import TypedRows.Proofs.LimitParameters

/-! What a reference name of the outermost `FROM` clause stands for when the parameters of a
statement are inferred. All reference names are gathered in one map, where those of the common table
expressions and of derived tables that stand before come first, and may take its place. -/

namespace TypedRows

open Sql

def Sql.Factor.innerPairs : Factor → List (String × String)
  | .derived _ query _ => query.aliasPairs
  | _ => []

/-- The reference name of a factor, and then those inside it. -/
def Sql.Factor.allPairs (factor : Factor) : List (String × String) :=
  factor.pair?.toList ++ factor.innerPairs

mutual

theorem Sql.Factor.aliasPairs_flat (factor : Factor) :
    factor.aliasPairs = factor.flat.flatMap Factor.allPairs := by
  cases factor with
  | table name _ aliased _ => cases aliased <;> rfl
  | derived _ query aliased =>
    cases aliased with
    | none => exact (List.append_nil _).symm
    | some a =>
      rw [Factor.aliasPairs, Factor.flat, List.flatMap_singleton]
      rfl
  | nested first joins _ =>
    rw [Factor.aliasPairs, Factor.flat, List.flatMap_append, first.aliasPairs_flat,
      aliasPairsOfEntries_flat joins]
  | call => rfl
  | tableOf => rfl
  | pivot => rfl
  | phrase => rfl

/-- The reference names of entries in the order of the factors that they are made of. -/
theorem aliasPairsOfEntries_flat (entries : List Entry) :
    aliasPairsOfEntries entries = (flatOfEntries entries).flatMap Factor.allPairs := by
  cases entries with
  | nil => rfl
  | cons entry rest =>
    obtain ⟨_, _, factor, _, _⟩ := entry
    rw [aliasPairsOfEntries, flatOfEntries, List.flatMap_append, factor.aliasPairs_flat,
      aliasPairsOfEntries_flat rest]

end

/-- The first pair under a reference name, whatever its letter case. -/
def pairNamed? (pairs : List (String × String)) (reference : String) : Option (String × String) :=
  pairs.find? fun pair => Text.sameName pair.1 reference

theorem pairNamed?_append (xs ys : List (String × String)) (reference : String) :
    pairNamed? (xs ++ ys) reference = (pairNamed? xs reference).or (pairNamed? ys reference) :=
  List.find?_append

theorem pairNamed?_congr {reference name : String} (same : Text.sameName name reference = true)
    (pairs : List (String × String)) : pairNamed? pairs name = pairNamed? pairs reference := by
  rw [pairNamed?, pairNamed?]
  simp only [Text.sameName, Text.sameName_iff.mp same]

/-- Under the name of none of the factors, a pair is found inside of them only. -/
theorem pairNamed?_allPairs {factors : List Factor} {reference : String}
    (other : ∀ factor ∈ factors, ∀ pair ∈ factor.pair?, Text.sameName pair.1 reference = false) :
    pairNamed? (factors.flatMap Factor.allPairs) reference =
      pairNamed? (factors.flatMap Factor.innerPairs) reference := by
  induction factors with
  | nil => rfl
  | cons factor rest ih =>
    obtain ⟨first, others⟩ := List.forall_mem_cons.mp other
    have own : pairNamed? factor.pair?.toList reference = none := by
      refine List.find?_eq_none.mpr fun pair member => ?_
      rw [first pair (Option.mem_toList.mp member)]
      exact Bool.false_ne_true
    rw [List.flatMap_cons, List.flatMap_cons, Factor.allPairs, pairNamed?_append,
      pairNamed?_append, pairNamed?_append, own, Option.none_or, ih others]

theorem Sql.Query.pairNamed?_aliases (query : Query) (reference : String) :
    pairNamed? query.aliases.entries reference = pairNamed? query.aliasPairs reference := by
  have found := OrderedMap.find?_putAllNew OrderedMap.empty query.aliasPairs
    fun key => Text.sameName key reference
  exact found.trans Option.none_or

/-- What comes before the own reference name of a factor in the outermost `FROM` clause, `before`
being the factors in front of it. -/
def Sql.Query.shadowing (query : Query) (before : List Factor) : List (String × String) :=
  aliasPairsOfCtes query.ctes ++ before.flatMap Factor.innerPairs

theorem Sql.Query.pairNamed?_own {query : Query} {select : Select} {before after : List Factor}
    {factor : Factor} {reference name : String} (core : query.body = .select select)
    (split : flatOfEntries select.sources = before ++ factor :: after)
    (named : factor.read? = some (reference, name))
    (first : ∀ other ∈ before, ∀ pair ∈ other.pair?, Text.sameName pair.1 reference = false) :
    (pairNamed? query.aliases.entries reference).map Prod.snd =
      some (((pairNamed? (query.shadowing before) reference).map Prod.snd).getD name) := by
  have own : pairNamed? (factor.allPairs ++ after.flatMap Factor.allPairs) reference =
      some (reference, name) := by
    rw [Factor.allPairs, Factor.pair?_of_read? named]
    exact List.find?_cons_of_pos (Text.sameName_refl reference)
  have pairs : query.aliasPairs = aliasPairsOfCtes query.ctes ++
      (before.flatMap Factor.allPairs ++ (factor.allPairs ++ after.flatMap Factor.allPairs)) := by
    obtain ⟨_, ctes, _, _, _, _, _⟩ := query
    cases core
    obtain ⟨_, _, _, sources, _, _, _, _, _, _, _⟩ := select
    rw [Query.aliasPairs, Body.aliasPairs, Select.aliasPairs, aliasPairsOfEntries_flat, split,
      List.flatMap_append, List.flatMap_cons]
  rw [query.pairNamed?_aliases, pairs, pairNamed?_append, pairNamed?_append, own,
    pairNamed?_allPairs first, ← Option.or_assoc, ← pairNamed?_append]
  change ((pairNamed? (query.shadowing before) reference).or _).map Prod.snd = _
  cases pairNamed? (query.shadowing before) reference <;> rfl

namespace Parameter

/-- A parameter that is compared with a column of a table or view: it is told by that column and
the annotations in force for it, if there is such a column. -/
def TakenFrom (context : Context) (object column name : String) (parameter : Parameter) : Prop :=
  match context.catalog.column? object column with
  | none => parameter = .unknown name
  | some found => ∃ overrides, context.inheritance.overrides? object column = .ok overrides ∧
      parameter = {
        name
        propertyName := Naming.snakeCase name
        propertyType := (overrides.bind FieldOverrides.propertyType).getD
          (context.types.rustType
            ((overrides.bind FieldOverrides.sqlTypeHint).or found.sqlType))
        sqlType := (overrides.bind FieldOverrides.sqlTypeHint).or found.sqlType
        notNull := true
        adapter := (overrides.map FieldOverrides.adapter).getD false
        column := some ⟨object, found.name⟩ }

variable {context : Context} {names : Names} {name object column : String} {parameter : Parameter}

theorem takenFrom_of_ofColumn {reference : String}
    (stands : (pairNamed? names.aliases.entries reference).map Prod.snd = some object)
    (read : ofColumn context names name ⟨some reference, column⟩ false = .ok parameter) :
    TakenFrom context object column name parameter := by
  have met : met? names context.catalog ⟨some reference, column⟩ =
      (context.catalog.column? object column).map fun found => (object, found) := by
    have owner : names.object? context.catalog ⟨some reference, column⟩ = some object := stands
    rw [met?, owner, Option.bind_some]
  rw [ofColumn_eq, met] at read
  rw [TakenFrom]
  cases known : context.catalog.column? object column with
  | none =>
    rw [known] at read
    cases read
    rfl
  | some found =>
    rw [known] at read
    obtain ⟨overrides, inForce, read⟩ := bind_eq_ok read
    cases read
    exact ⟨overrides, inForce, rfl⟩

end Parameter

namespace TypedStatement

variable {context : Context} {place : Place} {item : ScriptItem} {statement : TypedStatement}
  {query : Query}

theorem aliases_of_select (selected : item.statement = .select query)
    (analysed : analyse context place item = .ok statement) :
    statement.aliases = query.aliases := by
  obtain ⟨shape, shaped, same, _⟩ := exists_shape analysed
  rw [selected] at shaped
  obtain ⟨columns, _, shaped⟩ := bind_eq_ok shaped
  cases shaped
  exact same

/-- A reference name stands for the table or view that is the first to be read under it in the
outermost `FROM` clause, unless a common table expression or a derived table in front uses the name
for another one. A parameter that is compared with a column under that name is told by the column of
what the name stands for. -/
theorem analyse_references {select : Select} {before after : List Factor} {factor : Factor}
    {reference object : String} (selected : item.statement = .select query)
    (core : query.body = .select select)
    (split : flatOfEntries select.sources = before ++ factor :: after)
    (named : factor.read? = some (reference, object))
    (first : ∀ other ∈ before, ∀ pair ∈ other.pair?, Text.sameName pair.1 reference = false)
    (analysed : analyse context place item = .ok statement) :
    ∃ owner, (pairNamed? statement.aliases.entries reference).map Prod.snd = some owner ∧
      (owner = object ↔ ∀ pair ∈ pairNamed? (query.shadowing before) reference,
        pair.2 = object) ∧
      (∀ pair ∈ pairNamed? (query.shadowing before) reference, owner = pair.2) ∧
      ∀ name ∈ item.parameters, ∀ qualifier column,
        item.statement.hints.get? name = some (.column ⟨some qualifier, column⟩ false) →
        Text.sameName qualifier reference = true →
        ∃ parameter, Parameter.TakenFrom context owner column name parameter ∧
          statement.parameter? name = some (match item.statement.casts.get? name with
            | some type => parameter.castTo context type
            | none => parameter) := by
  have stands := Query.pairNamed?_own core split named first
  rw [← aliases_of_select selected analysed] at stands
  refine ⟨_, stands, ?_, ?_, ?_⟩
  · cases pairNamed? (query.shadowing before) reference with
    | none => simp
    | some pair => simp
  · cases pairNamed? (query.shadowing before) reference with
    | none => simp
    | some pair => simp
  · intro name member qualifier column hint same
    obtain ⟨inferred, read, found⟩ := exists_inferred analysed member
    obtain ⟨parameter, met, read⟩ := bind_eq_ok read
    rw [hint] at met
    rw [← pairNamed?_congr same] at stands
    refine ⟨parameter, Parameter.takenFrom_of_ofColumn stands met, ?_⟩
    rw [found]
    cases cast : item.statement.casts.get? name with
    | none =>
      rw [cast] at read
      cases read
      rfl
    | some type =>
      rw [cast] at read
      cases read
      rfl

/-- `WITH c AS (SELECT * FROM b AS r) SELECT * FROM a AS r WHERE r.x = :p` -/
def reusedReference : Query :=
  let compared : Expr := .binary .equal (.column [⟨"r", none⟩, ⟨"x", none⟩])
    (.literal (.placeholder ":p"))
  { Query.allOf [Query.tableAs "a" "r"] (some compared) with
    ctes := [⟨⟨"c", none⟩, [], Query.allOf [Query.tableAs "b" "r"] none, none⟩] }

def reusingItem : ScriptItem := ⟨"", .select reusedReference, [], [], ["p"]⟩

def reusedSchema : List ScriptItem :=
  [⟨"", .createTable ⟨"a", [⟨"x", some "INTEGER", true, false, none⟩], false⟩, [], [], []⟩,
    ⟨"", .createTable ⟨"b", [⟨"x", some "TEXT", true, false, none⟩], false⟩, [], [], []⟩]

/-- The parameter that is compared with `a.x` is told by `b.x`. -/
theorem analyse_references_reused : ∃ catalog statement,
    Catalog.ofScript reusedSchema = .ok catalog ∧
    analyse (.ofCatalog catalog .initial) ⟨"q", "n", ""⟩ reusingItem = .ok statement ∧
    (pairNamed? statement.aliases.entries "r").map Prod.snd = some "b" ∧
    ∃ parameter, Parameter.TakenFrom (.ofCatalog catalog .initial) "b" "x" "p" parameter ∧
      statement.parameter? "p" = some parameter := by
  obtain ⟨catalog, statement, read, analysed⟩ :=
    exists_analysed reusedSchema reusingItem (by decide +kernel)
  have selected : reusingItem.statement = .select reusedReference := rfl
  have split : flatOfEntries [Query.tableAs "a" "r"] = [] ++ (Query.tableAs "a" "r").factor :: [] :=
    rfl
  have named : (Query.tableAs "a" "r").factor.read? = some ("r", "a") := rfl
  obtain ⟨owner, stands, _, shadowed, compared⟩ :=
    analyse_references selected rfl split named nofun analysed
  obtain rfl : owner = "b" := shadowed ("r", "b") (by decide +kernel)
  obtain ⟨parameter, taken, found⟩ :=
    compared "p" List.mem_cons_self "r" "x" (by decide +kernel) (Text.sameName_refl "r")
  exact ⟨catalog, statement, read, analysed, stands, parameter, taken, found⟩

end TypedStatement

end TypedRows
