import TypedRows.Proofs.MapLookup
import TypedRows.Proofs.QueryReads
import TypedRows.Proofs.ViewResolution

/-! The queries inside a query. Its levels are reached through common table expressions, compound
members and `FROM` clauses; the queries within its expressions are met by its visits. The aliases
are those of the levels, and the references are read at both. -/

namespace TypedRows

open Sql

namespace Sql

mutual

/-- The factors that an entry is made of, without the parentheses around joins. -/
def Factor.flat : Factor → List Factor
  | .nested first joins _ => first.flat ++ flatOfEntries joins
  | .table name ordinality aliased hints => [.table name ordinality aliased hints]
  | .call lateral name arguments ordinality aliased hints =>
    [.call lateral name arguments ordinality aliased hints]
  | .derived lateral query aliased => [.derived lateral query aliased]
  | .tableOf e aliased => [.tableOf e aliased]
  | .pivot factor pieces => [.pivot factor pieces]
  | .phrase pieces => [.phrase pieces]

def flatOfEntries : List Entry → List Factor
  | [] => []
  | ⟨_, _, factor, _, _⟩ :: rest => factor.flat ++ flatOfEntries rest

end

/-- The factors in the `FROM` clauses of a body, those of inner queries left out. -/
def Body.factors : Body → List Factor
  | .select core => flatOfEntries core.sources
  | .compound _ _ left right => left.factors ++ right.factors
  | .query _ | .values _ _ | .table _ | .insert _ | .update _ | .store _ _ => []

/-- The reference name of a factor that names what it reads, with that name. -/
def Factor.read? : Factor → Option (String × String)
  | .table name _ (some a) _ => some (a.name.text, name.base)
  | .table name _ none _ => some (name.base, name.base)
  | .call .. | .derived .. | .nested .. | .tableOf .. | .pivot .. | .phrase _ => none

/-- The reference name of a factor with what it stands for; a derived table stands for itself. -/
def Factor.pair? : Factor → Option (String × String)
  | .derived _ _ (some a) => some (a.name.text, a.name.text)
  | factor => factor.read?

/-- The tables, views and common table expressions in the `FROM` clauses of a query itself, with
the reference names before them. -/
def Query.reads (query : Query) : List (String × String) :=
  query.body.factors.filterMap Factor.read?

def Query.pairs (query : Query) : List (String × String) :=
  query.body.factors.filterMap Factor.pair?

mutual

/-- A query and the queries in its common table expressions, compound members and `FROM` clauses,
at any depth. -/
def Query.levels : Query → List Query
  | ⟨recursive, ctes, body, order, limit, offset, rest⟩ =>
    ⟨recursive, ctes, body, order, limit, offset, rest⟩ :: (levelsOfCtes ctes ++ body.levels)

def levelsOfCtes : List Cte → List Query
  | [] => []
  | ⟨_, _, query, _⟩ :: rest => query.levels ++ levelsOfCtes rest

def Body.levels : Body → List Query
  | .select select => select.levels
  | .query query => query.levels
  | .compound _ _ left right => left.levels ++ right.levels
  | .values _ _ | .table _ | .insert _ | .update _ | .store _ _ => []

def Select.levels : Select → List Query
  | ⟨_, _, _, sources, _, _, _, _, _, _, _⟩ => levelsOfEntries sources

def levelsOfEntries : List Entry → List Query
  | [] => []
  | ⟨_, _, factor, _, _⟩ :: rest => factor.levels ++ levelsOfEntries rest

def Factor.levels : Factor → List Query
  | .derived _ query _ => query.levels
  | .nested first joins _ => first.levels ++ levelsOfEntries joins
  | .table .. | .call .. | .tableOf .. | .pivot .. | .phrase _ => []

end

/-- The query that an expression is made of. -/
def Expr.query? : Expr → Option Query
  | .inQuery _ _ query | .existsRow _ query | .subquery query | .arrayOf _ query => some query
  | _ => none

/-- The levels of the queries within the expressions that are met. -/
def levelsWithin (visits : List Visit) : List Query :=
  (visits.filterMap fun visit => visit.expr?.bind Expr.query?).flatMap Query.levels

/-- Every query in a query, itself among them. -/
def Query.queries (query : Query) : List Query :=
  query.levels ++ levelsWithin query.visits

theorem Factor.pair?_of_read? {factor : Factor} {read : String × String}
    (h : factor.read? = some read) : factor.pair? = some read := by
  cases factor with
  | derived _ _ aliased => cases aliased <;> cases h
  | table => exact h
  | call => cases h
  | nested => cases h
  | tableOf => cases h
  | pivot => cases h
  | phrase => cases h

theorem Query.reads_subset_pairs (query : Query) : query.reads ⊆ query.pairs := by
  intro read member
  obtain ⟨factor, inside, named⟩ := List.mem_filterMap.mp member
  exact List.mem_filterMap.mpr ⟨factor, inside, Factor.pair?_of_read? named⟩

theorem levelsWithin_append (xs ys : List Visit) :
    levelsWithin (xs ++ ys) = levelsWithin xs ++ levelsWithin ys := by
  rw [levelsWithin, List.filterMap_append, List.flatMap_append]
  rfl

theorem levelsWithin_expr (e : Expr) (visits : List Visit) :
    levelsWithin (.expr e :: visits) =
      e.query?.toList.flatMap Query.levels ++ levelsWithin visits := by
  cases found : e.query? with
  | none => simp [levelsWithin, Visit.expr?, found]
  | some query => simp [levelsWithin, Visit.expr?, found]

end Sql

section Aliases

mutual

/-- The reference names are those of the levels. -/
theorem Sql.Query.mem_aliasPairs (query : Query) (pair : String × String) :
    pair ∈ query.aliasPairs ↔ pair ∈ query.levels.flatMap Query.pairs := by
  obtain ⟨_, ctes, body, _, _, _, _⟩ := query
  rw [Query.aliasPairs, Query.levels, List.mem_append, mem_aliasPairsOfCtes ctes,
    body.mem_aliasPairs, List.flatMap_cons, List.flatMap_append, List.mem_append, List.mem_append]
  exact or_left_comm

theorem mem_aliasPairsOfCtes (ctes : List Cte) (pair : String × String) :
    pair ∈ aliasPairsOfCtes ctes ↔ pair ∈ (levelsOfCtes ctes).flatMap Query.pairs := by
  cases ctes with
  | nil => simp [aliasPairsOfCtes, levelsOfCtes]
  | cons cte rest =>
    obtain ⟨_, _, query, _⟩ := cte
    rw [aliasPairsOfCtes, levelsOfCtes, List.mem_append, query.mem_aliasPairs,
      mem_aliasPairsOfCtes rest, List.flatMap_append, List.mem_append]

theorem Sql.Body.mem_aliasPairs (body : Body) (pair : String × String) :
    pair ∈ body.aliasPairs ↔ pair ∈ body.factors.filterMap Factor.pair? ∨
      pair ∈ body.levels.flatMap Query.pairs := by
  cases body with
  | select select =>
    obtain ⟨_, _, _, sources, _, _, _, _, _, _, _⟩ := select
    rw [Body.aliasPairs, Select.aliasPairs, Body.levels, Select.levels]
    exact mem_aliasPairsOfEntries sources pair
  | query query =>
    rw [Body.aliasPairs, Body.levels, Body.factors, query.mem_aliasPairs]
    simp
  | compound _ _ left right =>
    rw [Body.aliasPairs, Body.levels, Body.factors, List.mem_append, left.mem_aliasPairs,
      right.mem_aliasPairs, List.filterMap_append, List.mem_append, List.flatMap_append,
      List.mem_append]
    exact or_or_or_comm
  | values | table | insert | update | store =>
    simp [Body.aliasPairs, Body.factors, Body.levels]

theorem mem_aliasPairsOfEntries (entries : List Entry) (pair : String × String) :
    pair ∈ aliasPairsOfEntries entries ↔ pair ∈ (flatOfEntries entries).filterMap Factor.pair? ∨
      pair ∈ (levelsOfEntries entries).flatMap Query.pairs := by
  cases entries with
  | nil => simp [aliasPairsOfEntries, flatOfEntries, levelsOfEntries]
  | cons entry rest =>
    obtain ⟨_, _, factor, _, _⟩ := entry
    rw [aliasPairsOfEntries, flatOfEntries, levelsOfEntries, List.mem_append,
      factor.mem_aliasPairs, mem_aliasPairsOfEntries rest, List.filterMap_append, List.mem_append,
      List.flatMap_append, List.mem_append]
    exact or_or_or_comm

theorem Sql.Factor.mem_aliasPairs (factor : Factor) (pair : String × String) :
    pair ∈ factor.aliasPairs ↔ pair ∈ factor.flat.filterMap Factor.pair? ∨
      pair ∈ factor.levels.flatMap Query.pairs := by
  cases factor with
  | table name _ aliased _ =>
    cases aliased <;>
      simp [Factor.aliasPairs, Factor.flat, Factor.levels, Factor.pair?, Factor.read?]
  | derived _ query aliased =>
    cases aliased with
    | none =>
      rw [Factor.aliasPairs, Factor.flat, Factor.levels, query.mem_aliasPairs]
      simp [Factor.pair?, Factor.read?]
    | some a =>
      rw [Factor.aliasPairs, Factor.flat, Factor.levels, List.mem_cons, query.mem_aliasPairs]
      simp [Factor.pair?]
  | nested first joins _ =>
    rw [Factor.aliasPairs, Factor.flat, Factor.levels, List.mem_append, first.mem_aliasPairs,
      mem_aliasPairsOfEntries joins, List.filterMap_append, List.mem_append, List.flatMap_append,
      List.mem_append]
    exact or_or_or_comm
  | call | tableOf | pivot | phrase =>
    simp [Factor.aliasPairs, Factor.flat, Factor.levels, Factor.pair?, Factor.read?]

end

end Aliases

/-- The visits meet just the names that are read outside of queries within expressions, which are
`reads`, and those that are read by the queries within expressions that are met. -/
def Covers (visits : List Visit) (reads : List (String × String)) : Prop :=
  ∀ name, Visit.relation name ∈ visits ↔
    name ∈ reads.map Prod.snd ∨
      name ∈ ((levelsWithin visits).flatMap Query.reads).map Prod.snd

namespace Covers

variable {xs ys visits : List Visit} {reads more : List (String × String)}

theorem nil : Covers [] [] := by simp [Covers, levelsWithin]

theorem relation (reference name : String) : Covers [.relation name] [(reference, name)] := by
  simp [Covers, levelsWithin, Visit.expr?]

theorem append (first : Covers xs reads) (second : Covers ys more) :
    Covers (xs ++ ys) (reads ++ more) := by
  intro name
  rw [List.mem_append, first name, second name, levelsWithin_append, List.flatMap_append,
    List.map_append, List.map_append, List.mem_append, List.mem_append]
  exact or_or_or_comm

theorem congr (h : Covers visits reads) (same : ∀ read, read ∈ more ↔ read ∈ reads) :
    Covers visits more := by
  intro name
  simp only [h name, List.mem_map, same]

/-- What is read by the query that an expression is made of counts as read within it. -/
theorem expr {e : Expr}
    (h : Covers visits ((e.query?.toList.flatMap Query.levels).flatMap Query.reads)) :
    Covers (.expr e :: visits) [] := by
  intro name
  rw [levelsWithin_expr, List.flatMap_append, List.map_append, List.mem_append, ← h name]
  simp

end Covers

mutual

theorem Sql.Expr.covers (e : Expr) : Covers e.visits [] := by
  cases e with
  | column => exact .expr .nil
  | literal => exact .expr .nil
  | phrase => exact .expr .nil
  | nested x | unary _ x | factorial x | is _ _ x | cast _ x _ _ | collate x _ | trim _ _ x =>
    exact .expr x.covers
  | binary _ left right | isDistinct _ left right =>
    exact .expr (left.covers.append right.covers)
  | like op negated any x pattern escape => exact .expr (x.covers.append pattern.covers)
  | between negated x low high =>
    exact .expr ((x.covers.append low.covers).append high.covers)
  | inList negated x list => exact .expr (x.covers.append (covers_visitsOfExprs list))
  | inQuery negated x query =>
    exact .expr ((x.covers.append query.covers).congr fun _ => by simp [Expr.query?])
  | existsRow _ query | subquery query | arrayOf _ query =>
    exact .expr (query.covers.congr fun _ => by simp [Expr.query?])
  | call call => exact .expr call.covers
  | choose operand branches otherwise =>
    rw [visits_choose]
    exact .expr (((covers_visitsOfOption operand).append (covers_visitsOfBranches branches)).append
      (covers_visitsOfOption otherwise))
  | substring x start count commas =>
    rw [visits_substring]
    exact .expr ((x.covers.append (covers_visitsOfOption start)).append
      (covers_visitsOfOption count))
  | tuple list => exact .expr (covers_visitsOfExprs list)

theorem covers_visitsOfOption (e : Option Expr) : Covers (visitsOfOption e) [] := by
  cases e with
  | none => exact .nil
  | some e => exact e.covers

theorem covers_visitsOfExprs (list : List Expr) : Covers (visitsOfExprs list) [] := by
  cases list with
  | nil => exact .nil
  | cons e rest => exact e.covers.append (covers_visitsOfExprs rest)

theorem covers_visitsOfBranches (branches : List Branch) :
    Covers (visitsOfBranches branches) [] := by
  cases branches with
  | nil => exact .nil
  | cons branch rest =>
    obtain ⟨condition, result⟩ := branch
    exact (condition.covers.append result.covers).append (covers_visitsOfBranches rest)

theorem Sql.Call.covers (call : Call) : Covers call.visits [] := by
  obtain ⟨_, _, _, arguments, _, _, filter, _⟩ := call
  rw [visits_call]
  exact (covers_visitsOfItems arguments).append (covers_visitsOfOption filter)

theorem covers_visitsOfItems (items : List Item) : Covers (visitsOfItems items) [] := by
  cases items with
  | nil => exact .nil
  | cons item rest =>
    cases item with
    | expr label e => exact e.covers.append (covers_visitsOfItems rest)
    | star label path => exact covers_visitsOfItems rest

/-- What is met in a query is read at its levels or within its expressions. -/
theorem Sql.Query.covers (query : Query) :
    Covers query.visits (query.levels.flatMap Query.reads) := by
  obtain ⟨_, ctes, body, order, limit, offset, _⟩ := query
  rw [visits_query]
  refine (((((covers_visitsOfCtes ctes).append body.covers).append
    (covers_visitsOfKeys order)).append (covers_visitsOfOption limit)).append
      (covers_visitsOfOption offset)).congr fun read => ?_
  rw [Query.levels, List.flatMap_cons, List.flatMap_append]
  simp only [List.append_nil, List.mem_append]
  exact or_left_comm

theorem covers_visitsOfCtes (ctes : List Cte) :
    Covers (visitsOfCtes ctes) ((levelsOfCtes ctes).flatMap Query.reads) := by
  cases ctes with
  | nil => exact .nil
  | cons cte rest =>
    obtain ⟨_, _, query, _⟩ := cte
    rw [levelsOfCtes, List.flatMap_append]
    exact query.covers.append (covers_visitsOfCtes rest)

theorem covers_visitsOfKeys (keys : List SortKey) : Covers (visitsOfKeys keys) [] := by
  cases keys with
  | nil => exact .nil
  | cons key rest =>
    obtain ⟨e, _⟩ := key
    exact e.covers.append (covers_visitsOfKeys rest)

theorem Sql.Body.covers (body : Body) : Covers body.visits
    (body.factors.filterMap Factor.read? ++ body.levels.flatMap Query.reads) := by
  cases body with
  | select select => exact select.covers
  | query query => exact query.covers
  | compound _ _ left right =>
    refine (left.covers.append right.covers).congr fun read => ?_
    rw [Body.factors, Body.levels, List.filterMap_append, List.flatMap_append]
    simp only [List.mem_append]
    exact or_or_or_comm
  | values _ rows => exact covers_visitsOfRows rows
  | table => exact .nil
  | insert => exact .nil
  | update => exact .nil
  | store => exact .nil

theorem covers_visitsOfRows (rows : List (List Expr)) : Covers (visitsOfRows rows) [] := by
  cases rows with
  | nil => exact .nil
  | cons row rest => exact (covers_visitsOfExprs row).append (covers_visitsOfRows rest)

theorem Sql.Select.covers (select : Select) : Covers select.visits
    ((flatOfEntries select.sources).filterMap Factor.read? ++
      select.levels.flatMap Query.reads) := by
  obtain ⟨_, items, _, sources, _, condition, groupByAll, groupBy, _, having, _⟩ := select
  have grouped : Covers (if groupByAll then [] else visitsOfExprs groupBy) [] := by
    cases groupByAll with
    | true => exact .nil
    | false => exact covers_visitsOfExprs groupBy
  rw [visits_select]
  exact (((((covers_visitsOfItems items).append (covers_visitsOfEntries sources)).append
    (covers_visitsOfOption condition)).append grouped).append
      (covers_visitsOfOption having)).congr fun read => by simp [Select.levels]

theorem covers_visitsOfEntries (entries : List Entry) : Covers (visitsOfEntries entries)
    ((flatOfEntries entries).filterMap Factor.read? ++
      (levelsOfEntries entries).flatMap Query.reads) := by
  cases entries with
  | nil => exact .nil
  | cons entry rest =>
    obtain ⟨_, _, factor, _, constraint⟩ := entry
    have joined : Covers (visitsOfConstraint constraint) [] := by
      cases constraint with
      | condition e => exact e.covers
      | none => exact .nil
      | natural => exact .nil
      | columns => exact .nil
    rw [visitsOfEntries, visits_entry]
    refine ((factor.covers.append joined).append (covers_visitsOfEntries rest)).congr
      fun read => ?_
    rw [flatOfEntries, levelsOfEntries, List.filterMap_append, List.flatMap_append]
    simp only [List.append_nil, List.mem_append]
    exact or_or_or_comm

theorem Sql.Factor.covers (factor : Factor) : Covers factor.visits
    (factor.flat.filterMap Factor.read? ++ factor.levels.flatMap Query.reads) := by
  cases factor with
  | table name _ aliased _ =>
    cases aliased with
    | none => exact .relation name.base name.base
    | some a => exact .relation a.name.text name.base
  | call _ _ arguments _ _ _ => exact covers_visitsOfItems arguments
  | derived _ query aliased => exact query.covers
  | nested first joins _ =>
    refine (first.covers.append (covers_visitsOfEntries joins)).congr fun read => ?_
    rw [Factor.flat, Factor.levels, List.filterMap_append, List.flatMap_append]
    simp only [List.mem_append]
    exact or_or_or_comm
  | tableOf => exact .nil
  | pivot => exact .nil
  | phrase => exact .nil

end

namespace Sql.Query

/-- The reference names in the `FROM` clauses of a query and of its levels. -/
def levelNames (query : Query) : List String :=
  (query.levels.flatMap Query.pairs).map Prod.fst

theorem mem_keys_aliases {query : Query} {name : String} :
    name ∈ query.aliases.keys ↔ name ∈ query.levelNames := by
  rw [aliases, OrderedMap.mem_keys_putAllNew, levelNames, List.mem_map, List.mem_map]
  simp only [query.mem_aliasPairs]
  exact or_iff_right List.not_mem_nil

theorem relation_mem_visits {query : Query} {name : String} :
    Visit.relation name ∈ query.visits ↔ ∃ read ∈ query.queries.flatMap reads, read.2 = name := by
  rw [query.covers name, ← List.mem_append, ← List.map_append, ← List.flatMap_append, List.mem_map]
  rfl

theorem exists_mem_references {query : Query} {name : String} :
    (∃ n ∈ query.references, Text.sameName n name = true) ↔
      ∃ read ∈ query.queries.flatMap reads, Text.sameName read.2 name = true := by
  constructor
  · rintro ⟨n, member, same⟩
    obtain ⟨read, inside, rfl⟩ := relation_mem_visits.mp (met_of_mem_references member)
    exact ⟨read, inside, same⟩
  · rintro ⟨read, inside, same⟩
    have met := relation_mem_visits.mpr ⟨read, inside, rfl⟩
    obtain ⟨n, member, folded⟩ := List.mem_map.mp (mem_references met)
    exact ⟨n, member, Text.sameName_trans (Text.sameName_iff.mpr folded) same⟩

theorem mem_levelNames_of_read {query : Query} {read : String × String}
    (inside : read ∈ query.levels.flatMap reads) : read.1 ∈ query.levelNames := by
  obtain ⟨level, member, named⟩ := List.mem_flatMap.mp inside
  exact List.mem_map_of_mem
    (List.mem_flatMap.mpr ⟨level, member, level.reads_subset_pairs named⟩)

/-- The aliases are the reference names of the levels, while the references are read within
expressions too. So every reference name is among the aliases just if the queries within
expressions use no reference name of their own, and every reference is read under an alias just if
whatever they read is read under one somewhere. -/
theorem aliases_complete_iff (query : Query) :
    (∀ name, name ∈ query.aliases.keys ↔ name ∈ query.levelNames) ∧
    (∀ name, (∃ n ∈ query.references, Text.sameName n name = true) ↔
      ∃ read ∈ query.queries.flatMap reads, Text.sameName read.2 name = true) ∧
    ((∀ read ∈ query.queries.flatMap reads, read.1 ∈ query.aliases.keys) ↔
      ∀ read ∈ (levelsWithin query.visits).flatMap reads, read.1 ∈ query.levelNames) ∧
    ((∀ n ∈ query.references, ∃ read ∈ query.queries.flatMap reads,
        Text.sameName read.2 n = true ∧ read.1 ∈ query.aliases.keys) ↔
      ∀ inner ∈ (levelsWithin query.visits).flatMap reads,
        ∃ read ∈ query.queries.flatMap reads,
          Text.sameName read.2 inner.2 = true ∧ read.1 ∈ query.levelNames) := by
  have split : ∀ read, read ∈ query.queries.flatMap reads ↔
      read ∈ query.levels.flatMap reads ∨ read ∈ (levelsWithin query.visits).flatMap reads := by
    intro read
    rw [queries, List.flatMap_append, List.mem_append]
  refine ⟨fun _ => mem_keys_aliases, fun _ => exists_mem_references, ?_, ?_⟩ <;>
    simp only [mem_keys_aliases]
  · constructor
    · intro complete read inside
      exact complete read ((split read).mpr (.inr inside))
    · intro inner read inside
      rcases (split read).mp inside with level | within
      · exact mem_levelNames_of_read level
      · exact inner read within
  · constructor
    · intro complete inner inside
      obtain ⟨n, member, same⟩ := exists_mem_references.mpr
        ⟨inner, (split inner).mpr (.inr inside), Text.sameName_refl _⟩
      obtain ⟨read, here, named, known⟩ := complete n member
      exact ⟨read, here, Text.sameName_trans named same, known⟩
    · intro inner n member
      obtain ⟨read, inside, same⟩ :=
        exists_mem_references.mp ⟨n, member, Text.sameName_refl n⟩
      rcases (split read).mp inside with level | within
      · exact ⟨read, inside, same, mem_levelNames_of_read level⟩
      · obtain ⟨other, here, named, known⟩ := inner read within
        exact ⟨other, here, Text.sameName_trans named same, known⟩

/-- `SELECT * FROM sources WHERE condition` -/
def allOf (sources : List Entry) (condition : Option Expr) : Query :=
  ⟨false, [], .select ⟨[], [.star none []], "", sources, [], condition, false, [], [], none, []⟩,
    [], none, none, []⟩

/-- An entry for a table under a reference name, after a comma. -/
def tableAs (name reference : String) : Entry :=
  ⟨false, .comma, .table [⟨name, none⟩] false (some ⟨⟨reference, none⟩, []⟩) [], none, .none⟩

example :
    let query := allOf [tableAs "a" "s"] (some (.existsRow false (allOf [tableAs "b" "r"] none)))
    query.aliases.keys = ["s"] ∧ query.references = ["a", "b"] := by
  decide +kernel

end Sql.Query

end TypedRows
