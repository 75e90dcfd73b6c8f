import TypedRows.Proofs.OuterJoin
import TypedRows.Schema.Reference

/-! A query reads a catalog and common table expressions only at the names that its visits meet: the
visits look into everything that resolution looks into. -/

namespace TypedRows

open Sql

/-- What is met in a part that may be missing. -/
def visitsOfOption : Option Expr → List Visit
  | some e => e.visits
  | none => []

theorem visits_choose (operand : Option Expr) (branches : List Branch) (otherwise : Option Expr) :
    (Expr.choose operand branches otherwise).visits =
      .expr (.choose operand branches otherwise) ::
        (visitsOfOption operand ++ visitsOfBranches branches ++ visitsOfOption otherwise) := by
  cases operand <;> cases otherwise <;> rfl

theorem visits_substring (e : Expr) (start count : Option Expr) (commas : Bool) :
    (Expr.substring e start count commas).visits =
      .expr (.substring e start count commas) ::
        (e.visits ++ visitsOfOption start ++ visitsOfOption count) := by
  cases start <;> cases count <;> rfl

theorem visits_call (call : Call) :
    call.visits = visitsOfItems call.arguments ++ visitsOfOption call.filter := by
  obtain ⟨_, _, _, _, _, _, filter, _⟩ := call
  cases filter <;> rfl

theorem visits_query (query : Query) :
    query.visits = visitsOfCtes query.ctes ++ query.body.visits ++ visitsOfKeys query.order ++
      visitsOfOption query.limit ++ visitsOfOption query.offset := by
  obtain ⟨_, _, _, _, limit, offset, _⟩ := query
  cases limit <;> cases offset <;> rfl

theorem visits_select (select : Select) :
    select.visits = visitsOfItems select.items ++ visitsOfEntries select.sources ++
      visitsOfOption select.condition ++
      (if select.groupByAll then [] else visitsOfExprs select.groupBy) ++
      visitsOfOption select.having := by
  obtain ⟨_, _, _, _, _, condition, _, _, _, having, _⟩ := select
  cases condition <;> cases having <;> rfl

/-- What is met in the condition of a join, if it has one. -/
def visitsOfConstraint : Constraint → List Visit
  | .condition e => e.visits
  | .none | .natural | .columns _ => []

theorem visits_entry (entry : Entry) :
    entry.visits = entry.factor.visits ++ visitsOfConstraint entry.constraint := by
  obtain ⟨_, _, _, _, constraint⟩ := entry
  cases constraint <;> rfl

namespace Catalog

/-- The catalogs tell the same about a name. -/
structure AgreeAt (a b : Catalog) (name : String) : Prop where
  table : a.table? name = b.table? name
  cyclic : a.isCyclic name = b.isCyclic name
  columns : a.columns? name = b.columns? name

theorem agreeAt_of_get? {a b : Catalog} {name : String}
    (tables : a.tables.get? (Text.foldLower name) = b.tables.get? (Text.foldLower name))
    (views : a.views.get? (Text.foldLower name) = b.views.get? (Text.foldLower name)) :
    a.AgreeAt b name := by
  have table : a.table? name = b.table? name := tables
  have view : a.view? name = b.view? name := views
  constructor
  · exact table
  · rw [isCyclic, isCyclic, view]
  · rw [columns?, columns?, table, view]

/-- The catalogs tell the same about every name that is met. -/
def Agree (a b : Catalog) (visits : List Visit) : Prop :=
  ∀ name, Visit.relation name ∈ visits → a.AgreeAt b name

/-- The catalogs tell the same about a name, and so do the common table expressions. -/
structure AlikeAt (a b : Catalog) (k l : Ctes) (name : String) : Prop where
  agree : a.AgreeAt b name
  known : (k.find? fun cte => Text.sameName cte.1 name) =
    l.find? fun cte => Text.sameName cte.1 name

def Alike (a b : Catalog) (k l : Ctes) (visits : List Visit) : Prop :=
  ∀ name, Visit.relation name ∈ visits → a.AlikeAt b k l name

/-- The catalogs have the same tables under the names that the sources were read by. -/
def AgreeOn (a b : Catalog) (sources : List Source) : Prop :=
  ∀ source ∈ sources, ∀ name, source.object = some name → a.table? name = b.table? name

variable {a b : Catalog} {k l : Ctes}

@[simp] theorem alike_append {xs ys : List Visit} :
    Alike a b k l (xs ++ ys) ↔ Alike a b k l xs ∧ Alike a b k l ys := by
  simp only [Alike, List.mem_append, or_imp, forall_and]

@[simp] theorem alike_expr {e : Expr} {visits : List Visit} :
    Alike a b k l (.expr e :: visits) ↔ Alike a b k l visits := by
  simp [Alike]

@[simp] theorem alike_relation {name : String} {visits : List Visit} :
    Alike a b k l (.relation name :: visits) ↔ a.AlikeAt b k l name ∧ Alike a b k l visits := by
  simp [Alike]

theorem Agree.alike {visits : List Visit} (h : Agree a b visits) (k : Ctes) :
    Alike a b k k visits := by
  intro name met
  exact ⟨h name met, rfl⟩

theorem Alike.agree {visits : List Visit} (h : Alike a b k l visits) : Agree a b visits := by
  intro name met
  exact (h name met).agree

/-- Further common table expressions before both hide the same names. -/
theorem Alike.append {visits : List Visit} (h : Alike a b k l visits) (more : Ctes) :
    Alike a b (more ++ k) (more ++ l) visits := by
  intro name met
  obtain ⟨catalogs, known⟩ := h name met
  constructor
  · exact catalogs
  · rw [List.find?_append, List.find?_append, known]

theorem Alike.choose {operand otherwise : Option Expr} {branches : List Branch}
    (h : Alike a b k l (Expr.choose operand branches otherwise).visits) :
    Alike a b k l (visitsOfBranches branches) ∧
      ∀ e, otherwise = some e → Alike a b k l e.visits := by
  rw [visits_choose] at h
  simp only [alike_expr, alike_append] at h
  refine ⟨h.1.2, fun e he => ?_⟩
  rw [he] at h
  exact h.2

theorem Alike.substring {e : Expr} {start count : Option Expr} {commas : Bool}
    (h : Alike a b k l (Expr.substring e start count commas).visits) : Alike a b k l e.visits := by
  rw [visits_substring] at h
  simp only [alike_expr, alike_append] at h
  exact h.1.1

theorem Alike.arguments {call : Call} (h : Alike a b k l call.visits) :
    Alike a b k l (visitsOfItems call.arguments) := by
  rw [visits_call] at h
  exact (alike_append.mp h).1

theorem Alike.query {query : Query} (h : Alike a b k l query.visits) :
    Alike a b k l (visitsOfCtes query.ctes) ∧ Alike a b k l query.body.visits := by
  rw [visits_query] at h
  simp only [alike_append] at h
  exact h.1.1.1

theorem Alike.select {select : Select} (h : Alike a b k l select.visits) :
    Alike a b k l (visitsOfItems select.items) ∧
      Alike a b k l (visitsOfEntries select.sources) := by
  rw [visits_select] at h
  simp only [alike_append] at h
  exact h.1.1.1

theorem Alike.entry {entry : Entry} {rest : List Entry}
    (h : Alike a b k l (visitsOfEntries (entry :: rest))) :
    Alike a b k l entry.factor.visits ∧ Alike a b k l (visitsOfEntries rest) := by
  rw [visitsOfEntries, visits_entry] at h
  simp only [alike_append] at h
  exact ⟨h.1.1, h.2⟩

end Catalog

namespace Source

theorem named_congr {a b : Catalog} {k l : Ctes} {name : String} (alike : a.AlikeAt b k l name)
    (aliased : Option Alias) : named a k name aliased = named b l name aliased := by
  unfold named
  rw [alike.agree.cyclic, alike.agree.columns, alike.known]

theorem named_object {catalog : Catalog} {ctes : Ctes} {name object : String}
    {aliased : Option Alias} {source : Source} (h : named catalog ctes name aliased = .ok source)
    (read : source.object = some object) : object = name := by
  unfold named at h
  dsimp only at h
  cases found : ctes.find? fun cte => Text.sameName cte.1 name with
  | some cte =>
    rw [found] at h
    cases h
    simp [unjoined] at read
  | none =>
    rw [found] at h
    dsimp only at h
    split at h
    · cases h
    · cases known : catalog.columns? name with
      | none =>
        rw [known] at h
        cases h
      | some columns =>
        rw [known] at h
        cases h
        cases read
        rfl

theorem join_object {before : List Source} {side : Side} {constraint : Constraint}
    {source joined : Source} (h : joined ∈ join before side constraint source) :
    joined.object = source.object ∨ ∃ s ∈ before, joined.object = s.object := by
  simp only [join, List.mem_append, List.mem_singleton] at h
  rcases h with h | rfl
  · right
    split at h
    · obtain ⟨s, member, rfl⟩ := List.mem_map.mp h
      exact ⟨s, member, rfl⟩
    · exact ⟨joined, h, rfl⟩
  · exact .inl rfl

end Source

namespace Scope

variable {a b : Catalog} {k l : Ctes} {sources : List Source}

theorem rowid?_congr {source : Source} (name : String)
    (agree : ∀ object, source.object = some object → a.table? object = b.table? object) :
    (Scope.mk a k sources).rowid? source name = (Scope.mk b l sources).rowid? source name := by
  unfold rowid?
  have same : source.object.bind a.table? = source.object.bind b.table? := by
    cases h : source.object with
    | none => rfl
    | some object => exact agree object h
  rw [same]

theorem column_congr (agree : a.AgreeOn b sources) (ref : ColumnRef) :
    (Scope.mk a k sources).column ref = (Scope.mk b l sources).column ref := by
  unfold column
  cases ref.table with
  | some table =>
    simp only [qualified, source?]
    cases found : sources.find? fun s => s.hasName table with
    | none => rfl
    | some source =>
      have member := List.mem_of_find?_eq_some found
      simp only [rowid?_congr (l := l) ref.column (agree source member)]
  | none =>
    simp only [unqualified, candidates]
    rcases sources with _ | ⟨only, _ | ⟨next, rest⟩⟩
    · rfl
    · simp only [rowid?_congr (l := l) ref.column (agree only List.mem_cons_self)]
    · rfl

theorem columnType_congr (agree : a.AgreeOn b sources) (ref : ColumnRef) :
    (Scope.mk a k sources).columnType ref = (Scope.mk b l sources).columnType ref := by
  unfold columnType
  rw [column_congr agree]

theorem agreeOn_finish (agree : a.AgreeOn b sources) :
    a.AgreeOn b (sources.map Source.finish) := by
  intro source member name read
  obtain ⟨plain, hp, rfl⟩ := List.mem_map.mp member
  exact agree plain hp name read

end Scope

theorem Sql.Factor.Reads.met {factor : Factor} {catalog : Catalog} {ctes : Ctes} {source : Source}
    {name : String} (reads : factor.Reads catalog ctes source) (read : source.object = some name) :
    Visit.relation name ∈ factor.visits := by
  cases reads with
  | table found =>
    rw [Source.named_object found read, Factor.visits]
    exact List.mem_cons_self
  | @derived _ _ aliased _ _ =>
    cases aliased <;> cases read
  | call | tableOf | pivot | phrase => cases read

mutual

theorem Sql.Factor.joinTo_object (factor : Factor) {side : Side} {constraint : Constraint}
    {catalog : Catalog} {ctes : Ctes} {before sources : List Source} {source : Source}
    {name : String} (joined : factor.joinTo side constraint catalog ctes before = .ok sources)
    (member : source ∈ sources) (read : source.object = some name) :
    Visit.relation name ∈ factor.visits ∨ ∃ s ∈ before, s.object = some name := by
  cases factor with
  | nested first joins aliased =>
    rw [Factor.joinTo] at joined
    obtain ⟨middle, hm, hr⟩ := bind_eq_ok joined
    rw [Factor.visits, List.mem_append]
    rcases sourcesOf_object joins hr member read with met | ⟨s, hs, read'⟩
    · exact .inl (.inr met)
    · rcases first.joinTo_object hm hs read' with met | old
      · exact .inl (.inl met)
      · exact .inr old
  | table | derived | call | tableOf | pivot | phrase =>
    obtain ⟨added, reads, rfl⟩ := Factor.reads_of_joinTo joined nofun
    rcases Source.join_object member with same | ⟨s, hb, same⟩
    · exact .inl (reads.met (same ▸ read))
    · exact .inr ⟨s, hb, same ▸ read⟩

/-- A source that was read by name was met, or stood there before. -/
theorem sourcesOf_object (entries : List Entry) {catalog : Catalog} {ctes : Ctes}
    {before sources : List Source} {source : Source} {name : String}
    (joined : sourcesOf entries catalog ctes before = .ok sources)
    (member : source ∈ sources) (read : source.object = some name) :
    Visit.relation name ∈ visitsOfEntries entries ∨ ∃ s ∈ before, s.object = some name := by
  cases entries with
  | nil =>
    rw [sourcesOf] at joined
    cases joined
    exact .inr ⟨source, member, read⟩
  | cons entry rest =>
    obtain ⟨_, link, factor, _, constraint⟩ := entry
    rw [sourcesOf] at joined
    obtain ⟨middle, hm, hr⟩ := bind_eq_ok joined
    rw [visitsOfEntries, visits_entry, List.mem_append, List.mem_append]
    rcases sourcesOf_object rest hr member read with met | ⟨s, hs, read'⟩
    · exact .inl (.inr met)
    · rcases factor.joinTo_object hm hs read' with met | old
      · exact .inl (.inl (.inl met))
      · exact .inr old

end

/-- The visits of the entries of a `FROM` clause tell what its sources are read by. -/
theorem agreeOn_sourcesOf {a b : Catalog} {entries : List Entry} {ctes : Ctes}
    {sources : List Source} (agree : Catalog.Agree a b (visitsOfEntries entries))
    (joined : sourcesOf entries b ctes [] = .ok sources) : a.AgreeOn b sources := by
  intro source member name read
  rcases sourcesOf_object entries joined member read with met | ⟨s, hs, _⟩
  · exact (agree name met).table
  · cases hs

mutual

theorem Sql.Expr.typeIn_congr (e : Expr) {a b : Catalog} {k l : Ctes} {sources : List Source}
    (agree : a.Alike b k l e.visits) (on : a.AgreeOn b sources) :
    e.typeIn ⟨a, k, sources⟩ = e.typeIn ⟨b, l, sources⟩ := by
  cases e with
  | column path =>
    rw [Expr.typeIn, Expr.typeIn]
    cases ColumnRef.ofPath? path with
    | none => rfl
    | some ref => exact Scope.columnType_congr on ref
  -- the type of these is the same for all operands
  | literal _ | is _ _ _ | isDistinct _ _ _ | existsRow _ _ | arrayOf _ _ | tuple _ | phrase _ =>
    rw [Expr.typeIn, Expr.typeIn]
  | nested x | unary _ x | factorial x | cast _ x _ _ | collate x _ | trim _ _ x =>
    simp only [Expr.visits, Catalog.alike_expr] at agree
    rw [Expr.typeIn, Expr.typeIn, x.typeIn_congr agree on]
  | binary op left right =>
    simp only [Expr.visits, Catalog.alike_expr, Catalog.alike_append] at agree
    rw [Expr.typeIn, Expr.typeIn, left.typeIn_congr agree.1 on, right.typeIn_congr agree.2 on]
  | like op negated any x pattern escape =>
    simp only [Expr.visits, Catalog.alike_expr, Catalog.alike_append] at agree
    rw [Expr.typeIn, Expr.typeIn, x.typeIn_congr agree.1 on, pattern.typeIn_congr agree.2 on]
  | between negated x low high =>
    simp only [Expr.visits, Catalog.alike_expr, Catalog.alike_append] at agree
    rw [Expr.typeIn, Expr.typeIn, x.typeIn_congr agree.1.1 on, low.typeIn_congr agree.1.2 on,
      high.typeIn_congr agree.2 on]
  | inList negated x list =>
    simp only [Expr.visits, Catalog.alike_expr, Catalog.alike_append] at agree
    rw [Expr.typeIn, Expr.typeIn, x.typeIn_congr agree.1 on, typesOfExprs_congr list agree.2 on]
  | inQuery negated x query =>
    simp only [Expr.visits, Catalog.alike_expr, Catalog.alike_append] at agree
    rw [Expr.typeIn, Expr.typeIn, x.typeIn_congr agree.1 on]
  | subquery query =>
    simp only [Expr.visits, Catalog.alike_expr] at agree
    unfold Expr.typeIn
    rw [query.columnsIn_congr agree]
  | call call =>
    simp only [Expr.visits, Catalog.alike_expr] at agree
    rw [Expr.typeIn, Expr.typeIn, call.typeIn_congr agree on]
  | choose operand branches otherwise =>
    obtain ⟨ofBranches, ofLast⟩ := agree.choose
    cases otherwise with
    | none => rw [Expr.typeIn, Expr.typeIn, typesOfBranches_congr branches ofBranches on]
    | some last =>
      rw [Expr.typeIn, Expr.typeIn, typesOfBranches_congr branches ofBranches on,
        last.typeIn_congr (ofLast last rfl) on]
  | substring x start count commas =>
    rw [Expr.typeIn, Expr.typeIn, x.typeIn_congr agree.substring on]

theorem typesOfExprs_congr (list : List Expr) {a b : Catalog} {k l : Ctes}
    {sources : List Source} (agree : a.Alike b k l (visitsOfExprs list))
    (on : a.AgreeOn b sources) :
    typesOfExprs list ⟨a, k, sources⟩ = typesOfExprs list ⟨b, l, sources⟩ := by
  cases list with
  | nil => rfl
  | cons e rest =>
    simp only [visitsOfExprs, Catalog.alike_append] at agree
    rw [typesOfExprs, typesOfExprs, e.typeIn_congr agree.1 on, typesOfExprs_congr rest agree.2 on]

theorem typesOfBranches_congr (branches : List Branch) {a b : Catalog} {k l : Ctes}
    {sources : List Source} (agree : a.Alike b k l (visitsOfBranches branches))
    (on : a.AgreeOn b sources) :
    typesOfBranches branches ⟨a, k, sources⟩ = typesOfBranches branches ⟨b, l, sources⟩ := by
  cases branches with
  | nil => rfl
  | cons branch rest =>
    obtain ⟨condition, result⟩ := branch
    simp only [visitsOfBranches, Branch.visits, Catalog.alike_append] at agree
    rw [typesOfBranches, typesOfBranches, Branch.typeIn, Branch.typeIn,
      result.typeIn_congr agree.1.2 on, typesOfBranches_congr rest agree.2 on]

theorem Sql.Call.typeIn_congr (call : Call) {a b : Catalog} {k l : Ctes} {sources : List Source}
    (agree : a.Alike b k l call.visits) (on : a.AgreeOn b sources) :
    call.typeIn ⟨a, k, sources⟩ = call.typeIn ⟨b, l, sources⟩ := by
  obtain ⟨name, _, _, arguments, _, _, filter, _⟩ := call
  rw [Call.typeIn, Call.typeIn, typesOfArguments_congr arguments agree.arguments on]

theorem typesOfArguments_congr (arguments : List Item) {a b : Catalog} {k l : Ctes}
    {sources : List Source} (agree : a.Alike b k l (visitsOfItems arguments))
    (on : a.AgreeOn b sources) :
    typesOfArguments arguments ⟨a, k, sources⟩ =
      typesOfArguments arguments ⟨b, l, sources⟩ := by
  cases arguments with
  | nil => rfl
  | cons item rest =>
    rw [visitsOfItems, Catalog.alike_append] at agree
    cases item with
    | expr label e =>
      rw [Item.visits] at agree
      rw [typesOfArguments, typesOfArguments, e.typeIn_congr agree.1 on,
        typesOfArguments_congr rest agree.2 on]
    | star label path =>
      rw [typesOfArguments, typesOfArguments, typesOfArguments_congr rest agree.2 on]

/-- Two catalogs that tell the same about all that a query meets give it the same columns. -/
theorem Sql.Query.columnsIn_congr (query : Query) {a b : Catalog} {k l : Ctes}
    {allMembers : Bool} (agree : a.Alike b k l query.visits) :
    query.columnsIn a k allMembers = query.columnsIn b l allMembers := by
  obtain ⟨_, list, body, _, _, _, _⟩ := query
  obtain ⟨ofCtes, ofBody⟩ := agree.query
  rw [Query.columnsIn, Query.columnsIn]
  exact ctesOf_congr list ofCtes fun more => body.columnsIn_congr (ofBody.append more)

/-- What is read with the same common table expressions before both is the same. -/
theorem ctesOf_congr (list : List Cte) {a b : Catalog} {k l : Ctes}
    (agree : a.Alike b k l (visitsOfCtes list))
    {f g : Ctes → Except ResolveError (List ResultColumn)}
    (same : ∀ more, f (more ++ k) = g (more ++ l)) :
    (ctesOf list a k >>= f) = (ctesOf list b l >>= g) := by
  cases list with
  | nil => exact same []
  | cons cte rest =>
    obtain ⟨name, columns, query, _⟩ := cte
    simp only [visitsOfCtes, Cte.visits, Catalog.alike_append] at agree
    rw [ctesOf, ctesOf, query.columnsIn_congr agree.1]
    simp only [bind_assoc]
    refine bind_congr fun returned => ?_
    refine bind_congr fun named => ?_
    refine ctesOf_congr rest (agree.2.append [(name.text, named)]) fun more => ?_
    have snoc := same (more ++ [(name.text, named)])
    rw [List.append_assoc, List.append_assoc] at snoc
    exact snoc

theorem Sql.Body.columnsIn_congr (body : Body) {a b : Catalog} {k l : Ctes} {allMembers : Bool}
    (agree : a.Alike b k l body.visits) :
    body.columnsIn a k allMembers = body.columnsIn b l allMembers := by
  cases body with
  | select select =>
    rw [Body.visits] at agree
    rw [Body.columnsIn, Body.columnsIn, select.columnsIn_congr agree]
  | query query =>
    rw [Body.visits] at agree
    rw [Body.columnsIn, Body.columnsIn, query.columnsIn_congr agree]
  | compound op quantifier left right =>
    rw [Body.visits, Catalog.alike_append] at agree
    rw [Body.columnsIn, Body.columnsIn, left.columnsIn_congr agree.1,
      right.columnsIn_congr agree.2]
  | values explicitRow rows =>
    cases rows with
    | nil => rfl
    | cons row rest =>
      rw [Body.visits, visitsOfRows, Catalog.alike_append] at agree
      unfold Body.columnsIn
      have on : a.AgreeOn b [] := fun source member => by cases member
      exact congrArg Except.ok (valueColumns_congr row 1 agree.1 on)
  | table _ | insert _ | update _ | store _ _ => rfl

theorem valueColumns_congr (row : List Expr) (number : Nat) {a b : Catalog} {k l : Ctes}
    {sources : List Source} (agree : a.Alike b k l (visitsOfExprs row))
    (on : a.AgreeOn b sources) :
    valueColumns row ⟨a, k, sources⟩ number = valueColumns row ⟨b, l, sources⟩ number := by
  cases row with
  | nil => rfl
  | cons e rest =>
    simp only [visitsOfExprs, Catalog.alike_append] at agree
    rw [valueColumns, valueColumns, e.typeIn_congr agree.1 on,
      valueColumns_congr rest (number + 1) agree.2 on]

theorem Sql.Select.columnsIn_congr (select : Select) {a b : Catalog} {k l : Ctes}
    (agree : a.Alike b k l select.visits) : select.columnsIn a k = select.columnsIn b l := by
  obtain ⟨_, items, _, entries, _, condition, groupByAll, groupBy, _, having, _⟩ := select
  obtain ⟨ofItems, ofSources⟩ := agree.select
  -- the sources first: the columns of the items are looked up in them
  rw [Select.columnsIn, Select.columnsIn, sourcesOf_congr entries ofSources]
  cases joined : sourcesOf entries b l [] with
  | error e => rfl
  | ok sources =>
    have on := Scope.agreeOn_finish (agreeOn_sourcesOf ofSources.agree joined)
    exact columnsOfItems_congr items ofItems on

theorem columnsOfItems_congr (items : List Item) {a b : Catalog} {k l : Ctes}
    {sources : List Source} (agree : a.Alike b k l (visitsOfItems items))
    (on : a.AgreeOn b sources) :
    columnsOfItems items ⟨a, k, sources⟩ = columnsOfItems items ⟨b, l, sources⟩ := by
  cases items with
  | nil => rfl
  | cons item rest =>
    simp only [visitsOfItems, Catalog.alike_append] at agree
    rw [columnsOfItems, columnsOfItems, item.columnsIn_congr agree.1 on,
      columnsOfItems_congr rest agree.2 on]

theorem Sql.Item.columnsIn_congr (item : Item) {a b : Catalog} {k l : Ctes}
    {sources : List Source} (agree : a.Alike b k l item.visits) (on : a.AgreeOn b sources) :
    item.columnsIn ⟨a, k, sources⟩ = item.columnsIn ⟨b, l, sources⟩ := by
  cases item with
  | star label path => cases path <;> rfl
  | expr label e =>
    rw [Item.visits] at agree
    unfold Item.columnsIn
    cases e.columnRef? with
    | some ref =>
      dsimp only
      rw [Scope.column_congr on ref]
    | none =>
      dsimp only
      rw [e.typeIn_congr agree on]

theorem sourcesOf_congr (entries : List Entry) {a b : Catalog} {k l : Ctes}
    {before : List Source} (agree : a.Alike b k l (visitsOfEntries entries)) :
    sourcesOf entries a k before = sourcesOf entries b l before := by
  cases entries with
  | nil => rfl
  | cons entry rest =>
    obtain ⟨_, link, factor, _, constraint⟩ := entry
    obtain ⟨ofFactor, ofRest⟩ := agree.entry
    rw [sourcesOf, sourcesOf, factor.joinTo_congr ofFactor]
    exact bind_congr fun middle => sourcesOf_congr rest ofRest

theorem Sql.Factor.joinTo_congr (factor : Factor) {side : Side} {constraint : Constraint}
    {a b : Catalog} {k l : Ctes} {before : List Source} (agree : a.Alike b k l factor.visits) :
    factor.joinTo side constraint a k before = factor.joinTo side constraint b l before := by
  cases factor with
  | table path ordinality aliased hints =>
    rw [Factor.visits, Catalog.alike_relation] at agree
    rw [Factor.joinTo, Factor.joinTo, Source.named_congr agree.1]
  | derived lateral query aliased =>
    rw [Factor.visits] at agree
    rw [Factor.joinTo, Factor.joinTo, query.columnsIn_congr agree]
  | nested first joins aliased =>
    rw [Factor.visits, Catalog.alike_append] at agree
    rw [Factor.joinTo, Factor.joinTo, first.joinTo_congr agree.1]
    exact bind_congr fun middle => sourcesOf_congr joins agree.2
  | call lateral path arguments ordinality aliased hints => unfold Factor.joinTo; rfl
  | tableOf e aliased => unfold Factor.joinTo; rfl
  | pivot inner pieces => unfold Factor.joinTo; rfl
  | phrase pieces => unfold Factor.joinTo; rfl

end

end TypedRows
