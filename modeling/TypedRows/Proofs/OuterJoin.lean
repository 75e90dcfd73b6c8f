import TypedRows.Proofs.Outcome
import TypedRows.Schema.Resolve

/-! Which sources of a `FROM` clause an outer join may leave without a row.
A clause is read as a tree of joins, commas among them. The sources are marked from left to right
with one flag each, so a join in parentheses can be marked otherwise than its tree says; the main
statement tells exactly when. -/

namespace TypedRows

open Sql

namespace Side

/-- The right operand gets a row of nulls where it has no match. -/
def padsRight (side : Side) : Bool := side = .left ∨ side = .full

/-- The left operand gets a row of nulls where it has no match. -/
def padsLeft (side : Side) : Bool := side = .right ∨ side = .full

end Side

inductive JoinTree where
  /-- What stands before the first entry. -/
  | nothing
  | source
  | join (side : Side) (left right : JoinTree)

namespace JoinTree

/-- For each source from left to right, whether it is null-supplied: at some level it lies in the
right operand of a `LEFT` or `FULL` join or in the left operand of a `RIGHT` or `FULL` join.
`under` tells that a level above makes it so. -/
def nullSupplied (under : Bool) : JoinTree → List Bool
  | nothing => []
  | source => [under]
  | join side left right =>
    left.nullSupplied (under || side.padsLeft) ++ right.nullSupplied (under || side.padsRight)

/-- Whether a `RIGHT` or `FULL` join is anywhere in the tree. -/
def hasPaddedLeft : JoinTree → Bool
  | nothing | source => false
  | join side left right => left.hasPaddedLeft || side.padsLeft || right.hasPaddedLeft

structure Place where
  nullSupplied : Bool
  /-- The right operand of a `LEFT` or `FULL` join begins with the source. -/
  opens : Bool
  /-- A `RIGHT` or `FULL` join stands somewhere after the source. -/
  followed : Bool

def places (under opening later : Bool) : JoinTree → List Place
  | nothing => []
  | source => [⟨under, opening, later⟩]
  | join side left right =>
    left.places (under || side.padsLeft) opening (later || side.padsLeft || right.hasPaddedLeft) ++
      right.places (under || side.padsRight) side.padsRight later

def Place.marked (place : Place) : Bool := place.opens || place.followed

theorem places_nullSupplied (tree : JoinTree) (under opening later : Bool) :
    (tree.places under opening later).map Place.nullSupplied = tree.nullSupplied under := by
  induction tree generalizing under opening later with
  | nothing => rfl
  | source => rfl
  | join side left right ihl ihr => simp only [places, nullSupplied, List.map_append, ihl, ihr]

/-- What is marked does not depend on what is null-supplied. -/
theorem marks_under (tree : JoinTree) (under other opening later : Bool) :
    (tree.places under opening later).map Place.marked =
      (tree.places other opening later).map Place.marked := by
  induction tree generalizing under other opening later with
  | nothing => rfl
  | source => rfl
  | join side left right ihl ihr =>
    simp only [places, List.map_append]
    rw [ihl _ (other || side.padsLeft), ihr _ (other || side.padsRight)]

/-- A join that pads what is before it marks all of it. -/
theorem marks_later (tree : JoinTree) (under opening later more : Bool) :
    ((tree.places under opening later).map Place.marked).map (· || more) =
      (tree.places under opening (later || more)).map Place.marked := by
  induction tree generalizing under opening later with
  | nothing => rfl
  | source => simp [places, Place.marked, Bool.or_assoc]
  | join side left right ihl ihr =>
    simp only [places, List.map_append, ihl, ihr]
    have swap : (later || side.padsLeft || right.hasPaddedLeft || more) =
        (later || more || side.padsLeft || right.hasPaddedLeft) := by
      cases later <;> cases more <;> simp
    rw [swap]

end JoinTree

mutual

/-- The joins of entries, `before` being the joins of what stands before them. -/
def joinTreeOf (entries : List Entry) (before : JoinTree) : JoinTree :=
  match entries with
  | [] => before
  | ⟨_, link, factor, _, _⟩ :: rest => joinTreeOf rest (.join link.side before factor.joinTree)

def Sql.Factor.joinTree (factor : Factor) : JoinTree :=
  match factor with
  | .nested first joins _ => joinTreeOf joins first.joinTree
  | .table _ _ _ _ | .call _ _ _ _ _ _ | .derived _ _ _ | .tableOf _ _ | .pivot _ _ | .phrase _ =>
    .source

end

namespace Source

theorem join_nullable (before : List Source) (side : Side) (constraint : Constraint)
    (source : Source) :
    (join before side constraint source).map nullable =
      (before.map nullable).map (· || side.padsLeft) ++ [side.padsRight] := by
  cases side <;> simp [join, Side.padsLeft, Side.padsRight, Function.comp_def]

end Source

/-- The flags of the sources `outside` the tree and of those in it, when the tree has been joined
to them. -/
def Marked (outside : List Bool) (opening : Bool) (tree : JoinTree) (sources : List Source) :
    Prop :=
  sources.map Source.nullable =
    outside.map (· || tree.hasPaddedLeft) ++
      (tree.places false opening false).map JoinTree.Place.marked

theorem Marked.join {outside : List Bool} {opening : Bool} {tree right : JoinTree} {side : Side}
    {before sources : List Source} (start : Marked outside opening tree before)
    (added : Marked ((before.map Source.nullable).map (· || side.padsLeft)) side.padsRight right
      sources) :
    Marked outside opening (.join side tree right) sources := by
  unfold Marked at *
  rw [added, start]
  simp only [JoinTree.places, JoinTree.hasPaddedLeft, List.map_append, List.append_assoc]
  congr 1
  · simp [Function.comp_def, Bool.or_assoc]
  · congr 1
    · rw [JoinTree.marks_later, JoinTree.marks_later]
      exact JoinTree.marks_under _ _ _ _ _
    · exact JoinTree.marks_under _ _ _ _ _

theorem marked_source {side : Side} {constraint : Constraint} {before : List Source}
    (source : Source) :
    Marked ((before.map Source.nullable).map (· || side.padsLeft)) side.padsRight .source
      (Source.join before side constraint source) := by
  simp [Marked, Source.join_nullable, JoinTree.places, JoinTree.hasPaddedLeft,
    JoinTree.Place.marked]

/-- The one source that an entry reads; the entries in parentheses are read one by one instead. -/
inductive Sql.Factor.Reads (catalog : Catalog) (ctes : Ctes) : Factor → Source → Prop where
  | table {name : Path} {ordinality : Bool} {aliased : Option Alias} {hints : List Expr}
      {source : Source} (read : Source.named catalog ctes name.base aliased = .ok source) :
      Reads catalog ctes (.table name ordinality aliased hints) source
  | derived {lateral : Bool} {query : Query} {aliased : Option Alias} {columns : List ResultColumn}
      (read : query.columnsIn catalog ctes true = .ok columns) :
      Reads catalog ctes (.derived lateral query aliased) (.derived aliased columns)
  | call {lateral ordinality : Bool} {name : Path} {arguments : List Item}
      {aliased : Option Alias} {hints : List Expr} :
      Reads catalog ctes (.call lateral name arguments ordinality aliased hints)
        (.ofCall (some (aliased.elim name.base fun a => a.name.text)))
  | tableOf {e : Expr} {aliased : Option Alias} :
      Reads catalog ctes (.tableOf e aliased) (.ofCall (aliased.map fun a => a.name.text))
  | pivot {inner : Factor} {pieces : List Piece} :
      Reads catalog ctes (.pivot inner pieces) (.ofCall none)
  | phrase {pieces : List Piece} : Reads catalog ctes (.phrase pieces) (.ofCall none)

theorem Sql.Factor.reads_of_joinTo {factor : Factor} {side : Side} {constraint : Constraint}
    {catalog : Catalog} {ctes : Ctes} {before sources : List Source}
    (joined : factor.joinTo side constraint catalog ctes before = .ok sources)
    (single : ∀ first joins aliased, factor ≠ .nested first joins aliased) :
    ∃ source, factor.Reads catalog ctes source ∧
      sources = Source.join before side constraint source := by
  unfold Factor.joinTo at joined
  cases factor with
  | table name ordinality aliased hints =>
    obtain ⟨source, read, hs⟩ := bind_eq_ok joined
    cases hs
    exact ⟨source, .table read, rfl⟩
  | derived lateral query aliased =>
    obtain ⟨columns, read, hs⟩ := bind_eq_ok joined
    cases hs
    exact ⟨_, .derived read, rfl⟩
  | nested first joins aliased => exact absurd rfl (single first joins aliased)
  | call lateral name arguments ordinality aliased hints =>
    cases joined
    cases aliased <;> exact ⟨_, .call, rfl⟩
  | tableOf e aliased =>
    cases joined
    exact ⟨_, .tableOf, rfl⟩
  | pivot inner pieces =>
    cases joined
    exact ⟨_, .pivot, rfl⟩
  | phrase pieces =>
    cases joined
    exact ⟨_, .phrase, rfl⟩

mutual

theorem Sql.Factor.joinTo_marked (factor : Factor) {side : Side} {constraint : Constraint}
    {catalog : Catalog} {ctes : Ctes} {before sources : List Source}
    (joined : factor.joinTo side constraint catalog ctes before = .ok sources) :
    Marked ((before.map Source.nullable).map (· || side.padsLeft)) side.padsRight factor.joinTree
      sources := by
  cases factor with
  | nested first joins aliased =>
    rw [Factor.joinTo] at joined
    obtain ⟨middle, hm, hr⟩ := bind_eq_ok joined
    rw [Factor.joinTree]
    -- only the first entry is joined with the join before the parentheses
    exact sourcesOf_marked joins (first.joinTo_marked hm) hr
  | table | derived | call | tableOf | pivot | phrase =>
    obtain ⟨source, _, rfl⟩ := Factor.reads_of_joinTo joined nofun
    exact marked_source source

theorem sourcesOf_marked (entries : List Entry) {catalog : Catalog} {ctes : Ctes}
    {before sources : List Source} {outside : List Bool} {opening : Bool} {tree : JoinTree}
    (start : Marked outside opening tree before)
    (joined : sourcesOf entries catalog ctes before = .ok sources) :
    Marked outside opening (joinTreeOf entries tree) sources := by
  cases entries with
  | nil =>
    rw [sourcesOf] at joined
    cases joined
    rw [joinTreeOf]
    exact start
  | cons entry rest =>
    obtain ⟨_, link, factor, _, constraint⟩ := entry
    rw [sourcesOf] at joined
    obtain ⟨middle, hm, hr⟩ := bind_eq_ok joined
    rw [joinTreeOf]
    exact sourcesOf_marked rest (start.join (factor.joinTo_marked hm)) hr

end

/-- A source is marked if and only if the right operand of a `LEFT` or `FULL` join begins with it
or a `RIGHT` or `FULL` join stands after it. -/
theorem sourcesOf_nullable {entries : List Entry} {catalog : Catalog} {ctes : Ctes}
    {sources : List Source} (joined : sourcesOf entries catalog ctes [] = .ok sources) :
    sources.map Source.nullable =
      ((joinTreeOf entries .nothing).places false false false).map JoinTree.Place.marked := by
  have start : Marked [] false .nothing [] := rfl
  simpa [Marked] using sourcesOf_marked entries start joined

namespace Source

theorem finish_nullable (source : Source) : source.finish.nullable = source.nullable := rfl

theorem finish_columns {source : Source} (h : source.finish.nullable = true)
    {column : ResultColumn} (member : column ∈ source.finish.columns) :
    column.notNull = false ∧ column.joinedNullable = true := by
  rw [finish_nullable] at h
  obtain ⟨plain, _, rfl⟩ := List.mem_map.mp member
  simp [seen, h]

end Source

/-- The flags tell the null-supplied sources apart from the others if and only if each
null-supplied source begins the right operand of a `LEFT` or `FULL` join or has a `RIGHT` or `FULL`
join somewhere after it, and no other source has such a join after it. No column of a source with
the flag is taken to be filled. -/
theorem Scope.nullable_eq_nullSupplied_iff {entries : List Entry} {catalog : Catalog} {ctes : Ctes}
    {sources : List Source} (joined : sourcesOf entries catalog ctes [] = .ok sources) :
    ((ofSources catalog ctes sources).sources.map Source.nullable =
        (joinTreeOf entries .nothing).nullSupplied false ↔
      ∀ place ∈ (joinTreeOf entries .nothing).places false false false,
        (place.nullSupplied = true ↔ place.opens = true ∨ place.followed = true)) ∧
    ∀ source ∈ (ofSources catalog ctes sources).sources, source.nullable = true →
      ∀ column ∈ source.columns, column.notNull = false ∧ column.joinedNullable = true := by
  constructor
  · have flags : (ofSources catalog ctes sources).sources.map Source.nullable =
        sources.map Source.nullable := by
      simp only [ofSources, List.map_map]
      exact List.map_congr_left fun s _ => s.finish_nullable
    rw [flags, sourcesOf_nullable joined,
      ← JoinTree.places_nullSupplied _ false false false, List.map_inj_left]
    constructor
    · intro same place member
      rw [← same place member]
      simp [JoinTree.Place.marked]
    · intro exact' place member
      have h := exact' place member
      rw [Bool.eq_iff_iff, h]
      simp [JoinTree.Place.marked]
  · intro source member marked column hc
    obtain ⟨plain, _, rfl⟩ := List.mem_map.mp member
    exact Source.finish_columns marked hc

/-- `a LEFT JOIN (b CROSS JOIN c) FULL JOIN d` -/
def groupThenFull : List Entry :=
  [⟨false, .comma, .phrase [], none, .none⟩,
    ⟨false, .left, .nested (.phrase []) [⟨false, .cross, .phrase [], none, .none⟩] none, none,
      .none⟩,
    ⟨false, .full, .phrase [], none, .none⟩]

theorem Scope.nullable_groupThenFull :
    ∃ sources, sourcesOf groupThenFull .empty [] [] = .ok sources ∧
      (ofSources .empty [] sources).sources.map Source.nullable =
        (joinTreeOf groupThenFull .nothing).nullSupplied false ∧
      (joinTreeOf groupThenFull .nothing).nullSupplied false = [true, true, true, true] := by
  refine ⟨_, rfl, (nullable_eq_nullSupplied_iff rfl).1.mpr ?_, rfl⟩
  decide

/-- The second source of the parentheses is missed in `a LEFT JOIN (b CROSS JOIN c)`. -/
example :
    ∃ sources, sourcesOf (groupThenFull.take 2) .empty [] [] = .ok sources ∧
      sources.map Source.nullable = [false, true, false] ∧
      (joinTreeOf (groupThenFull.take 2) .nothing).nullSupplied false = [false, true, true] :=
  ⟨_, rfl, rfl, rfl⟩

/-- Whether the entry is in parentheses, which may hold several. -/
def Sql.Factor.isGroup : Factor → Bool
  | .nested _ _ _ => true
  | _ => false

theorem Sql.Factor.joinTree_of_not_group {factor : Factor} (h : factor.isGroup = false) :
    factor.joinTree = .source := by
  cases factor <;> first | rfl | cases h

namespace JoinTree

/-- The marks are right wherever the tree is joined to. -/
def RightlyMarked (tree : JoinTree) : Prop :=
  ∀ later, ∀ place ∈ tree.places later false later, place.marked = place.nullSupplied

theorem RightlyMarked.join_source {tree : JoinTree} (h : tree.RightlyMarked) (side : Side) :
    (join side tree source).RightlyMarked := by
  intro later place member
  simp only [places, hasPaddedLeft, Bool.or_false, List.mem_append, List.mem_singleton] at member
  rcases member with member | rfl
  · exact h _ place member
  · exact Bool.or_comm _ _

theorem rightlyMarked_of_not_group {entries : List Entry}
    (plain : ∀ entry ∈ entries, entry.factor.isGroup = false) {tree : JoinTree}
    (h : tree.RightlyMarked) : (joinTreeOf entries tree).RightlyMarked := by
  induction entries generalizing tree with
  | nil => rwa [joinTreeOf]
  | cons entry rest ih =>
    have leaf := Factor.joinTree_of_not_group (plain entry List.mem_cons_self)
    obtain ⟨_, link, factor, _, _⟩ := entry
    rw [joinTreeOf, leaf]
    exact ih (fun entry member => plain entry (List.mem_cons_of_mem _ member)) (h.join_source _)

end JoinTree

/-- Without parentheses the flags always tell the null-supplied sources apart from the others. -/
theorem sourcesOf_nullable_of_not_group {entries : List Entry} {catalog : Catalog} {ctes : Ctes}
    {sources : List Source} (plain : ∀ entry ∈ entries, entry.factor.isGroup = false)
    (joined : sourcesOf entries catalog ctes [] = .ok sources) :
    sources.map Source.nullable = (joinTreeOf entries .nothing).nullSupplied false := by
  have marked : JoinTree.nothing.RightlyMarked := by
    intro later place member
    cases member
  rw [sourcesOf_nullable joined,
    ← JoinTree.places_nullSupplied _ false false false]
  exact List.map_congr_left (JoinTree.rightlyMarked_of_not_group plain marked false)

end TypedRows
