import TypedRows.Proofs.Evaluation

/-! Whether an expression that is taken to be filled can be null after all.
The type of `IN`, `TRIM` and `SUBSTRING` looks at the first operand only. The main statement is that
nothing else goes wrong. -/

namespace TypedRows

open Sql

namespace Sql.Expr

/-- The operands of an expression. Those of subqueries are not among them. -/
def children : Expr → List Expr
  | nested e | unary _ e | factorial e | is _ _ e | cast _ e _ _ | collate e _ | inQuery _ e _ => [e]
  | binary _ left right | isDistinct _ left right => [left, right]
  | like _ _ _ e pattern _ => [e, pattern]
  | between _ e low high => [e, low, high]
  | inList _ e list => e :: list
  | call c => c.arguments.filterMap Item.expr?
  | choose operand branches otherwise =>
    operand.toList ++ branches.flatMap (fun b => [b.condition, b.result]) ++ otherwise.toList
  | trim _ what e => what.toList ++ [e]
  | substring e start count _ => e :: (start.toList ++ count.toList)
  | tuple list => list
  | column _ | literal _ | existsRow _ _ | subquery _ | arrayOf _ _ | phrase _ => []

/-- The expression itself, its operands, their operands, and so on. -/
inductive Part (part : Expr) : Expr → Prop where
  | self : Part part part
  | under {child e : Expr} : child ∈ e.children → Part part child → Part part e

theorem Part.child {child part e : Expr} (inside : Part part e) (member : child ∈ part.children) :
    Part child e := by
  induction inside with
  | self => exact .under member .self
  | under outer _ ih => exact .under outer ih

theorem sizeOf_expr?_le {items : List Item} {e : Expr} (h : e ∈ items.filterMap Item.expr?) :
    sizeOf e < sizeOf items := by
  obtain ⟨item, member, he⟩ := List.mem_filterMap.mp h
  have := List.sizeOf_lt_of_mem member
  cases item with
  | expr label inner =>
    cases he
    simp only [Item.expr.sizeOf_spec] at this
    omega
  | star label path => cases he

theorem sizeOf_child_lt {child e : Expr} (h : child ∈ e.children) : sizeOf child < sizeOf e := by
  cases e with
  | call c =>
    have := sizeOf_expr?_le h
    cases c
    simp only [call.sizeOf_spec, Call.mk.sizeOf_spec] at this ⊢
    omega
  | choose operand branches otherwise =>
    simp only [children, List.mem_append, List.mem_flatMap, List.mem_cons, List.not_mem_nil,
      or_false, Option.mem_toList] at h
    simp only [choose.sizeOf_spec]
    rcases h with (rfl | ⟨b, hb, rfl | rfl⟩) | rfl
    · simp only [Option.some.sizeOf_spec]; omega
    · have := List.sizeOf_lt_of_mem hb
      cases b
      simp only [Branch.mk.sizeOf_spec] at this ⊢
      omega
    · have := List.sizeOf_lt_of_mem hb
      cases b
      simp only [Branch.mk.sizeOf_spec] at this ⊢
      omega
    · simp only [Option.some.sizeOf_spec]; omega
  | inList negated x list =>
    simp only [children, List.mem_cons] at h
    simp only [inList.sizeOf_spec]
    rcases h with rfl | h
    · omega
    · have := List.sizeOf_lt_of_mem h
      omega
  | tuple list =>
    have := List.sizeOf_lt_of_mem (show child ∈ list from h)
    simp only [tuple.sizeOf_spec]
    omega
  | trim side what x =>
    simp only [children, List.mem_append, List.mem_cons, List.not_mem_nil, or_false,
      Option.mem_toList] at h
    simp only [trim.sizeOf_spec]
    rcases h with rfl | rfl
    · simp only [Option.some.sizeOf_spec]; omega
    · omega
  | substring x start count commas =>
    simp only [children, List.mem_append, List.mem_cons, Option.mem_toList] at h
    simp only [substring.sizeOf_spec]
    rcases h with rfl | rfl | rfl
    · omega
    · simp only [Option.some.sizeOf_spec]; omega
    · simp only [Option.some.sizeOf_spec]; omega
  | nested _ | unary _ _ | factorial _ | is _ _ _ | cast _ _ _ _ | collate _ _ | inQuery _ _ _ =>
    simp only [children, List.mem_singleton] at h
    subst h
    simp only [nested.sizeOf_spec, unary.sizeOf_spec, factorial.sizeOf_spec, is.sizeOf_spec,
      cast.sizeOf_spec, collate.sizeOf_spec, inQuery.sizeOf_spec]
    omega
  | binary _ _ _ | isDistinct _ _ _ | like _ _ _ _ _ _ =>
    simp only [children, List.mem_cons, List.not_mem_nil, or_false] at h
    simp only [binary.sizeOf_spec, isDistinct.sizeOf_spec, like.sizeOf_spec]
    rcases h with rfl | rfl <;> omega
  | between _ _ _ _ =>
    simp only [children, List.mem_cons, List.not_mem_nil, or_false] at h
    simp only [between.sizeOf_spec]
    rcases h with rfl | rfl | rfl <;> omega
  | column _ | literal _ | existsRow _ _ | subquery _ | arrayOf _ _ | phrase _ => cases h

/-- Induction on an expression through its operands. -/
theorem children_induction {motive : Expr → Prop}
    (step : ∀ e, (∀ child ∈ e.children, motive child) → motive e) (e : Expr) : motive e :=
  step e fun child _ => children_induction step child
termination_by sizeOf e
decreasing_by exact sizeOf_child_lt ‹_›

end Sql.Expr

attribute [local simp] Sql.Expr.typeIn Sql.Expr.eval

/-! Lists of operands, one by one. -/

section lists

variable {V : Type} (m : Engine V) (r : Reading V) (scope : Scope)

theorem typesOfExprs_eq_map (list : List Expr) :
    typesOfExprs list scope = list.map fun e => e.typeIn scope := by
  induction list with
  | nil => rw [typesOfExprs]; rfl
  | cons e rest ih => rw [typesOfExprs, ih]; rfl

theorem typesOfArguments_eq_map (items : List Item) :
    typesOfArguments items scope = (items.filterMap Item.expr?).map fun e => e.typeIn scope := by
  induction items with
  | nil => rw [typesOfArguments]; rfl
  | cons item rest ih => cases item <;> rw [typesOfArguments, ih] <;> rfl

theorem typesOfBranches_eq_map (branches : List Branch) :
    typesOfBranches branches scope = branches.map fun b => b.result.typeIn scope := by
  induction branches with
  | nil => rw [typesOfBranches]; rfl
  | cons branch rest ih =>
    obtain ⟨condition, result⟩ := branch
    rw [typesOfBranches, ih, Branch.typeIn]
    rfl

theorem evalExprs_eq_map (list : List Expr) :
    evalExprs m r list = list.map fun e => e.eval m r := by
  induction list with
  | nil => rw [evalExprs]; rfl
  | cons e rest ih => rw [evalExprs, ih]; rfl

theorem evalItems_eq_map (items : List Item) :
    evalItems m r items = (items.filterMap Item.expr?).map fun e => e.eval m r := by
  induction items with
  | nil => rw [evalItems]; rfl
  | cons item rest ih => cases item <;> rw [evalItems, ih] <;> rfl

theorem evalBranches_eq_map (branches : List Branch) :
    evalBranches m r branches =
      branches.map fun b => (b.condition.eval m r, b.result.eval m r) := by
  induction branches with
  | nil => rw [evalBranches]; rfl
  | cons branch rest ih =>
    obtain ⟨condition, result⟩ := branch
    rw [evalBranches, ih]
    rfl

namespace Sql.Expr

theorem eval_choose (operand otherwise : Option Expr) (branches : List Branch) :
    (choose operand branches otherwise).eval m r =
      m.choose (choose operand branches otherwise) (operand.map fun x => x.eval m r)
        (otherwise.bind fun x => x.eval m r)
        (branches.map fun b => (b.condition.eval m r, b.result.eval m r)) := by
  cases operand <;> cases otherwise <;> simp only [eval, evalBranches_eq_map] <;> rfl

theorem eval_trim (side : Option TrimSide) (what : Option Expr) (x : Expr) :
    (trim side what x).eval m r =
      m.apply (trim side what x) ((what.toList ++ [x]).map fun y => y.eval m r) := by
  cases what <;> simp only [eval] <;> rfl

theorem eval_substring (x : Expr) (start count : Option Expr) (commas : Bool) :
    (substring x start count commas).eval m r =
      m.apply (substring x start count commas)
        ((x :: (start.toList ++ count.toList)).map fun y => y.eval m r) := by
  cases start <;> cases count <;> simp only [eval] <;> rfl

end Sql.Expr

end lists

namespace Engine

variable {V : Type} (m : Engine V)

theorem allValues_isSome (operands : List (Option V)) :
    (allValues operands).isSome = operands.all Option.isSome := by
  induction operands with
  | nil => rfl
  | cons v rest ih => cases v <;> simp [allValues, ih]

theorem apply_isSome (e : Expr) (operands : List (Option V)) :
    (m.apply e operands).isSome = operands.all Option.isSome := by
  rw [apply, Option.isSome_map, allValues_isSome]

theorem bothTrue_isSome {a b : Option Bool} (ha : a.isSome = true) (hb : b.isSome = true) :
    (bothTrue a b).isSome = true := by
  obtain ⟨x, rfl⟩ := Option.isSome_iff_exists.mp ha
  obtain ⟨y, rfl⟩ := Option.isSome_iff_exists.mp hb
  cases x <;> cases y <;> rfl

theorem eitherTrue_isSome {a b : Option Bool} (ha : a.isSome = true) (hb : b.isSome = true) :
    (eitherTrue a b).isSome = true := by
  obtain ⟨x, rfl⟩ := Option.isSome_iff_exists.mp ha
  obtain ⟨y, rfl⟩ := Option.isSome_iff_exists.mp hb
  cases x <;> cases y <;> rfl

theorem notAbove_isSome (e : Expr) {a b : Option V} (ha : a.isSome = true) (hb : b.isSome = true) :
    (m.notAbove e a b).isSome = true := by
  obtain ⟨x, rfl⟩ := Option.isSome_iff_exists.mp ha
  obtain ⟨y, rfl⟩ := Option.isSome_iff_exists.mp hb
  rfl

theorem flag_isSome (negated : Bool) (truth : Option Bool) :
    (m.flag negated truth).isSome = truth.isSome := by
  rw [flag, Option.isSome_map]

/-- A value that is not null is found in a set, or is not, unless a null of the set is all that
might equal it. -/
theorem isIn_isSome_iff (e : Expr) (v : V) (set : List (Option V)) :
    (m.isIn e (some v) set).isSome = true ↔
      (none ∈ set → ∃ w, some w ∈ set ∧ m.equal e v w = true) := by
  have found : (set.any fun w => w.any (m.equal e v)) = true ↔
      ∃ w, some w ∈ set ∧ m.equal e v w = true := by
    simp only [List.any_eq_true, Option.any_eq_true]
    constructor
    · rintro ⟨_, member, w, rfl, h⟩
      exact ⟨w, member, h⟩
    · rintro ⟨w, member, h⟩
      exact ⟨_, member, w, rfl, h⟩
  have missing : set.any Option.isNone = true ↔ none ∈ set := by simp
  unfold isIn
  cases set with
  | nil => simp
  | cons first rest =>
    rw [← found, ← missing]
    simp only [List.isEmpty_cons, Bool.false_eq_true, if_false]
    generalize (first :: rest).any Option.isNone = missing
    generalize ((first :: rest).any fun w => w.any (m.equal e v)) = found
    cases missing <;> cases found <;> simp

/-- With a last result every branch gives a value if all results are values. -/
theorem choose_isSome (e : Expr) (operand : Option (Option V)) {otherwise : Option V}
    (last : otherwise.isSome = true) {branches : List (Option V × Option V)}
    (all : ∀ b ∈ branches, b.2.isSome = true) :
    (m.choose e operand otherwise branches).isSome = true := by
  induction branches with
  | nil => exact last
  | cons b rest ih =>
    obtain ⟨condition, result⟩ := b
    unfold choose
    split
    · exact all _ List.mem_cons_self
    · exact ih fun b member => all b (List.mem_cons_of_mem _ member)

end Engine

/-! Types and values. -/

section soundness

variable {V : Type} (m : Engine V) (r : Reading V) (scope : Scope)

namespace Sql.Expr

/-- What the type says of null is true of the value. -/
def TypeHolds (e : Expr) : Prop :=
  (e.typeIn scope).notNull = true → (e.eval m r).isSome = true

/-- The operands that the type does not look at do no harm: no null among the rows of an `IN`
query where the value is not found, and no null as the characters of `TRIM` or the bounds of
`SUBSTRING`. -/
def UntypedHarmless (e : Expr) : Prop :=
  match e with
  | .inQuery _ x query =>
    (x.typeIn scope).notNull = true → ∀ v, x.eval m r = some v → none ∈ r.rows query →
      ∃ w, some w ∈ r.rows query ∧ m.equal e v w = true
  | .trim _ (some what) x => (x.typeIn scope).notNull = true → (what.eval m r).isSome = true
  | .substring x start count _ =>
    (x.typeIn scope).notNull = true →
      (∀ s ∈ start, (s.eval m r).isSome = true) ∧ ∀ n ∈ count, (n.eval m r).isSome = true
  | _ => True

/-- The functions whose values are known. -/
def knownCalls : List String :=
  ["COALESCE", "IFNULL", "NULLIF", "IIF", "LOWER", "UPPER", "LENGTH"]

def isKnown : Expr → Bool
  | .call c => knownCalls.contains (Text.foldUpper c.name.base)
  | _ => true

end Sql.Expr

/-- No column that the scope takes to be filled is null. -/
def Reading.Fits : Prop :=
  ∀ ref, (scope.columnType ref).notNull = true → (r.column ref).isSome = true

variable {m r scope}

namespace Sql.Expr

theorem typeHolds_of_nullable {e : Expr} (h : (e.typeIn scope).notNull = false) :
    e.TypeHolds m r scope := by
  intro notNull
  rw [h] at notNull
  cases notNull

theorem typeHolds_of_apply {e : Expr} (operands : List Expr)
    (value : e.eval m r = m.apply e (operands.map fun x => x.eval m r))
    (types : (e.typeIn scope).notNull = true → ∀ x ∈ operands, (x.typeIn scope).notNull = true)
    (hold : ∀ x ∈ operands, x.TypeHolds m r scope) : e.TypeHolds m r scope := by
  intro notNull
  rw [value, Engine.apply_isSome, List.all_map, List.all_eq_true]
  exact fun x member => hold x member (types notNull x member)

theorem typeHolds_column (fits : r.Fits scope) (path : Path) :
    (column path).TypeHolds m r scope := by
  intro notNull
  rw [typeIn] at notNull
  rw [eval]
  cases found : ColumnRef.ofPath? path with
  | none => simp [found, ExprType.unknown] at notNull
  | some ref =>
    rw [found] at notNull
    exact fits ref notNull

theorem typeHolds_literal (value : Literal) : (literal value).TypeHolds m r scope := by
  intro notNull
  rw [typeIn] at notNull
  cases value with
  | null | placeholder text => cases notNull
  | _ => rw [eval] <;> first | rfl | simp

theorem typeHolds_binary (op : BinaryOp) {left right : Expr} (hl : left.TypeHolds m r scope)
    (hr : right.TypeHolds m r scope) : (binary op left right).TypeHolds m r scope := by
  have both : (left.typeIn scope).notNull = true ∧ (right.typeIn scope).notNull = true →
      (left.eval m r).isSome = true ∧ (right.eval m r).isSome = true :=
    fun h => ⟨hl h.1, hr h.2⟩
  intro notNull
  rw [typeIn] at notNull
  rw [eval]
  cases op with
  | divide | modulo | bitXor | arrow | longArrow | named text => cases notNull
  | nullSafeEqual => rfl
  | and =>
    obtain ⟨a, b⟩ := both (Bool.and_eq_true _ _ ▸ notNull)
    rw [Engine.binary, Engine.flag_isSome]
    exact Engine.bothTrue_isSome (by rwa [Option.isSome_map]) (by rwa [Option.isSome_map])
  | or =>
    obtain ⟨a, b⟩ := both (Bool.and_eq_true _ _ ▸ notNull)
    rw [Engine.binary, Engine.flag_isSome]
    exact Engine.eitherTrue_isSome (by rwa [Option.isSome_map]) (by rwa [Option.isSome_map])
  | _ =>
    obtain ⟨a, b⟩ := both (Bool.and_eq_true _ _ ▸ notNull)
    simp [Engine.binary, Engine.apply_isSome, a, b]

theorem typeHolds_between (negated : Bool) {x low high : Expr} (hx : x.TypeHolds m r scope)
    (hl : low.TypeHolds m r scope) (hh : high.TypeHolds m r scope) :
    (between negated x low high).TypeHolds m r scope := by
  intro notNull
  rw [typeIn] at notNull
  simp only [ExprType.named, Bool.and_eq_true] at notNull
  rw [eval, Engine.flag_isSome]
  exact Engine.bothTrue_isSome (Engine.notAbove_isSome m _ (hl notNull.1.2) (hx notNull.1.1))
    (Engine.notAbove_isSome m _ (hx notNull.1.1) (hh notNull.2))

theorem typeHolds_inList (negated : Bool) {x : Expr} {list : List Expr}
    (hx : x.TypeHolds m r scope) (hl : ∀ y ∈ list, y.TypeHolds m r scope) :
    (inList negated x list).TypeHolds m r scope := by
  intro notNull
  rw [typeIn, typesOfExprs_eq_map] at notNull
  simp only [ExprType.named, Bool.and_eq_true, ExprType.allNotNull, List.all_map,
    List.all_eq_true] at notNull
  obtain ⟨v, hv⟩ := Option.isSome_iff_exists.mp (hx notNull.1)
  rw [eval, Engine.flag_isSome, hv, Engine.isIn_isSome_iff, evalExprs_eq_map]
  -- every member of the list is taken to be filled, so that no null is among them
  intro null
  obtain ⟨y, member, hy⟩ := List.mem_map.mp null
  have filled := hl y member (notNull.2 y member)
  rw [hy] at filled
  cases filled

theorem typeHolds_choose {operand otherwise : Option Expr} {branches : List Branch}
    (hb : ∀ b ∈ branches, b.result.TypeHolds m r scope)
    (ho : ∀ x ∈ otherwise, x.TypeHolds m r scope) :
    (choose operand branches otherwise).TypeHolds m r scope := by
  intro notNull
  cases otherwise with
  | none =>
    rw [typeIn] at notNull
    cases notNull
  | some last =>
    rw [typeIn, typesOfBranches_eq_map] at notNull
    simp only [ExprType.ofChoice, Option.isSome_some, Bool.true_and, ExprType.allNotNull,
      List.all_eq_true, List.mem_append, List.mem_map, Option.mem_toList] at notNull
    rw [eval_choose]
    refine Engine.choose_isSome m _ _ (ho last rfl (notNull _ (.inr rfl))) ?_
    intro pair member
    obtain ⟨b, hm, rfl⟩ := List.mem_map.mp member
    exact hb b hm (notNull _ (.inl ⟨b, hm, rfl⟩))

theorem apply_holds {args : List Expr} (hold : ∀ x ∈ args, x.TypeHolds m r scope)
    (notNull : ExprType.allNotNull (args.map fun x => x.typeIn scope) = true) (e : Expr) :
    (m.apply e (args.map fun x => x.eval m r)).isSome = true := by
  rw [ExprType.allNotNull, List.all_map, List.all_eq_true] at notNull
  rw [Engine.apply_isSome, List.all_map, List.all_eq_true]
  exact fun x member => hold x member (notNull x member)

theorem findSome?_holds {args : List Expr} (hold : ∀ x ∈ args, x.TypeHolds m r scope)
    (notNull : (args.map fun x => x.typeIn scope).any ExprType.notNull = true) :
    ((args.map fun x => x.eval m r).findSome? id).isSome = true := by
  rw [List.any_map, List.any_eq_true] at notNull
  obtain ⟨x, member, hx⟩ := notNull
  rw [List.findSome?_isSome_iff]
  exact ⟨_, List.mem_map_of_mem member, hold x member hx⟩

/-- The type asks for a condition and two results. -/
theorem iif_holds {args : List Expr} (hold : ∀ x ∈ args, x.TypeHolds m r scope)
    (notNull : (((args.map fun x => x.typeIn scope).drop 1).length == 2 &&
      ExprType.allNotNull ((args.map fun x => x.typeIn scope).drop 1)) = true) :
    (m.iif (args.map fun x => x.eval m r)).isSome = true := by
  match args with
  | [condition, yes, no] =>
    simp only [List.map_cons, List.map_nil, List.drop_succ_cons, List.drop_zero,
      ExprType.allNotNull, List.all_cons, List.all_nil, Bool.and_eq_true] at notNull
    simp only [List.map_cons, List.map_nil, Engine.iif]
    split
    · exact hold yes (by simp) notNull.2.1
    · exact hold no (by simp) notNull.2.2.1
  | [] | [_] | [_, _] | _ :: _ :: _ :: _ :: _ => simp at notNull

/-- The seven functions, each with its own rule. -/
theorem typeHolds_call {c : Call} (known : (call c).isKnown = true)
    (hold : ∀ x ∈ c.arguments.filterMap Item.expr?, x.TypeHolds m r scope) :
    (call c).TypeHolds m r scope := by
  obtain ⟨name, _, _, arguments, _, _, _, _⟩ := c
  intro notNull
  rw [typeIn, Call.typeIn, typesOfArguments_eq_map] at notNull
  rw [eval, evalItems_eq_map]
  simp only [isKnown, knownCalls, List.contains_cons, List.contains_nil, Bool.or_false,
    Bool.or_eq_true, beq_iff_eq] at known
  dsimp only at hold
  generalize arguments.filterMap Item.expr? = args at *
  generalize Text.foldUpper name.base = function at *
  rcases known with rfl | rfl | rfl | rfl | rfl | rfl | rfl
  · exact findSome?_holds hold notNull
  · exact findSome?_holds hold notNull
  · cases notNull
  · exact iif_holds hold notNull
  · exact apply_holds hold notNull _
  · exact apply_holds hold notNull _
  · exact apply_holds hold notNull _

theorem typeHolds_inQuery_iff (negated : Bool) {x : Expr} (query : Query)
    (hx : x.TypeHolds m r scope) :
    (inQuery negated x query).TypeHolds m r scope ↔
      (inQuery negated x query).UntypedHarmless m r scope := by
  unfold TypeHolds UntypedHarmless
  rw [typeIn, eval, Engine.flag_isSome]
  constructor
  · intro holds notNull v hv
    have := holds notNull
    rwa [hv, Engine.isIn_isSome_iff] at this
  · intro harmless notNull
    obtain ⟨v, hv⟩ := Option.isSome_iff_exists.mp (hx notNull)
    rw [hv, Engine.isIn_isSome_iff]
    exact harmless notNull v hv

theorem typeHolds_trim_iff (side : Option TrimSide) (what : Option Expr) {x : Expr}
    (hx : x.TypeHolds m r scope) :
    (trim side what x).TypeHolds m r scope ↔ (trim side what x).UntypedHarmless m r scope := by
  unfold TypeHolds
  rw [eval_trim, Engine.apply_isSome, typeIn]
  cases what with
  | none =>
    refine iff_of_true (fun notNull => ?_) trivial
    simpa using hx notNull
  | some what =>
    simp only [UntypedHarmless, ExprType.named, Option.toList_some, List.map_append, List.map_cons,
      List.map_nil, List.all_append, List.all_cons, List.all_nil, Bool.and_true, Bool.and_eq_true]
    exact ⟨fun h notNull => (h notNull).1, fun h notNull => ⟨h notNull, hx notNull⟩⟩

theorem typeHolds_substring_iff {x : Expr} (start count : Option Expr) (commas : Bool)
    (hx : x.TypeHolds m r scope) :
    (substring x start count commas).TypeHolds m r scope ↔
      (substring x start count commas).UntypedHarmless m r scope := by
  unfold TypeHolds UntypedHarmless
  rw [eval_substring, Engine.apply_isSome, typeIn]
  simp only [ExprType.named, List.map_cons, List.all_cons, Bool.and_eq_true, List.all_map,
    List.all_eq_true, List.mem_append, Option.mem_toList, Function.comp_apply]
  constructor
  · intro h notNull
    exact ⟨fun s hs => (h notNull).2 s (.inl hs), fun n hn => (h notNull).2 n (.inr hn)⟩
  · intro h notNull
    refine ⟨hx notNull, ?_⟩
    rintro y (hy | hy)
    · exact (h notNull).1 y hy
    · exact (h notNull).2 y hy

/-- One step: if the types of the operands hold, so does the type of the whole, unless one of the
three forms has a harmful operand. -/
theorem typeHolds_iff (fits : r.Fits scope) {e : Expr} (known : e.isKnown = true)
    (hold : ∀ child ∈ e.children, child.TypeHolds m r scope) :
    e.TypeHolds m r scope ↔ e.UntypedHarmless m r scope := by
  cases e with
  | inQuery negated x query => exact typeHolds_inQuery_iff negated query (hold x (by simp [children]))
  | trim side what x => exact typeHolds_trim_iff side what (hold x (by simp [children]))
  | substring x start count commas =>
    exact typeHolds_substring_iff start count commas (hold x (by simp [children]))
  | column path => exact iff_of_true (typeHolds_column fits path) trivial
  | literal value => exact iff_of_true (typeHolds_literal value) trivial
  | nested x | collate x _ =>
    refine iff_of_true ?_ trivial
    have := hold x (by simp [children])
    rwa [TypeHolds, typeIn, eval]
  | unary op x =>
    refine iff_of_true (typeHolds_of_apply [x] (by rw [eval]; rfl) ?_ hold) trivial
    intro notNull
    rw [typeIn] at notNull
    cases op <;> simpa [ExprType.ofUnary, ExprType.named] using notNull
  | factorial x | cast _ x _ _ =>
    refine iff_of_true (typeHolds_of_apply [x] (by rw [eval]; rfl) ?_ hold) trivial
    intro notNull
    rw [typeIn] at notNull
    simpa [ExprType.named] using notNull
  | like op negated any x pattern escape =>
    refine iff_of_true (typeHolds_of_apply [x, pattern] (by rw [eval]; rfl) ?_ hold) trivial
    intro notNull
    rw [typeIn] at notNull
    simpa [ExprType.named] using notNull
  | binary op left right =>
    exact iff_of_true
      (typeHolds_binary op (hold left (by simp [children])) (hold right (by simp [children]))) trivial
  | between negated x low high =>
    exact iff_of_true (typeHolds_between negated (hold x (by simp [children]))
      (hold low (by simp [children])) (hold high (by simp [children]))) trivial
  | inList negated x list =>
    refine iff_of_true (typeHolds_inList negated (hold x (by simp [children])) ?_) trivial
    exact fun y member => hold y (List.mem_cons_of_mem _ member)
  | choose operand branches otherwise =>
    refine iff_of_true (typeHolds_choose ?_ ?_) trivial
    · intro b member
      refine hold _ (List.mem_append_left _ (List.mem_append_right _ ?_))
      exact List.mem_flatMap.mpr ⟨b, member, by simp⟩
    · intro x member
      exact hold x (List.mem_append_right _ (Option.mem_toList.mpr member))
  | call c => exact iff_of_true (typeHolds_call known hold) trivial
  -- never `NULL`, whatever the operands are
  | is _ _ _ | isDistinct _ _ _ | existsRow _ _ =>
    refine iff_of_true (fun _ => ?_) trivial
    rw [eval]
    rfl
  | subquery query =>
    refine iff_of_true (typeHolds_of_nullable ?_) trivial
    rw [typeIn]
    split <;> rfl
  | arrayOf _ _ | tuple _ | phrase _ =>
    exact iff_of_true (typeHolds_of_nullable (by rw [typeIn]; rfl)) trivial

end Sql.Expr

end soundness

namespace Sql.Expr

variable {V : Type}

/-- Throughout an expression the types tell rightly what cannot be null if and only if no operand
that the types do not look at does harm. -/
theorem typeHolds_parts_iff (m : Engine V) (r : Reading V) (scope : Scope) (e : Expr)
    (known : ∀ part, Part part e → part.isKnown = true) (fits : r.Fits scope) :
    (∀ part, Part part e → part.TypeHolds m r scope) ↔
      ∀ part, Part part e → part.UntypedHarmless m r scope := by
  constructor
  · intro holds part inside
    refine (typeHolds_iff fits (known part inside) fun child member => ?_).mp (holds part inside)
    exact holds child (inside.child member)
  · intro harmless part
    -- from the operands upwards, each of which is a part as well
    induction part using children_induction with
    | step part ih =>
      intro inside
      refine (typeHolds_iff fits (known part inside) fun child member => ?_).mpr
        (harmless part inside)
      exact ih child member (inside.child member)

/-- `SUBSTRING('abc' FROM 1)` -/
def middle : Expr :=
  .substring (.literal (.string "abc")) (some (.literal (.number "1" false))) none false

/-- `TRIM('a' FROM SUBSTRING('abc' FROM 1)) IN (VALUES (NULL), (1))` -/
def search : Expr :=
  .inQuery false (.trim none (some (.literal (.string "a"))) middle)
    ⟨false, [], .values false [[.literal .null], [.literal (.number "1" false)]], [], none, none, []⟩

theorem Part.literal_eq {part : Expr} {value : Literal} (inside : Part part (literal value)) :
    part = literal value := by
  cases inside with
  | self => rfl
  | under member _ => cases member

theorem or_eq_of_mem_pair {e a b : Expr} (member : e ∈ [a, b]) : e = a ∨ e = b := by
  simpa using member

theorem Part.of_search {part : Expr} (inside : Part part search) :
    part = search ∨ part = .trim none (some (.literal (.string "a"))) middle ∨ part = middle ∨
      ∃ value, part = .literal (.string value) ∨ part = .literal (.number value false) := by
  cases inside with
  | self => exact .inl rfl
  | under member inside =>
    cases List.mem_singleton.mp member
    cases inside with
    | self => exact .inr (.inl rfl)
    | under member inside =>
      rcases or_eq_of_mem_pair member with rfl | rfl
      · exact .inr (.inr (.inr ⟨"a", .inl inside.literal_eq⟩))
      · cases inside with
        | self => exact .inr (.inr (.inl rfl))
        | under member inside =>
          rcases or_eq_of_mem_pair member with rfl | rfl
          · exact .inr (.inr (.inr ⟨"abc", .inl inside.literal_eq⟩))
          · exact .inr (.inr (.inr ⟨"1", .inr inside.literal_eq⟩))

/-- Texts, where an operator gives its last operand. -/
def textEngine : Engine String where
  literal
    | .string value => value
    | .number digits _ => digits
    | _ => ""
  strict _ operands := operands.getLast?.getD ""
  quotient _ _ _ := none
  truth s := s != ""
  ofTruth b := if b then "1" else ""
  equal _ v w := v == w
  atMost _ a b := a ≤ b

def searchReading : Reading String where
  column _ := none
  parameter _ := none
  rows _ := [none, some "1"]
  other _ := none

/-- The value is found among rows that hold a null. -/
theorem typeHolds_search :
    (search.typeIn ⟨.empty, [], []⟩).notNull = true ∧
      ∀ part, Part part search → part.TypeHolds textEngine searchReading ⟨.empty, [], []⟩ := by
  refine ⟨rfl, (typeHolds_parts_iff _ _ _ _ ?_ ?_).mpr ?_⟩
  · intro part inside
    rcases inside.of_search with rfl | rfl | rfl | ⟨value, rfl | rfl⟩ <;> rfl
  · rintro ⟨table, column⟩ notNull
    cases table <;> cases notNull
  · intro part inside
    rcases inside.of_search with rfl | rfl | rfl | ⟨value, rfl | rfl⟩
    · intro _ v hv _
      cases hv
      exact ⟨"1", by simp [searchReading], rfl⟩
    · exact fun _ => rfl
    · refine fun _ => ⟨?_, ?_⟩
      · rintro s ⟨⟩
        rfl
      · rintro n ⟨⟩
    · trivial
    · trivial

end Sql.Expr

end TypedRows
