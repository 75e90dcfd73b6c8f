import TypedRows.Proofs.RelatedSources

/-! Columns, types and sources that differ in what a comparison of two resolutions lets pass:
whether values are known to be filled, the texts of computed columns, the names of common table
expressions. What is made of related parts is related again. -/

namespace TypedRows

open Sql

/-- How far two resolutions may go apart. -/
structure Tolerance where
  /-- Whether values are never null, on both sides. -/
  flag : Bool → Bool → Prop
  /-- The texts of computed columns. -/
  text : String → String → Prop
  /-- The names of common table expressions. -/
  cte : String → String → Prop
  error : ResolveError → ResolveError → Prop
  flag_refl : ∀ b, flag b b
  flag_and : ∀ {a b c d}, flag a b → flag c d → flag (a && c) (b && d)
  flag_or : ∀ {a b c d}, flag a b → flag c d → flag (a || c) (b || d)
  text_refl : ∀ t, text t t
  cte_refl : ∀ n, cte n n
  error_refl : ∀ e, error e e
  error_cte : ∀ {n m}, cte n m → ∀ named returned,
    error (.cteColumns n named returned) (.cteColumns m named returned)
  error_view : ∀ {e d}, error e d → ∀ name, error (.view name e) (.view name d)

variable {T : Tolerance}

namespace ExprType

structure Near (T : Tolerance) (t u : ExprType) : Prop where
  sqlType : t.sqlType = u.sqlType
  notNull : T.flag t.notNull u.notNull

variable {t u : ExprType} {ts us : List ExprType}

theorem Near.refl (t : ExprType) : Near T t t := ⟨rfl, T.flag_refl _⟩

theorem Near.named (type : String) {b c : Bool} (h : T.flag b c) :
    Near T (.named type b) (.named type c) :=
  ⟨rfl, h⟩

theorem Near.nullable (h : Near T t u) : Near T t.nullable u.nullable :=
  ⟨h.sqlType, T.flag_refl _⟩

theorem firstKnown_near (h : List.Forall₂ (Near T) ts us) : firstKnown ts = firstKnown us := by
  rw [firstKnown, firstKnown]
  induction h with
  | nil => rfl
  | cons first _ ih => rw [List.findSome?_cons, List.findSome?_cons, first.sqlType, ih]

theorem allNotNull_near (h : List.Forall₂ (Near T) ts us) :
    T.flag (allNotNull ts) (allNotNull us) := by
  rw [allNotNull, allNotNull]
  induction h with
  | nil => exact T.flag_refl _
  | cons first _ ih =>
    rw [List.all_cons, List.all_cons]
    exact T.flag_and first.notNull ih

theorem anyNotNull_near (h : List.Forall₂ (Near T) ts us) :
    T.flag (ts.any ExprType.notNull) (us.any ExprType.notNull) := by
  induction h with
  | nil => exact T.flag_refl _
  | cons first _ ih =>
    rw [List.any_cons, List.any_cons]
    exact T.flag_or first.notNull ih

theorem head_near (h : List.Forall₂ (Near T) ts us) :
    Near T (ts.head?.getD unknown) (us.head?.getD unknown) := by
  cases h with
  | nil => exact .refl _
  | cons first _ => exact first

theorem ofUnary_near (op : UnaryOp) (h : Near T t u) : Near T (ofUnary op t) (ofUnary op u) := by
  cases op with
  | not => exact .named _ h.notNull
  | plus | minus => exact h

theorem ofBinary_near (op : BinaryOp) {l l' r r' : ExprType} (left : Near T l l')
    (right : Near T r r') : Near T (ofBinary op l r) (ofBinary op l' r') := by
  have both := T.flag_and left.notNull right.notNull
  have sum : arithmetic l r = arithmetic l' r' := by
    rw [arithmetic, arithmetic, left.sqlType, right.sqlType]
  cases op with
  | equal | notEqual | less | lessEqual | greater | greaterEqual | and | or | bitAnd | bitOr
  | concat => exact .named _ both
  | add | subtract | multiply => exact ⟨sum, both⟩
  | divide | modulo => exact ⟨sum, T.flag_refl _⟩
  | nullSafeEqual | bitXor | arrow | longArrow | named _ => exact .refl _

theorem ofChoice_near (h : List.Forall₂ (Near T) ts us) {last last' : Option ExprType}
    (otherwise : Option.Rel (Near T) last last') :
    Near T (ofChoice ts last) (ofChoice us last') := by
  have all : List.Forall₂ (Near T) (ts ++ last.toList) (us ++ last'.toList) := by
    refine List.rel_append h ?_
    cases otherwise with
    | none => exact .nil
    | some related => exact .cons related .nil
  have same : last.isSome = last'.isSome := by
    cases otherwise with
    | none => rfl
    | some _ => rfl
  refine ⟨firstKnown_near all, ?_⟩
  rw [ofChoice, ofChoice, same]
  exact T.flag_and (T.flag_refl _) (allNotNull_near all)

/-- The rules for calls take whether arguments are filled through conjunctions and disjunctions
only, and the types of arguments without looking at it. -/
theorem ofCall_near (name : String) (h : List.Forall₂ (Near T) ts us) (star : Bool) :
    Near T (ofCall name ts star) (ofCall name us star) := by
  have strict := allNotNull_near h
  have first := head_near h
  have sum : Near T
      (named (if Affinity.ofType (ts.head?.getD unknown).sqlType = .integer then "INTEGER"
        else "REAL") false)
      (named (if Affinity.ofType (us.head?.getD unknown).sqlType = .integer then "INTEGER"
        else "REAL") false) := by
    rw [first.sqlType]
    exact .refl _
  have most : Near T
      (if ts.length > 1 then ⟨firstKnown ts, allNotNull ts⟩
        else (ts.head?.getD unknown).nullable)
      (if us.length > 1 then ⟨firstKnown us, allNotNull us⟩
        else (us.head?.getD unknown).nullable) := by
    rw [h.length_eq]
    split
    · exact ⟨firstKnown_near h, strict⟩
    · exact first.nullable
  have branches := List.forall₂_drop 1 h
  have choice : T.flag ((ts.drop 1).length == 2 && allNotNull (ts.drop 1))
      ((us.drop 1).length == 2 && allNotNull (us.drop 1)) := by
    rw [branches.length_eq]
    exact T.flag_and (T.flag_refl _) (allNotNull_near branches)
  unfold ofCall
  dsimp only
  split <;> first
    | exact .refl _
    | exact .named _ strict
    | exact first.nullable
    | exact sum
    | exact most
    | exact ⟨firstKnown_near h, anyNotNull_near h⟩
    | exact ⟨firstKnown_near branches, choice⟩
    | exact ⟨congrArg (Option.or · _) first.sqlType, strict⟩
    | exact .named _ (T.flag_and strict (T.flag_refl _))

end ExprType

namespace ResultColumn

/-- The columns differ in what is let pass. Where nobody sees them by name, names are let pass. -/
structure Near (T : Tolerance) (shown : Bool) (a b : ResultColumn) : Prop where
  name : shown = true → a.name = b.name
  tableAlias : a.tableAlias = b.tableAlias
  aliasPath : a.aliasPath = b.aliasPath
  origin : a.origin = b.origin
  sqlType : a.sqlType = b.sqlType
  notNull : T.flag a.notNull b.notNull
  declaredNotNull : T.flag a.declaredNotNull b.declaredNotNull
  joinedNullable : a.joinedNullable = b.joinedNullable
  expression : shown = true → Option.Rel T.text a.expression b.expression

variable {shown : Bool} {a b c d : ResultColumn} {xs ys zs ws : List ResultColumn}

theorem rel_refl (text : Option String) : Option.Rel T.text text text := by
  cases text with
  | none => exact .none
  | some t => exact .some (T.text_refl t)

theorem Near.refl (a : ResultColumn) : Near T shown a a :=
  ⟨fun _ => rfl, rfl, rfl, rfl, rfl, T.flag_refl _, T.flag_refl _, rfl, fun _ => rel_refl _⟩

theorem byName_near (T : Tolerance) : ByName (Near T true) := ⟨fun h => h.name rfl, .refl⟩

/-- Columns that may be seen by name may be used where nobody does. -/
theorem Near.weaken (h : Near T true a b) : Near T shown a b :=
  { h with name := fun _ => h.name rfl, expression := fun _ => h.expression rfl }

theorem Near.exprType (h : Near T shown a b) :
    ExprType.Near T ⟨a.sqlType, a.notNull⟩ ⟨b.sqlType, b.notNull⟩ :=
  ⟨h.sqlType, h.notNull⟩

theorem Near.rename (h : Near T shown a b) (name : String) :
    Near T shown { a with name } { b with name } :=
  { h with name := fun _ => rfl }

theorem computed_near {name name' text text' : String} {t u : ExprType}
    (names : shown = true → name = name') (types : ExprType.Near T t u)
    (texts : shown = true → T.text text text') :
    Near T shown (computed name t text) (computed name' u text') :=
  ⟨names, rfl, rfl, rfl, types.sqlType, types.notNull, types.notNull, rfl,
    fun seen => .some (texts seen)⟩

theorem rename_near (names : List String) (h : List.Forall₂ (Near T shown) xs ys) :
    List.Forall₂ (Near T shown) (rename names xs) (rename names ys) := by
  induction names generalizing xs ys with
  | nil => exact h
  | cons name rest ih =>
    cases h with
    | nil => exact .nil
    | cons first others => exact .cons (first.rename name) (ih others)

theorem renameAll_near {cte cte' : String} (named : T.cte cte cte') (names : List String)
    (h : List.Forall₂ (Near T shown) xs ys) : Alongside T.error (List.Forall₂ (Near T shown))
      (renameAll cte names xs) (renameAll cte' names ys) := by
  unfold renameAll
  rw [h.length_eq]
  split
  · exact .ok h
  · split
    · exact .error (T.error_cte named _ _)
    · exact .ok (rename_near names h)

/-- Names and texts of a column of a compound query are those of the first member. -/
theorem Near.merge (first : Near T shown a b) (other : Near T false c d) :
    Near T shown (merge a c) (merge b d) where
  name := first.name
  tableAlias := first.tableAlias
  aliasPath := first.aliasPath
  origin := by rw [ResultColumn.merge, ResultColumn.merge, first.origin, other.origin]
  sqlType := by rw [ResultColumn.merge, ResultColumn.merge, first.sqlType, other.sqlType]
  notNull := T.flag_and first.notNull other.notNull
  declaredNotNull := T.flag_and first.declaredNotNull other.declaredNotNull
  joinedNullable := by
    rw [ResultColumn.merge, ResultColumn.merge, first.joinedNullable, other.joinedNullable]
  expression := first.expression

theorem mergeAll_near (first : List.Forall₂ (Near T shown) xs ys)
    (other : List.Forall₂ (Near T false) zs ws) :
    Alongside T.error (List.Forall₂ (Near T shown)) (mergeAll xs zs) (mergeAll ys ws) := by
  unfold mergeAll
  rw [first.length_eq, other.length_eq]
  split
  · exact .error (T.error_refl _)
  · refine .ok ?_
    clear * - first other
    induction first generalizing zs ws with
    | nil => exact .nil
    | cons head _ ih =>
      cases other with
      | nil => exact .nil
      | cons head' tail' => exact .cons (head.merge head') (ih tail')

end ResultColumn

namespace Source

/-- The sources are found under the same name, are joined alike and have columns that differ in
what is let pass. -/
structure Near (T : Tolerance) (a b : Catalog) (s t : Source) : Prop extends
    Related (ResultColumn.Near T true) a b s t where
  transparent : s.transparent = t.transparent
  nullable : s.nullable = t.nullable

variable {a b : Catalog} {s t : Source} {before before' : List Source}

theorem Near.seen (h : Near T a b s t) {c d : ResultColumn} (column : c.Near T true d) :
    (s.seen c).Near T true (t.seen d) where
  name := column.name
  tableAlias := h.reference
  aliasPath := by rw [Source.seen, Source.seen, h.reference, column.aliasPath]
  origin := column.origin
  sqlType := column.sqlType
  notNull := by
    rw [Source.seen, Source.seen, h.nullable]
    exact T.flag_and column.notNull (T.flag_refl _)
  declaredNotNull := column.declaredNotNull
  joinedNullable := by
    rw [Source.seen, Source.seen, h.nullable, h.transparent, column.joinedNullable]
  expression := column.expression

theorem Near.finish (h : Near T a b s t) : Near T a b s.finish t.finish where
  reference := h.reference
  joinedColumns := h.joinedColumns
  hidden := h.hidden
  rows := h.rows
  transparent := h.transparent
  nullable := h.nullable
  columns := by
    rw [Source.finish, Source.finish, List.forall₂_map_left_iff, List.forall₂_map_right_iff]
    exact h.columns.imp fun _ _ column => h.seen column

/-- A source that is no table or view. -/
theorem unread_near (reference : Option String) {columns columns' : List ResultColumn}
    (h : List.Forall₂ (ResultColumn.Near T true) columns columns') (transparent hidden : Bool) :
    Near T a b (unjoined reference none columns transparent hidden)
      (unjoined reference none columns' transparent hidden) :=
  ⟨⟨rfl, rfl, rfl, rfl, h⟩, rfl, rfl⟩

theorem derived_near (aliased : Option Alias) {columns columns' : List ResultColumn}
    (h : List.Forall₂ (ResultColumn.Near T true) columns columns') :
    Near T a b (derived aliased columns) (derived aliased columns') := by
  cases aliased with
  | none => exact unread_near _ h _ _
  | some given => exact unread_near _ (ResultColumn.rename_near _ h) _ _

theorem ofCall_near (reference : Option String) :
    Near T a b (ofCall reference) (ofCall reference) :=
  unread_near _ .nil _ _

/-- What a join equates by name is the same as long as the constraint names the same columns. -/
theorem join_near (joined : List.Forall₂ (Near T a b) before before') (side : Side)
    {constraint constraint' : Constraint} (h : Near T a b s t)
    (same : ∀ sources columns, equated sources columns constraint =
      equated sources columns constraint') :
    List.Forall₂ (Near T a b) (join before side constraint s)
      (join before' side constraint' t) := by
  have names : equated before s.columns constraint' = equated before' t.columns constraint' := by
    cases constraint' with
    | natural =>
      have shared := filter_related h.columns
        (p := fun c => before.any fun s => s.columns.any fun p => Text.sameName p.name c.name)
        (q := fun c => before'.any fun s => s.columns.any fun p => Text.sameName p.name c.name)
        fun c d column => any_eq_of_related joined fun _ _ source =>
          any_eq_of_related source.columns fun _ _ other => by
            rw [column.name rfl, other.name rfl]
      exact map_eq_of_related shared fun _ _ column => column.name rfl
    | none | condition _ | columns _ => rfl
  unfold join
  refine List.rel_append ?_ (.cons ?_ .nil)
  · split
    · rw [List.forall₂_map_left_iff, List.forall₂_map_right_iff]
      exact joined.imp fun _ _ source => { source with nullable := rfl }
    · exact joined
  · exact { h with joinedColumns := (same _ _).trans names, nullable := rfl }

end Source

namespace Scope

variable {a b : Scope}

theorem columnType_near (h : Related (ResultColumn.Near T true) a b) (ref : ColumnRef) :
    ExprType.Near T (a.columnType ref) (b.columnType ref) := by
  rw [Scope.columnType, Scope.columnType]
  obtain ⟨e, error, error'⟩ | ⟨x, y, ok, ok', near⟩ :=
    (h.column (ResultColumn.byName_near T) ref).cases
  · rw [error, error']
    exact .refl _
  · rw [ok, ok']
    exact near.exprType

end Scope

end TypedRows
