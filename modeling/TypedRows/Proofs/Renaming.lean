import TypedRows.Proofs.Tolerance
import TypedRows.Schema.Reference

/-! Queries that differ in the names of common table expressions. Each name that is read stands for
the common table expression of the same place in both, or else for the same table or view, and is
known by the same reference name. What no analysis looks into may differ at will. -/

namespace TypedRows

open Sql

/-- Names of common table expressions with their other names, the innermost first. -/
abbrev Renaming := List (String × String)

/-- The names stand for the common table expression of the same place, or for the same table or
view. -/
inductive Renaming.Reads (T : Tolerance) : Renaming → String → String → Prop where
  | free (name : String) : Reads T [] name name
  | here {cte cte' name name' : String} {outer : Renaming} (own : Text.sameName cte name = true)
      (own' : Text.sameName cte' name' = true) (close : T.cte name name') :
      Reads T ((cte, cte') :: outer) name name'
  | there {cte cte' name name' : String} {outer : Renaming}
      (other : Text.sameName cte name = false) (other' : Text.sameName cte' name' = false)
      (deeper : Reads T outer name name') : Reads T ((cte, cte') :: outer) name name'

/-- The name by which an entry of `FROM` is referred to. -/
def referenceName (name : String) (aliased : Option Alias) : String :=
  match aliased with
  | some a => a.name.text
  | none => name

/-- The name of the column that an item makes, if it makes one. -/
def Sql.Item.title : Item → String
  | .expr (some label) _ => label.text
  | .expr none e => e.print
  | .star _ _ => ""

def Sql.Item.text : Item → String
  | .expr _ e => e.print
  | .star _ _ => ""

/-- Without a label a column is named by its text, which has to be the same then. -/
structure Sql.Item.SameTitle (T : Tolerance) (item item' : Item) : Prop where
  title : item.title = item'.title
  text : T.text item.text item'.text

def SameTitles (T : Tolerance) (shown : Bool) (items items' : List Item) : Prop :=
  shown = true → List.Forall₂ (Item.SameTitle T) items items'

def SameTexts (T : Tolerance) (shown : Bool) (rows rows' : List (List Expr)) : Prop :=
  shown = true → List.Forall₂ (List.Forall₂ fun e e' => T.text e.print e'.print) rows rows'

section Relation

variable (T : Tolerance)

mutual

inductive ExprRenamed : Renaming → Expr → Expr → Prop where
  | column {ρ : Renaming} (path : Path) : ExprRenamed ρ (.column path) (.column path)
  | literal {ρ : Renaming} (value : Literal) : ExprRenamed ρ (.literal value) (.literal value)
  | nested {ρ : Renaming} {e e' : Expr} (inner : ExprRenamed ρ e e') :
      ExprRenamed ρ (.nested e) (.nested e')
  | unary {ρ : Renaming} (op : UnaryOp) {e e' : Expr} (inner : ExprRenamed ρ e e') :
      ExprRenamed ρ (.unary op e) (.unary op e')
  | factorial {ρ : Renaming} {e e' : Expr} (inner : ExprRenamed ρ e e') :
      ExprRenamed ρ (.factorial e) (.factorial e')
  | binary {ρ : Renaming} (op : BinaryOp) {l l' r r' : Expr} (left : ExprRenamed ρ l l')
      (right : ExprRenamed ρ r r') : ExprRenamed ρ (.binary op l r) (.binary op l' r')
  | is {ρ : Renaming} (test : IsTest) (negated : Bool) {e e' : Expr}
      (inner : ExprRenamed ρ e e') : ExprRenamed ρ (.is test negated e) (.is test negated e')
  | isDistinct {ρ : Renaming} (negated : Bool) {l l' r r' : Expr} (left : ExprRenamed ρ l l')
      (right : ExprRenamed ρ r r') :
      ExprRenamed ρ (.isDistinct negated l r) (.isDistinct negated l' r')
  | like {ρ : Renaming} (op : MatchOp) (negated any : Bool) {e e' p p' : Expr}
      (inner : ExprRenamed ρ e e') (pattern : ExprRenamed ρ p p') (escape : Option String) :
      ExprRenamed ρ (.like op negated any e p escape) (.like op negated any e' p' escape)
  | between {ρ : Renaming} (negated : Bool) {e e' l l' h h' : Expr} (inner : ExprRenamed ρ e e')
      (low : ExprRenamed ρ l l') (high : ExprRenamed ρ h h') :
      ExprRenamed ρ (.between negated e l h) (.between negated e' l' h')
  | inList {ρ : Renaming} (negated : Bool) {e e' : Expr} {list list' : List Expr}
      (inner : ExprRenamed ρ e e') (each : ExprsRenamed ρ list list') :
      ExprRenamed ρ (.inList negated e list) (.inList negated e' list')
  | inQuery {ρ : Renaming} (negated : Bool) {e e' : Expr} {q q' : Query}
      (inner : ExprRenamed ρ e e') (query : QueryRenamed false ρ ρ q q') :
      ExprRenamed ρ (.inQuery negated e q) (.inQuery negated e' q')
  | existsRow {ρ : Renaming} (negated : Bool) {q q' : Query}
      (query : QueryRenamed false ρ ρ q q') :
      ExprRenamed ρ (.existsRow negated q) (.existsRow negated q')
  | subquery {ρ : Renaming} {q q' : Query} (query : QueryRenamed false ρ ρ q q') :
      ExprRenamed ρ (.subquery q) (.subquery q')
  | call {ρ : Renaming} {c c' : Call} (inner : CallRenamed ρ c c') :
      ExprRenamed ρ (.call c) (.call c')
  | arrayOf {ρ : Renaming} (name : Ident) {q q' : Query}
      (query : QueryRenamed false ρ ρ q q') : ExprRenamed ρ (.arrayOf name q) (.arrayOf name q')
  | choose {ρ : Renaming} {operand operand' otherwise otherwise' : Option Expr}
      {branches branches' : List Branch} (first : OptionRenamed ρ operand operand')
      (each : BranchesRenamed ρ branches branches')
      (last : OptionRenamed ρ otherwise otherwise') :
      ExprRenamed ρ (.choose operand branches otherwise) (.choose operand' branches' otherwise')
  | cast {ρ : Renaming} (form : CastForm) {e e' : Expr} (inner : ExprRenamed ρ e e')
      (type format : String) : ExprRenamed ρ (.cast form e type format) (.cast form e' type format)
  | collate {ρ : Renaming} {e e' : Expr} (inner : ExprRenamed ρ e e') (collation : Path) :
      ExprRenamed ρ (.collate e collation) (.collate e' collation)
  | trim {ρ : Renaming} (side : Option TrimSide) (what what' : Option Expr) {e e' : Expr}
      (inner : ExprRenamed ρ e e') : ExprRenamed ρ (.trim side what e) (.trim side what' e')
  | substring {ρ : Renaming} {e e' : Expr} {start start' count count' : Option Expr}
      (inner : ExprRenamed ρ e e') (first : OptionRenamed ρ start start')
      (last : OptionRenamed ρ count count') (commas : Bool) :
      ExprRenamed ρ (.substring e start count commas) (.substring e' start' count' commas)
  | tuple {ρ : Renaming} {list list' : List Expr} (each : ExprsRenamed ρ list list') :
      ExprRenamed ρ (.tuple list) (.tuple list')
  | phrase {ρ : Renaming} (pieces pieces' : List Piece) :
      ExprRenamed ρ (.phrase pieces) (.phrase pieces')

inductive OptionRenamed : Renaming → Option Expr → Option Expr → Prop where
  | none {ρ : Renaming} : OptionRenamed ρ none none
  | some {ρ : Renaming} {e e' : Expr} (inner : ExprRenamed ρ e e') :
      OptionRenamed ρ (some e) (some e')

inductive ExprsRenamed : Renaming → List Expr → List Expr → Prop where
  | nil {ρ : Renaming} : ExprsRenamed ρ [] []
  | cons {ρ : Renaming} {e e' : Expr} {rest rest' : List Expr} (first : ExprRenamed ρ e e')
      (others : ExprsRenamed ρ rest rest') : ExprsRenamed ρ (e :: rest) (e' :: rest')

inductive RowsRenamed : Renaming → List (List Expr) → List (List Expr) → Prop where
  | nil {ρ : Renaming} : RowsRenamed ρ [] []
  | cons {ρ : Renaming} {row row' : List Expr} {rest rest' : List (List Expr)}
      (first : ExprsRenamed ρ row row') (others : RowsRenamed ρ rest rest') :
      RowsRenamed ρ (row :: rest) (row' :: rest')

inductive BranchesRenamed : Renaming → List Branch → List Branch → Prop where
  | nil {ρ : Renaming} : BranchesRenamed ρ [] []
  | cons {ρ : Renaming} {condition condition' result result' : Expr} {rest rest' : List Branch}
      (first : ExprRenamed ρ condition condition') (second : ExprRenamed ρ result result')
      (others : BranchesRenamed ρ rest rest') :
      BranchesRenamed ρ (⟨condition, result⟩ :: rest) (⟨condition', result'⟩ :: rest')

inductive CallRenamed : Renaming → Call → Call → Prop where
  | intro {ρ : Renaming} (name : Path) (parentheses : Bool) (treatment : Option String)
      {arguments arguments' : List Item} (clauses clauses' group group' : List Piece)
      {filter filter' : Option Expr} (window window' : List Piece)
      (each : ItemsRenamed ρ arguments arguments') (last : OptionRenamed ρ filter filter') :
      CallRenamed ρ ⟨name, parentheses, treatment, arguments, clauses, group, filter, window⟩
        ⟨name, parentheses, treatment, arguments', clauses', group', filter', window'⟩

inductive ItemsRenamed : Renaming → List Item → List Item → Prop where
  | nil {ρ : Renaming} : ItemsRenamed ρ [] []
  | expr {ρ : Renaming} (label : Option Ident) {e e' : Expr} {rest rest' : List Item}
      (first : ExprRenamed ρ e e') (others : ItemsRenamed ρ rest rest') :
      ItemsRenamed ρ (.expr label e :: rest) (.expr label e' :: rest')
  | star {ρ : Renaming} (label : Option Ident) (path : Path) {rest rest' : List Item}
      (others : ItemsRenamed ρ rest rest') :
      ItemsRenamed ρ (.star label path :: rest) (.star label path :: rest')

/-- The columns are seen by name if `shown`. The first members of a compound query read by the first
renaming, the others by the second, which for a common table expression has its own name too. -/
inductive QueryRenamed : Bool → Renaming → Renaming → Query → Query → Prop where
  | intro {shown : Bool} {ρ σ ρ' σ' : Renaming} (recursive : Bool) {ctes ctes' : List Cte}
      {body body' : Body} {order order' : List SortKey} {limit limit' offset offset' : Option Expr}
      (rest rest' : List Piece) (bound : CtesRenamed ρ σ ctes ctes' ρ' σ')
      (inner : BodyRenamed shown ρ' σ' body body') (keys : KeysRenamed ρ' order order')
      (most : OptionRenamed ρ' limit limit') (start : OptionRenamed ρ' offset offset') :
      QueryRenamed shown ρ σ ⟨recursive, ctes, body, order, limit, offset, rest⟩
        ⟨recursive, ctes', body', order', limit', offset', rest'⟩

/-- The last two renamings are those behind the definitions. -/
inductive CtesRenamed :
    Renaming → Renaming → List Cte → List Cte → Renaming → Renaming → Prop where
  | nil {ρ σ : Renaming} : CtesRenamed ρ σ [] [] ρ σ
  | cons {ρ σ ρ' σ' : Renaming} {name name' : Ident} (columns : List Ident) {q q' : Query}
      (source source' : Option Ident) {rest rest' : List Cte} (close : T.cte name.text name'.text)
      (query : QueryRenamed true ρ ((name.text, name'.text) :: σ) q q')
      (others : CtesRenamed ((name.text, name'.text) :: ρ) ((name.text, name'.text) :: σ)
        rest rest' ρ' σ') :
      CtesRenamed ρ σ (⟨name, columns, q, source⟩ :: rest)
        (⟨name', columns, q', source'⟩ :: rest') ρ' σ'

inductive KeysRenamed : Renaming → List SortKey → List SortKey → Prop where
  | nil {ρ : Renaming} : KeysRenamed ρ [] []
  | cons {ρ : Renaming} {e e' : Expr} (direction : String) {rest rest' : List SortKey}
      (first : ExprRenamed ρ e e') (others : KeysRenamed ρ rest rest') :
      KeysRenamed ρ (⟨e, direction⟩ :: rest) (⟨e', direction⟩ :: rest')

inductive BodyRenamed : Bool → Renaming → Renaming → Body → Body → Prop where
  | select {shown : Bool} {ρ σ : Renaming} {s s' : Select} (inner : SelectRenamed shown ρ s s') :
      BodyRenamed shown ρ σ (.select s) (.select s')
  | query {shown : Bool} {ρ σ : Renaming} {q q' : Query} (inner : QueryRenamed shown ρ σ q q') :
      BodyRenamed shown ρ σ (.query q) (.query q')
  | compound {shown : Bool} {ρ σ : Renaming} (op : SetOp) (quantifier : String)
      {left left' right right' : Body} (first : BodyRenamed shown ρ σ left left')
      (other : BodyRenamed false σ σ right right') :
      BodyRenamed shown ρ σ (.compound op quantifier left right)
        (.compound op quantifier left' right')
  | values {shown : Bool} {ρ σ : Renaming} (explicitRow : Bool) {rows rows' : List (List Expr)}
      (each : RowsRenamed ρ rows rows') (texts : SameTexts T shown rows rows') :
      BodyRenamed shown ρ σ (.values explicitRow rows) (.values explicitRow rows')
  | table {shown : Bool} {ρ σ : Renaming} (path : List String) :
      BodyRenamed shown ρ σ (.table path) (.table path)
  | insert {shown : Bool} {ρ σ : Renaming} (change : Insert) :
      BodyRenamed shown ρ σ (.insert change) (.insert change)
  | update {shown : Bool} {ρ σ : Renaming} (change : Update) :
      BodyRenamed shown ρ σ (.update change) (.update change)
  | store {shown : Bool} {ρ σ : Renaming} (lead : String) (q : Query) :
      BodyRenamed shown ρ σ (.store lead q) (.store lead q)

inductive SelectRenamed : Bool → Renaming → Select → Select → Prop where
  | intro {shown : Bool} {ρ : Renaming} (lead lead' : List Piece) {items items' : List Item}
      (into : String) {sources sources' : List Entry} (lateral lateral' : List Piece)
      {condition condition' : Option Expr} (groupByAll : Bool) {groupBy groupBy' : List Expr}
      (spread spread' : List Piece) {having having' : Option Expr} (windows windows' : List Piece)
      (each : ItemsRenamed ρ items items') (titles : SameTitles T shown items items')
      (entries : EntriesRenamed ρ sources sources')
      (kept : OptionRenamed ρ condition condition') (groups : ExprsRenamed ρ groupBy groupBy')
      (held : OptionRenamed ρ having having') :
      SelectRenamed shown ρ
        ⟨lead, items, into, sources, lateral, condition, groupByAll, groupBy, spread, having,
          windows⟩
        ⟨lead', items', into, sources', lateral', condition', groupByAll, groupBy', spread',
          having', windows'⟩

inductive EntriesRenamed : Renaming → List Entry → List Entry → Prop where
  | nil {ρ : Renaming} : EntriesRenamed ρ [] []
  | cons {ρ : Renaming} (global : Bool) (link : Link) {factor factor' : Factor}
      (nearest nearest' : Option Expr) {constraint constraint' : Constraint}
      {rest rest' : List Entry} (read : FactorRenamed ρ factor factor')
      (joined : ConstraintRenamed ρ constraint constraint')
      (others : EntriesRenamed ρ rest rest') :
      EntriesRenamed ρ (⟨global, link, factor, nearest, constraint⟩ :: rest)
        (⟨global, link, factor', nearest', constraint'⟩ :: rest')

inductive ConstraintRenamed : Renaming → Constraint → Constraint → Prop where
  | none {ρ : Renaming} : ConstraintRenamed ρ .none .none
  | natural {ρ : Renaming} : ConstraintRenamed ρ .natural .natural
  | condition {ρ : Renaming} {e e' : Expr} (inner : ExprRenamed ρ e e') :
      ConstraintRenamed ρ (.condition e) (.condition e')
  | columns {ρ : Renaming} (names : List Ident) :
      ConstraintRenamed ρ (.columns names) (.columns names)

inductive FactorRenamed : Renaming → Factor → Factor → Prop where
  | table {ρ : Renaming} {name name' : Path} (ordinality ordinality' : Bool)
      {aliased aliased' : Option Alias} (hints hints' : List Expr)
      (read : Renaming.Reads T ρ name.base name'.base)
      (known : referenceName name.base aliased = referenceName name'.base aliased') :
      FactorRenamed ρ (.table name ordinality aliased hints)
        (.table name' ordinality' aliased' hints')
  | call {ρ : Renaming} (lateral : Bool) (name : Path) {arguments arguments' : List Item}
      (ordinality : Bool) (aliased : Option Alias) (hints hints' : List Expr)
      (each : ItemsRenamed ρ arguments arguments') :
      FactorRenamed ρ (.call lateral name arguments ordinality aliased hints)
        (.call lateral name arguments' ordinality aliased hints')
  | derived {ρ : Renaming} (lateral : Bool) {q q' : Query} (aliased : Option Alias)
      (query : QueryRenamed true ρ ρ q q') :
      FactorRenamed ρ (.derived lateral q aliased) (.derived lateral q' aliased)
  | nested {ρ : Renaming} {first first' : Factor} {joins joins' : List Entry}
      (aliased : Option Alias) (outer : FactorRenamed ρ first first')
      (others : EntriesRenamed ρ joins joins') :
      FactorRenamed ρ (.nested first joins aliased) (.nested first' joins' aliased)
  | tableOf {ρ : Renaming} (e e' : Expr) (aliased : Option Alias) :
      FactorRenamed ρ (.tableOf e aliased) (.tableOf e' aliased)
  | pivot {ρ : Renaming} (factor factor' : Factor) (pieces pieces' : List Piece) :
      FactorRenamed ρ (.pivot factor pieces) (.pivot factor' pieces')
  | phrase {ρ : Renaming} (pieces pieces' : List Piece) :
      FactorRenamed ρ (.phrase pieces) (.phrase pieces')

end

end Relation

variable {T : Tolerance}

/-- The renaming renames nothing. -/
def Renaming.Still (ρ : Renaming) : Prop := ∀ pair ∈ ρ, pair.1 = pair.2

theorem Renaming.still_nil : Still [] := fun _ member => by cases member

theorem Renaming.Still.cons {ρ : Renaming} (still : ρ.Still) (name : String) :
    Still ((name, name) :: ρ) := by
  intro pair member
  obtain rfl | member := List.mem_cons.mp member
  · rfl
  · exact still pair member

theorem Renaming.Still.reads {ρ : Renaming} (still : ρ.Still) (name : String) :
    Reads T ρ name name := by
  induction ρ with
  | nil => exact .free name
  | cons pair outer ih =>
    obtain ⟨cte, cte'⟩ := pair
    obtain ⟨same, inner⟩ := List.forall_mem_cons.mp still
    obtain rfl : cte = cte' := same
    cases own : Text.sameName cte name with
    | true => exact .here own own (T.cte_refl name)
    | false => exact .there own own (ih inner)

theorem sameTitles_refl (shown : Bool) (items : List Item) : SameTitles T shown items items :=
  fun _ => List.forall₂_same.mpr fun _ _ => ⟨rfl, T.text_refl _⟩

theorem sameTexts_refl (shown : Bool) (rows : List (List Expr)) : SameTexts T shown rows rows :=
  fun _ => List.forall₂_same.mpr fun _ _ => List.forall₂_same.mpr fun _ _ => T.text_refl _

mutual

theorem Sql.Expr.renamed_refl (e : Expr) {ρ : Renaming} (still : ρ.Still) :
    ExprRenamed T ρ e e := by
  cases e with
  | column path => exact .column path
  | literal value => exact .literal value
  | nested x => exact .nested (x.renamed_refl still)
  | unary op x => exact .unary op (x.renamed_refl still)
  | factorial x => exact .factorial (x.renamed_refl still)
  | binary op left right => exact .binary op (left.renamed_refl still) (right.renamed_refl still)
  | is test negated x => exact .is test negated (x.renamed_refl still)
  | isDistinct negated left right =>
    exact .isDistinct negated (left.renamed_refl still) (right.renamed_refl still)
  | like op negated any x pattern escape =>
    exact .like op negated any (x.renamed_refl still) (pattern.renamed_refl still) escape
  | between negated x low high =>
    exact .between negated (x.renamed_refl still) (low.renamed_refl still)
      (high.renamed_refl still)
  | inList negated x list =>
    exact .inList negated (x.renamed_refl still) (exprsRenamed_refl list still)
  | inQuery negated x query =>
    exact .inQuery negated (x.renamed_refl still) (query.renamed_refl false still still)
  | existsRow negated query => exact .existsRow negated (query.renamed_refl false still still)
  | subquery query => exact .subquery (query.renamed_refl false still still)
  | call call => exact .call (call.renamed_refl still)
  | arrayOf name query => exact .arrayOf name (query.renamed_refl false still still)
  | choose operand branches otherwise =>
    exact .choose (optionRenamed_refl operand still) (branchesRenamed_refl branches still)
      (optionRenamed_refl otherwise still)
  | cast form x type format => exact .cast form (x.renamed_refl still) type format
  | collate x collation => exact .collate (x.renamed_refl still) collation
  | trim side what x => exact .trim side what what (x.renamed_refl still)
  | substring x start count commas =>
    exact .substring (x.renamed_refl still) (optionRenamed_refl start still)
      (optionRenamed_refl count still) commas
  | tuple list => exact .tuple (exprsRenamed_refl list still)
  | phrase pieces => exact .phrase pieces pieces

theorem optionRenamed_refl (e : Option Expr) {ρ : Renaming} (still : ρ.Still) :
    OptionRenamed T ρ e e := by
  cases e with
  | none => exact .none
  | some x => exact .some (x.renamed_refl still)

theorem exprsRenamed_refl (list : List Expr) {ρ : Renaming} (still : ρ.Still) :
    ExprsRenamed T ρ list list := by
  cases list with
  | nil => exact .nil
  | cons e rest => exact .cons (e.renamed_refl still) (exprsRenamed_refl rest still)

theorem rowsRenamed_refl (rows : List (List Expr)) {ρ : Renaming} (still : ρ.Still) :
    RowsRenamed T ρ rows rows := by
  cases rows with
  | nil => exact .nil
  | cons row rest => exact .cons (exprsRenamed_refl row still) (rowsRenamed_refl rest still)

theorem branchesRenamed_refl (branches : List Branch) {ρ : Renaming} (still : ρ.Still) :
    BranchesRenamed T ρ branches branches := by
  cases branches with
  | nil => exact .nil
  | cons branch rest =>
    obtain ⟨condition, result⟩ := branch
    exact .cons (condition.renamed_refl still) (result.renamed_refl still)
      (branchesRenamed_refl rest still)

theorem Sql.Call.renamed_refl (call : Call) {ρ : Renaming} (still : ρ.Still) :
    CallRenamed T ρ call call := by
  obtain ⟨name, parentheses, treatment, arguments, clauses, group, filter, window⟩ := call
  exact .intro name parentheses treatment clauses clauses group group window window
    (itemsRenamed_refl arguments still) (optionRenamed_refl filter still)

theorem itemsRenamed_refl (items : List Item) {ρ : Renaming} (still : ρ.Still) :
    ItemsRenamed T ρ items items := by
  cases items with
  | nil => exact .nil
  | cons item rest =>
    cases item with
    | expr label e => exact .expr label (e.renamed_refl still) (itemsRenamed_refl rest still)
    | star label path => exact .star label path (itemsRenamed_refl rest still)

/-- A query is renamed to itself where nothing is renamed around it. -/
theorem Sql.Query.renamed_refl (query : Query) (shown : Bool) {ρ σ : Renaming} (still : ρ.Still)
    (still' : σ.Still) : QueryRenamed T shown ρ σ query query := by
  obtain ⟨recursive, ctes, body, order, limit, offset, rest⟩ := query
  obtain ⟨ρ', σ', inner, inner', bound⟩ := ctesRenamed_refl ctes still still'
  exact .intro recursive rest rest bound (body.renamed_refl shown inner inner')
    (keysRenamed_refl order inner) (optionRenamed_refl limit inner)
    (optionRenamed_refl offset inner)

theorem ctesRenamed_refl (list : List Cte) {ρ σ : Renaming} (still : ρ.Still)
    (still' : σ.Still) : ∃ ρ' σ' : Renaming, ρ'.Still ∧ σ'.Still ∧
      CtesRenamed T ρ σ list list ρ' σ' := by
  cases list with
  | nil => exact ⟨ρ, σ, still, still', .nil⟩
  | cons cte rest =>
    obtain ⟨name, columns, query, source⟩ := cte
    have own := query.renamed_refl true still (still'.cons name.text)
    obtain ⟨ρ', σ', inner, inner', others⟩ :=
      ctesRenamed_refl rest (still.cons name.text) (still'.cons name.text)
    exact ⟨ρ', σ', inner, inner', .cons columns source source (T.cte_refl _) own others⟩

theorem keysRenamed_refl (keys : List SortKey) {ρ : Renaming} (still : ρ.Still) :
    KeysRenamed T ρ keys keys := by
  cases keys with
  | nil => exact .nil
  | cons key rest =>
    obtain ⟨e, direction⟩ := key
    exact .cons direction (e.renamed_refl still) (keysRenamed_refl rest still)

theorem Sql.Body.renamed_refl (body : Body) (shown : Bool) {ρ σ : Renaming} (still : ρ.Still)
    (still' : σ.Still) : BodyRenamed T shown ρ σ body body := by
  cases body with
  | select select => exact .select (select.renamed_refl shown still)
  | query query => exact .query (query.renamed_refl shown still still')
  | compound op quantifier left right =>
    exact .compound op quantifier (left.renamed_refl shown still still')
      (right.renamed_refl false still' still')
  | values explicitRow rows =>
    exact .values explicitRow (rowsRenamed_refl rows still) (sameTexts_refl shown rows)
  | table path => exact .table path
  | insert insert => exact .insert insert
  | update update => exact .update update
  | store lead query => exact .store lead query

theorem Sql.Select.renamed_refl (select : Select) (shown : Bool) {ρ : Renaming}
    (still : ρ.Still) : SelectRenamed T shown ρ select select := by
  obtain ⟨lead, items, into, sources, lateral, condition, groupByAll, groupBy, spread, having,
    windows⟩ := select
  exact .intro lead lead into lateral lateral groupByAll spread spread windows windows
    (itemsRenamed_refl items still) (sameTitles_refl shown items)
    (entriesRenamed_refl sources still) (optionRenamed_refl condition still)
    (exprsRenamed_refl groupBy still) (optionRenamed_refl having still)

theorem entriesRenamed_refl (entries : List Entry) {ρ : Renaming} (still : ρ.Still) :
    EntriesRenamed T ρ entries entries := by
  cases entries with
  | nil => exact .nil
  | cons entry rest =>
    obtain ⟨global, link, factor, nearest, constraint⟩ := entry
    have joined : ConstraintRenamed T ρ constraint constraint := by
      cases constraint with
      | none => exact .none
      | natural => exact .natural
      | condition e => exact .condition (e.renamed_refl still)
      | columns names => exact .columns names
    exact .cons global link nearest nearest (factor.renamed_refl still) joined
      (entriesRenamed_refl rest still)

theorem Sql.Factor.renamed_refl (factor : Factor) {ρ : Renaming} (still : ρ.Still) :
    FactorRenamed T ρ factor factor := by
  cases factor with
  | table name ordinality aliased hints =>
    exact .table ordinality ordinality hints hints (still.reads name.base) rfl
  | call lateral name arguments ordinality aliased hints =>
    exact .call lateral name ordinality aliased hints hints (itemsRenamed_refl arguments still)
  | derived lateral query aliased =>
    exact .derived lateral aliased (query.renamed_refl true still still)
  | nested first joins aliased =>
    exact .nested aliased (first.renamed_refl still) (entriesRenamed_refl joins still)
  | tableOf e aliased => exact .tableOf e e aliased
  | pivot inner pieces => exact .pivot inner inner pieces pieces
  | phrase pieces => exact .phrase pieces pieces

end

end TypedRows
