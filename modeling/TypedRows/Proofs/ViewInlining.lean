import TypedRows.Proofs.StaticFields
import TypedRows.Proofs.ViewCopies

/-! A view in `FROM` may be replaced by its query in parentheses. The columns come another way then,
from the tables and not from the view, but the annotations that they inherit are the same. -/

namespace TypedRows

open Sql

mutual

/-- Some of the reads of a view are replaced by its query under the same reference name. -/
inductive FactorInlined (view : View) : Factor → Factor → Prop where
  | same (factor : Factor) : FactorInlined view factor factor
  | view {path : Path} {ordinality : Bool} {aliased : Option Alias} {hints : List Expr}
      {reference : Ident} (named : Text.sameName path.base view.name = true)
      (kept : reference.text = (aliased.map fun a => a.name.text).getD path.base) :
      FactorInlined view (.table path ordinality aliased hints)
        (.derived false view.query (some ⟨reference, []⟩))
  | nested {first first' : Factor} {joins joins' : List Entry} {aliased : Option Alias}
      (opening : FactorInlined view first first') (others : EntriesInlined view joins joins') :
      FactorInlined view (.nested first joins aliased) (.nested first' joins' aliased)

inductive EntriesInlined (view : View) : List Entry → List Entry → Prop where
  | nil : EntriesInlined view [] []
  | cons {global : Bool} {link : Link} {factor factor' : Factor} {nearest : Option Expr}
      {constraint : Constraint} {rest rest' : List Entry}
      (here : FactorInlined view factor factor') (others : EntriesInlined view rest rest') :
      EntriesInlined view (⟨global, link, factor, nearest, constraint⟩ :: rest)
        (⟨global, link, factor', nearest, constraint⟩ :: rest')

end

theorem EntriesInlined.refl (view : View) (entries : List Entry) :
    EntriesInlined view entries entries := by
  induction entries with
  | nil => exact .nil
  | cons entry rest ih =>
    obtain ⟨_, _, factor, _, _⟩ := entry
    exact .cons (.same factor) ih

variable {catalog : Catalog} {inheritance : Inheritance}

namespace Source

theorem Alike.refl (source : Source) : source.Alike catalog inheritance source :=
  ⟨rfl, rfl, rfl, rfl, List.forall₂_same.mpr fun column _ => .refl column⟩

/-- The sources are alike however they are joined. -/
structure StandsFor (catalog : Catalog) (inheritance : Inheritance) (s t : Source) : Prop where
  nullable : s.nullable = t.nullable
  finish : ∀ nullable, Alike catalog inheritance (finish { s with nullable })
    (finish { t with nullable })

theorem StandsFor.refl (source : Source) : source.StandsFor catalog inheritance source :=
  ⟨rfl, fun _ => .refl _⟩

variable {s t : Source} {before before' : List Source}

theorem StandsFor.names (h : s.StandsFor catalog inheritance t) :
    s.columns.map ResultColumn.name = t.columns.map ResultColumn.name := by
  have names := map_eq_of_related (h.finish false).columns fun _ _ alike => alike.name
  simp only [Source.finish, List.map_map] at names
  exact names

theorem StandsFor.equated (h : s.StandsFor catalog inheritance t)
    (earlier : List.Forall₂ (StandsFor catalog inheritance) before before')
    (constraint : Constraint) :
    Source.equated before s.columns constraint = Source.equated before' t.columns constraint := by
  cases constraint with
  | natural =>
    rw [equated_natural, equated_natural, h.names]
    congr 1
    funext name
    exact any_eq_of_related earlier fun _ _ stands => by rw [stands.names]
  | none | condition _ | columns _ => rfl

theorem StandsFor.join (h : s.StandsFor catalog inheritance t)
    (earlier : List.Forall₂ (StandsFor catalog inheritance) before before') (side : Side)
    (constraint : Constraint) : List.Forall₂ (StandsFor catalog inheritance)
      (Source.join before side constraint s) (Source.join before' side constraint t) := by
  have last : StandsFor catalog inheritance
      { s with
        joinedColumns := Source.equated before s.columns constraint
        nullable := side = .left ∨ side = .full }
      { t with
        joinedColumns := Source.equated before' t.columns constraint
        nullable := side = .left ∨ side = .full } :=
    ⟨rfl, fun nullable =>
      have alike := h.finish nullable
      ⟨alike.reference, h.equated earlier constraint, alike.hidden, alike.table, alike.columns⟩⟩
  refine List.rel_append ?_ (.cons last .nil)
  split
  · rw [List.forall₂_map_left_iff, List.forall₂_map_right_iff]
    exact earlier.imp fun _ _ stands => ⟨rfl, stands.finish⟩
  · exact earlier

end Source

/-- What a read of the view gives, and what its query does, stand for each other. -/
def Transparent (catalog : Catalog) (inheritance : Inheritance) (view : View) : Prop :=
  ∀ name aliased (reference : Ident), Text.sameName name view.name = true →
    reference.text = (aliased.map fun a : Alias => a.name.text).getD name →
    ∃ source columns, Source.named catalog [] name aliased = .ok source ∧
      catalog.select view.query = .ok columns ∧
      source.StandsFor catalog inheritance (.derived (some ⟨reference, []⟩) columns)

theorem ResultColumn.inherits_passOn (column : ResultColumn) (nullable : Bool) (key : String) :
    (if nullable && key = Key.notNull then none
      else Annotations.lookup? (column.origin.bind fun origin =>
        (inheritance.annotations? origin.object origin.column).map
          (Inheritance.passOn ⟨origin, column.joinedNullable⟩)) key) =
      { column with joinedNullable := nullable || column.joinedNullable }.inherits inheritance
        key := by
  rw [ResultColumn.inherits]
  cases column.origin with
  | none => simp [Annotations.lookup?]
  | some origin =>
    simp only [Option.bind_some, Inheritance.lookup?_passOn, Inheritance.drops]
    by_cases filled : key = Key.notNull <;> cases nullable <;> cases column.joinedNullable <;>
      simp [filled]

/-- A view without annotations of its own can be replaced by its query. -/
theorem transparent_of_plain (orderly : catalog.Orderly) {name : String} {view : View}
    (known : catalog.view? name = some view) (straight : view.cyclic = false)
    (selected : catalog.select view.query = .ok view.columns)
    (plain : view.fieldAnnotations = .empty)
    (distinct : (view.columns.map fun c => Text.foldLower c.name).Nodup) :
    Transparent catalog (.ofCatalog catalog) view := by
  intro name' aliased reference named kept
  have key : Text.foldLower name' = Text.foldLower name :=
    (Text.sameName_iff.mp named).trans (orderly.view _ view known).1
  have known' : catalog.view? name' = some view := by rw [Catalog.view?, key]; exact known
  have table : catalog.table? name' = none := orderly.table?_of_view known'
  have columns : catalog.columns? name' = some view.resultColumns := by
    rw [Catalog.columns?, table, known']
    rfl
  refine ⟨Source.unjoined (some reference.text) (some name') view.resultColumns false false,
    view.columns, ?_, selected, rfl, fun nullable => ?_⟩
  · have cyclic : catalog.isCyclic name' = false := by rw [Catalog.isCyclic, known']; exact straight
    unfold Source.named
    rw [List.find?_nil, cyclic, columns, kept]
    cases aliased <;> rfl
  · refine ⟨rfl, rfl, rfl, table, ?_⟩
    -- a column of the view has lost the marks of the joins in its query, but what it inherits has
    -- been stripped by them already
    change List.Forall₂ _ (List.map _ (List.map _ view.columns)) (List.map _ view.columns)
    rw [List.map_map, List.forall₂_map_left_iff, List.forall₂_map_right_iff, List.forall₂_same]
    intro column member
    have copied := Inheritance.annotations?_view orderly known plain distinct member
    refine ⟨rfl, rfl, rfl, fun key => ?_⟩
    have passed := @ResultColumn.inherits_passOn (.ofCatalog catalog) column nullable key
    rw [← copied.lookup, ← Bool.or_false nullable, Bool.or_assoc, Bool.false_or] at passed
    exact passed

mutual

theorem Sql.Factor.joinTo_inlined {view : View}
    (transparent : Transparent catalog inheritance view) (factor : Factor) {factor' : Factor}
    (inlined : FactorInlined view factor factor') (side : Side) (constraint : Constraint)
    {before before' : List Source}
    (earlier : List.Forall₂ (Source.StandsFor catalog inheritance) before before') :
    Together (List.Forall₂ (Source.StandsFor catalog inheritance))
      (factor.joinTo side constraint catalog [] before)
      (factor'.joinTo side constraint catalog [] before') := by
  cases factor with
  | table path ordinality aliased hints =>
    cases inlined with
    | same =>
      rw [Factor.joinTo, Factor.joinTo]
      exact (Together.refl Source.StandsFor.refl _).bind fun _ _ stands =>
        .ok (stands.join earlier side constraint)
    | view named kept =>
      obtain ⟨source, columns, read, selected, stands⟩ := transparent _ _ _ named kept
      rw [Catalog.select] at selected
      rw [Factor.joinTo, Factor.joinTo, bind_of_ok read, bind_of_ok selected]
      exact .ok (stands.join earlier side constraint)
  | derived lateral query aliased =>
    cases inlined with
    | same =>
      rw [Factor.joinTo, Factor.joinTo]
      exact .bind_same fun _ => .ok ((Source.StandsFor.refl _).join earlier side constraint)
  | nested first joins aliased =>
    cases inlined with
    | same =>
      rw [Factor.joinTo, Factor.joinTo]
      exact (first.joinTo_inlined transparent (.same first) side constraint earlier).bind
        fun _ _ middle => sourcesOf_inlined transparent joins (.refl view joins) middle
    | nested opening others =>
      rw [Factor.joinTo, Factor.joinTo]
      exact (first.joinTo_inlined transparent opening side constraint earlier).bind
        fun _ _ middle => sourcesOf_inlined transparent joins others middle
  | call _ _ _ _ _ _ | tableOf _ _ | pivot _ _ | phrase _ =>
    cases inlined with
    | same =>
      unfold Factor.joinTo
      exact .ok ((Source.StandsFor.refl _).join earlier side constraint)

theorem sourcesOf_inlined {view : View} (transparent : Transparent catalog inheritance view)
    (entries : List Entry) {entries' : List Entry} (inlined : EntriesInlined view entries entries')
    {before before' : List Source}
    (earlier : List.Forall₂ (Source.StandsFor catalog inheritance) before before') :
    Together (List.Forall₂ (Source.StandsFor catalog inheritance))
      (sourcesOf entries catalog [] before) (sourcesOf entries' catalog [] before') := by
  cases entries with
  | nil =>
    cases inlined
    rw [sourcesOf, sourcesOf]
    exact .ok earlier
  | cons entry rest =>
    obtain ⟨global, link, factor, nearest, constraint⟩ := entry
    cases inlined with
    | cons here others =>
      rw [sourcesOf, sourcesOf]
      exact (factor.joinTo_inlined transparent here link.side constraint earlier).bind
        fun _ _ middle => sourcesOf_inlined transparent rest others middle

end

/-- A single `SELECT` without common table expressions, and one with the view replaced in its
`FROM`. -/
inductive QueryInlined (view : View) : Query → Query → Prop where
  | select {recursive : Bool} {select : Select} {sources' : List Entry} {order : List SortKey}
      {limit offset : Option Expr} {rest : List Piece}
      (inlined : EntriesInlined view select.sources sources') :
      QueryInlined view ⟨recursive, [], .select select, order, limit, offset, rest⟩
        ⟨recursive, [], .select { select with sources := sources' }, order, limit, offset, rest⟩

theorem Source.StandsFor.alike {s t : Source} (h : s.StandsFor catalog inheritance t) :
    s.finish.Alike catalog inheritance t.finish := by
  have same : { t with nullable := s.nullable } = t := by rw [h.nullable]
  exact same ▸ h.finish s.nullable

theorem QueryInlined.select_alike {view : View}
    (transparent : Transparent catalog inheritance view) {query query' : Query}
    (inlined : QueryInlined view query query') :
    Together (List.Forall₂ (ResultColumn.Alike inheritance)) (catalog.select query)
      (catalog.select query') := by
  cases inlined with
  | @select _ select _ _ _ _ _ inlined =>
    obtain ⟨_, items, _, sources, _, _, _, _, _, _, _⟩ := select
    rw [Catalog.select, Catalog.select, Query.columnsIn, Query.columnsIn, ctesOf,
      bind_of_ok rfl, bind_of_ok rfl, Body.columnsIn, Body.columnsIn, Select.columnsIn,
      Select.columnsIn]
    refine (sourcesOf_inlined transparent sources inlined .nil).bind fun read read' stand => ?_
    have scopes : (Scope.ofSources catalog [] read).Alike inheritance
        (Scope.ofSources catalog [] read') := by
      refine ⟨rfl, rfl, ?_⟩
      rw [Scope.ofSources, Scope.ofSources, List.forall₂_map_left_iff, List.forall₂_map_right_iff]
      exact stand.imp fun _ _ stands => stands.alike
    exact columnsOfItems_alike scopes items

structure Field.Alike (a b : Field) : Prop where
  name : a.name = b.name
  sqlType : a.sqlType = b.sqlType
  notNull : a.notNull = b.notNull
  annotations : ∀ key, a.annotations.get? key = b.annotations.get? key
  propertyName : a.propertyName = b.propertyName
  propertyType : a.propertyType = b.propertyType
  adapter : a.adapter = b.adapter

theorem Field.ofColumn_alike {context : Context} {a b : ResultColumn}
    (alike : a.Alike context.inheritance b) (style : NameStyle) (declared : Option Annotations) :
    Together Field.Alike (ofColumn context style a declared)
      (ofColumn context style b declared) := by
  have below : ∀ key, (inherited context a).get? key = (inherited context b).get? key :=
    fun key => by rw [get?_inherited, get?_inherited, alike.inherits]
  have whole : ∀ key, (inForce context a declared).get? key =
      (inForce context b declared).get? key := by
    cases declared with
    | none => exact below
    | some map =>
      intro key
      rw [inForce, inForce, Annotations.get?_merge, Annotations.get?_merge, below]
  unfold ofColumn
  dsimp only
  rw [FieldOverrides.ofAnnotations_congr whole, alike.name, alike.sqlType, alike.notNull]
  exact .bind_same fun overrides => .ok ⟨rfl, rfl, rfl, whole, rfl, rfl, rfl⟩

theorem columnFields_alike {context : Context} {columns columns' : List ResultColumn}
    (alike : List.Forall₂ (ResultColumn.Alike context.inheritance) columns columns')
    (statement : String) (style : NameStyle) (declared : OrderedMap String Annotations)
    (seen : List String) :
    Together (List.Forall₂ Field.Alike)
      (TypedStatement.columnFields context statement style declared seen columns)
      (TypedStatement.columnFields context statement style declared seen columns') := by
  induction alike generalizing seen with
  | nil => exact .ok .nil
  | cons first _ ih =>
    rw [TypedStatement.columnFields, TypedStatement.columnFields]
    dsimp only
    rw [first.name]
    split
    · exact .error _
    · exact ((Field.ofColumn_alike first style _).mapError _).bind fun _ _ field =>
        (ih _).bind fun _ _ others => .ok (.cons field others)

namespace TypedStatement

/-- A view without annotations of its own is transparent: where a statement without dynamic fields
reads the query of the view in its place, it has the same fields, or fails in the same way. -/
theorem analyse_inlined {items : List ScriptItem} {catalog : Catalog}
    (read : Catalog.ofScript items = .ok catalog) (static : catalog.Static)
    {name : String} {view : View} (known : catalog.view? name = some view)
    (straight : view.cyclic = false) (unnamed : view.explicitColumns = [])
    (plain : view.fieldAnnotations = .empty)
    (distinct : (view.columns.map fun c => Text.foldLower c.name).Nodup)
    {before after : ScriptItem} {query query' : Query}
    (ofBefore : before.statement = .select query) (ofAfter : after.statement = .select query')
    (inlined : QueryInlined view query query')
    (comments : CommentAnnotations.ofComments after.comments =
      CommentAnnotations.ofComments before.comments)
    (own : ∀ declared, CommentAnnotations.ofComments before.comments = .ok declared →
      ∀ map ∈ declared.fields.values, map.contains Key.isDynamicField = false)
    (types : TypeMap) (place : Place) :
    Together (fun s t => List.Forall₂ Field.Alike s.fields t.fields)
      (analyse (.ofCatalog catalog types) place before)
      (analyse (.ofCatalog catalog types) place after) := by
  have orderly := Catalog.orderly_ofScript read
  have transparent := transparent_of_plain orderly known straight
    (Catalog.select_view read known straight unnamed) plain distinct
  have shapes : Together
      (fun s t => List.Forall₂ (ResultColumn.Alike (.ofCatalog catalog)) s.columns t.columns)
      (Shape.ofSelect catalog query) (Shape.ofSelect catalog query') :=
    ((inlined.select_alike transparent).mapError _).bind fun _ _ alike => .ok alike
  -- both fail on the columns or both on the comments, or both go on with columns that are alike
  apply Together.of_map
  rw [fields_of_static orderly static types place own,
    fields_of_static orderly static types place (comments.symm ▸ own), ofBefore, ofAfter, comments]
  refine shapes.bind fun shape shape' alike => .bind_same fun declared =>
    .bind_same fun overrides => ?_
  exact columnFields_alike alike place.name overrides.nameStyle declared.fields []

/-- `SELECT columns FROM sources` -/
def selecting (columns : List Path) (sources : List Entry) : Query :=
  ⟨false, [], .select ⟨[], columns.map fun path => .expr none (.column path), "", sources, [], none,
    false, [], [], none, []⟩, [], none, none, []⟩

def reading (link : Link) (name : String) (reference : Ident) : Entry :=
  ⟨false, link, .table [⟨name, none⟩] false (some ⟨reference, []⟩) [], none, .none⟩

/-- A table with annotations, and a view that passes them on through an outer join. -/
def pairsSchema : List ScriptItem :=
  [⟨"", .createTable ⟨"item", [⟨"id", some "INTEGER", true, false, none⟩,
      ⟨"note", some "TEXT", false, false, none⟩], false⟩,
      ["@@\x7bfield=note, notNull=true, propertyType=Note\x7d"], [], []⟩,
    ⟨"", .createView ⟨"pairs", [],
      selecting [[⟨"a", none⟩, ⟨"id", none⟩], [⟨"b", none⟩, ⟨"note", none⟩]]
        [reading .comma "item" ⟨"a", none⟩, reading .left "item" ⟨"b", none⟩]⟩, [], [], []⟩]

def querying (query : Query) : ScriptItem := ⟨"", .select query, [], [], []⟩

/-- `SELECT p.id, p.note FROM item x JOIN pairs p` -/
def fromPairs : Query :=
  selecting [[⟨"p", none⟩, ⟨"id", none⟩], [⟨"p", none⟩, ⟨"note", none⟩]]
    [reading .comma "item" ⟨"x", none⟩, reading .inner "pairs" ⟨"p", none⟩]

def fromQuery (query : Query) : Query :=
  selecting [[⟨"p", none⟩, ⟨"id", none⟩], [⟨"p", none⟩, ⟨"note", none⟩]]
    [reading .comma "item" ⟨"x", none⟩,
      ⟨false, .inner, .derived false query (some ⟨⟨"p", none⟩, []⟩), none, .none⟩]

/-- That `fromPairs` may be rewritten, and what it returns. -/
def pairsFit (catalog : Catalog) (view : View) : Bool :=
  decide ((∀ map ∈ catalog.fieldMaps, map.contains Key.isDynamicField = false) ∧
    view.cyclic = false ∧ view.explicitColumns = [] ∧ view.fieldAnnotations.isEmpty = true ∧
    (view.columns.map fun c => Text.foldLower c.name).Nodup ∧
    Text.sameName "pairs" view.name = true) &&
  match analyse (.ofCatalog catalog .initial) ⟨"q", "n", ""⟩ (querying fromPairs) with
  | .error _ => false
  | .ok s => decide (s.fields.map (fun f => (f.name, f.propertyType, f.notNull)) =
      [("id", "i64", true), ("note", "Note", false)])

theorem exists_pairsFit : ∃ catalog view, Catalog.ofScript pairsSchema = .ok catalog ∧
    catalog.view? "pairs" = some view ∧ pairsFit catalog view = true := by
  have found : ((Catalog.ofScript pairsSchema).toOption.any fun catalog =>
      (catalog.view? "pairs").any (pairsFit catalog)) = true := by decide +kernel
  cases read : Catalog.ofScript pairsSchema with
  | error e =>
    rw [read] at found
    cases found
  | ok catalog =>
    rw [read] at found
    change (catalog.view? "pairs").any (pairsFit catalog) = true at found
    cases known : catalog.view? "pairs" with
    | none =>
      rw [known] at found
      cases found
    | some view =>
      rw [known] at found
      exact ⟨catalog, view, rfl, known, found⟩

theorem analyse_inlined_pairs :
    ∃ catalog view s t, Catalog.ofScript pairsSchema = .ok catalog ∧
      catalog.view? "pairs" = some view ∧
      analyse (.ofCatalog catalog .initial) ⟨"q", "n", ""⟩ (querying fromPairs) = .ok s ∧
      analyse (.ofCatalog catalog .initial) ⟨"q", "n", ""⟩
        (querying (fromQuery view.query)) = .ok t ∧
      List.Forall₂ Field.Alike s.fields t.fields ∧
      s.fields.map (fun f => (f.name, f.propertyType, f.notNull)) =
        [("id", "i64", true), ("note", "Note", false)] := by
  obtain ⟨catalog, view, read, known, fit⟩ := exists_pairsFit
  rw [pairsFit, Bool.and_eq_true, decide_eq_true_iff] at fit
  obtain ⟨⟨static, straight, unnamed, plain, distinct, named⟩, fields⟩ := fit
  have empty : view.fieldAnnotations = .empty := OrderedMap.ext (List.isEmpty_iff.mp plain)
  have inlined : QueryInlined view fromPairs (fromQuery view.query) :=
    .select (.cons (.same _) (.cons (.view named rfl) .nil))
  have said : CommentAnnotations.ofComments (querying fromPairs).comments = .ok .empty := rfl
  have own : ∀ declared, CommentAnnotations.ofComments (querying fromPairs).comments =
      .ok declared → ∀ map ∈ declared.fields.values,
      map.contains Key.isDynamicField = false := by
    intro declared h map member
    rw [said] at h
    cases h
    cases member
  have ofPairs : (querying fromPairs).statement = .select fromPairs := rfl
  have ofQuery : (querying (fromQuery view.query)).statement = .select (fromQuery view.query) := rfl
  have together := analyse_inlined read static known straight unnamed empty distinct ofPairs
    ofQuery inlined rfl own .initial ⟨"q", "n", ""⟩
  obtain ⟨e, failed, _⟩ | ⟨s, t, ok, ok', alike⟩ := together.cases
  · rw [failed] at fields
    cases fields
  · rw [ok] at fields
    exact ⟨catalog, view, s, t, read, known, ok, ok', alike, of_decide_eq_true fields⟩

end TypedStatement

end TypedRows
