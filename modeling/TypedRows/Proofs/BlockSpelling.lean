import TypedRows.Proofs.CustomAdapters

/-! Which of the blocks about a column are laid over each other for it. Blocks are gathered by the
exact spelling of their field, and a column has those of one spelling only: that of the first block
that names it in whatever letter case. What a block of another spelling says is lost. -/

namespace TypedRows

open Sql

namespace Annotations

/-- Whether a block names its field as that of a column, and not as a dynamic field. -/
def isColumnBlock (block : String) : Bool :=
  (parseBlock block).toOption.any (·.contains Key.field)

/-- The blocks of comment lines that name a column in whatever letter case, in order. -/
def columnBlocks (lines : List String) (column : String) : List Annotations :=
  (((((Comment.blocks lines).toOption.getD []).filter isColumnBlock).filterMap fieldBlock?).filter
    fun block => Text.sameName block.1 column).map Prod.snd

/-- The blocks with the spelling of the first one that names the column, in order. -/
def spelledFirst (lines : List String) (column : String) : List Annotations :=
  (layersOn (fieldBlocks lines) column).reverse

/-- All blocks about a column spell it alike, and none of them makes it a dynamic field. -/
def SpelledAlike (lines : List String) (column : String) : Prop :=
  ∃ spelling, ∀ text ∈ (Comment.blocks lines).toOption.getD [], ∀ block,
    fieldBlock? text = some block → Text.sameName block.1 column = true →
      block.1 = spelling ∧ isColumnBlock text = true

/-- The annotations that a column has from comment lines are laid from the blocks of one spelling.
They are laid from all blocks about the column exactly if for each key the last of these blocks to
tell anything of it tells the same as the last one of that spelling does. -/
structure LaidFrom (lines : List String) (column : String) (own : Option Annotations) : Prop where
  first : own = merged (spelledFirst lines column)
  complete : (∀ key, lookup? own key = lookup? (merged (columnBlocks lines column)) key) ↔
    ∀ key, told (spelledFirst lines column) key = told (columnBlocks lines column) key
  alike : SpelledAlike lines column → own = merged (columnBlocks lines column)

theorem layersOn_of_alike {blocks : List (String × Annotations)} {column spelling : String}
    (alike : ∀ block ∈ blocks, Text.sameName block.1 column = true → block.1 = spelling) :
    layersOn blocks column =
      ((blocks.filter fun block => Text.sameName block.1 column).map Prod.snd).reverse := by
  rw [layersOn]
  cases found : blocks.find? fun block => Text.sameName block.1 column with
  | none =>
    rw [List.filter_eq_nil_iff.mpr (List.find?_eq_none.mp found)]
    rfl
  | some first =>
    have named : Text.sameName first.1 column = true := by simpa using List.find?_some found
    have spelled := alike first (List.mem_of_find?_eq_some found) named
    have same : blocks.filter (fun block => block.1 = first.1) =
        blocks.filter fun block => Text.sameName block.1 column := by
      refine List.filter_congr fun block member => ?_
      rw [Bool.eq_iff_iff, decide_eq_true_iff]
      constructor
      · intro e
        rw [e, named]
      · exact fun about => (alike block member about).trans spelled.symm
    exact congrArg (fun kept => (kept.map Prod.snd).reverse) same

theorem spelledFirst_of_alike {lines : List String} {column : String}
    (alike : SpelledAlike lines column) :
    spelledFirst lines column = columnBlocks lines column := by
  obtain ⟨spelling, alike⟩ := alike
  have spelled : ∀ block ∈ fieldBlocks lines, Text.sameName block.1 column = true →
      block.1 = spelling := by
    intro block member about
    obtain ⟨text, inside, made⟩ := List.mem_filterMap.mp member
    exact (alike text inside block made about).1
  rw [spelledFirst, layersOn_of_alike spelled, List.reverse_reverse, columnBlocks, fieldBlocks,
    List.filterMap_filter, List.filter_filterMap, List.filter_filterMap]
  -- what is no block of a column is not about this one
  refine congrArg _ (List.filterMap_congr fun text inside => ?_)
  cases made : fieldBlock? text with
  | none => split <;> rfl
  | some block =>
    cases about : Text.sameName block.1 column with
    | false => split <;> simp [about]
    | true => rw [if_pos (alike text inside block made about).2]

theorem laidFrom_own (lines : List String) (column : String) :
    LaidFrom lines column (TypedStatement.own? (fieldsOf (fieldBlocks lines)) column) := by
  have first : TypedStatement.own? (fieldsOf (fieldBlocks lines)) column =
      merged (spelledFirst lines column) := own?_fieldsOf _ _
  refine ⟨first, ?_, fun alike => by rw [first, spelledFirst_of_alike alike]⟩
  simp only [first, lookup?_merged]

end Annotations

namespace Catalog

/-- The statement that declares a table or view is the only one that does. -/
theorem find?_declares {items : List ScriptItem} {catalog last : Catalog}
    (run : items.foldlM enter catalog = .ok last) {item : ScriptItem} (member : item ∈ items)
    {object : String} (declared : item.statement.declared? = some object) :
    catalog.hasKey (Text.foldLower object) = false ∧
      items.find? (declares object) = some item := by
  induction items generalizing catalog with
  | nil => cases member
  | cons first rest ih =>
    rw [List.foldlM_cons] at run
    obtain ⟨middle, step, run⟩ := bind_eq_ok run
    obtain ⟨addition, added, fits, rfl⟩ := enter_eq_ok.mp step
    obtain rfl | member := List.mem_cons.mp member
    · refine ⟨fits _ ?_, List.find?_cons_of_pos ?_⟩
      · rw [Addition.key?_ofItem added, declared]
        rfl
      · rw [declares, declared]
        exact Text.sameName_refl object
    · obtain ⟨free, only⟩ := ih run member
      rw [Addition.hasKey_addTo, Bool.or_eq_false_iff, Addition.key?_ofItem added] at free
      refine ⟨free.1, ?_⟩
      rw [List.find?_cons_of_neg, only]
      rw [declares]
      cases other : first.statement.declared? with
      | none => simp
      | some name =>
        rw [other] at free
        simpa [Text.sameName_iff] using free.2

end Catalog

namespace Inheritance

variable {catalog : Catalog} {items : List ScriptItem}

/-- What is declared on a column is laid from the comments of the statement that declares its table
or view. -/
theorem laidFrom_declared (read : Catalog.ofScript items = .ok catalog) {item : ScriptItem}
    (member : item ∈ items) {object : String} (named : item.statement.declared? = some object)
    (column : String) : Annotations.LaidFrom item.comments column
      (declared? (ofCatalog catalog).objects (Origin.fold ⟨object, column⟩)) := by
  have distinct := nodup_objects (Catalog.orderly_ofScript read)
  obtain ⟨entered, run, _⟩ := bind_eq_ok read
  have only : items.find? (Catalog.declares (Text.foldLower object)) = some item := by
    have same : Catalog.declares (Text.foldLower object) = Catalog.declares object := by
      funext item
      simp only [Catalog.declares, Text.sameName, Text.foldLower_foldLower]
    rw [same, (Catalog.find?_declares run member named).2]
  have own : declared? (ofCatalog catalog).objects (Origin.fold ⟨object, column⟩) =
      TypedStatement.own? (Annotations.fieldsOf (Annotations.fieldBlocks item.comments))
        column := by
    rw [ofCatalog, ← described,
      (describes_ofObjects distinct).declared _ (Origin.fold_fold ⟨object, column⟩),
      declaredIn_ofScript read, Origin.fold, only, Option.bind_some]
    simp only [TypedStatement.own?, Text.sameName, Text.foldLower_foldLower]
  rw [own]
  exact Annotations.laidFrom_own item.comments column

end Inheritance

namespace TypedStatement

open Annotations Inheritance

/-- What a statement lays over the annotations that a column inherits. -/
def LocallyLaid (context : Context) (lines : List String) (column : ResultColumn) (field : Field) :
    Prop :=
  ∃ own, LaidFrom lines column.name own ∧ field.name = column.name ∧
    field.annotations = Field.inForce context column own

/-- A column has the annotations of the blocks with the spelling of the first one that names it: in
a schema by the comments of the statement that declares its table or view, and in a statement, for
what is laid over the annotations that it inherits. None of the blocks about it is lost exactly if
for every key the last of them that tells anything of it tells the same as the last one of that
spelling; so it is if all are spelled alike. -/
theorem ownAnnotations_complete_iff {items : List ScriptItem} {catalog : Catalog}
    (read : Catalog.ofScript items = .ok catalog) :
    (∀ item ∈ items, ∀ object, item.statement.declared? = some object → ∀ column,
      LaidFrom item.comments column
        (declared? (ofCatalog catalog).objects (Origin.fold ⟨object, column⟩))) ∧
    ∀ types place item statement,
      analyse (.ofCatalog catalog types) place item = .ok statement →
      ∃ shape columns dynamic,
        Shape.ofStatement catalog place.name item.statement = .ok shape ∧
        statement.fields = columns ++ dynamic ∧
        List.Forall₂ (LocallyLaid (.ofCatalog catalog types) item.comments) shape.columns
          columns := by
  refine ⟨fun item member object named column => laidFrom_declared read member named column, ?_⟩
  intro types place item statement h
  obtain ⟨shape, comments, columns, dynamic, made, own, first, _, _, settled⟩ := analyse_parts h
  refine ⟨shape, columns.map (settle statement.nested), dynamic.map (settle statement.nested),
    made, settled.trans List.map_append, ?_⟩
  have each := columnFields_eq_ok first
  rw [CommentAnnotations.fields_of_ofComments own] at each
  rw [List.forall₂_map_right_iff]
  refine each.imp fun column field ofColumn => ?_
  obtain ⟨overrides, _, ofColumn⟩ := bind_eq_ok ofColumn
  cases ofColumn
  refine ⟨_, laidFrom_own item.comments column.name, settle_name .., ?_⟩
  rw [settle_annotations]

/-- Two blocks about one column that differ in the case of its name. -/
def spelledLines : List String :=
  ["@@\x7bfield=x, propertyType=Money\x7d", "@@\x7bfield=X, notNull=true\x7d"]

def spelledQuery : ScriptItem := ⟨"", .select (Catalog.selectAll "t"), spelledLines, [], []⟩

theorem exists_spelled : ∃ catalog statement field,
    Catalog.ofScript (Catalog.tableWith []) = .ok catalog ∧
    analyse (.ofCatalog catalog .initial) ⟨"q", "n", ""⟩ spelledQuery = .ok statement ∧
    statement.fields = [field] ∧ field.notNull = false := by
  have fields : (do
      let catalog ← (Catalog.ofScript (Catalog.tableWith [])).toOption
      let statement ← (analyse (.ofCatalog catalog .initial) ⟨"q", "n", ""⟩ spelledQuery).toOption
      some (statement.fields.map Field.notNull)) = some [false] := by
    decide +kernel
  obtain ⟨catalog, statement, read, analysed, fields⟩ := exists_evaluated fields
  obtain ⟨field, only, still⟩ := List.map_eq_singleton_iff.mp fields
  exact ⟨catalog, statement, field, read, analysed, only, still⟩

theorem lookup?_spelled : lookup? (merged (columnBlocks spelledLines "x")) Key.notNull =
    some (.bool true) := by
  rw [lookup?_merged]
  simp only [columnBlocks, Text.sameName_eq_toList]
  decide +kernel

/-- The second block is lost, before a table and before a query. -/
theorem ownAnnotations_spelled :
    lookup? (merged (columnBlocks spelledLines "x")) Key.notNull = some (.bool true) ∧
    (∃ catalog, Catalog.ofScript (Catalog.tableWith spelledLines) = .ok catalog ∧
      lookup? (declared? (ofCatalog catalog).objects (Origin.fold ⟨"t", "x"⟩)) Key.notNull =
        none) ∧
    ∃ catalog statement field, Catalog.ofScript (Catalog.tableWith []) = .ok catalog ∧
      analyse (.ofCatalog catalog .initial) ⟨"q", "n", ""⟩ spelledQuery = .ok statement ∧
      statement.fields = [field] ∧ field.notNull = false := by
  refine ⟨lookup?_spelled, ?_, exists_spelled⟩
  have accepted : (Catalog.ofScript (Catalog.tableWith spelledLines)).toOption.isSome = true := by
    decide +kernel
  obtain ⟨catalog, read⟩ := Option.isSome_iff_exists.mp accepted
  have laid := (ownAnnotations_complete_iff (toOption_eq_some.mp read)).1 _
    (List.mem_singleton_self _) "t" rfl "x"
  refine ⟨catalog, toOption_eq_some.mp read, ?_⟩
  rw [laid.first, lookup?_merged]
  decide +kernel

end TypedStatement

end TypedRows
