import TypedRows.Analysis.TypedStatement
import TypedRows.Proofs.MapLookup
import TypedRows.Proofs.Outcome
import Mathlib.Data.List.Nodup

/-! The nested values of a statement and its flat fields share the result columns among them: each
column is in one nested value, once, or it is flat. -/

namespace TypedRows

namespace NestedField

/-- The names of the result columns within the nested values. -/
def innerNames (nested : List NestedField) : List String :=
  nested.flatMap fun n => n.columns.map NestedColumn.column

theorem skipped_eq (nested : List NestedField) : skipped nested = (innerNames nested).eraseDups :=
  rfl

/-- A column is claimed if nobody owns it, and is owned from then on. -/
theorem claim_eq_ok {field : String} {owners after : OrderedMap String String}
    {columns : List Field} (h : claim field owners columns = .ok after) :
    (columns.map Field.name).Nodup ∧
    (∀ name ∈ columns.map Field.name, owners.contains name = false) ∧
    ∀ name, after.contains name = true ↔
      owners.contains name = true ∨ name ∈ columns.map Field.name := by
  induction columns generalizing owners with
  | nil =>
    cases h
    simp
  | cons column rest ih =>
    rw [claim] at h
    cases owned : owners.get? column.name with
    | some owner =>
      rw [owned] at h
      cases h
    | none =>
      rw [owned] at h
      obtain ⟨distinct, free, known⟩ := ih h
      have put : ∀ name, (owners.put column.name field).contains name = true ↔
          name = column.name ∨ owners.contains name = true := by
        intro name
        rw [OrderedMap.contains, OrderedMap.get?_put, OrderedMap.contains]
        by_cases same : name = column.name <;> simp [same]
      refine ⟨?_, ?_, ?_⟩
      · rw [List.map_cons, List.nodup_cons]
        refine ⟨fun again => ?_, distinct⟩
        have new := free _ again
        rw [(put column.name).mpr (.inl rfl)] at new
        cases new
      · intro name member
        rw [List.map_cons, List.mem_cons] at member
        rcases member with rfl | member
        · simp [OrderedMap.contains, owned]
        · have new := free name member
          rw [Bool.eq_false_iff, ne_eq, put, not_or] at new
          exact Bool.eq_false_iff.mpr new.2
      · intro name
        rw [known, put, List.map_cons, List.mem_cons, or_assoc, or_left_comm]

/-- The names of the columns that the mapping of a field takes, if it has one. -/
def takenNames (fields : List Field) (aliases : OrderedMap String String) (field : Field) :
    List String :=
  match field.overrides.mapping with
  | some mapping => (mapping.taken aliases fields).map Field.name
  | none => []

theorem mappedColumns_eq (fields : List Field) (aliases : OrderedMap String String) :
    Field.mappedColumns fields aliases = (fields.flatMap (takenNames fields aliases)).eraseDups :=
  rfl

variable {overrides : StatementOverrides} {fields : List Field}
  {aliases : OrderedMap String String}

theorem ofMapping_eq_ok {owners after : OrderedMap String String} {field : Field}
    {mapping : Mapping} {nested : NestedField}
    (h : ofMapping overrides fields aliases owners field mapping = .ok (nested, after)) :
    claim field.name owners (mapping.taken aliases fields) = .ok after ∧
      nested.columns.map NestedColumn.column = (mapping.taken aliases fields).map Field.name := by
  rw [ofMapping] at h
  have named : ((mapping.taken aliases fields).map (mapping.column overrides.nameStyle)).map
      NestedColumn.column = (mapping.taken aliases fields).map Field.name := by
    rw [List.map_map]
    rfl
  split at h
  · cases h
  obtain ⟨owned, claimed, h⟩ := bind_eq_ok h
  cases kind : mapping.kind with
  | perRow =>
    simp only [kind] at h
    cases h
    exact ⟨claimed, named⟩
  | entity =>
    simp only [kind] at h
    cases h
    exact ⟨claimed, named⟩
  | collection =>
    simp only [kind] at h
    obtain ⟨parent, _, h⟩ := bind_eq_ok h
    cases h
    exact ⟨claimed, named⟩

/-- The names within the nested values so far are distinct, and they are those with an owner. -/
structure Claimed (names : List String) (state : List NestedField × OrderedMap String String) :
    Prop where
  inner : innerNames state.1 = names
  distinct : names.Nodup
  owned : ∀ name, state.2.contains name = true ↔ name ∈ names

theorem addField_claimed {names : List String}
    {state next : List NestedField × OrderedMap String String} {field : Field}
    (claimed : Claimed names state)
    (step : addField overrides fields aliases state field = .ok next) :
    Claimed (names ++ takenNames fields aliases field) next := by
  rw [addField] at step
  rw [takenNames]
  cases mapped : field.overrides.mapping with
  | none =>
    rw [mapped] at step
    cases step
    rw [List.append_nil]
    exact claimed
  | some mapping =>
    rw [mapped] at step
    obtain ⟨⟨nested, after⟩, made, step⟩ := bind_eq_ok step
    cases step
    obtain ⟨taken, columns⟩ := ofMapping_eq_ok made
    obtain ⟨distinct, free, owned⟩ := claim_eq_ok taken
    -- what is taken now had no owner, so it is none of the names so far
    refine ⟨?_, ?_, ?_⟩
    · rw [innerNames, List.flatMap_append, List.flatMap_singleton, columns]
      exact congrArg (· ++ _) claimed.inner
    · rw [List.nodup_append]
      refine ⟨claimed.distinct, distinct, ?_⟩
      rintro name old _ new rfl
      have open' := free name new
      rw [(claimed.owned name).mpr old] at open'
      cases open'
    · intro name
      rw [owned, claimed.owned, List.mem_append]

theorem foldlM_claimed {names : List String} {rest : List Field}
    {state last : List NestedField × OrderedMap String String} (claimed : Claimed names state)
    (run : rest.foldlM (addField overrides fields aliases) state = .ok last) :
    Claimed (names ++ rest.flatMap (takenNames fields aliases)) last := by
  induction rest generalizing names state with
  | nil =>
    cases run
    rw [List.flatMap_nil, List.append_nil]
    exact claimed
  | cons field rest ih =>
    rw [List.foldlM_cons] at run
    obtain ⟨next, step, run⟩ := bind_eq_ok run
    rw [List.flatMap_cons, ← List.append_assoc]
    exact ih (addField_claimed claimed step) run

/-- The nested values hold what the mappings of the fields take, each column once. -/
theorem ofFields_eq_ok {nested : List NestedField}
    (h : ofFields overrides fields aliases = .ok nested) :
    innerNames nested = fields.flatMap (takenNames fields aliases) ∧
      (innerNames nested).Nodup := by
  obtain ⟨⟨made, owners⟩, run, h⟩ := bind_eq_ok h
  cases h
  have start : Claimed [] (([], .empty) : List NestedField × OrderedMap String String) :=
    ⟨rfl, List.nodup_nil, fun name => by simp [OrderedMap.contains, OrderedMap.get?,
      OrderedMap.empty]⟩
  have claimed := foldlM_claimed start run
  rw [List.nil_append] at claimed
  exact ⟨claimed.inner, claimed.inner ▸ claimed.distinct⟩

/-- What a nested value has from its field and the mapping of the field. -/
structure Folds (fields : List Field) (aliases : OrderedMap String String) (field : Field)
    (mapping : Mapping) (n : NestedField) : Prop where
  fieldName : n.fieldName = field.name
  propertyType : n.propertyType = field.propertyType
  notNull : n.notNull = (mapping.kind = .collection ||
    field.overrides.notNull.getD
      !(mapping.taken aliases fields).any fun f => f.source.joinedNullable)

theorem ofMapping_folds {owners after : OrderedMap String String} {field : Field}
    {mapping : Mapping} {n : NestedField}
    (made : ofMapping overrides fields aliases owners field mapping = .ok (n, after)) :
    Folds fields aliases field mapping n := by
  rw [ofMapping] at made
  split at made
  · cases made
  obtain ⟨owned, _, made⟩ := bind_eq_ok made
  cases kind : mapping.kind with
  | perRow =>
    simp only [kind] at made
    cases made
    exact ⟨rfl, rfl, by simp [kind]⟩
  | entity =>
    simp only [kind] at made
    cases made
    exact ⟨rfl, rfl, by simp [kind]⟩
  | collection =>
    simp only [kind] at made
    obtain ⟨parent, _, made⟩ := bind_eq_ok made
    cases made
    exact ⟨rfl, rfl, by simp [kind]⟩

/-- The columns of a nested value, and how a collection is grouped. -/
structure Gathers (overrides : StatementOverrides) (fields : List Field)
    (aliases : OrderedMap String String) (mapping : Mapping) (n : NestedField) : Prop where
  kind : n.kind = mapping.kind
  columns : n.columns = (mapping.taken aliases fields).map (mapping.column overrides.nameStyle)
  some' : n.columns ≠ []
  parentKey : n.kind = .collection → ∃ key parent, overrides.collectionKey = some key ∧
    (fields.find? fun f => Text.sameName f.name key) = some parent ∧ n.parentKey = some parent.name
  itemKey : n.kind = .collection → n.itemKey = mapping.itemKey? n.columns
  ungrouped : n.kind ≠ .collection → n.parentKey = none

theorem parentColumn_eq_ok {field parent : String}
    (h : parentColumn overrides field fields = .ok parent) :
    ∃ key found, overrides.collectionKey = some key ∧
      (fields.find? fun f => Text.sameName f.name key) = some found ∧ parent = found.name := by
  rw [parentColumn] at h
  split at h
  · cases h
  · rename_i key given
    split at h
    · rename_i found first
      cases h
      exact ⟨key, found, given, first, rfl⟩
    · cases h

theorem ofMapping_gathers {owners after : OrderedMap String String} {field : Field}
    {mapping : Mapping} {n : NestedField}
    (made : ofMapping overrides fields aliases owners field mapping = .ok (n, after)) :
    Gathers overrides fields aliases mapping n := by
  rw [ofMapping] at made
  split at made
  · cases made
  rename_i taken
  have some' : (mapping.taken aliases fields).map (mapping.column overrides.nameStyle) ≠ [] := by
    simpa using taken
  obtain ⟨owned, _, made⟩ := bind_eq_ok made
  cases kind : mapping.kind with
  | perRow | entity =>
    simp only [kind] at made
    cases made
    exact ⟨kind.symm, rfl, some', nofun, nofun, fun _ => rfl⟩
  | collection =>
    simp only [kind] at made
    obtain ⟨parent, grouped, made⟩ := bind_eq_ok made
    cases made
    obtain ⟨key, found, given, first, rfl⟩ := parentColumn_eq_ok grouped
    exact ⟨kind.symm, rfl, some', fun _ => ⟨key, found, given, first, rfl⟩, fun _ => rfl,
      fun other => absurd rfl other⟩

variable (overrides fields aliases) in
/-- The nested value is made for the mapping of the field. -/
def MadeFor (field : Field) (n : NestedField) : Prop :=
  ∃ mapping owners after, field.overrides.mapping = some mapping ∧
    ofMapping overrides fields aliases owners field mapping = .ok (n, after)

theorem foldlM_made {rest : List Field} {state last : List NestedField × OrderedMap String String}
    (run : rest.foldlM (addField overrides fields aliases) state = .ok last) :
    ∃ added, last.1 = state.1 ++ added ∧
      List.Forall₂ (MadeFor overrides fields aliases)
        (rest.filter fun field => field.overrides.mapping.isSome) added := by
  induction rest generalizing state with
  | nil =>
    cases run
    exact ⟨[], (List.append_nil _).symm, .nil⟩
  | cons field rest ih =>
    rw [List.foldlM_cons] at run
    obtain ⟨next, step, run⟩ := bind_eq_ok run
    obtain ⟨added, later, each⟩ := ih run
    rw [addField] at step
    cases mapped : field.overrides.mapping with
    | none =>
      rw [mapped] at step
      cases step
      refine ⟨added, later, ?_⟩
      rwa [List.filter_cons_of_neg (by simp [mapped])]
    | some mapping =>
      rw [mapped] at step
      obtain ⟨⟨n, after⟩, made, step⟩ := bind_eq_ok step
      cases step
      refine ⟨n :: added, by rw [later, List.append_assoc]; rfl, ?_⟩
      rw [List.filter_cons_of_pos (by simp [mapped])]
      exact .cons ⟨mapping, _, after, mapped, made⟩ each

/-- The nested values are made for the fields with a mapping, in order. -/
theorem made_of_ofFields {nested : List NestedField}
    (folded : ofFields overrides fields aliases = .ok nested) :
    List.Forall₂ (MadeFor overrides fields aliases)
      (fields.filter fun field => field.overrides.mapping.isSome) nested := by
  obtain ⟨⟨made, owners⟩, run, folded⟩ := bind_eq_ok folded
  cases folded
  obtain ⟨added, rfl, each⟩ := foldlM_made run
  exact each

/-- A field has a nested value if and only if it has a mapping, and then the one that is folded. -/
theorem nested?_of_ofFields {nested : List NestedField}
    (folded : ofFields overrides fields aliases = .ok nested)
    (distinct : (fields.map Field.name).Nodup) {field : Field} (member : field ∈ fields) :
    (field.overrides.mapping = none ∧ field.nested? nested = none) ∨
      ∃ mapping n, field.overrides.mapping = some mapping ∧ field.nested? nested = some n ∧
        Folds fields aliases field mapping n := by
  have each : List.Forall₂ _ (fields.filter fun field => field.overrides.mapping.isSome) nested :=
    (made_of_ofFields folded).imp fun field n ⟨mapping, _, _, mapped, made⟩ =>
      (⟨mapping, mapped, ofMapping_folds made⟩ : ∃ mapping, field.overrides.mapping = some mapping ∧
        Folds fields aliases field mapping n)
  cases found : field.nested? nested with
  | some n =>
    obtain ⟨other, kept, mapping, mapped, folds⟩ :=
      exists_of_mem_right each (List.mem_of_find?_eq_some found)
    have named : n.fieldName = field.name := by simpa using List.find?_some found
    have same : other = field := List.inj_on_of_nodup_map distinct (List.mem_filter.mp kept).1
      member (folds.fieldName.symm.trans named)
    exact .inr ⟨mapping, n, same ▸ mapped, rfl, same ▸ folds⟩
  | none =>
    cases mapped : field.overrides.mapping with
    | none => exact .inl ⟨rfl, rfl⟩
    | some mapping =>
      obtain ⟨n, inside, _, _, folds⟩ := exists_of_mem_left each
        (List.mem_filter.mpr ⟨member, by simp [mapped]⟩)
      have apart := List.find?_eq_none.mp found n inside
      simp [folds.fieldName] at apart

theorem mem_takenNames {name : String} {field : Field}
    (h : name ∈ takenNames fields aliases field) :
    ∃ f ∈ fields, f.isDynamic = false ∧ f.name = name := by
  rw [takenNames] at h
  split at h
  · obtain ⟨f, member, rfl⟩ := List.mem_map.mp h
    obtain ⟨member, taken⟩ := List.mem_filter.mp member
    simp only [Mapping.takes, Bool.and_eq_true, Bool.not_eq_true'] at taken
    exact ⟨f, member, taken.1.1, rfl⟩
  · cases h

end NestedField

namespace TypedStatement

open Sql NestedField

section Settle

variable (nested : List NestedField) (field : Field)

@[simp] theorem settle_name : (settle nested field).name = field.name := by
  rw [settle]
  split <;> rfl

@[simp] theorem settle_source : (settle nested field).source = field.source := by
  rw [settle]
  split <;> rfl

@[simp] theorem settle_overrides : (settle nested field).overrides = field.overrides := by
  rw [settle]
  split <;> rfl

@[simp] theorem settle_annotations :
    (settle nested field).annotations = field.annotations := by
  rw [settle]
  split <;> rfl

@[simp] theorem settle_propertyName :
    (settle nested field).propertyName = field.propertyName := by
  rw [settle]
  split <;> rfl

@[simp] theorem settle_isDynamic : (settle nested field).isDynamic = field.isDynamic := by
  simp [Field.isDynamic]

theorem taken_settle (mapping : Mapping) (fields : List Field)
    (aliases : OrderedMap String String) :
    mapping.taken aliases (fields.map (settle nested)) =
      (mapping.taken aliases fields).map (settle nested) := by
  have same : mapping.takes aliases ∘ settle nested = mapping.takes aliases := by
    funext f
    simp [Mapping.takes, Mapping.isSourceOf]
  rw [Mapping.taken, List.filter_map, same, Mapping.taken]

theorem takenNames_settle (fields : List Field) (aliases : OrderedMap String String) :
    takenNames (fields.map (settle nested)) aliases (settle nested field) =
      takenNames fields aliases field := by
  rw [takenNames, takenNames, settle_overrides]
  cases field.overrides.mapping with
  | none => rfl
  | some mapping => simp [taken_settle, Function.comp_def]

/-- What a column is within a nested value does not depend on the nested value. -/
theorem column_settle (mapping : Mapping) (style : NameStyle) :
    mapping.column style (settle nested field) = mapping.column style field := by
  rw [settle]
  split <;> rfl

theorem gathers_settle {overrides : StatementOverrides} {fields : List Field}
    {aliases : OrderedMap String String} {mapping : Mapping} {n : NestedField}
    (h : Gathers overrides fields aliases mapping n) :
    Gathers overrides (fields.map (settle nested)) aliases mapping n where
  kind := h.kind
  columns := by
    rw [h.columns, taken_settle, List.map_map]
    exact List.map_congr_left fun f _ => (column_settle nested f mapping _).symm
  some' := h.some'
  parentKey grouped := by
    obtain ⟨key, parent, given, first, named⟩ := h.parentKey grouped
    refine ⟨key, settle nested parent, given, ?_, by rw [named, settle_name]⟩
    have same : (fun f : Field => Text.sameName f.name key) ∘ settle nested =
        fun f => Text.sameName f.name key := by
      funext f
      rw [Function.comp_apply, settle_name]
    rw [List.find?_map, same, first]
    rfl
  itemKey := h.itemKey
  ungrouped := h.ungrouped

end Settle

theorem mappedColumns_settle (nested : List NestedField) (fields : List Field)
    (aliases : OrderedMap String String) :
    Field.mappedColumns (fields.map (settle nested)) aliases =
      (fields.flatMap (takenNames fields aliases)).eraseDups := by
  rw [mappedColumns_eq, List.flatMap_map]
  simp only [takenNames_settle]

theorem ofColumn_name {context : Context} {style : NameStyle} {source : ResultColumn}
    {declared : Option Annotations} {field : Field}
    (h : Field.ofColumn context style source declared = .ok field) : field.name = source.name := by
  obtain ⟨overrides, _, h⟩ := bind_eq_ok h
  cases h
  rfl

/-- No two columns have one name, in whatever letter case. -/
theorem columnFields_distinct {context : Context} {statement : String} {style : NameStyle}
    {declared : OrderedMap String Annotations} {seen : List String}
    {columns : List ResultColumn} {fields : List Field}
    (h : columnFields context statement style declared seen columns = .ok fields) :
    (fields.map fun f => Text.foldLower f.name).Nodup ∧
      ∀ f ∈ fields, Text.foldLower f.name ∉ seen := by
  induction columns generalizing seen fields with
  | nil =>
    cases h
    simp
  | cons column rest ih =>
    rw [columnFields] at h
    split at h
    · cases h
    · rename_i new
      obtain ⟨field, first, h⟩ := bind_eq_ok h
      obtain ⟨others, after, h⟩ := bind_eq_ok h
      cases h
      have name := ofColumn_name (mapError_eq_ok.mp first)
      obtain ⟨distinct, apart⟩ := ih after
      refine ⟨?_, ?_⟩
      · rw [List.map_cons, List.nodup_cons]
        refine ⟨fun again => ?_, distinct⟩
        obtain ⟨other, member, same⟩ := List.mem_map.mp again
        rw [name] at same
        exact apart other member (same ▸ List.mem_cons_self)
      · intro f member
        rcases List.mem_cons.mp member with rfl | member
        · rw [name]
          exact fun old => new (List.contains_iff_mem.mpr old)
        · exact fun old => apart f member (List.mem_cons_of_mem _ old)

theorem dynamicField_eq_ok {statement : String} {style : NameStyle} {columns : List Field}
    {entry : String × Annotations} {field : Field}
    (h : dynamicField statement style columns entry = .ok field) :
    field.name = entry.1 ∧ ∀ column ∈ columns, column.name ≠ field.name := by
  rw [dynamicField] at h
  split at h
  · cases h
  · rename_i new
    obtain ⟨overrides, _, h⟩ := bind_eq_ok (mapError_eq_ok.mp h)
    cases h
    refine ⟨rfl, fun column member same => new (List.any_eq_true.mpr ⟨column, member, ?_⟩)⟩
    rw [same]
    exact Text.sameName_refl _

theorem dynamicFields_names {statement : String} {style : NameStyle} {columns : List Field}
    {entries : List (String × Annotations)} {fields : List Field}
    (h : List.Forall₂ (fun entry field => dynamicField statement style columns entry = .ok field)
      entries fields) :
    fields.map Field.name = entries.map Prod.fst ∧
      ∀ field ∈ fields, ∀ column ∈ columns, column.name ≠ field.name := by
  induction h with
  | nil => simp
  | cons first _ ih =>
    obtain ⟨name, apart⟩ := dynamicField_eq_ok first
    refine ⟨by rw [List.map_cons, List.map_cons, name, ih.1], ?_⟩
    intro field member
    rcases List.mem_cons.mp member with rfl | member
    · exact apart
    · exact ih.2 field member

/-- How the fields of a statement are made and folded. -/
theorem analyse_parts {context : Context} {place : Place} {item : ScriptItem}
    {statement : TypedStatement} (h : analyse context place item = .ok statement) :
    ∃ shape comments columns dynamic,
      Shape.ofStatement context.catalog place.name item.statement = .ok shape ∧
      CommentAnnotations.ofComments item.comments = .ok comments ∧
      columnFields context place.name statement.overrides.nameStyle comments.fields []
        shape.columns = .ok columns ∧
      (dynamicAnnotations context.inheritance shape.views comments.fields).entries.mapM
        (dynamicField place.name statement.overrides.nameStyle columns) = .ok dynamic ∧
      ofFields statement.overrides (columns ++ dynamic) statement.aliases =
        .ok statement.nested ∧
      statement.fields = (columns ++ dynamic).map (settle statement.nested) := by
  obtain ⟨shape, made, h⟩ := bind_eq_ok h
  obtain ⟨comments, read, h⟩ := bind_eq_ok h
  obtain ⟨overrides, _, h⟩ := bind_eq_ok h
  obtain ⟨columns, first, h⟩ := bind_eq_ok h
  obtain ⟨dynamic, added, h⟩ := bind_eq_ok h
  obtain ⟨nested, folded, h⟩ := bind_eq_ok h
  obtain ⟨parameters, _, h⟩ := bind_eq_ok h
  cases h
  exact ⟨shape, comments, columns, dynamic, made, mapError_eq_ok.mp read, first, added,
    mapError_eq_ok.mp folded, rfl⟩

theorem analyse_steps {context : Context} {place : Place} {item : ScriptItem}
    {statement : TypedStatement} (h : analyse context place item = .ok statement) :
    ∃ shape comments overrides columns dynamic,
      Shape.ofStatement context.catalog place.name item.statement = .ok shape ∧
      CommentAnnotations.ofComments item.comments = .ok comments ∧
      columnFields context place.name overrides.nameStyle comments.fields [] shape.columns =
        .ok columns ∧
      (dynamicAnnotations context.inheritance shape.views comments.fields).entries.mapM
        (dynamicField place.name overrides.nameStyle columns) = .ok dynamic ∧
      ofFields overrides (columns ++ dynamic) statement.aliases = .ok statement.nested ∧
      statement.fields = (columns ++ dynamic).map (settle statement.nested) := by
  obtain ⟨shape, comments, columns, dynamic, parts⟩ := analyse_parts h
  exact ⟨shape, comments, statement.overrides, columns, dynamic, parts⟩

/-- Each nested value of a statement is made for a field with a mapping. -/
theorem analyse_gathers {context : Context} {place : Place} {item : ScriptItem}
    {statement : TypedStatement} (h : analyse context place item = .ok statement) {n : NestedField}
    (member : n ∈ statement.nested) :
    ∃ field ∈ statement.fields, ∃ mapping, field.overrides.mapping = some mapping ∧
      n.fieldName = field.name ∧
      Gathers statement.overrides statement.fields statement.aliases mapping n := by
  obtain ⟨_, _, columns, dynamic, _, _, _, _, folded, settled⟩ := analyse_parts h
  obtain ⟨field, kept, mapping, _, _, mapped, made⟩ :=
    exists_of_mem_right (made_of_ofFields folded) member
  rw [settled]
  refine ⟨settle statement.nested field, List.mem_map_of_mem (List.mem_filter.mp kept).1, mapping,
    ?_, ?_, gathers_settle _ (ofMapping_gathers made)⟩
  · rw [settle_overrides, mapped]
  · rw [settle_name, (ofMapping_folds made).fieldName]

theorem fields_distinct {context : Context} {statement : String} {style : NameStyle}
    {views : List String} {declared : OrderedMap String Annotations} {results : List ResultColumn}
    {columns dynamic : List Field}
    (first : columnFields context statement style declared [] results = .ok columns)
    (added : (dynamicAnnotations context.inheritance views declared).entries.mapM
      (dynamicField statement style columns) = .ok dynamic) :
    ((columns ++ dynamic).map Field.name).Nodup := by
  obtain ⟨distinct, _⟩ := columnFields_distinct first
  obtain ⟨names, apart⟩ := dynamicFields_names (mapM_eq_ok added)
  rw [List.map_append, List.nodup_append]
  refine ⟨?_, ?_, ?_⟩
  · refine List.Nodup.of_map Text.foldLower ?_
    rw [List.map_map]
    exact distinct
  · rw [names]
    exact OrderedMap.nodup _
  · intro name fromColumn other fromDynamic same
    obtain ⟨column, hc, rfl⟩ := List.mem_map.mp fromColumn
    obtain ⟨field, hf, rfl⟩ := List.mem_map.mp fromDynamic
    exact apart field hf column hc same

theorem analyse_eq_ok {context : Context} {place : Place} {item : ScriptItem}
    {statement : TypedStatement} (h : analyse context place item = .ok statement) :
    ∃ overrides fields, (fields.map Field.name).Nodup ∧
      ofFields overrides fields statement.aliases = .ok statement.nested ∧
      statement.fields = fields.map (settle statement.nested) := by
  obtain ⟨_, _, overrides, columns, dynamic, _, _, first, added, folded, settled⟩ :=
    analyse_steps h
  exact ⟨overrides, columns ++ dynamic, fields_distinct first added, folded, settled⟩

/-- Of the columns of a statement each is flat, or it is within one nested value, once. Dynamic
fields are flat. The columns to be skipped, read off the nested values, are those that the mappings
of the final fields take. -/
theorem analyse_partition {context : Context} {place : Place} {item : ScriptItem}
    {statement : TypedStatement} (h : analyse context place item = .ok statement) :
    (∀ field ∈ statement.fields,
      (field ∈ statement.flatFields ∧ (innerNames statement.nested).count field.name = 0) ∨
      (field ∉ statement.flatFields ∧ field.isDynamic = false ∧
        (innerNames statement.nested).count field.name = 1)) ∧
    (∀ name ∈ innerNames statement.nested, ∃ field ∈ statement.fields, field.name = name) ∧
    statement.flatFields =
      statement.fields.filter (fun field => field.name ∉ innerNames statement.nested) ∧
    (∀ field ∈ statement.fields, field.isDynamic = true → field ∈ statement.flatFields) ∧
    skipped statement.nested = Field.mappedColumns statement.fields statement.aliases := by
  obtain ⟨overrides, fields, distinct, folded, settled⟩ := analyse_eq_ok h
  obtain ⟨inner, once⟩ := ofFields_eq_ok folded
  have flat : statement.flatFields =
      statement.fields.filter (fun field => field.name ∉ innerNames statement.nested) := by
    rw [flatFields, Field.flat, skipped_eq]
    refine List.filter_congr fun field _ => ?_
    simp [List.mem_eraseDups]
  have names : (statement.fields.map Field.name).Nodup := by
    simpa [settled, Function.comp_def] using distinct
  have source : ∀ name ∈ innerNames statement.nested,
      ∃ field ∈ statement.fields, field.isDynamic = false ∧ field.name = name := by
    intro name member
    rw [inner, List.mem_flatMap] at member
    obtain ⟨_, _, member⟩ := member
    obtain ⟨f, hf, still, rfl⟩ := mem_takenNames member
    refine ⟨settle statement.nested f, ?_, by simpa using still, by simp⟩
    rw [settled]
    exact List.mem_map_of_mem hf
  -- no mapping takes a dynamic field, and a name that is taken belongs to one field only
  have still : ∀ field ∈ statement.fields, field.name ∈ innerNames statement.nested →
      field.isDynamic = false := by
    intro field member taken
    obtain ⟨other, ho, still, same⟩ := source _ taken
    rw [List.inj_on_of_nodup_map names ho member same] at still
    exact still
  refine ⟨?_, ?_, flat, ?_, ?_⟩
  · intro field member
    rw [flat, List.mem_filter]
    by_cases taken : field.name ∈ innerNames statement.nested
    · right
      exact ⟨by simp [taken], still field member taken, List.count_eq_one_of_mem once taken⟩
    · left
      exact ⟨⟨member, by simpa using taken⟩, List.count_eq_zero.mpr taken⟩
  · intro name member
    obtain ⟨field, hf, _, same⟩ := source name member
    exact ⟨field, hf, same⟩
  · intro field member dynamic
    rw [flat, List.mem_filter]
    refine ⟨member, decide_eq_true fun taken => ?_⟩
    rw [still field member taken] at dynamic
    cases dynamic
  · rw [skipped_eq, inner, settled, mappedColumns_settle]

/-- Two tables, of which the second is folded into a field. -/
def orderContext : Context :=
  .ofCatalog ⟨.ofList [("a", ⟨"a", [⟨"x", none, true, false, none⟩], false, .empty, .empty, ""⟩),
    ("b", ⟨"b", [⟨"b_y", none, true, false, none⟩, ⟨"z", none, true, false, none⟩], false, .empty,
      .empty, ""⟩)], .empty⟩ .initial

def orderItem : ScriptItem where
  sql := ""
  statement := .select ⟨false, [], .select ⟨[], [.star none []], "",
    [⟨false, .comma, .table [⟨"a", none⟩] false none [], none, .none⟩,
      ⟨false, .comma, .table [⟨"b", none⟩] false none [], none, .none⟩],
    [], none, false, [], [], none, []⟩, [], none, none, []⟩
  leadingComments :=
    ["@@\x7bdynamicField=d, mappingType=entity, sourceTable=B, aliasPrefix=B_, propertyType=T\x7d"]
  innerComments := []
  parameters := []

theorem analyse_partition_order :
    ∃ statement, analyse orderContext ⟨"q", "n", ""⟩ orderItem = .ok statement ∧
      statement.fields.map Field.name = ["x", "b_y", "z", "d"] ∧
      innerNames statement.nested = ["b_y"] ∧
      statement.flatFields.map Field.name = ["x", "z", "d"] ∧
      Field.mappedColumns statement.fields statement.aliases = ["b_y"] := by
  have found : (match analyse orderContext ⟨"q", "n", ""⟩ orderItem with
      | .ok statement => (statement.fields.map Field.name, innerNames statement.nested)
      | .error _ => ([], [])) = (["x", "b_y", "z", "d"], ["b_y"]) := by decide +kernel
  cases h : analyse orderContext ⟨"q", "n", ""⟩ orderItem with
  | error e =>
    rw [h] at found
    cases found
  | ok statement =>
    rw [h] at found
    obtain ⟨names, inner⟩ := Prod.mk.inj found
    obtain ⟨_, _, flat, _, mapped⟩ := analyse_partition h
    refine ⟨statement, rfl, names, inner, ?_, ?_⟩
    · rw [flat, inner]
      have split : (statement.fields.filter fun field => field.name ∉ ["b_y"]).map Field.name =
          (statement.fields.map Field.name).filter fun name => name ∉ ["b_y"] := by
        rw [List.filter_map]
        rfl
      rw [split, names]
      rfl
    · rw [← mapped, skipped_eq, inner]
      rfl

end TypedStatement

end TypedRows
