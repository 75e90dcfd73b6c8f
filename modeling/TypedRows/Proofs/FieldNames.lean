import TypedRows.Proofs.ResultFields
import TypedRows.Proofs.SharedShape

/-! The names of the fields of a statement, in whatever letter case. The columns are told from each
other by their names in lower case, and the dynamic fields from the columns; but dynamic fields are
told from each other by their exact names. Fields are compared by the first of a name, in whatever
letter case: so a statement whose own dynamic fields differ only in case may be refused for the
result that it has defined itself. -/

namespace TypedRows

open Sql

namespace SharedResult

/-- Fields with the same name in whatever letter case have the same traits. -/
def Coherent (fields : List Field) : Prop :=
  ∀ f ∈ fields, ∀ g ∈ fields, Text.sameName f.name g.name = true → f.traits = g.traits

variable {fields : List Field}

theorem DistinctNames.coherent (distinct : DistinctNames fields) : Coherent fields := by
  intro f hf g hg named
  have same := traits?_of_mem distinct hf named
  rw [traits?_of_mem distinct hg (Text.sameName_refl _)] at same
  exact (Option.some.inj same).symm

/-- Fields agree with themselves if those of one name do. -/
theorem disagreement?_self : disagreement? fields fields = none ↔ Coherent fields := by
  rw [disagreement?_eq_none_iff, and_iff_right fun _ => rfl]
  constructor
  · intro own f hf g hg named
    have same := own f hf
    rw [traits?, fieldNamed?_congr named, ← traits?, own g hg] at same
    exact (Option.some.inj same).symm
  · intro coherent f hf
    obtain ⟨g, found⟩ := Option.isSome_iff_exists.mp
      (isSome_fieldNamed?_iff.mpr ⟨f, hf, Text.sameName_refl _⟩)
    obtain ⟨hg, named⟩ := fieldNamed?_eq_some found
    rw [traits?, found, Option.map_some, coherent g hg f hf named]

end SharedResult

namespace SharedResults

open SharedResult

variable {call : Call} {key : ResultKey}

theorem accepted_iff (named : call.key? = some key) (results : SharedResults) :
    call.accepted results = true ↔ ∀ result, results.get? key = some result →
      disagreement? result.fields call.statement.fields = none := by
  rw [← agree_eq_ok_iff, Call.accepted, outcome_of_named named]
  cases results.agree key call.statement with
  | ok _ => exact iff_of_true rfl rfl
  | error e =>
    refine iff_of_false Bool.false_ne_true fun agreed => ?_
    cases agreed

/-- A call that is accepted is accepted again, whatever was there before, just if the fields of its
statement agree with themselves. -/
theorem accepted_again_iff (named : call.key? = some key) :
    (∀ results, call.accepted results = true → call.accepted (call.after results) = true) ↔
      Coherent call.statement.fields := by
  have next : ∀ results, call.accepted results = true →
      (call.after results).get? key = some (results.shared key call.statement) := by
    intro results taken
    obtain ⟨_, _, _, next⟩ | ⟨refused, _⟩ := after_cases call results key
    · exact next
    · exact absurd ⟨taken, named⟩ refused
  constructor
  · intro again
    have first : call.accepted empty = true := by
      rw [accepted_iff named]
      intro result known
      cases known
    have second := (accepted_iff named _).mp (again empty first) _ (next empty first)
    exact disagreement?_self.mp second
  · intro coherent results taken
    rw [accepted_iff named]
    intro result known
    rw [next results taken] at known
    cases known
    -- the first statement under the key defines the fields
    rw [shared]
    cases before : results.get? key with
    | none => exact disagreement?_self.mpr coherent
    | some result => exact (accepted_iff named results).mp taken result before

end SharedResults

namespace TypedStatement

open SharedResult SharedResults

theorem distinctNames_settle (nested : List NestedField) (fields : List Field) :
    DistinctNames (fields.map (settle nested)) ↔ DistinctNames fields := by
  rw [DistinctNames, DistinctNames, List.map_map]
  simp only [Function.comp_def, settle_name]

theorem distinctNames_iff {context : Context} {statement : String} {style : NameStyle}
    {views : List String} {declared : OrderedMap String Annotations} {results : List ResultColumn}
    {columns dynamic : List Field}
    (first : columnFields context statement style declared [] results = .ok columns)
    (added : (dynamicAnnotations context.inheritance views declared).entries.mapM
      (dynamicField statement style columns) = .ok dynamic) :
    DistinctNames (columns ++ dynamic) ↔
      ∀ a ∈ dynamicNames context.inheritance views declared,
        ∀ b ∈ dynamicNames context.inheritance views declared,
          Text.sameName a b = true → a = b := by
  obtain ⟨distinct, _⟩ := columnFields_distinct first
  obtain ⟨names, _⟩ := dynamicFields_names (mapM_eq_ok added)
  obtain ⟨unbacked, _⟩ := dynamicFields_eq_ok added
  have apart : ∀ a ∈ columns.map (fun f => Text.foldLower f.name),
      ∀ b ∈ dynamic.map (fun f => Text.foldLower f.name), a ≠ b := by
    intro a ha b hb same
    obtain ⟨column, hc, rfl⟩ := List.mem_map.mp ha
    obtain ⟨field, hf, rfl⟩ := List.mem_map.mp hb
    have other := (unbacked field hf).apart column hc
    rw [Text.sameName_iff.mpr same] at other
    cases other
  have keys : dynamic.map (fun f => Text.foldLower f.name) =
      (dynamicAnnotations context.inheritance views declared).keys.map Text.foldLower := by
    rw [OrderedMap.keys, ← names, List.map_map]
    rfl
  have exact' : (dynamicAnnotations context.inheritance views declared).keys.Nodup :=
    OrderedMap.nodup _
  rw [DistinctNames, List.map_append, List.nodup_append, and_iff_right distinct,
    and_iff_left apart, keys, List.nodup_map_iff_inj_on exact']
  simp only [mem_keys_dynamicAnnotations, Text.sameName_iff]

/-- No other field has the name of a column, in whatever letter case. -/
theorem columns_apart {context : Context} {place : Place} {item : ScriptItem}
    {statement : TypedStatement} (h : analyse context place item = .ok statement) {f g : Field}
    (hf : f ∈ statement.fields) (hg : g ∈ statement.fields) (column : f.isDynamic = false)
    (other : f.name ≠ g.name) : Text.sameName f.name g.name = false := by
  obtain ⟨_, _, columns, dynamic, _, _, first, added, _, settled⟩ := analyse_parts h
  rw [settled] at hf hg
  obtain ⟨f, inF, rfl⟩ := List.mem_map.mp hf
  obtain ⟨g, inG, rfl⟩ := List.mem_map.mp hg
  rw [settle_name, settle_name] at other ⊢
  rw [settle_isDynamic] at column
  obtain ⟨unbacked, _⟩ := dynamicFields_eq_ok added
  obtain hf | hf := List.mem_append.mp inF
  · obtain hg | hg := List.mem_append.mp inG
    · rw [Bool.eq_false_iff, ne_eq, Text.sameName_iff]
      intro same
      have distinct := (columnFields_distinct first).1
      exact other (congrArg Field.name (List.inj_on_of_nodup_map distinct hf hg same))
    · exact (unbacked g hg).apart f hf
  · rw [(unbacked f hf).dynamic] at column
    cases column

/-- The names of the fields of an accepted statement are distinct in whatever letter case exactly if
no two of the dynamic fields, declared by the views it reads or by itself, differ only in case. If
so it can always be registered again once it has been; exactly it can if its fields of one name do
not differ in nullability or type. -/
theorem analyse_names_distinct_iff {context : Context} {place : Place} {item : ScriptItem}
    {statement : TypedStatement} (h : analyse context place item = .ok statement) :
    (∃ shape comments,
      Shape.ofStatement context.catalog place.name item.statement = .ok shape ∧
      CommentAnnotations.ofComments item.comments = .ok comments ∧
      (DistinctNames statement.fields ↔
        ∀ a ∈ dynamicNames context.inheritance shape.views comments.fields,
          ∀ b ∈ dynamicNames context.inheritance shape.views comments.fields,
            Text.sameName a b = true → a = b)) ∧
    (DistinctNames statement.fields → Coherent statement.fields) ∧
    ∀ space name, statement.overrides.queryResult = some name →
      ((∀ results, Call.accepted ⟨statement, space⟩ results = true →
          Call.accepted ⟨statement, space⟩ (Call.after ⟨statement, space⟩ results) = true) ↔
        Coherent statement.fields) := by
  refine ⟨?_, DistinctNames.coherent, fun space name given => ?_⟩
  · obtain ⟨shape, comments, columns, dynamic, made, own, first, added, _, settled⟩ :=
      analyse_parts h
    refine ⟨shape, comments, made, own, ?_⟩
    rw [settled, distinctNames_settle]
    exact distinctNames_iff first added
  · have named : Call.key? ⟨statement, space⟩ = some ⟨space, name⟩ := by
      rw [Call.key?, given, Option.map_some]
    exact accepted_again_iff named

/-- A query with two dynamic fields whose names differ only in case. -/
def taggedQuery : ScriptItem :=
  ⟨"", .select (Catalog.selectAll "t"), ["@@\x7bqueryResult=R\x7d",
    "@@\x7bdynamicField=tag, propertyType=String\x7d",
    "@@\x7bdynamicField=Tag, propertyType=i64\x7d"], [], []⟩

theorem exists_tagged : ∃ catalog statement,
    Catalog.ofScript (Catalog.tableWith []) = .ok catalog ∧
    analyse (.ofCatalog catalog .initial) ⟨"q", "n", ""⟩ taggedQuery = .ok statement ∧
    statement.overrides.queryResult = some "R" ∧
    statement.fields.map (fun f => (f.name, f.propertyType)) =
      [("x", "i64"), ("tag", "String"), ("Tag", "i64")] := by
  have fields : (do
      let catalog ← (Catalog.ofScript (Catalog.tableWith [])).toOption
      let statement ← (analyse (.ofCatalog catalog .initial) ⟨"q", "n", ""⟩ taggedQuery).toOption
      some (statement.overrides.queryResult,
        statement.fields.map fun f => (f.name, f.propertyType))) =
        some (some "R", [("x", "i64"), ("tag", "String"), ("Tag", "i64")]) := by
    decide +kernel
  obtain ⟨catalog, statement, read, analysed, fields⟩ := exists_evaluated fields
  obtain ⟨given, fields⟩ := Prod.mk.inj fields
  exact ⟨catalog, statement, read, analysed, given, fields⟩

/-- The statement is accepted, but where it is the first under its result it is not accepted
again. -/
theorem analyse_names_tagged : ∃ catalog statement,
    Catalog.ofScript (Catalog.tableWith []) = .ok catalog ∧
    analyse (.ofCatalog catalog .initial) ⟨"q", "n", ""⟩ taggedQuery = .ok statement ∧
    ¬DistinctNames statement.fields ∧
    ¬∀ results, Call.accepted ⟨statement, "n"⟩ results = true →
      Call.accepted ⟨statement, "n"⟩ (Call.after ⟨statement, "n"⟩ results) = true := by
  obtain ⟨catalog, statement, read, analysed, given, fields⟩ := exists_tagged
  obtain ⟨_, coherent, again⟩ := analyse_names_distinct_iff analysed
  have incoherent : ¬Coherent statement.fields := by
    intro agree
    obtain ⟨x, rest, all, _, fields⟩ := List.map_eq_cons_iff.mp fields
    obtain ⟨tag, rest, rfl, lower, fields⟩ := List.map_eq_cons_iff.mp fields
    obtain ⟨other, rfl, upper⟩ := List.map_eq_singleton_iff.mp fields
    obtain ⟨name, type⟩ := Prod.mk.inj lower
    obtain ⟨name', type'⟩ := Prod.mk.inj upper
    have named : Text.sameName tag.name other.name = true := by
      rw [name, name', Text.sameName_eq_toList]
      decide
    have same := congrArg Prod.snd (agree tag (by simp [all]) other (by simp [all]) named)
    change tag.propertyType = other.propertyType at same
    rw [type, type'] at same
    exact absurd same (by decide +kernel)
  exact ⟨catalog, statement, read, analysed, fun distinct => incoherent (coherent distinct),
    fun always => incoherent ((again "n" "R" given).mp always)⟩

end TypedStatement

end TypedRows
