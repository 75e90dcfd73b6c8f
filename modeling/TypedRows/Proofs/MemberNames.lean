import TypedRows.Proofs.FieldNames
import TypedRows.Proofs.LimitParameters
import TypedRows.Proofs.ModuleNames

/-! The names of the members of the generated structs. The names of columns and parameters are
distinct, but those of their members are made from them in a style that leaves out marks and letter
case, or without the prefix of a mapping, or are given by annotations; nothing tells the names that
come out from each other. -/

namespace TypedRows

open Sql

namespace NameStyle

/-- Two names come to the same in a style. -/
def Confuses : NameStyle → String → String → Prop
  | snake, a, b => (Naming.words a).map Naming.lowerWord = (Naming.words b).map Naming.lowerWord
  | lowerCamel, a, b => Naming.lowerCamelCase a = Naming.lowerCamelCase b
  | plain, a, b => a = b

theorem apply_eq_iff (style : NameStyle) (a b : String) :
    style.apply a = style.apply b ↔ style.Confuses a b := by
  cases style with
  | snake => exact Naming.snakeCase_eq_iff
  | lowerCamel => exact Iff.rfl
  | plain => exact Iff.rfl

end NameStyle

/-- What a member is named by: the name given to it, if one is, or else another name in a style. -/
structure MemberName where
  given : Option String
  name : String
  deriving DecidableEq

namespace MemberName

def text (style : NameStyle) (member : MemberName) : String :=
  member.given.getD (style.apply member.name)

/-- Two members come to have one name. -/
def Clash (style : NameStyle) (a b : MemberName) : Prop :=
  match a.given, b.given with
  | some p, some q => p = q
  | some p, none => p = style.apply b.name
  | none, some q => style.apply a.name = q
  | none, none => style.Confuses a.name b.name

theorem text_eq_iff (style : NameStyle) (a b : MemberName) :
    a.text style = b.text style ↔ Clash style a b := by
  obtain ⟨given, name⟩ := a
  obtain ⟨given', name'⟩ := b
  cases given <;> cases given' <;> simp [text, Clash, NameStyle.apply_eq_iff]

theorem nodup_iff {α : Type} {style : NameStyle} {members : List α} {text : α → String}
    {label : α → MemberName} (each : ∀ a ∈ members, text a = (label a).text style) :
    (members.map text).Nodup ↔ members.Pairwise fun a b => ¬Clash style (label a) (label b) := by
  rw [List.Nodup, List.pairwise_map]
  refine List.Pairwise.iff_of_mem fun ha hb => ?_
  rw [ne_eq, each _ ha, each _ hb, text_eq_iff]

end MemberName

/-! A column within a nested value is named without the prefix of the mapping, unless nothing is
left of its name. -/

theorem afterName?_eq_some {start name rest : List Char} (h : afterName? start name = some rest) :
    name.map Char.toLower = start.map Char.toLower ++ rest.map Char.toLower := by
  fun_induction afterName? start name with
  | case1 name =>
    cases h
    rfl
  | case2 => cases h
  | case3 p start c name same ih => rw [List.map_cons, ih h, List.map_cons, same, List.cons_append]
  | case4 => cases h

namespace Mapping

variable {mapping : Mapping} {start a b rest : String}

theorem foldLower_of_strip? (given : mapping.aliasPrefix = some start)
    (stripped : mapping.strip? a = some rest) :
    Text.foldLower a = Text.foldLower start ++ Text.foldLower rest := by
  rw [strip?, given] at stripped
  obtain ⟨chars, after, rfl⟩ := Option.map_eq_some_iff.mp stripped
  rw [← String.toList_inj, String.toList_append, Text.toList_foldLower, Text.toList_foldLower,
    Text.toList_foldLower, String.toList_ofList]
  exact afterName?_eq_some after

theorem sameName_start_iff (given : mapping.aliasPrefix = some start)
    (stripped : mapping.strip? a = some rest) : Text.sameName a start = true ↔ rest = "" := by
  have none' : Text.foldLower rest = "" ↔ rest = "" := by
    rw [Text.foldLower_eq_iff, ← String.toList_inj]
    simp
  rw [Text.sameName_iff, foldLower_of_strip? given stripped, ← none']
  conv_lhs => rw [← String.append_empty (s := Text.foldLower start), String.append_assoc]
  rw [String.append_right_inj, String.empty_append]

/-- The first name is the prefix of the mapping, and the second one is the prefix and the first
name. -/
def Doubles (mapping : Mapping) (a b : String) : Prop :=
  ∃ start, mapping.aliasPrefix = some start ∧ Text.sameName a start = true ∧
    mapping.strip? b = some a

theorem doubles_iff {restA restB : String} (given : mapping.aliasPrefix = some start)
    (ha : mapping.strip? a = some restA) (hb : mapping.strip? b = some restB) :
    mapping.Doubles a b ↔ restA = "" ∧ restB = a := by
  simp only [Doubles, given, Option.some.injEq, exists_eq_left', sameName_start_iff given ha, hb]

theorem shortName_of_strip? (stripped : mapping.strip? a = some rest) :
    mapping.shortName a = if rest = "" then a else rest := by
  rw [shortName, stripped]
  exact if_congr String.isEmpty_iff rfl rfl

/-- Different names that a mapping takes have one short name only if one of them is the prefix. -/
theorem shortName_eq_iff (ha : (mapping.strip? a).isSome = true)
    (hb : (mapping.strip? b).isSome = true) (apart : Text.sameName a b = false) :
    mapping.shortName a = mapping.shortName b ↔ mapping.Doubles a b ∨ mapping.Doubles b a := by
  obtain ⟨restA, ha⟩ := Option.isSome_iff_exists.mp ha
  obtain ⟨restB, hb⟩ := Option.isSome_iff_exists.mp hb
  rw [Bool.eq_false_iff, ne_eq, Text.sameName_iff] at apart
  cases given : mapping.aliasPrefix with
  | none =>
    have whole : ∀ name, mapping.shortName name = name := by
      intro name
      have all : mapping.strip? name = some name := by rw [strip?, given]
      rw [shortName_of_strip? all, ite_self]
    have other : a ≠ b := fun same => apart (congrArg Text.foldLower same)
    simp [whole, other, Doubles, given]
  | some start =>
    have foldA := foldLower_of_strip? given ha
    have foldB := foldLower_of_strip? given hb
    rw [shortName_of_strip? ha, shortName_of_strip? hb, doubles_iff given ha hb,
      doubles_iff given hb ha]
    by_cases same : restA = restB
    · -- the same is left of both only if they differ in no more than case
      rw [same, ← foldB] at foldA
      exact absurd foldA apart
    · by_cases noneA : restA = ""
      · have someB : restB ≠ "" := fun noneB => same (noneA.trans noneB.symm)
        simp [noneA, someB, eq_comm]
      · by_cases noneB : restB = "" <;> simp [noneA, noneB, same]

end Mapping

namespace Field

/-- The name of a field as a member of a row. -/
def member (field : Field) : MemberName := ⟨field.overrides.propertyName, field.name⟩

/-- The name of a field as a member of a nested value. -/
def memberOf (mapping : Mapping) (field : Field) : MemberName :=
  ⟨field.overrides.propertyName, mapping.shortName field.name⟩

end Field

namespace TypedStatement

variable {context : Context} {place : Place} {item : ScriptItem} {statement : TypedStatement}

theorem propertyName_eq (h : analyse context place item = .ok statement) :
    ∀ field ∈ statement.fields,
      field.propertyName = field.member.text statement.overrides.nameStyle := by
  obtain ⟨_, _, columns, dynamic, _, _, first, added, _, settled⟩ := analyse_parts h
  rw [settled]
  intro field member
  obtain ⟨f, inside, rfl⟩ := List.mem_map.mp member
  rw [settle_propertyName, MemberName.text, Field.member, settle_overrides, settle_name]
  obtain column | other := List.mem_append.mp inside
  · obtain ⟨_, _, made⟩ := exists_of_mem_right (columnFields_eq_ok first) column
    obtain ⟨_, _, made⟩ := bind_eq_ok made
    cases made
    rfl
  · obtain ⟨_, _, made⟩ := exists_of_mem_right (mapM_eq_ok added) other
    rw [dynamicField] at made
    split at made
    · cases made
    · obtain ⟨_, _, made⟩ := bind_eq_ok (mapError_eq_ok.mp made)
      cases made
      rfl

theorem parameterNames_eq (h : analyse context place item = .ok statement) :
    statement.parameters.map Parameter.propertyName =
      item.parameters.eraseDups.map Naming.snakeCase := by
  obtain ⟨_, _, _, all⟩ := exists_shape h
  have each := mapM_eq_ok all
  generalize statement.parameters = parameters at each ⊢
  generalize item.parameters.eraseDups = names at each ⊢
  induction each with
  | nil => rfl
  | cons inferred _ ih =>
    rw [List.map_cons, List.map_cons, (Parameter.names_of_infer inferred).2, ih]

/-- The members of the struct of a nested value. -/
structure NestedMembers (statement : TypedStatement) (mapping : Mapping) (n : NestedField) :
    Prop where
  columns : n.columns = (mapping.taken statement.aliases statement.fields).map
    (mapping.column statement.overrides.nameStyle)
  distinct : (n.columns.map NestedColumn.propertyName).Nodup ↔
    (mapping.taken statement.aliases statement.fields).Pairwise fun f g =>
      ¬MemberName.Clash statement.overrides.nameStyle (f.memberOf mapping) (g.memberOf mapping)
  short : ∀ f ∈ mapping.taken statement.aliases statement.fields,
    ∀ g ∈ mapping.taken statement.aliases statement.fields, f.name ≠ g.name →
      ((f.memberOf mapping).name = (g.memberOf mapping).name ↔
        mapping.Doubles f.name g.name ∨ mapping.Doubles g.name f.name)

theorem nestedMembers_of_gathers (h : analyse context place item = .ok statement)
    {mapping : Mapping} {n : NestedField} (gathers : NestedField.Gathers statement.overrides
      statement.fields statement.aliases mapping n) : NestedMembers statement mapping n where
  columns := gathers.columns
  distinct := by
    rw [gathers.columns, List.map_map]
    exact MemberName.nodup_iff fun _ _ => rfl
  short := by
    intro f hf g hg other
    obtain ⟨hf, takenF⟩ := List.mem_filter.mp hf
    obtain ⟨hg, takenG⟩ := List.mem_filter.mp hg
    simp only [Mapping.takes, Bool.and_eq_true, Bool.not_eq_true'] at takenF takenG
    exact Mapping.shortName_eq_iff takenF.2 takenG.2 (columns_apart h hf hg takenF.1.1 other)

/-- The members of the rows of a statement, of its parameters and of each of its nested values have
distinct names exactly if no two of them come to one name: by a name given to one of them, by the
style of the statement, or within a nested value by what is left of them without the prefix. That is
the same for two columns only if one is the prefix, and the other one is the prefix and the first
one. -/
theorem analyse_members_distinct_iff (h : analyse context place item = .ok statement) :
    ((statement.flatFields.map Field.propertyName).Nodup ↔
      statement.flatFields.Pairwise fun f g =>
        ¬MemberName.Clash statement.overrides.nameStyle f.member g.member) ∧
    ((statement.parameters.map Parameter.propertyName).Nodup ↔
      item.parameters.eraseDups.Pairwise fun a b => ¬NameStyle.snake.Confuses a b) ∧
    ∀ n ∈ statement.nested, ∃ field ∈ statement.fields, ∃ mapping,
      field.overrides.mapping = some mapping ∧ n.fieldName = field.name ∧
        NestedMembers statement mapping n := by
  refine ⟨?_, ?_, ?_⟩
  · exact MemberName.nodup_iff fun f member =>
      propertyName_eq h f (List.mem_of_mem_filter member)
  · rw [parameterNames_eq h, List.Nodup, List.pairwise_map]
    refine List.Pairwise.iff fun a b => ?_
    rw [ne_eq, ← NameStyle.apply_eq_iff]
    rfl
  · intro n member
    obtain ⟨field, inside, mapping, mapped, named, gathers⟩ := analyse_gathers h member
    exact ⟨field, inside, mapping, mapped, named, nestedMembers_of_gathers h gathers⟩

/-- A table with two columns of the same words. -/
def twinSchema : List ScriptItem :=
  [⟨"", .createTable ⟨"t", [⟨"user_id", none, true, false, none⟩,
    ⟨"userId", none, true, false, none⟩], false⟩, [], [], []⟩]

def twinQuery : ScriptItem := ⟨"", .select (Catalog.selectAll "t"), [], [], []⟩

theorem exists_twins : ∃ catalog statement, Catalog.ofScript twinSchema = .ok catalog ∧
    analyse (.ofCatalog catalog .initial) ⟨"q", "n", ""⟩ twinQuery = .ok statement ∧
    statement.overrides.nameStyle = .snake ∧
    statement.flatFields.map Field.member = [⟨none, "user_id"⟩, ⟨none, "userId"⟩] := by
  have computed : (do
      let catalog ← (Catalog.ofScript twinSchema).toOption
      let statement ← (analyse (.ofCatalog catalog .initial) ⟨"q", "n", ""⟩ twinQuery).toOption
      some (statement.overrides.nameStyle, statement.flatFields.map Field.member)) =
        some (.snake, [⟨none, "user_id"⟩, ⟨none, "userId"⟩]) := by
    decide +kernel
  obtain ⟨catalog, statement, read, analysed, computed⟩ := exists_evaluated computed
  obtain ⟨style, members⟩ := Prod.mk.inj computed
  exact ⟨catalog, statement, read, analysed, style, members⟩

/-- The columns differ, but both members have the words `user` and `id`. -/
theorem analyse_members_twins : ∃ catalog statement, Catalog.ofScript twinSchema = .ok catalog ∧
    analyse (.ofCatalog catalog .initial) ⟨"q", "n", ""⟩ twinQuery = .ok statement ∧
    (statement.flatFields.map Field.name).Nodup ∧
    ¬(statement.flatFields.map Field.propertyName).Nodup := by
  obtain ⟨catalog, statement, read, analysed, style, members⟩ := exists_twins
  refine ⟨catalog, statement, read, analysed, ?_, ?_⟩
  · have names := congrArg (List.map MemberName.name) members
    rw [List.map_map] at names
    change statement.flatFields.map Field.name = ["user_id", "userId"] at names
    rw [names]
    decide
  · have words : NameStyle.snake.Confuses "user_id" "userId" := by
      change (Naming.words "user_id").map _ = (Naming.words "userId").map _
      decide +kernel
    rw [(analyse_members_distinct_iff analysed).1, style]
    intro apart
    have labels : (statement.flatFields.map Field.member).Pairwise fun a b =>
        ¬MemberName.Clash .snake a b := List.pairwise_map.mpr apart
    rw [members] at labels
    exact List.rel_of_pairwise_cons labels List.mem_cons_self words

end TypedStatement

end TypedRows
