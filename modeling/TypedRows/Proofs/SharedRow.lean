import TypedRows.Emit.Row
import TypedRows.Proofs.NestedPartition
import TypedRows.Proofs.SharedShape

/-! The rows of statements with one shared result. The registry compares names, nullability and
types of the fields; a row also depends on which columns are taken into nested values, on the names
of the properties, and on what a field is folded into. Nothing else can differ. -/

namespace TypedRows

/-- What a field is in a row. -/
inductive Folding where
  | plain
  | value
  | collection
  deriving DecidableEq

namespace Folding

def rowType (notNull : Bool) (type : String) : Folding → String
  | plain => if notNull || Text.hasPrefix type "Option<" then type else RustType.optional type
  | value => if notNull then type else RustType.optional type
  | collection => "Vec<" ++ type ++ ">"

/-- A plain field and a value have one type, but for a type that is optional by itself: only the
plain field is not wrapped again. -/
def Alike (notNull : Bool) (type : String) (a b : Folding) : Prop :=
  a = b ∨ a ≠ collection ∧ b ≠ collection ∧
    (notNull = true ∨ Text.hasPrefix type "Option<" = false)

theorem ne_of_length {a b : String} (longer : a.length < b.length) : a ≠ b := by
  rintro rfl
  exact Nat.lt_irrefl _ longer

theorem ne_optional (type : String) : type ≠ RustType.optional type := by
  apply ne_of_length
  simp only [RustType.optional, String.length_append]
  have wrapper : 0 < "Option<".length := by decide
  omega

theorem ne_vec (type : String) : type ≠ "Vec<" ++ type ++ ">" := by
  apply ne_of_length
  simp only [String.length_append]
  have wrapper : 0 < "Vec<".length := by decide
  omega

theorem vec_ne_optional (type : String) : "Vec<" ++ type ++ ">" ≠ RustType.optional type := by
  apply ne_of_length
  simp only [RustType.optional, String.length_append]
  have shorter : "Vec<".length < "Option<".length := by decide
  omega

theorem rowType_eq_iff {notNull : Bool} {type : String} {a b : Folding} :
    a.rowType notNull type = b.rowType notNull type ↔ Alike notNull type a b := by
  have optional := ne_optional type
  have vec := ne_vec type
  have apart := vec_ne_optional type
  cases a <;> cases b <;> cases notNull <;> cases wrapped : Text.hasPrefix type "Option<" <;>
    simp [rowType, Alike, wrapped, optional, optional.symm, vec, vec.symm, apart, apart.symm]

end Folding

/-- What a field is in the rows with these nested values. -/
def Field.folding (field : Field) (nested : List NestedField) : Folding :=
  match field.nested? nested with
  | some n => if n.kind = .collection then .collection else .value
  | none => .plain

namespace TypedStatement

open Sql Emit SharedResult NestedField

/-- A field that is folded has the type and the nullability of its nested value. -/
def Settled (statement : TypedStatement) : Prop :=
  ∀ field ∈ statement.fields, ∀ n, field.nested? statement.nested = some n →
    n.propertyType = field.propertyType ∧ n.notNull = field.notNull

theorem analyse_settled {context : Context} {place : Place} {item : ScriptItem}
    {statement : TypedStatement} (h : analyse context place item = .ok statement) :
    statement.Settled := by
  obtain ⟨overrides, fields, distinct, folded, settled⟩ := analyse_eq_ok h
  intro field member n found
  rw [settled] at member
  obtain ⟨f, hf, rfl⟩ := List.mem_map.mp member
  have found' : f.nested? statement.nested = some n := by
    simpa [Field.nested?] using found
  have known : (settle statement.nested f).propertyType = f.propertyType ∧
      (settle statement.nested f).notNull = n.notNull := by
    simp [settle, found']
  obtain ⟨_, none'⟩ | ⟨mapping, made, _, some', folds⟩ := nested?_of_ofFields folded distinct hf
  · cases none'.symm.trans found'
  · cases some'.symm.trans found'
    exact ⟨folds.propertyType.trans known.1.symm, known.2.symm⟩

def members (statement : TypedStatement) : List Member :=
  statement.flatFields.map (Member.ofField statement.nested)

/-- The member for a column, in whatever letter case. -/
def member? (statement : TypedStatement) (name : String) : Option Member :=
  (fieldNamed? statement.flatFields name).map (Member.ofField statement.nested)

/-- The same columns are flat, with the same property names, and they are folded alike. -/
structure RowsAlike (s t : TypedStatement) : Prop where
  flat : ∀ name, (∃ f ∈ s.flatFields, Text.sameName f.name name = true) ↔
    ∃ g ∈ t.flatFields, Text.sameName g.name name = true
  property : ∀ f ∈ s.flatFields, ∀ g ∈ t.flatFields, Text.sameName f.name g.name = true →
    f.propertyName = g.propertyName
  folding : ∀ f ∈ s.flatFields, ∀ g ∈ t.flatFields, Text.sameName f.name g.name = true →
    (f.folding s.nested).Alike f.notNull f.propertyType (g.folding t.nested)

theorem Settled.rowType_eq {statement : TypedStatement} (settled : statement.Settled)
    {field : Field} (member : field ∈ statement.fields) :
    field.rowType statement.nested =
      (field.folding statement.nested).rowType field.notNull field.propertyType := by
  unfold Field.rowType Field.folding
  cases found : field.nested? statement.nested with
  | none => rfl
  | some n =>
    obtain ⟨type, filled⟩ := settled field member n found
    by_cases kind : n.kind = .collection
    · simp [kind, type, Folding.rowType]
    · simp [kind, type, filled, Folding.rowType]

section Alike

variable {s t : TypedStatement}

theorem mem_of_flat {field : Field} (member : field ∈ s.flatFields) : field ∈ s.fields :=
  List.mem_of_mem_filter member

theorem distinct_flat (distinct : DistinctNames s.fields) : DistinctNames s.flatFields := by
  have part : (s.flatFields.map fun f => Text.foldLower f.name).Sublist
      (s.fields.map fun f => Text.foldLower f.name) := List.filter_sublist.map _
  exact distinct.sublist part

theorem ofField_eq_iff (hs : s.Settled) (ht : t.Settled) {f g : Field} (hf : f ∈ s.fields)
    (hg : g ∈ t.fields) (traits : f.traits = g.traits) :
    Member.ofField s.nested f = Member.ofField t.nested g ↔ f.propertyName = g.propertyName ∧
      (f.folding s.nested).Alike f.notNull f.propertyType (g.folding t.nested) := by
  obtain ⟨filled, type⟩ := Prod.mk.inj traits
  rw [Member.ofField, Member.ofField, hs.rowType_eq hf, ht.rowType_eq hg, ← filled, ← type,
    Member.mk.injEq, Folding.rowType_eq_iff]

variable (hs : s.Settled) (ht : t.Settled) (ds : DistinctNames s.fields)
  (dt : DistinctNames t.fields)
  (same : ∀ name, traits? s.fields name = traits? t.fields name)

include ds dt same in
theorem traits_eq {f g : Field} (hf : f ∈ s.flatFields) (hg : g ∈ t.flatFields)
    (named : Text.sameName f.name g.name = true) : f.traits = g.traits := by
  have equal := same g.name
  rw [traits?_of_mem ds (mem_of_flat hf) named,
    traits?_of_mem dt (mem_of_flat hg) (Text.sameName_refl _)] at equal
  exact Option.some.inj equal

include hs ht ds dt same in
theorem rowsAlike_iff : RowsAlike s t ↔ ∀ name, s.member? name = t.member? name := by
  constructor
  · intro alike name
    unfold member?
    cases ours : fieldNamed? s.flatFields name with
    | none =>
      cases theirs : fieldNamed? t.flatFields name with
      | none => rfl
      | some g =>
        obtain ⟨hg, named⟩ := fieldNamed?_eq_some theirs
        have present := isSome_fieldNamed?_iff.mpr ((alike.flat name).mpr ⟨g, hg, named⟩)
        rw [ours] at present
        cases present
    | some f =>
      obtain ⟨hf, named⟩ := fieldNamed?_eq_some ours
      obtain ⟨g, hg, named'⟩ := (alike.flat name).mp ⟨f, hf, named⟩
      have both := Text.sameName_trans named (Text.sameName_comm _ _ ▸ named')
      have traits := traits_eq ds dt same hf hg both
      have equal := (ofField_eq_iff hs ht (mem_of_flat hf) (mem_of_flat hg) traits).mpr
        ⟨alike.property f hf g hg both, alike.folding f hf g hg both⟩
      rw [fieldNamed?_of_mem (distinct_flat dt) hg named', Option.map_some, Option.map_some, equal]
  · intro equal
    have both : ∀ f ∈ s.flatFields, ∀ g ∈ t.flatFields, Text.sameName f.name g.name = true →
        f.propertyName = g.propertyName ∧
          (f.folding s.nested).Alike f.notNull f.propertyType (g.folding t.nested) := by
      intro f hf g hg named
      have found := equal g.name
      rw [member?, member?, fieldNamed?_of_mem (distinct_flat ds) hf named,
        fieldNamed?_of_mem (distinct_flat dt) hg (Text.sameName_refl _)] at found
      have traits := traits_eq ds dt same hf hg named
      exact (ofField_eq_iff hs ht (mem_of_flat hf) (mem_of_flat hg) traits).mp
        (Option.some.inj found)
    constructor
    · intro name
      have found := congrArg Option.isSome (equal name)
      rw [member?, member?, Option.isSome_map, Option.isSome_map] at found
      rw [← isSome_fieldNamed?_iff, ← isSome_fieldNamed?_iff, found]
    · intro f hf g hg named
      exact (both f hf g hg named).1
    · intro f hf g hg named
      exact (both f hf g hg named).2

theorem mem_members_iff (distinct : DistinctNames s.fields) {m : Member} :
    m ∈ s.members ↔ ∃ name, s.member? name = some m := by
  constructor
  · intro member
    obtain ⟨f, hf, rfl⟩ := List.mem_map.mp member
    refine ⟨f.name, ?_⟩
    rw [member?, fieldNamed?_of_mem (distinct_flat distinct) hf (Text.sameName_refl _)]
    rfl
  · rintro ⟨name, found⟩
    unfold member? at found
    obtain ⟨f, here, rfl⟩ := Option.map_eq_some_iff.mp found
    exact List.mem_map_of_mem (fieldNamed?_eq_some here).1

end Alike

end TypedStatement

namespace SharedResults

open Sql Emit SharedResult TypedStatement

/-- Two statements accepted for one result have the same member for every column if and only if
their rows are alike, and then their structs have the same members. The struct of the result is
that of the statement accepted first. -/
theorem rows_of_accepted (calls : List Call) (key : ResultKey)
    (analysed : ∀ call ∈ under key (acceptedOf empty calls), ∃ context place item,
      analyse context place item = .ok call.statement)
    (distinct : ∀ call ∈ under key (acceptedOf empty calls),
      DistinctNames call.statement.fields) :
    (∀ c ∈ under key (acceptedOf empty calls), ∀ d ∈ under key (acceptedOf empty calls),
      (RowsAlike c.statement d.statement ↔
        ∀ name, c.statement.member? name = d.statement.member? name) ∧
      (RowsAlike c.statement d.statement →
        ∀ m, m ∈ c.statement.members ↔ m ∈ d.statement.members)) ∧
    ∀ result, (run empty calls).get? key = some result →
      ∃ first, (under key (acceptedOf empty calls)).head? = some first ∧ ∀ name doc,
        (Struct.ofRow name doc (Field.flat result.fields result.nested) result.nested).members =
          first.statement.members := by
  have settled : ∀ call ∈ under key (acceptedOf empty calls), call.statement.Settled := by
    intro call member
    obtain ⟨context, place, item, made⟩ := analysed call member
    exact analyse_settled made
  constructor
  · intro c hc d hd
    have same := traits_of_accepted rfl calls c hc d hd
    have both := rowsAlike_iff (settled c hc) (settled d hd) (distinct c hc) (distinct d hd) same
    refine ⟨both, ?_⟩
    intro alike m
    have equal := both.mp alike
    simp only [mem_members_iff (distinct c hc), mem_members_iff (distinct d hd), equal]
  · intro result known
    rw [(tells_run calls).result key] at known
    cases accepted : under key (acceptedOf empty calls) with
    | nil =>
      rw [accepted] at known
      cases known
    | cons first rest =>
      rw [accepted] at known
      cases known
      exact ⟨first, rfl, fun _ _ => rfl⟩

/-- A table `a` with a column `X`. -/
def pointContext : Context :=
  .ofCatalog ⟨.ofList [("a", ⟨"a", [⟨"X", none, true, false, none⟩], false, .empty, .empty, ""⟩)],
    .empty⟩ .initial

def pointItem (comment : String) : ScriptItem where
  sql := ""
  statement := .select ⟨false, [], .select ⟨[], [.star none []], "",
    [⟨false, .comma, .table [⟨"a", none⟩] false none [], none, .none⟩],
    [], none, false, [], [], none, []⟩, [], none, none, []⟩
  leadingComments := [comment]
  innerComments := []
  parameters := []

def snakeItem : ScriptItem := pointItem "@@\x7bqueryResult=R\x7d"

def plainItem : ScriptItem := pointItem "@@\x7bqueryResult=R,propertyNameGenerator=plain\x7d"

/-- The second statement names the property otherwise, which the registry lets pass. -/
theorem rows_of_accepted_plain : ∃ a b,
    analyse pointContext ⟨"a", "n", ""⟩ snakeItem = .ok a ∧
      analyse pointContext ⟨"b", "n", ""⟩ plainItem = .ok b ∧
      under ⟨"n", "R"⟩ (acceptedOf empty [⟨a, "n"⟩, ⟨b, "n"⟩]) = [⟨a, "n"⟩, ⟨b, "n"⟩] ∧
      ¬ RowsAlike a b ∧ a.members = [⟨"x", "Vec<u8>"⟩] ∧ b.members = [⟨"X", "Vec<u8>"⟩] := by
  have found : (match analyse pointContext ⟨"a", "n", ""⟩ snakeItem,
        analyse pointContext ⟨"b", "n", ""⟩ plainItem with
      | .ok a, .ok b => some ([a, b].map fun s => (s.overrides.queryResult, s.members,
            s.fields.map fun f => Text.foldLower f.name),
          Call.accepted ⟨a, "n"⟩ empty, Call.accepted ⟨b, "n"⟩ (Call.after ⟨a, "n"⟩ empty))
      | _, _ => none) =
        some ([(some "R", [⟨"x", "Vec<u8>"⟩], ["x"]), (some "R", [⟨"X", "Vec<u8>"⟩], ["x"])],
          true, true) := by
    decide +kernel
  cases ha : analyse pointContext ⟨"a", "n", ""⟩ snakeItem with
  | error e =>
    rw [ha] at found
    cases found
  | ok a =>
    cases hb : analyse pointContext ⟨"b", "n", ""⟩ plainItem with
    | error e =>
      rw [ha, hb] at found
      cases found
    | ok b =>
      rw [ha, hb] at found
      simp only [List.map_cons, List.map_nil, Option.some.injEq, Prod.mk.injEq, List.cons.injEq,
        and_true] at found
      obtain ⟨⟨⟨na, ma, da⟩, nb, mb, db⟩, ta, tb⟩ := found
      have both : under ⟨"n", "R"⟩ (acceptedOf empty [⟨a, "n"⟩, ⟨b, "n"⟩]) =
          [⟨a, "n"⟩, ⟨b, "n"⟩] := by
        simp [under, acceptedOf, ta, tb, Call.key?, na, nb]
      have rows := rows_of_accepted [⟨a, "n"⟩, ⟨b, "n"⟩] ⟨"n", "R"⟩
        (by simpa [both] using ⟨⟨_, _, _, ha⟩, ⟨_, _, _, hb⟩⟩)
        (by simp [both, DistinctNames, da, db])
      rw [both] at rows
      refine ⟨a, b, rfl, rfl, both, ?_, ma, mb⟩
      intro alike
      have same := (rows.1 ⟨a, "n"⟩ (by simp) ⟨b, "n"⟩ (by simp)).2 alike ⟨"x", "Vec<u8>"⟩
      simp [ma, mb] at same

end SharedResults

end TypedRows
