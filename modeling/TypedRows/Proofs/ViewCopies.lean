import TypedRows.Proofs.SchemaObjects

/-! What the columns of a view are copied from. Of several columns of one name a query finds the
first, but the annotations come down from the last one that is copied. -/

namespace TypedRows

open Inheritance

def ResultColumn.copy? (column : ResultColumn) : Option Inherited :=
  column.origin.map fun origin => ⟨origin, column.joinedNullable⟩

namespace Inheritance

/-- What a view copies a column from, by the name of the column. -/
def copyOf (column : ResultColumn) : Option (String × Inherited) :=
  column.origin.map fun origin => (column.name, ⟨origin, column.joinedNullable⟩)

theorem copyOf_eq_some {column : ResultColumn} {entry : String × Inherited} :
    copyOf column = some entry ↔ entry.1 = column.name ∧
      column.origin.map (fun origin => ⟨origin, column.joinedNullable⟩) = some entry.2 := by
  obtain ⟨name, inherited⟩ := entry
  cases from' : column.origin with
  | none => simp [copyOf, from']
  | some origin => simp [copyOf, from', eq_comm]

end Inheritance

namespace View

/-- What the first column of a name is copied from. -/
def firstCopy (view : View) (name : String) : Option Inherited :=
  (view.column? name).bind ResultColumn.copy?

/-- What the annotations of a name come down from. Each spelling of a name has the place of the
first column of it that is copied, and the copy of the last; and of several spellings that differ
only in case the last counts. -/
def lastCopy (view : View) (name : String) : Option Inherited :=
  ((OrderedMap.ofList (view.columns.filterMap copyOf)).entries.reverse.find? fun entry =>
    Text.sameName entry.1 name).map Prod.snd

variable {view : View} {name : String} {inherited : Inherited}

theorem exists_of_firstCopy (first : view.firstCopy name = some inherited) :
    ∃ column ∈ view.columns, column.copy? = some inherited := by
  obtain ⟨column, found, copied⟩ := Option.bind_eq_some_iff.mp first
  exact ⟨column, List.mem_of_find?_eq_some found, copied⟩

theorem exists_named_of_lastCopy (last : view.lastCopy name = some inherited) :
    ∃ column ∈ view.columns, Text.sameName column.name name = true ∧
      column.copy? = some inherited := by
  obtain ⟨⟨spelled, copy⟩, found, rfl⟩ := Option.map_eq_some_iff.mp last
  have entry := List.mem_reverse.mp (List.mem_of_find?_eq_some found)
  have listed := OrderedMap.mem_of_get?_ofList (OrderedMap.get?_eq_some_iff.mpr entry)
  obtain ⟨column, member, copied⟩ := List.mem_filterMap.mp listed
  obtain ⟨rfl, from'⟩ := copyOf_eq_some.mp copied
  have named := List.find?_some found
  exact ⟨column, member, named, from'⟩

theorem exists_of_lastCopy (last : view.lastCopy name = some inherited) :
    ∃ column ∈ view.columns, column.copy? = some inherited := by
  obtain ⟨column, member, _, copied⟩ := exists_named_of_lastCopy last
  exact ⟨column, member, copied⟩

/-- A name that some column has that is copied has a last copy. -/
theorem isSome_lastCopy {column : ResultColumn} (member : column ∈ view.columns)
    (named : Text.sameName column.name name = true) (copied : column.copy? = some inherited) :
    (view.lastCopy name).isSome = true := by
  have listed : (column.name, inherited) ∈ view.columns.filterMap copyOf :=
    List.mem_filterMap.mpr ⟨column, member, copyOf_eq_some.mpr ⟨rfl, copied⟩⟩
  have kept : ((OrderedMap.ofList (view.columns.filterMap copyOf)).get? column.name).isSome := by
    rw [OrderedMap.get?_ofList, Option.isSome_map, List.find?_isSome]
    exact ⟨_, List.mem_reverse.mpr listed, decide_eq_true rfl⟩
  obtain ⟨copy, kept⟩ := Option.isSome_iff_exists.mp kept
  rw [lastCopy, Option.isSome_map, List.find?_isSome]
  exact ⟨_, List.mem_reverse.mpr (OrderedMap.get?_eq_some_iff.mp kept), named⟩

/-- Where all columns of a name are copied alike it does not matter which of them is taken. -/
theorem firstCopy_eq_lastCopy {column : ResultColumn} (found : view.column? name = some column)
    (same : ∀ other ∈ view.columns, Text.sameName other.name name = true →
      other.copy? = column.copy?) : view.firstCopy name = view.lastCopy name := by
  have first : view.firstCopy name = column.copy? := by
    rw [firstCopy, found, Option.bind_some]
  rw [first]
  cases last : view.lastCopy name with
  | some inherited =>
    obtain ⟨other, member, named, copied⟩ := exists_named_of_lastCopy last
    rw [← same other member named]
    exact copied
  | none =>
    refine Option.eq_none_iff_forall_ne_some.mpr fun inherited copied => ?_
    have named := List.find?_some found
    have some' := isSome_lastCopy (List.mem_of_find?_eq_some found) named copied
    rw [last] at some'
    cases some'

/-- A column whose name differs in more than case from the others is copied as it is. -/
theorem lastCopy_of_nodup (distinct : (view.columns.map fun c => Text.foldLower c.name).Nodup)
    {column : ResultColumn} (member : column ∈ view.columns) :
    view.lastCopy column.name = column.copy? := by
  have only : ∀ other ∈ view.columns, Text.sameName other.name column.name = true →
      other = column := fun other inside same =>
    List.inj_on_of_nodup_map distinct inside member (Text.sameName_iff.mp same)
  have found : view.column? column.name = some column := by
    cases found : view.column? column.name with
    | some other =>
      have named := List.find?_some found
      rw [only other (List.mem_of_find?_eq_some found) named]
    | none => exact absurd (Text.sameName_refl _) (List.find?_eq_none.mp found column member)
  rw [← firstCopy_eq_lastCopy found fun other inside same => by rw [only other inside same],
    firstCopy, found, Option.bind_some]

end View

namespace Catalog

/-- What a column of a view is copied from, told by the view. -/
def copied (pick : View → String → Option Inherited) (catalog : Catalog) (column : Origin) :
    Option Inherited :=
  (catalog.view? column.object).bind fun view => pick view column.column

end Catalog

namespace Inheritance

variable {catalog : Catalog}

theorem declaredIn_fold (objects : OrderedMap String ObjectAnnotations) (column : Origin) :
    declaredIn objects column.fold = declaredIn objects column := by
  simp only [declaredIn, Origin.fold, objectNamed?_foldLower, ObjectAnnotations.declared?,
    Text.sameName, Text.foldLower_foldLower]

theorem copiedIn_fold (objects : OrderedMap String ObjectAnnotations) (column : Origin) :
    copiedIn objects column.fold = copiedIn objects column := by
  simp only [copiedIn, Origin.fold, objectNamed?_foldLower, Text.sameName,
    Text.foldLower_foldLower]

/-- Columns of tables are not copied, and those of views as their names are copied last. -/
theorem copiedIn_described (orderly : catalog.Orderly) :
    copiedIn (.ofList (described catalog)) = catalog.copied View.lastCopy := by
  funext column
  rw [copiedIn, objectNamed?_described orderly, Catalog.copied]
  cases table : catalog.table? column.object with
  | some t =>
    cases view : catalog.view? column.object with
    | some v => cases table.symm.trans (orderly.table?_of_view view)
    | none => rfl
  | none =>
    cases catalog.view? column.object with
    | some v => rfl
    | none => rfl

/-- The annotations in force for a column lie on those of the column that is its last copy. -/
theorem annotations?_lastCopy (orderly : catalog.Orderly) (column : Origin) :
    Annotations.Alike ((ofCatalog catalog).annotations? column.object column.column)
      (layer
        ((catalog.copied View.lastCopy column).bind fun inherited =>
          ((ofCatalog catalog).annotations? inherited.origin.object inherited.origin.column).map
            (passOn inherited))
        (declaredIn (.ofList (described catalog)) column)) := by
  have step := annotations?_step (nodup_objects orderly) column.object column.column
  rw [show Origin.fold ⟨column.object, column.column⟩ = column.fold from rfl, declaredIn_fold,
    copiedIn_fold, copiedIn_described orderly] at step
  exact step

/-- The annotations of a view without any of its own are those that its columns are copied with. -/
theorem annotations?_view (orderly : catalog.Orderly) {name : String} {view : View}
    (known : catalog.view? name = some view) (plain : view.fieldAnnotations = .empty)
    (distinct : (view.columns.map fun c => Text.foldLower c.name).Nodup) {column : ResultColumn}
    (member : column ∈ view.columns) :
    Annotations.Alike ((ofCatalog catalog).annotations? view.name column.name)
      (column.origin.bind fun origin =>
        ((ofCatalog catalog).annotations? origin.object origin.column).map
          (passOn ⟨origin, column.joinedNullable⟩)) := by
  have named := orderly.view?_name known
  have own : declaredIn (.ofList (described catalog)) ⟨view.name, column.name⟩ = none := by
    rw [declaredIn, objectNamed?_described orderly, orderly.table?_of_view named, named]
    simp only [Option.map_none, Option.none_or, Option.map_some, Option.bind_some,
      ObjectAnnotations.declared?, ofView, plain]
    rfl
  have copied : catalog.copied View.lastCopy ⟨view.name, column.name⟩ = column.copy? := by
    rw [Catalog.copied, named, Option.bind_some, View.lastCopy_of_nodup distinct member]
  have step := annotations?_lastCopy orderly ⟨view.name, column.name⟩
  rw [own, copied, layer_none, ResultColumn.copy?, Option.bind_map] at step
  exact step

end Inheritance

end TypedRows
