import TypedRows.Proofs.LayeringLaws
import TypedRows.Proofs.ViewDescent

/-! Which column of a view is taken for the one of a name. Its type is that of the first such
column, but its annotations come down from the last one that is copied from anywhere. -/

namespace TypedRows

open Inheritance Annotations

namespace Inheritance

variable {catalog : Catalog}

/-- The annotations that the tables and views themselves declare for their columns. -/
def ownOf (catalog : Catalog) : Origin → Option Annotations :=
  declaredIn (.ofList (described catalog))

def inForceIn (catalog : Catalog) (column : Origin) : Option Annotations :=
  (ofCatalog catalog).annotations? column.object column.column

theorem liesOnCopy_last (orderly : catalog.Orderly) (column : Origin) :
    LiesOnCopy (ownOf catalog) (catalog.copied View.lastCopy) (inForceIn catalog) column :=
  annotations?_lastCopy orderly column

/-- The last copy of a column hands down the same as the first one, or the difference is not seen,
as the column's own annotations decide. -/
def SeenAlike (catalog : Catalog) (column : Origin) : Prop :=
  let first := handed (catalog.copied View.firstCopy) (inForceIn catalog) column
  let last := handed (catalog.copied View.lastCopy) (inForceIn catalog) column
  (ownOf catalog column = none → last.isSome = first.isSome) ∧
    ∀ key, lookup? (ownOf catalog column) key = none →
      (ownOf catalog column).any (·.hides key) = false → lookup? last key = lookup? first key

/-- Whether a column lies on the first copy is a matter of what is seen of the last one. -/
theorem liesOnCopy_first_iff (orderly : catalog.Orderly) (column : Origin) :
    LiesOnCopy (ownOf catalog) (catalog.copied View.firstCopy) (inForceIn catalog) column ↔
      SeenAlike catalog column := by
  have last := liesOnCopy_last orderly column
  rw [SeenAlike, ← alike_layer_iff]
  exact ⟨fun first => last.symm.trans first, fun same => last.trans same⟩

/-- The annotations in force for each column come down to it from the last copies of the columns on
the way, at any depth of views, and every way ends. A column lies on its first copy, whose type it
has, exactly if no difference between the first and the last copy is seen; and what comes down from
the first copies is in force all along a way exactly if none is seen on it. None is where all
columns of a name in a view are copied alike. -/
theorem annotations?_handedDown {items : List Sql.ScriptItem}
    (read : Catalog.ofScript items = .ok catalog) (column : Origin) :
    (∃ way map, HandedDown (ownOf catalog) (catalog.copied View.lastCopy) column way map ∧
      Alike (inForceIn catalog column) map) ∧
    (LiesOnCopy (ownOf catalog) (catalog.copied View.firstCopy) (inForceIn catalog) column ↔
      SeenAlike catalog column) ∧
    (∃ way map, HandedDown (ownOf catalog) (catalog.copied View.firstCopy) column way map ∧
      ((∀ d ∈ way, ∀ rest below,
          HandedDown (ownOf catalog) (catalog.copied View.firstCopy) d rest below →
          Alike (inForceIn catalog d) below) ↔
        ∀ d ∈ way, SeenAlike catalog d)) ∧
    ∀ view result, catalog.view? column.object = some view →
      view.column? column.column = some result →
      (∀ other ∈ view.columns, Text.sameName other.name column.column = true →
        other.copy? = result.copy?) →
      SeenAlike catalog column := by
  have orderly := Catalog.orderly_ofScript read
  refine ⟨?_, liesOnCopy_first_iff orderly column, ?_, fun view result known found same => ?_⟩
  · obtain ⟨way, map, down⟩ := Catalog.exists_handedDown read
      (fun _ _ _ => View.exists_of_lastCopy) (ownOf catalog) column
    exact ⟨way, map, down, down.alike fun d _ => liesOnCopy_last orderly d⟩
  · obtain ⟨way, map, down⟩ := Catalog.exists_handedDown read
      (fun _ _ _ => View.exists_of_firstCopy) (ownOf catalog) column
    refine ⟨way, map, down, down.alike_iff.trans ?_⟩
    exact forall₂_congr fun d _ => liesOnCopy_first_iff orderly d
  · have copies : catalog.copied View.firstCopy column = catalog.copied View.lastCopy column := by
      rw [Catalog.copied, known, Catalog.copied, known]
      exact View.firstCopy_eq_lastCopy found same
    simp only [SeenAlike, handed, copies, implies_true, and_self]

/-- `CREATE TABLE a(x)` and `CREATE TABLE b(x)`, each with a name for the field, a view on both and
a view on one of them. -/
def namedTwice : List Sql.ScriptItem :=
  [⟨"", .createTable ⟨"a", [⟨"x", none, false, false, none⟩], false⟩,
      ["@@\x7bfield=x, propertyName=First\x7d"], [], []⟩,
    ⟨"", .createTable ⟨"b", [⟨"x", none, false, false, none⟩], false⟩,
      ["@@\x7bfield=x, propertyName=Second\x7d"], [], []⟩,
    Catalog.viewReading "v" ["a", "b"], Catalog.viewReading "u" ["a"]]

/-- The first column of `v` is that of `a`, but it is named as that of `b` is. -/
theorem annotations?_namedTwice : ∃ catalog way map,
    Catalog.ofScript namedTwice = .ok catalog ∧
    HandedDown (ownOf catalog) (catalog.copied View.firstCopy) ⟨"v", "x"⟩ way map ∧
    lookup? map Key.propertyName = some (.text "First") ∧
    lookup? (inForceIn catalog ⟨"v", "x"⟩) Key.propertyName = some (.text "Second") ∧
    ¬(∀ d ∈ way, SeenAlike catalog d) ∧ SeenAlike catalog ⟨"u", "x"⟩ := by
  have evaluated : ((Catalog.ofScript namedTwice).toOption.any fun catalog =>
      catalog.copied View.firstCopy ⟨"v", "x"⟩ = some ⟨⟨"a", "x"⟩, false⟩ ∧
      catalog.copied View.firstCopy ⟨"a", "x"⟩ = none ∧
      lookup? (layer ((ownOf catalog ⟨"a", "x"⟩).map (passOn ⟨⟨"a", "x"⟩, false⟩))
        (ownOf catalog ⟨"v", "x"⟩)) Key.propertyName = some (.text "First") ∧
      lookup? (inForceIn catalog ⟨"v", "x"⟩) Key.propertyName = some (.text "Second") ∧
      ((catalog.view? "u").map fun view => view.columns.map ResultColumn.name) = some ["x"]) =
      true := by
    decide +kernel
  obtain ⟨catalog, read, evaluated⟩ := (Option.any_eq_true _ _).mp evaluated
  obtain ⟨fromA, uncopied, first, second, only⟩ := of_decide_eq_true evaluated
  have read := toOption_eq_some.mp read
  have down : HandedDown (ownOf catalog) (catalog.copied View.firstCopy) ⟨"v", "x"⟩ _ _ :=
    .next fromA (.last uncopied)
  obtain ⟨_, _, ⟨way, map, down', agree⟩, _⟩ := annotations?_handedDown read ⟨"v", "x"⟩
  obtain ⟨rfl, rfl⟩ := down.unique down'
  refine ⟨catalog, _, _, read, down, first, second, fun seen => ?_, ?_⟩
  · have alike := agree.mpr seen _ List.mem_cons_self _ _ down
    have same := first.symm.trans ((alike.lookup Key.propertyName).symm.trans second)
    exact absurd same (by decide)
  · -- the other view has no other column
    obtain ⟨view, known, named⟩ := Option.map_eq_some_iff.mp only
    obtain ⟨result, single, name⟩ := List.map_eq_singleton_iff.mp named
    have found : view.column? "x" = some result := by
      rw [View.column?, single, List.find?_singleton, name, Text.sameName_refl, if_pos rfl]
    obtain ⟨_, _, _, seen⟩ := annotations?_handedDown read ⟨"u", "x"⟩
    refine seen view result known found fun other member _ => ?_
    rw [single, List.mem_singleton] at member
    rw [member]

end Inheritance

end TypedRows
