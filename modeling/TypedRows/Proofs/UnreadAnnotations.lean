import TypedRows.Proofs.RootedColumns
import TypedRows.Proofs.UnreadObjects
import Mathlib.Data.List.Flatten

/-! The annotations in force for columns do not depend on a table or view that nothing is copied
from. -/

namespace TypedRows

open Sql

namespace Inheritance

section Erase

variable {objects : OrderedMap String ObjectAnnotations} {apart : String}
  {known known' : OrderedMap Origin (Option Annotations)}

/-- Nothing is copied from the object, other than perhaps to itself. -/
def NotCopied (objects : OrderedMap String ObjectAnnotations) (apart : String) : Prop :=
  ∀ (key : Origin) inherited, key.object ≠ apart → inherited? objects key = some inherited →
    inherited.origin.fold.object ≠ apart

/-- The same is known of the columns of other objects. -/
def KnownAlike (apart : String) (known known' : OrderedMap Origin (Option Annotations)) : Prop :=
  ∀ key : Origin, key.object ≠ apart → known'.get? key = known.get? key

theorem declared?_erase {key : Origin} (other : key.object ≠ apart) :
    declared? (objects.erase apart) key = declared? objects key := by
  rw [declared?, declared?, OrderedMap.get?_erase_of_ne _ other]

theorem inherited?_erase {key : Origin} (other : key.object ≠ apart) :
    inherited? (objects.erase apart) key = inherited? objects key := by
  rw [inherited?, inherited?, OrderedMap.get?_erase_of_ne _ other]

/-- The way from a column of another object never gets to the object. -/
theorem find_erase (closed : NotCopied objects apart) (alike : KnownAlike apart known known')
    (fuel : Nat) (passed : List Origin) {key : Origin} (other : key.object ≠ apart) :
    find (objects.erase apart) known' fuel passed key = find objects known fuel passed key := by
  induction fuel generalizing passed key with
  | zero => rfl
  | succ fuel ih =>
    rw [find, find, alike key other, declared?_erase other, inherited?_erase other]
    cases copied : inherited? objects key with
    | none => rfl
    | some inherited =>
      rw [Option.bind_some, Option.bind_some, ih _ (closed key inherited other copied)]

theorem longest_erase_le (objects : OrderedMap String ObjectAnnotations) (apart : String) :
    longest (objects.erase apart) ≤ longest objects := by
  refine Nat.add_le_add_right ?_ 2
  have fewer : (objects.erase apart).values.Sublist objects.values :=
    List.Sublist.map Prod.snd List.filter_sublist
  exact (fewer.flatMap fun object => object.origins.entries).length_le

theorem learn_erase (closed : NotCopied objects apart) (alike : KnownAlike apart known known')
    {key : Origin} (folded : key.fold = key) (other : key.object ≠ apart) :
    KnownAlike apart (learn objects known key) (learn (objects.erase apart) known' key) := by
  intro k elsewhere
  rw [learn, learn, OrderedMap.get?_put, OrderedMap.get?_put]
  split
  · have describes : Describes (objects.erase apart) (declared? (objects.erase apart))
        (inherited? (objects.erase apart)) := ⟨fun _ _ => rfl, fun _ _ => rfl⟩
    obtain ⟨walked, walk, short⟩ := describes.exists_walk folded
    have more := short.trans_le (longest_erase_le objects apart)
    rw [find_fuel describes walk folded short more, find_erase closed alike _ _ other]
  · exact alike k elsewhere

theorem learn_apart (alike : KnownAlike apart known known') {key : Origin}
    (own : key.object = apart) : KnownAlike apart (learn objects known key) known' := by
  intro k elsewhere
  have other : k ≠ key := by
    rintro rfl
    exact elsewhere own
  rw [learn, OrderedMap.get?_put_of_ne _ _ other]
  exact alike k elsewhere

theorem learnAll_erase (closed : NotCopied objects apart) (alike : KnownAlike apart known known')
    {keys : List Origin} (folded : ∀ key ∈ keys, key.fold = key) :
    KnownAlike apart (keys.foldl (learn objects) known)
      ((keys.filter (·.object ≠ apart)).foldl (learn (objects.erase apart)) known') := by
  induction keys generalizing known known' with
  | nil => exact alike
  | cons key rest ih =>
    obtain ⟨first, others⟩ := List.forall_mem_cons.mp folded
    by_cases own : key.object = apart
    · rw [List.filter_cons_of_neg (by simp [own])]
      exact ih (learn_apart alike own) others
    · rw [List.filter_cons_of_pos (by simp [own])]
      exact ih (learn_erase closed alike first own) others

def columnsOf (entry : String × ObjectAnnotations) : List Origin :=
  (entry.2.fields.keys ++ entry.2.origins.keys).map fun column => Origin.fold ⟨entry.1, column⟩

theorem filter_columnsOf {entry : String × ObjectAnnotations}
    (folded : Text.foldLower entry.1 = entry.1) (apart : String) :
    (columnsOf entry).filter (·.object ≠ apart) =
      if entry.1 = apart then [] else columnsOf entry := by
  have object : ∀ key ∈ columnsOf entry, key.object = entry.1 := by
    intro key member
    obtain ⟨column, _, rfl⟩ := List.mem_map.mp member
    exact folded
  split
  · rename_i own
    exact List.filter_eq_nil_iff.mpr fun key member => by simp [object key member, own]
  · rename_i other
    exact List.filter_eq_self.mpr fun key member => by simp [object key member, other]

theorem columns_erase (folded : ∀ entry ∈ objects.entries, Text.foldLower entry.1 = entry.1) :
    columns (objects.erase apart) = (columns objects).filter (·.object ≠ apart) := by
  change (objects.entries.filter (·.1 ≠ apart)).flatMap columnsOf =
    (objects.entries.flatMap columnsOf).filter (·.object ≠ apart)
  generalize objects.entries = entries at folded
  induction entries with
  | nil => rfl
  | cons entry rest ih =>
    obtain ⟨first, others⟩ := List.forall_mem_cons.mp folded
    rw [List.flatMap_cons, List.filter_append, ← ih others, filter_columnsOf first]
    split
    · rename_i own
      rw [List.filter_cons_of_neg (by simp [own]), List.nil_append]
    · rename_i other
      rw [List.filter_cons_of_pos (by simp [other]), List.flatMap_cons]

theorem fold_of_mem_columns : ∀ key ∈ columns objects, key.fold = key := by
  intro key member
  obtain ⟨_, _, member⟩ := List.mem_flatMap.mp member
  obtain ⟨_, _, rfl⟩ := List.mem_map.mp member
  exact Origin.fold_fold _

end Erase

theorem known_ofObjects (objects : OrderedMap String ObjectAnnotations) :
    (ofObjects objects).known = (columns (ofObjects objects).objects).foldl
      (learn (ofObjects objects).objects) .empty := rfl

/-- Where the objects are the same but for one that nothing is copied from, so are the annotations
in force for the columns of the others. -/
theorem annotations?_erase {objects part : OrderedMap String ObjectAnnotations} {apart : String}
    (same : (ofObjects part).objects = (ofObjects objects).objects.erase apart)
    (folded : ∀ entry ∈ (ofObjects objects).objects.entries, Text.foldLower entry.1 = entry.1)
    (closed : NotCopied (ofObjects objects).objects apart) {object : String}
    (other : Text.foldLower object ≠ apart) (column : String) :
    (ofObjects part).annotations? object column =
      (ofObjects objects).annotations? object column := by
  have start : KnownAlike apart .empty .empty := fun _ _ => rfl
  have alike := learnAll_erase closed start (@fold_of_mem_columns (ofObjects objects).objects)
  rw [annotations?, annotations?, known_ofObjects, known_ofObjects, same, columns_erase folded,
    alike _ other]

variable {catalog : Catalog} {name : String}

/-- The objects of a catalog under their names in lower case. -/
theorem entries_objects (orderly : catalog.Orderly) :
    (ofCatalog catalog).objects.entries =
      (described catalog).map fun entry => (Text.foldLower entry.1, entry.2.fold) := by
  have distinct : (((described catalog).map fun entry =>
      (Text.foldLower entry.1, entry.2.fold)).map Prod.fst).Nodup := by
    have folded := nodup_described orderly
    rw [List.map_map] at folded ⊢
    exact folded
  change (OrderedMap.ofList ((OrderedMap.ofList (described catalog)).entries.map fun entry =>
    (Text.foldLower entry.1, entry.2.fold))).entries = _
  rw [entries_described orderly, OrderedMap.entries_ofList distinct]

theorem described_without (orderly : catalog.Orderly) :
    described (catalog.without name) =
      (described catalog).filter fun entry => Text.foldLower entry.1 ≠ Text.foldLower name := by
  rw [described, described, List.filter_append]
  refine congrArg₂ _ (OrderedMap.map_values_erase _ fun key table found => ?_)
    (OrderedMap.map_values_erase _ fun key view found => ?_)
  · rw [← (orderly.table key table found).1]
  · rw [← (orderly.view key view found).1]

theorem objects_without (orderly : catalog.Orderly) :
    (ofCatalog (catalog.without name)).objects =
      (ofCatalog catalog).objects.erase (Text.foldLower name) := by
  apply OrderedMap.ext
  change _ = (ofCatalog catalog).objects.entries.filter (·.1 ≠ Text.foldLower name)
  rw [entries_objects (orderly.without name), described_without orderly, entries_objects orderly,
    List.filter_map]
  rfl

/-- What an object passes on is a column of the view that it is. -/
theorem view_of_inherited (orderly : catalog.Orderly) {key : Origin} {inherited : Inherited}
    (copied : inherited? (ofCatalog catalog).objects key = some inherited) :
    ∃ view, catalog.views.get? key.object = some view ∧
      ∃ column ∈ view.columns, column.origin = some inherited.origin := by
  obtain ⟨object, known, passed⟩ := Option.bind_eq_some_iff.mp copied
  have entry := OrderedMap.get?_eq_some_iff.mp known
  rw [entries_objects orderly] at entry
  obtain ⟨⟨own, declared⟩, member, same⟩ := List.mem_map.mp entry
  obtain ⟨folded, rfl⟩ := Prod.mk.inj same
  obtain member | member := List.mem_append.mp member
  · obtain ⟨table, _, made⟩ := List.mem_map.mp member
    cases made
    cases passed
  · obtain ⟨view, stored, made⟩ := List.mem_map.mp member
    cases made
    obtain ⟨⟨own, _⟩, there, rfl⟩ := List.mem_map.mp stored
    have found := OrderedMap.get?_eq_some_iff.mpr there
    obtain rfl : own = key.object := (orderly.view own _ found).1.symm.trans folded
    refine ⟨_, found, ?_⟩
    obtain ⟨⟨_, _⟩, listed, renamed⟩ := List.mem_map.mp (OrderedMap.mem_of_get?_ofList passed)
    obtain ⟨-, rfl⟩ := Prod.mk.inj renamed
    have kept := OrderedMap.mem_of_get?_ofList (OrderedMap.get?_eq_some_iff.mpr listed)
    obtain ⟨column, member, copy⟩ := List.mem_filterMap.mp kept
    obtain ⟨origin, from', made⟩ := Option.map_eq_some_iff.mp copy
    cases made
    exact ⟨column, member, from'⟩

variable (rooted : ∀ key view, (catalog.without name).views.get? key = some view →
  AllRooted (catalog.without name) view.columns)
include rooted

theorem notCopied_ofCatalog (orderly : catalog.Orderly) :
    NotCopied (ofCatalog catalog).objects (Text.foldLower name) := by
  intro key inherited other copied
  obtain ⟨view, found, column, member, from'⟩ := view_of_inherited orderly copied
  have kept : (catalog.without name).views.get? key.object = some view :=
    (OrderedMap.get?_erase_of_ne _ other).trans found
  have there := rooted key.object view kept column member _ from'
  change (catalog.without name).hasKey (Text.foldLower inherited.origin.object) = true at there
  rw [Catalog.hasKey_without, Bool.and_eq_true, decide_eq_true_eq] at there
  exact there.2

/-- The annotations in force for the columns of other tables and views are the same. -/
theorem annotations?_without (orderly : catalog.Orderly) {object : String}
    (other : Text.sameName name object = false) (column : String) :
    (ofCatalog (catalog.without name)).annotations? object column =
      (ofCatalog catalog).annotations? object column := by
  refine annotations?_erase (objects_without orderly) (fun entry member => ?_)
    (notCopied_ofCatalog rooted orderly) (foldLower_ne other) column
  change entry ∈ (ofCatalog catalog).objects.entries at member
  rw [entries_objects orderly] at member
  obtain ⟨_, _, rfl⟩ := List.mem_map.mp member
  exact Text.foldLower_foldLower _

omit rooted in
theorem dynamicFields_without (orderly : catalog.Orderly) {object : String}
    (other : Text.sameName name object = false) :
    (ofCatalog (catalog.without name)).dynamicFields object =
      (ofCatalog catalog).dynamicFields object := by
  rw [dynamicFields, dynamicFields, objects_without orderly,
    OrderedMap.get?_erase_of_ne _ (foldLower_ne other)]

end Inheritance

end TypedRows
