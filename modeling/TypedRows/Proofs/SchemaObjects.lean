import TypedRows.Proofs.AnnotationChecks
import TypedRows.Proofs.CatalogOrder
import TypedRows.Proofs.InheritanceWalk

/-! The tables and views of a schema as the objects that annotations are declared on. Their names
differ in more than case, so each is found, and its annotations have been checked. -/

namespace TypedRows

open Sql

namespace Catalog

/-- Tables and views stand under their own names, and no name stands for both. -/
structure Orderly (catalog : Catalog) : Prop where
  table : ∀ key t, catalog.tables.get? key = some t →
    Text.foldLower t.name = key ∧ Annotations.AllVetted t.fieldAnnotations
  view : ∀ key v, catalog.views.get? key = some v →
    Text.foldLower v.name = key ∧ Annotations.AllVetted v.fieldAnnotations
  apart : ∀ key, catalog.tables.get? key = none ∨ catalog.views.get? key = none

theorem Orderly.table?_of_view {catalog : Catalog} (orderly : catalog.Orderly) {name : String}
    {view : View} (known : catalog.view? name = some view) : catalog.table? name = none :=
  (orderly.apart _).resolve_right fun none => by cases known.symm.trans none

theorem Orderly.view?_name {catalog : Catalog} (orderly : catalog.Orderly) {name : String}
    {view : View} (known : catalog.view? name = some view) :
    catalog.view? view.name = some view := by
  rw [view?, (orderly.view _ view known).1]
  exact known

theorem orderly_empty : empty.Orderly :=
  ⟨fun _ _ h => (by cases h), fun _ _ h => (by cases h), fun _ => .inl rfl⟩

def Addition.Vetted : Addition → Prop
  | nothing => True
  | table t => Annotations.AllVetted t.fieldAnnotations
  | view v => Annotations.AllVetted v.fieldAnnotations

theorem Addition.vetted_of_ofItem {item : ScriptItem} {addition : Addition}
    (h : Addition.ofItem item = .ok addition) : addition.Vetted := by
  unfold Addition.ofItem at h
  cases kind : item.statement with
  | createTable decl =>
    rw [kind] at h
    obtain ⟨annotations, read, h⟩ := bind_eq_ok h
    cases h
    exact CommentAnnotations.ofComments_vetted (mapError_eq_ok.mp read)
  | createView decl =>
    rw [kind] at h
    obtain ⟨annotations, read, h⟩ := bind_eq_ok h
    cases h
    exact CommentAnnotations.ofComments_vetted (mapError_eq_ok.mp read)
  | select _ | insert _ _ | update _ _ _ | delete _ _ _ | other _ =>
    rw [kind] at h
    cases h
    trivial

theorem free_of_hasKey {catalog : Catalog} {key : String} (free : catalog.hasKey key = false) :
    catalog.tables.get? key = none ∧ catalog.views.get? key = none := by
  rw [hasKey, Bool.or_eq_false_iff] at free
  exact ⟨Option.isSome_eq_false_iff.mp free.1 |> Option.isNone_iff_eq_none.mp,
    Option.isSome_eq_false_iff.mp free.2 |> Option.isNone_iff_eq_none.mp⟩

theorem Orderly.addTo {catalog : Catalog} (orderly : catalog.Orderly) {addition : Addition}
    (fits : addition.Fits catalog) (vetted : addition.Vetted) :
    (addition.addTo catalog).Orderly := by
  cases addition with
  | nothing => exact orderly
  | table t =>
    have free := free_of_hasKey (fits _ rfl)
    refine ⟨fun key found h => ?_, orderly.view, fun key => ?_⟩
    · rw [Addition.addTo, OrderedMap.get?_put] at h
      split at h
      · cases h
        exact ⟨Eq.symm ‹_›, vetted⟩
      · exact orderly.table key found h
    · rw [Addition.addTo, OrderedMap.get?_put]
      split
      · rename_i same
        exact .inr (same ▸ free.2)
      · exact orderly.apart key
  | view v =>
    have free := free_of_hasKey (fits _ rfl)
    refine ⟨orderly.table, fun key found h => ?_, fun key => ?_⟩
    · rw [Addition.addTo, OrderedMap.get?_put] at h
      split at h
      · cases h
        exact ⟨Eq.symm ‹_›, vetted⟩
      · exact orderly.view key found h
    · rw [Addition.addTo, OrderedMap.get?_put]
      split
      · rename_i same
        exact .inl (same ▸ free.1)
      · exact orderly.apart key

theorem Orderly.enterAll {items : List ScriptItem} {catalog last : Catalog}
    (orderly : catalog.Orderly) (run : items.foldlM enter catalog = .ok last) : last.Orderly := by
  induction items generalizing catalog with
  | nil =>
    cases run
    exact orderly
  | cons item rest ih =>
    rw [List.foldlM_cons] at run
    obtain ⟨middle, step, run⟩ := bind_eq_ok run
    obtain ⟨addition, declared, fits, rfl⟩ := enter_eq_ok.mp step
    exact ih (orderly.addTo fits (Addition.vetted_of_ofItem declared)) run

/-- A resolved view differs from the one that was entered in its columns only. -/
theorem Resolved.stored {entered catalog : Catalog}
    (resolved : Resolved entered (fun _ => True) catalog) {key : String} {view : View}
    (found : catalog.views.get? key = some view) :
    ∃ old, entered.views.get? key = some old ∧ view.name = old.name ∧
      view.fieldAnnotations = old.fieldAnnotations := by
  cases known : entered.views.get? key with
  | none =>
    rw [resolved.missing key known] at found
    cases found
  | some old =>
    by_cases isGrounded : Grounded entered.reads key
    · obtain ⟨columns, _, stored⟩ := resolved.grounded key old trivial known isGrounded
      rw [stored] at found
      cases found
      exact ⟨old, rfl, rfl, rfl⟩
    · rw [resolved.ungrounded key old trivial known isGrounded] at found
      cases found
      exact ⟨old, rfl, rfl, rfl⟩

theorem Orderly.of_resolved {entered catalog : Catalog} (orderly : entered.Orderly)
    (resolved : Resolved entered (fun _ => True) catalog) : catalog.Orderly where
  table key t found := orderly.table key t (resolved.tables key ▸ found)
  view key v found := by
    obtain ⟨old, known, name, fields⟩ := resolved.stored found
    rw [name, fields]
    exact orderly.view key old known
  apart key := by
    rw [resolved.tables]
    exact (orderly.apart key).imp_right (resolved.missing key)

theorem orderly_ofScript {items : List ScriptItem} {catalog : Catalog}
    (read : ofScript items = .ok catalog) : catalog.Orderly := by
  obtain ⟨entered, run, resolve⟩ := bind_eq_ok read
  exact (orderly_empty.enterAll run).of_resolved (resolveViews_resolved (mapError_eq_ok.mp resolve))

/-- None of the statements declares a table or view of the name. -/
def Undeclared (items : List ScriptItem) (name : String) : Prop :=
  ∀ item ∈ items, ∀ own ∈ item.statement.declared?, Text.sameName own name = false

/-- What no statement declares is not in the catalog. -/
theorem hasKey_entered {items : List ScriptItem} {catalog entered : Catalog}
    (run : items.foldlM enter catalog = .ok entered) {name : String}
    (undeclared : Undeclared items name) :
    entered.hasKey (Text.foldLower name) = catalog.hasKey (Text.foldLower name) := by
  induction items generalizing catalog with
  | nil =>
    cases run
    rfl
  | cons item rest ih =>
    rw [List.foldlM_cons] at run
    obtain ⟨middle, step, run⟩ := bind_eq_ok run
    obtain ⟨own, others⟩ := List.forall_mem_cons.mp undeclared
    obtain ⟨addition, declared, _, rfl⟩ := enter_eq_ok.mp step
    have other : (addition.key? == some (Text.foldLower name)) = false := by
      rw [beq_eq_false_iff_ne, Addition.key?_ofItem declared]
      intro same
      obtain ⟨given, known, folded⟩ := Option.map_eq_some_iff.mp same
      have apart := own given known
      rw [Text.sameName_iff.mpr folded] at apart
      cases apart
    rw [ih run others, Addition.hasKey_addTo, other, Bool.or_false]

/-- What no statement declares is not found in the catalog of the schema. -/
theorem contains_ofScript {items : List ScriptItem} {catalog : Catalog}
    (read : ofScript items = .ok catalog) {name : String} (undeclared : Undeclared items name) :
    catalog.contains name = false := by
  obtain ⟨entered, run, resolve⟩ := bind_eq_ok read
  have resolved := resolveViews_resolved (mapError_eq_ok.mp resolve)
  obtain ⟨table, view⟩ := free_of_hasKey (hasKey_entered run undeclared)
  change catalog.hasKey (Text.foldLower name) = false
  rw [hasKey, resolved.tables, table, resolved.missing _ view]
  rfl

theorem select_view {items : List ScriptItem} {catalog : Catalog}
    (read : ofScript items = .ok catalog) {name : String} {view : View}
    (known : catalog.view? name = some view) (straight : view.cyclic = false)
    (unnamed : view.explicitColumns = []) : catalog.select view.query = .ok view.columns := by
  obtain ⟨entered, run, resolve⟩ := bind_eq_ok read
  have columns := viewColumns_of_resolveViews (mapError_eq_ok.mp resolve) known straight
  obtain ⟨returned, selected, same, _⟩ := viewColumns_eq_ok columns
  rw [same unnamed]
  exact selected

def fieldMaps (catalog : Catalog) : List Annotations :=
  (catalog.tables.values.flatMap fun t => t.fieldAnnotations.values) ++
    catalog.views.values.flatMap fun v => v.fieldAnnotations.values

end Catalog

namespace Inheritance

open Annotations

/-- What the tables and views declare, by their names. -/
def described (catalog : Catalog) : List (String × ObjectAnnotations) :=
  (catalog.tables.values.map fun table => (table.name, ofTable table)) ++
    catalog.views.values.map fun view => (view.name, ofView view)

variable {catalog : Catalog}

theorem fold_described (orderly : catalog.Orderly) :
    ((described catalog).map Prod.fst).map Text.foldLower =
      catalog.tables.keys ++ catalog.views.keys := by
  rw [described, List.map_append, List.map_append, OrderedMap.values, OrderedMap.values]
  simp only [List.map_map]
  congr 1
  · refine List.map_congr_left fun entry member => ?_
    exact (orderly.table entry.1 entry.2 (OrderedMap.get?_eq_some_iff.mpr member)).1
  · refine List.map_congr_left fun entry member => ?_
    exact (orderly.view entry.1 entry.2 (OrderedMap.get?_eq_some_iff.mpr member)).1

theorem nodup_described (orderly : catalog.Orderly) :
    (((described catalog).map Prod.fst).map Text.foldLower).Nodup := by
  rw [fold_described orderly, List.nodup_append]
  refine ⟨catalog.tables.nodup, catalog.views.nodup, ?_⟩
  rintro key table _ view rfl
  rw [OrderedMap.mem_keys_iff, OrderedMap.contains_iff] at table view
  obtain ⟨_, table⟩ := table
  obtain ⟨_, view⟩ := view
  obtain none | none := orderly.apart key
  · cases table.symm.trans none
  · cases view.symm.trans none

theorem entries_described (orderly : catalog.Orderly) :
    (OrderedMap.ofList (described catalog)).entries = described catalog :=
  OrderedMap.entries_ofList (nodup_described orderly).of_map

theorem nodup_objects (orderly : catalog.Orderly) :
    ((OrderedMap.ofList (described catalog)).keys.map Text.foldLower).Nodup := by
  rw [OrderedMap.keys, entries_described orderly]
  exact nodup_described orderly

theorem mem_described_iff {entry : String × ObjectAnnotations} : entry ∈ described catalog ↔
    (∃ t, (∃ key, catalog.tables.get? key = some t) ∧ (t.name, ofTable t) = entry) ∨
      ∃ v, (∃ key, catalog.views.get? key = some v) ∧ (v.name, ofView v) = entry := by
  rw [described, List.mem_append, List.mem_map, List.mem_map]
  simp only [OrderedMap.mem_values_iff]

/-- Tables and views are found by their names. -/
theorem objectNamed?_described (orderly : catalog.Orderly) (name : String) :
    objectNamed? (.ofList (described catalog)) name =
      ((catalog.table? name).map ofTable).or ((catalog.view? name).map ofView) := by
  have named : ∀ object, objectNamed? (.ofList (described catalog)) name = some object ↔
      ∃ entry ∈ described catalog,
        (Text.foldLower entry.1, entry.2) = (Text.foldLower name, object) := by
    intro object
    rw [objectNamed?_eq_some (nodup_objects orderly), entries_described orderly, List.mem_map]
  rw [Catalog.table?, Catalog.view?]
  cases table : catalog.tables.get? (Text.foldLower name) with
  | some t =>
    exact (named (ofTable t)).mpr ⟨_, mem_described_iff.mpr (.inl ⟨t, ⟨_, table⟩, rfl⟩),
      Prod.ext (orderly.table _ t table).1 rfl⟩
  | none =>
    cases view : catalog.views.get? (Text.foldLower name) with
    | some v =>
      exact (named (ofView v)).mpr ⟨_, mem_described_iff.mpr (.inr ⟨v, ⟨_, view⟩, rfl⟩),
        Prod.ext (orderly.view _ v view).1 rfl⟩
    | none =>
      refine Option.eq_none_iff_forall_ne_some.mpr fun object found => ?_
      obtain ⟨entry, member, same⟩ := (named object).mp found
      obtain ⟨t, ⟨key, stored⟩, rfl⟩ | ⟨v, ⟨key, stored⟩, rfl⟩ := mem_described_iff.mp member
      · have folded : Text.foldLower t.name = Text.foldLower name := congrArg Prod.fst same
        rw [← (orderly.table key t stored).1, folded, table] at stored
        cases stored
      · have folded : Text.foldLower v.name = Text.foldLower name := congrArg Prod.fst same
        rw [← (orderly.view key v stored).1, folded, view] at stored
        cases stored

theorem mem_described (orderly : catalog.Orderly) {pair : String × ObjectAnnotations}
    (member : pair ∈ described catalog) : AllVetted pair.2.fields ∧
      ∀ map ∈ pair.2.fields.values, map ∈ catalog.fieldMaps := by
  obtain member | member := List.mem_append.mp member
  · obtain ⟨t, there, rfl⟩ := List.mem_map.mp member
    obtain ⟨⟨key, _⟩, stored, rfl⟩ := List.mem_map.mp there
    have vetted := (orderly.table key _ (OrderedMap.get?_eq_some_iff.mpr stored)).2
    exact ⟨vetted, fun map own => List.mem_append_left _ (List.mem_flatMap.mpr ⟨_, there, own⟩)⟩
  · obtain ⟨v, there, rfl⟩ := List.mem_map.mp member
    obtain ⟨⟨key, _⟩, stored, rfl⟩ := List.mem_map.mp there
    have vetted := (orderly.view key _ (OrderedMap.get?_eq_some_iff.mpr stored)).2
    exact ⟨vetted, fun map own => List.mem_append_right _ (List.mem_flatMap.mpr ⟨_, there, own⟩)⟩

theorem declared_fields (orderly : catalog.Orderly) {name : String} {object : ObjectAnnotations}
    (found : objectNamed? (.ofList (described catalog)) name = some object)
    {entry : String × Annotations} (member : entry ∈ object.fields.entries) :
    entry.2 ∈ catalog.fieldMaps ∧ entry.2.Vetted := by
  rw [objectNamed?_eq_some (nodup_objects orderly), entries_described orderly] at found
  obtain ⟨_, there, same⟩ := List.mem_map.mp found
  obtain rfl := (Prod.ext_iff.mp same).2
  obtain ⟨vetted, inside⟩ := mem_described orderly there
  exact ⟨inside _ (List.mem_map.mpr ⟨entry, member, rfl⟩),
    vetted entry.1 entry.2 (OrderedMap.get?_eq_some_iff.mpr member)⟩

theorem declaredIn_fields (orderly : catalog.Orderly) {column : Origin} {map : Annotations}
    (declared : declaredIn (.ofList (described catalog)) column = some map) :
    map ∈ catalog.fieldMaps ∧ map.Vetted := by
  obtain ⟨object, found, declared⟩ := Option.bind_eq_some_iff.mp declared
  obtain ⟨entry, first, rfl⟩ := Option.map_eq_some_iff.mp declared
  exact declared_fields orderly found (List.mem_of_find?_eq_some first)

end Inheritance

namespace Catalog

/-- No field of a table or view is said to be dynamic or not. -/
def Static (catalog : Catalog) : Prop :=
  ∀ map ∈ catalog.fieldMaps, map.contains Key.isDynamicField = false

end Catalog

namespace Inheritance

open Annotations

theorem isDynamic_eq_false {map : Annotations} (static : map.contains Key.isDynamicField = false) :
    map.isDynamic = false := by
  rw [isDynamic, OrderedMap.contains_eq_false_iff.mp static]
  rfl

theorem dynamicFields_eq_nil {catalog : Catalog} (orderly : catalog.Orderly)
    (static : catalog.Static) (object : String) :
    (ofCatalog catalog).dynamicFields object = [] := by
  have folded : (ofCatalog catalog).objects.get? (Text.foldLower object) = _ :=
    get?_objects (nodup_objects orderly) (Text.foldLower_foldLower object)
  rw [dynamicFields, folded]
  cases found : objectNamed? (.ofList (described catalog)) (Text.foldLower object) with
  | none => rfl
  | some declared =>
    refine List.filter_eq_nil_iff.mpr fun entry member => ?_
    rw [isDynamic_eq_false (static entry.2 (declared_fields orderly found member).1)]
    exact Bool.false_ne_true

/-- What is in force for a column of a schema without dynamic fields is accepted. -/
theorem lookup?_ofCatalog {catalog : Catalog} (orderly : catalog.Orderly)
    (static : catalog.Static) {object column key : String} {value : Value}
    (found : lookup? ((ofCatalog catalog).annotations? object column) key = some value) :
    key ≠ Key.isDynamicField ∧ FieldOverrides.Allowed key value := by
  obtain ⟨c, map, declared, got⟩ := declaredIn_of_lookup? (nodup_objects orderly) found
  obtain ⟨inside, vetted⟩ := declaredIn_fields orderly declared
  have none := static map inside
  refine ⟨?_, vetted none key value got⟩
  rintro rfl
  rw [OrderedMap.contains, got] at none
  cases none

end Inheritance

end TypedRows
