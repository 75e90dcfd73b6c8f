import TypedRows.Proofs.ResultFields

/-! The annotations in force for a column as the blocks of comments that they are laid from, from
the top to the bottom. A block with a type of its own that is not built in has a custom adapter; but
the adapter in force is that of the first block that names one, and a block above may name the
default adapter without a type. -/

namespace TypedRows

open Sql

namespace Annotations

/-- The field that a block is about, with the annotations that are kept of it. -/
def fieldBlock? (block : String) : Option (String × Annotations) :=
  (parseBlock block).toOption.bind fun map =>
    if map.contains Key.field || map.contains Key.dynamicField then
      (fieldOfBlock block map).toOption
    else none

/-- The blocks of comment lines that are about fields, in order. -/
def fieldBlocks (lines : List String) : List (String × Annotations) :=
  ((Comment.blocks lines).toOption.getD []).filterMap fieldBlock?

/-- The blocks about the field that a column has its annotations from, the last one first. Of the
fields that differ only in case it is the one that comes first. -/
def layersOn (blocks : List (String × Annotations)) (column : String) : List Annotations :=
  match blocks.find? fun block => Text.sameName block.1 column with
  | some first => ((blocks.filter fun block => block.1 = first.1).map Prod.snd).reverse
  | none => []

/-- What a layer tells of a key, whatever is below it: a value, or that there is none. -/
def tells (key : String) (layer : Annotations) : Option (Option Value) :=
  ((layer.get? key).map some).or (if layer.hides key then some none else none)

/-- Under every key but the one that joins do away with, the first layer that tells anything of it
decides. -/
def Laid (layers : List Annotations) (map : Option Annotations) : Prop :=
  ∀ key, key ≠ Key.notNull → lookup? map key = (layers.findSome? (tells key)).join

theorem tells_of_shown {layer : Annotations} {key : String} (shown : layer.hides key = false) :
    tells key layer = (layer.get? key).map some := by
  rw [tells, shown, if_neg Bool.false_ne_true, Option.or_none]

theorem tells_eq_none {layer : Annotations} {key : String} (silent : tells key layer = none) :
    layer.hides key = false := by
  rw [tells, Option.or_eq_none_iff] at silent
  cases hidden : layer.hides key with
  | false => rfl
  | true =>
    rw [hidden] at silent
    cases silent.2

theorem tells_eq_some_none {layer : Annotations} {key : String}
    (nothing : tells key layer = some none) : layer.hides key = true := by
  cases hidden : layer.hides key with
  | true => rfl
  | false =>
    rw [tells_of_shown hidden] at nothing
    obtain ⟨_, _, e⟩ := Option.map_eq_some_iff.mp nothing
    cases e

namespace Laid

theorem nil : Laid [] none := fun _ _ => rfl

theorem of_alike {layers : List Annotations} {a b : Option Annotations} (h : Laid layers a)
    (alike : Alike b a) : Laid layers b :=
  fun key kept => (alike.lookup key).trans (h key kept)

theorem passOn {layers : List Annotations} {map : Option Annotations} (h : Laid layers map)
    (inherited : Inherited) : Laid layers (map.map (Inheritance.passOn inherited)) := by
  intro key kept
  rw [Inheritance.lookup?_passOn, Inheritance.drops, decide_eq_false kept, Bool.and_false,
    if_neg Bool.false_ne_true]
  exact h key kept

theorem lookup_propertyType {layers : List Annotations} {map : Option Annotations}
    (h : Laid layers map) : lookup? map Key.propertyType =
      layers.findSome? fun layer => layer.get? Key.propertyType := by
  have plain : tells Key.propertyType =
      Option.map some ∘ fun layer : Annotations => layer.get? Key.propertyType := by
    funext layer
    exact tells_of_shown (hides_of_ne layer (by decide))
  rw [h _ (by decide), plain, ← List.map_findSome?]
  cases layers.findSome? _ <;> rfl

/-- The annotations hide a key just if one of the layers does. -/
theorem any_hides {layers : List Annotations} {map : Option Annotations} (h : Laid layers map)
    (key : String) : map.any (·.hides key) = layers.any (·.hides key) := by
  by_cases adapter : key = Key.adapter
  · have typed := congrArg Option.isSome h.lookup_propertyType
    rw [lookup?, Option.isSome_bind, List.isSome_findSome?] at typed
    simp only [hides, adapter, decide_true, Bool.true_and]
    exact typed
  · have shown : ∀ layer : Annotations, layer.hides key = false := fun layer =>
      hides_of_ne layer adapter
    simp [shown]

theorem layer {above below : List Annotations} {top base : Option Annotations}
    (first : Laid above top) (second : Laid below base) :
    Laid (above ++ below) (Inheritance.layer base top) := by
  intro key kept
  rw [Inheritance.lookup?_layer, first key kept, second key kept, first.any_hides key,
    List.findSome?_append]
  cases told : above.findSome? (tells key) with
  | none =>
    have shown : above.any (·.hides key) = false := by
      refine List.any_eq_false.mpr fun layer member => ?_
      rw [tells_eq_none (List.findSome?_eq_none_iff.mp told layer member)]
      exact Bool.false_ne_true
    rw [shown]
    rfl
  | some value =>
    cases value with
    | some v => rfl
    | none =>
      obtain ⟨layer, member, nothing⟩ := List.exists_of_findSome?_eq_some told
      have hidden : above.any (·.hides key) = true :=
        List.any_eq_true.mpr ⟨layer, member, tells_eq_some_none nothing⟩
      rw [hidden]
      rfl

end Laid

/-! The fields of comments are laid from their blocks. -/

theorem putField_get? (fields : OrderedMap String Annotations) (name : String)
    (map : Annotations) (key : String) : (putField fields name map).get? key =
      if key = name then Inheritance.layer (fields.get? name) (some map) else fields.get? key := by
  rw [putField]
  cases fields.get? name <;> exact OrderedMap.get?_put ..

/-- A field keeps the place of its first block. -/
theorem keys_putField (fields : OrderedMap String Annotations) (name : String)
    (map : Annotations) : (putField fields name map).keys = (fields.putNew name map).keys := by
  have put : ∀ value, (fields.put name value).keys = (fields.putNew name map).keys := by
    intro value
    rw [OrderedMap.keys_put, OrderedMap.putNew]
    split
    · rfl
    · rename_i new
      rw [OrderedMap.keys_put, if_neg new]
  rw [putField]
  split <;> exact put _

theorem find?_keys_putField (fields : OrderedMap String Annotations) (name : String)
    (map : Annotations) (p : String → Bool) :
    (putField fields name map).keys.find? p = (fields.keys.find? p).or ([name].find? p) := by
  have found := congrArg (Option.map Prod.fst) (OrderedMap.find?_putNew fields name map p)
  rw [keys_putField, OrderedMap.keys, OrderedMap.keys, List.find?_map, List.find?_map]
  refine found.trans (Option.map_or.trans (congrArg _ ?_))
  exact (List.find?_map (f := Prod.fst) (l := [(name, map)])).symm

/-- The fields that blocks make, one after the other. -/
def fieldsOf (blocks : List (String × Annotations)) : OrderedMap String Annotations :=
  blocks.foldl (fun fields block => putField fields block.1 block.2) .empty

theorem fieldsOf_concat (blocks : List (String × Annotations)) (block : String × Annotations) :
    fieldsOf (blocks ++ [block]) = putField (fieldsOf blocks) block.1 block.2 := by
  rw [fieldsOf, List.foldl_append]
  rfl

theorem find?_keys_fieldsOf (blocks : List (String × Annotations)) (p : String → Bool) :
    (fieldsOf blocks).keys.find? p = (blocks.map Prod.fst).find? p := by
  induction blocks using List.reverseRecOn with
  | nil => rfl
  | append_singleton blocks block ih =>
    rw [fieldsOf_concat, find?_keys_putField, ih, List.map_append, List.find?_append]
    rfl

/-- Annotations laid over each other, each over those before it. -/
def merged (layers : List Annotations) : Option Annotations :=
  layers.foldl (fun below layer => Inheritance.layer below (some layer)) none

theorem merged_concat (layers : List Annotations) (layer : Annotations) :
    merged (layers ++ [layer]) = Inheritance.layer (merged layers) (some layer) := by
  rw [merged, List.foldl_append]
  rfl

/-- What the last of the layers that tells anything of a key tells. -/
def told (layers : List Annotations) (key : String) : Option Value :=
  (layers.reverse.findSome? (tells key)).join

theorem lookup?_merged (layers : List Annotations) (key : String) :
    lookup? (merged layers) key = told layers key := by
  induction layers using List.reverseRecOn with
  | nil => rfl
  | append_singleton layers layer ih =>
    rw [merged_concat, Inheritance.lookup?_layer, ih, told, told, List.reverse_append,
      List.reverse_singleton, List.singleton_append, List.findSome?_cons, tells, lookup?,
      Option.bind_some, Option.any_some]
    cases layer.get? key <;> cases layer.hides key <;> rfl

theorem get?_fieldsOf (blocks : List (String × Annotations)) (key : String) :
    (fieldsOf blocks).get? key =
      merged ((blocks.filter fun block => block.1 = key).map Prod.snd) := by
  induction blocks using List.reverseRecOn with
  | nil => rfl
  | append_singleton blocks block ih =>
    rw [fieldsOf_concat, putField_get?, List.filter_append, List.map_append]
    by_cases same : block.1 = key
    · subst same
      rw [if_pos rfl, List.filter_cons_of_pos (by simp), List.filter_nil, List.map_singleton,
        merged_concat, ih]
    · rw [if_neg fun e => same e.symm, List.filter_cons_of_neg (by simpa using same),
        List.filter_nil, List.map_nil, List.append_nil]
      exact ih

/-- What is declared on a column is laid from the blocks about its field. -/
theorem own?_fieldsOf (blocks : List (String × Annotations)) (column : String) :
    TypedStatement.own? (fieldsOf blocks) column = merged (layersOn blocks column).reverse := by
  have keys := find?_keys_fieldsOf blocks fun name => Text.sameName name column
  rw [OrderedMap.keys, List.find?_map, List.find?_map] at keys
  change ((fieldsOf blocks).entries.find? fun entry => Text.sameName entry.1 column).map Prod.fst =
    (blocks.find? fun block => Text.sameName block.1 column).map Prod.fst at keys
  rw [layersOn, TypedStatement.own?]
  cases found : blocks.find? fun block => Text.sameName block.1 column with
  | none =>
    rw [found, Option.map_none, Option.map_eq_none_iff] at keys
    rw [keys]
    rfl
  | some first =>
    rw [found, Option.map_some] at keys
    obtain ⟨entry, there, same⟩ := Option.map_eq_some_iff.mp keys
    have stored : (fieldsOf blocks).get? first.1 = some entry.2 := by
      rw [← same]
      exact OrderedMap.get?_eq_some_iff.mpr (List.mem_of_find?_eq_some there)
    rw [there, Option.map_some, ← stored, List.reverse_reverse]
    exact get?_fieldsOf blocks first.1

theorem laid_own (blocks : List (String × Annotations)) (column : String) :
    Laid (layersOn blocks column) (TypedStatement.own? (fieldsOf blocks) column) := by
  intro key _
  rw [own?_fieldsOf, lookup?_merged, told, List.reverse_reverse]

end Annotations

namespace CommentAnnotations

open Annotations

theorem fields_of_addBlock {acc next : CommentAnnotations} {block : String}
    (h : addBlock acc block = .ok next) :
    next.fields = (fieldBlock? block).toList.foldl
      (fun fields block => putField fields block.1 block.2) acc.fields := by
  obtain ⟨map, parsed, h⟩ := bind_eq_ok h
  rw [fieldBlock?, parsed]
  change _ = (Option.toList (if map.contains Key.field || map.contains Key.dynamicField then
    (fieldOfBlock block map).toOption else none)).foldl _ _
  split at h
  · rename_i about
    obtain ⟨fields, added, h⟩ := bind_eq_ok h
    obtain ⟨⟨name, own⟩, read, added⟩ := bind_eq_ok added
    cases added
    cases h
    rw [if_pos about, read]
    rfl
  · rename_i whole
    cases h
    rw [if_neg whole]
    rfl

/-- The fields of comments are made by the blocks about them. -/
theorem fields_of_ofComments {lines : List String} {read : CommentAnnotations}
    (h : ofComments lines = .ok read) : read.fields = fieldsOf (fieldBlocks lines) := by
  obtain ⟨blocks, scanned, h⟩ := bind_eq_ok h
  rw [fieldBlocks, scanned, fieldsOf]
  change read.fields = (blocks.filterMap fieldBlock?).foldl _ empty.fields
  clear scanned
  generalize empty = acc at h ⊢
  induction blocks generalizing acc with
  | nil =>
    cases h
    rfl
  | cons block rest ih =>
    rw [List.foldlM_cons] at h
    obtain ⟨next, step, h⟩ := bind_eq_ok h
    have cons : (block :: rest).filterMap fieldBlock? =
        (fieldBlock? block).toList ++ rest.filterMap fieldBlock? := by
      cases made : fieldBlock? block <;> simp [made]
    rw [ih next h, fields_of_addBlock step, cons, List.foldl_append]

end CommentAnnotations

namespace Annotations

/-- A layer with a type of its own that is not built in has a custom adapter, and no layer has an
adapter of another name than the two that are known. -/
structure Sealed (layer : Annotations) : Prop where
  custom : ∀ type, layer.get? Key.propertyType = some (.text type) →
    RustType.isBuiltin type = false → layer.get? Key.adapter = some (.text "custom")
  named : ∀ value, layer.get? Key.adapter = some value →
    value = .text "custom" ∨ value = .text "default"

theorem sealed_put (map : Annotations) : Sealed (map.put Key.adapter (.text "custom")) where
  custom _ _ _ := OrderedMap.get?_put_self ..
  named value found := by
    rw [OrderedMap.get?_put_self] at found
    exact .inl (Option.some.inj found).symm

theorem sealed_ite {map : Annotations} {needed : Bool}
    (named : ∀ value, map.get? Key.adapter = some value →
      value = .text "custom" ∨ value = .text "default")
    (needs : ∀ type, map.get? Key.propertyType = some (.text type) →
      RustType.isBuiltin type = false → needed = true) :
    Sealed (if needed then map.put Key.adapter (.text "custom") else map) := by
  cases needed with
  | true => exact sealed_put map
  | false => exact ⟨fun type typed custom => (by cases needs type typed custom), named⟩

theorem sealed_of_withAdapter {field : String} {map layer : Annotations}
    (h : withAdapter field map = .ok layer) : Sealed layer := by
  unfold withAdapter at h
  extract_lets needed at h
  have needs : ∀ type, map.get? Key.propertyType = some (.text type) →
      RustType.isBuiltin type = false → needed = true := by
    intro type typed custom
    simp [needed, typed, Value.text?, custom]
  split at h
  · rename_i absent
    cases h
    refine sealed_ite (fun value found => ?_) needs
    rw [absent] at found
    cases found
  · rename_i given
    cases h
    refine ⟨fun _ _ _ => given, fun value found => ?_⟩
    rw [given] at found
    exact .inl (Option.some.inj found).symm
  · rename_i given
    cases h
    refine sealed_ite (fun value found => ?_) needs
    rw [given] at found
    exact .inr (Option.some.inj found).symm
  · cases h

theorem fieldOfBlock_of_mem {lines : List String} {block : String × Annotations}
    (member : block ∈ fieldBlocks lines) : ∃ text map, fieldOfBlock text map = .ok block := by
  obtain ⟨text, _, made⟩ := List.mem_filterMap.mp member
  obtain ⟨map, _, made⟩ := Option.bind_eq_some_iff.mp made
  split at made
  · exact ⟨text, map, toOption_eq_some.mp made⟩
  · cases made

theorem sealed_of_mem_fieldBlocks {lines : List String} {block : String × Annotations}
    (member : block ∈ fieldBlocks lines) : Sealed block.2 := by
  obtain ⟨text, map, made⟩ := fieldOfBlock_of_mem member
  obtain ⟨⟨given, adapted⟩, _⟩ := fieldOfBlock_eq_ok made
  exact sealed_of_withAdapter adapted

theorem sealed_of_mem_layersOn {lines : List String} {column : String} {layer : Annotations}
    (member : layer ∈ layersOn (fieldBlocks lines) column) : Sealed layer := by
  rw [layersOn] at member
  split at member
  · obtain ⟨block, inside, rfl⟩ := List.mem_map.mp (List.mem_reverse.mp member)
    exact sealed_of_mem_fieldBlocks (List.mem_filter.mp inside).1
  · cases member

/-- Down to the layer whose type is in force no layer hides the adapter of another one, and that
layer has one. -/
theorem findSome?_adapter {layers : List Annotations} (all : ∀ layer ∈ layers, Sealed layer)
    {type : String} (typed : layers.findSome? (fun layer => layer.get? Key.propertyType) =
      some (.text type)) (custom : RustType.isBuiltin type = false) :
    ∃ value, layers.findSome? (tells Key.adapter) = some (some value) ∧
      layers.findSome? (fun layer => layer.get? Key.adapter) = some value ∧
      (value = .text "custom" ∨ value = .text "default") := by
  induction layers with
  | nil => cases typed
  | cons layer rest ih =>
    obtain ⟨first, others⟩ := List.forall_mem_cons.mp all
    rw [List.findSome?_cons, List.findSome?_cons]
    cases given : layer.get? Key.adapter with
    | some value =>
      have told : tells Key.adapter layer = some (some value) := by
        rw [tells, given]
        rfl
      rw [told]
      exact ⟨value, rfl, rfl, first.named value given⟩
    | none =>
      have untyped : layer.get? Key.propertyType = none := by
        cases own : layer.get? Key.propertyType with
        | none => rfl
        | some value =>
          rw [List.findSome?_cons, own] at typed
          cases typed
          cases given.symm.trans (first.custom type own custom)
      have shown : layer.hides Key.adapter = false := by
        rw [hides, OrderedMap.contains_eq_false_iff.mpr untyped, Bool.and_false]
      rw [List.findSome?_cons, untyped] at typed
      rw [tells_of_shown shown, given]
      exact ih others typed

/-- Whether a column whose type is not built in has an adapter is told by the first layer that names
one, whichever layer has the type. -/
theorem Laid.adapter_iff {layers : List Annotations} {map : Annotations}
    (laid : Laid layers (some map)) (all : ∀ layer ∈ layers, Sealed layer) {field : String}
    {overrides : FieldOverrides} (read : FieldOverrides.ofAnnotations field map = .ok overrides)
    {type : String} (typed : map.get? Key.propertyType = some (.text type))
    (custom : RustType.isBuiltin type = false) :
    overrides.adapter = true ↔
      layers.findSome? (fun layer => layer.get? Key.adapter) ≠ some (.text "default") := by
  obtain ⟨value, told, named, known⟩ :=
    findSome?_adapter all (laid.lookup_propertyType.symm.trans typed) custom
  have inForce : map.get? Key.adapter = some value := by
    have found := laid Key.adapter (by decide)
    rw [told] at found
    exact found
  have adapter := (FieldOverrides.reads_of_ok read).adapter
  rw [FieldOverrides.adapterOf, Annotations.single, inForce] at adapter
  rw [named]
  obtain rfl | rfl := known
  · have yes : true = overrides.adapter := Except.ok.inj adapter
    simp [← yes]
  · have no : false = overrides.adapter := Except.ok.inj adapter
    simp [← no]

end Annotations

end TypedRows
