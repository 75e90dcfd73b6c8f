import TypedRows.Proofs.AdapterLayers

/-! The laws of laying annotations over each other. Up to the order of the keys it is associative
and idempotent, and no annotations are its unit; so it does not matter in which groups the layers of
a column are put together. -/

namespace TypedRows

namespace Annotations

open Inheritance

theorem hides_merge (base top : Annotations) (key : String) :
    (base.merge top).hides key = (base.hides key || top.hides key) := by
  rw [hides, contains_merge base top (by decide)]
  simp only [hides, Bool.and_or_distrib_left]

@[simp] theorem empty_merge (map : Annotations) : merge .empty map = map := by
  have absent : (OrderedMap.empty : Annotations).get? Key.adapter = none := rfl
  rw [merge, OrderedMap.erase_of_absent absent, ite_self, OrderedMap.empty_putAll]

@[simp] theorem merge_empty (map : Annotations) : map.merge .empty = map := rfl

/-- Annotations that are laid over themselves stay as they are, even in their order. -/
@[simp] theorem merge_self (map : Annotations) : map.merge map = map := by
  have kept : (if map.contains Key.propertyType && !map.contains Key.adapter then
      map.erase Key.adapter else map) = map := by
    split
    · rename_i typed
      simp only [Bool.and_eq_true, Bool.not_eq_true'] at typed
      exact OrderedMap.erase_of_absent (OrderedMap.contains_eq_false_iff.mp typed.2)
    · rfl
  rw [merge, kept]
  refine OrderedMap.eq_of_get? ?_ fun key => ?_
  · have known : map.keys.filter (!map.contains ·) = [] := by
      refine List.filter_eq_nil_iff.mpr fun key member => ?_
      simp [OrderedMap.mem_keys_iff.mp member]
    change (map.putAll map.entries).keys = map.keys
    rw [OrderedMap.keys_putAll map map.nodup]
    exact (congrArg _ known).trans (List.append_nil _)
  · rw [OrderedMap.get?_putAll_entries, Option.or_self]

/-- What is laid once more on top takes the place of what it was below. -/
theorem get?_merge_merge_self (a b : Annotations) (key : String) :
    ((a.merge b).merge a).get? key = (b.merge a).get? key := by
  simp only [get?_merge]
  cases a.get? key with
  | some value => rfl
  | none => cases b.get? key <;> simp

theorem any_hides_layer (below top : Option Annotations) (key : String) :
    (layer below top).any (·.hides key) =
      (below.any (·.hides key) || top.any (·.hides key)) := by
  cases below with
  | none => cases top <;> rfl
  | some base =>
    cases top with
    | none => exact (Bool.or_false _).symm
    | some top => exact hides_merge base top key

/-- Three layers may be put together from below or from above. -/
theorem layer_assoc (a b c : Option Annotations) :
    Alike (layer (layer a b) c) (layer a (layer b c)) where
  isSome := by simp only [isSome_layer, Bool.or_assoc]
  lookup key := by
    simp only [lookup?_layer, any_hides_layer]
    cases lookup? c key with
    | some value => rfl
    | none =>
      -- where the top layer hides the key, neither of those below it is seen
      cases c.any (·.hides key) <;> simp

theorem Alike.any_hides {a b : Option Annotations} (h : Alike a b) (key : String) :
    a.any (·.hides key) = b.any (·.hides key) := by
  have told : ∀ map : Option Annotations, map.any (·.hides key) =
      (decide (key = Key.adapter) && (lookup? map Key.propertyType).isSome) := by
    intro map
    cases map with
    | none => exact (Bool.and_false _).symm
    | some map => rfl
  rw [told, told, h.lookup]

theorem Alike.layer_top {a b : Option Annotations} (h : Alike a b) (below : Option Annotations) :
    Alike (Inheritance.layer below a) (Inheritance.layer below b) where
  isSome := by rw [isSome_layer, isSome_layer, h.isSome]
  lookup key := by rw [lookup?_layer, lookup?_layer, h.lookup, h.any_hides]

/-- Annotations on top of different ones show no difference where they decide themselves. -/
theorem alike_layer_iff {a b top : Option Annotations} :
    Alike (Inheritance.layer a top) (Inheritance.layer b top) ↔
      (top = none → a.isSome = b.isSome) ∧ ∀ key, lookup? top key = none →
        top.any (·.hides key) = false → lookup? a key = lookup? b key := by
  constructor
  · rintro ⟨isSome, lookup⟩
    refine ⟨?_, fun key silent shown => ?_⟩
    · rintro rfl
      rw [layer_none, layer_none] at isSome
      exact isSome
    · have told := lookup key
      rw [lookup?_layer, lookup?_layer, silent, shown] at told
      exact told
  · rintro ⟨isSome, lookup⟩
    constructor
    · rw [isSome_layer, isSome_layer]
      cases top with
      | none => rw [isSome rfl]
      | some _ => rw [Option.isSome_some, Bool.or_true, Bool.or_true]
    · intro key
      rw [lookup?_layer, lookup?_layer]
      cases silent : lookup? top key with
      | some value => rfl
      | none =>
        cases shown : top.any (·.hides key) with
        | true => rfl
        | false => rw [lookup key silent shown]

theorem merged_append (lower upper : List Annotations) :
    Alike (merged (lower ++ upper)) (layer (merged lower) (merged upper)) := by
  induction upper using List.reverseRecOn with
  | nil =>
    rw [List.append_nil, show merged [] = none from rfl, layer_none]
    exact .refl _
  | append_singleton upper last ih =>
    rw [← List.append_assoc, merged_concat, merged_concat]
    exact (ih.layer (some last)).trans (layer_assoc _ _ _)

/-- A way to put layers together: a single one, if there is one, or a group with another on top. -/
inductive Grouping where
  | single (layer : Option Annotations)
  | group (below above : Grouping)

namespace Grouping

/-- The layers from the lowest to the highest. -/
def layers : Grouping → List Annotations
  | single layer => layer.toList
  | group below above => below.layers ++ above.layers

/-- The annotations that are in force when the groups are put together. -/
def laid : Grouping → Option Annotations
  | single layer => layer
  | group below above => layer below.laid above.laid

theorem laid_alike (grouping : Grouping) : Alike grouping.laid (merged grouping.layers) := by
  induction grouping with
  | single layer => cases layer <;> exact .refl _
  | group below above lower upper =>
    have both := (lower.layer above.laid).trans (upper.layer_top (merged below.layers))
    exact both.trans (merged_append below.layers above.layers).symm

end Grouping

/-- Laying annotations over each other is associative and idempotent with the empty ones as unit: it
gives each key the same value, whatever the order of the keys. So layers have the same annotations
in force in whichever groups they are put together. -/
theorem merge_laws (a b c : Annotations) :
    (∀ key, ((a.merge b).merge c).get? key = (a.merge (b.merge c)).get? key) ∧
    merge .empty a = a ∧ a.merge .empty = a ∧ a.merge a = a ∧
    (∀ key, ((a.merge b).merge a).get? key = (b.merge a).get? key) ∧
    ∀ one other : Grouping, one.layers = other.layers → Alike one.laid other.laid := by
  refine ⟨?_, empty_merge a, merge_empty a, merge_self a, get?_merge_merge_self a b, ?_⟩
  · exact (layer_assoc (some a) (some b) (some c)).lookup
  · intro one other same
    exact one.laid_alike.trans (same ▸ other.laid_alike.symm)

def adapterAlone : Annotations := .ofList [(Key.adapter, .text "custom")]

/-- A type without an adapter does away with the adapter below it. -/
def typeAlone : Annotations := .ofList [(Key.propertyType, .text "Id")]

theorem merge_laws_regrouped :
    let lower := Grouping.group (.single (some adapterAlone)) (.single (some typeAlone))
    let upper := Grouping.group (.single (some typeAlone)) (.single (some adapterAlone))
    let left := Grouping.group lower (.single (some adapterAlone))
    let right := Grouping.group (.single (some adapterAlone)) upper
    left.layers = right.layers ∧ Alike left.laid right.laid := by
  obtain ⟨_, _, _, _, _, grouped⟩ := merge_laws adapterAlone typeAlone adapterAlone
  exact ⟨rfl, grouped _ _ rfl⟩

/-- An adapter that the middle layer does away with comes back at the end, or keeps its place. -/
example :
    ((adapterAlone.merge typeAlone).merge adapterAlone).keys = [Key.propertyType, Key.adapter] ∧
      (adapterAlone.merge (typeAlone.merge adapterAlone)).keys =
        [Key.adapter, Key.propertyType] := by
  decide +kernel

end Annotations

end TypedRows
