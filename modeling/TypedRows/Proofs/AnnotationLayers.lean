import TypedRows.Proofs.MapLookup
import TypedRows.Schema.Inheritance

/-! Annotations as they are looked up. Of the layers of annotations on a way of columns the first
that has something to say about a key decides it. -/

namespace TypedRows

namespace Annotations

/-- Whether a layer does away with what is below it under a key that it has not itself. -/
def hides (top : Annotations) (key : String) : Bool :=
  key = Key.adapter && top.contains Key.propertyType

theorem get?_merge (base top : Annotations) (key : String) :
    (base.merge top).get? key =
      (top.get? key).or (if top.hides key then none else base.get? key) := by
  rw [merge, OrderedMap.get?_putAll_entries]
  cases found : top.get? key with
  | some value => rfl
  | none =>
    simp only [Option.none_or, hides]
    by_cases adapter : key = Key.adapter
    · have absent : top.contains Key.adapter = false := by
        rw [OrderedMap.contains, ← adapter, found]
        rfl
      by_cases typed : OrderedMap.contains top Key.propertyType = true <;>
        simp [adapter, absent, typed, OrderedMap.get?_erase]
    · split <;> simp [adapter, OrderedMap.get?_erase]

theorem hides_of_ne (top : Annotations) {key : String} (other : key ≠ Key.adapter) :
    top.hides key = false := by
  rw [hides, decide_eq_false other, Bool.false_and]

theorem get?_merge_of_ne (base top : Annotations) {key : String} (other : key ≠ Key.adapter) :
    (base.merge top).get? key = (top.get? key).or (base.get? key) := by
  rw [get?_merge, hides_of_ne top other, if_neg Bool.false_ne_true]

def lookup? (map : Option Annotations) (key : String) : Option Value :=
  map.bind fun annotations => annotations.get? key

/-- The same value under every key, or no annotations on either side. -/
structure Alike (a b : Option Annotations) : Prop where
  isSome : a.isSome = b.isSome
  lookup : ∀ key, lookup? a key = lookup? b key

theorem Alike.refl (a : Option Annotations) : Alike a a := ⟨rfl, fun _ => rfl⟩

theorem Alike.symm {a b : Option Annotations} (h : Alike a b) : Alike b a :=
  ⟨h.isSome.symm, fun key => (h.lookup key).symm⟩

theorem Alike.trans {a b c : Option Annotations} (ab : Alike a b) (bc : Alike b c) : Alike a c :=
  ⟨ab.isSome.trans bc.isSome, fun key => (ab.lookup key).trans (bc.lookup key)⟩

end Annotations

namespace Inheritance

open Annotations

theorem lookup?_layer (below top : Option Annotations) (key : String) :
    lookup? (layer below top) key =
      (lookup? top key).or
        (if top.any (·.hides key) then none else lookup? below key) := by
  cases below with
  | none => cases top <;> simp [layer, lookup?]
  | some base =>
    cases top with
    | none => simp [layer, lookup?]
    | some top => simp [layer, lookup?, get?_merge]

@[simp] theorem layer_none (below : Option Annotations) : layer below none = below := by
  cases below <;> rfl

theorem isSome_layer (below top : Option Annotations) :
    (layer below top).isSome = (below.isSome || top.isSome) := by
  cases below <;> cases top <;> rfl

def drops (inherited : Inherited) (key : String) : Bool :=
  inherited.dropNotNull && key = Key.notNull

theorem lookup?_passOn (inherited : Inherited) (map : Option Annotations) (key : String) :
    lookup? (map.map (passOn inherited)) key =
      if drops inherited key then none else lookup? map key := by
  cases map with
  | none => simp [lookup?]
  | some map =>
    cases dropped : inherited.dropNotNull <;>
      simp [lookup?, passOn, drops, dropped, OrderedMap.get?_erase]

end Inheritance

namespace Annotations

open Inheritance

theorem Alike.passOn {a b : Option Annotations} (h : Alike a b) (inherited : Inherited) :
    Alike (a.map (passOn inherited)) (b.map (passOn inherited)) where
  isSome := by rw [Option.isSome_map, Option.isSome_map, h.isSome]
  lookup key := by rw [lookup?_passOn, lookup?_passOn, h.lookup]

theorem Alike.layer {a b : Option Annotations} (h : Alike a b) (top : Option Annotations) :
    Alike (layer a top) (layer b top) where
  isSome := by rw [isSome_layer, isSome_layer, h.isSome]
  lookup key := by rw [lookup?_layer, lookup?_layer, h.lookup]

end Annotations

namespace Inheritance

open Annotations

/-! A way of columns, each copied from the next. `own` tells the annotations of a column itself,
`copied` what it is copied from. -/

section Way

variable {own : Origin → Option Annotations} {copied : Origin → Option Inherited}

variable (own copied) in
/-- The annotations of the columns of a way, laid over each other. -/
def layered : List Origin → Option Annotations
  | [] => none
  | column :: rest =>
    layer ((copied column).bind fun inherited => (layered rest).map (passOn inherited)) (own column)

variable (own copied) in
/-- What a column says about a key, whatever is below it: a value, or that there is none. -/
def decides (key : String) (column : Origin) : Option (Option Value) :=
  ((lookup? (own column) key).map some).or
    (if (own column).any (·.hides key) || (copied column).any (drops · key) then some none
    else none)

variable (own copied) in
/-- The annotations are those that the columns of the way leave in force. -/
structure InForce (way : List Origin) (map : Option Annotations) : Prop where
  isSome : map.isSome = way.any fun column => (own column).isSome
  lookup : ∀ key, lookup? map key = (way.findSome? (decides own copied key)).join

theorem InForce.nil : InForce own copied [] none := ⟨rfl, fun _ => rfl⟩

theorem InForce.cons {rest : List Origin} {below : Option Annotations}
    (h : InForce own copied rest below) {column : Origin}
    (last : copied column = none → rest = []) :
    InForce own copied (column :: rest)
      (layer ((copied column).bind fun inherited => below.map (passOn inherited))
        (own column)) where
  isSome := by
    rw [isSome_layer, List.any_cons, ← h.isSome, Bool.or_comm]
    cases from' : copied column with
    | none => simp [h.isSome, last from']
    | some inherited => simp
  lookup key := by
    have passed : lookup? ((copied column).bind fun inherited => below.map (passOn inherited)) key =
        if (copied column).any (drops · key) then none else lookup? below key := by
      cases from' : copied column with
      | none =>
        have empty := h.lookup key
        rw [last from'] at empty
        exact empty.symm
      | some inherited => exact lookup?_passOn inherited below key
    rw [lookup?_layer, passed, h.lookup, List.findSome?_cons, decides]
    cases lookup? (own column) key with
    | some value => rfl
    | none =>
      cases (own column).any (·.hides key) <;>
        cases (copied column).any (drops · key) <;> rfl

/-- A key that no layer does away with is told by the first column that says anything about it. -/
theorem InForce.lookup_of_ne {way : List Origin} {map : Option Annotations}
    (h : InForce own copied way map) {key : String} (adapter : key ≠ Key.adapter)
    (notNull : key ≠ Key.notNull) :
    lookup? map key = way.findSome? fun column => lookup? (own column) key := by
  have plain : decides own copied key =
      Option.map some ∘ fun column => lookup? (own column) key := by
    funext column
    have shown : (own column).any (·.hides key) = false := by
      cases own column with
      | none => rfl
      | some top => exact hides_of_ne top adapter
    have kept : (copied column).any (drops · key) = false := by
      cases copied column with
      | none => rfl
      | some inherited => rw [Option.any_some, drops, decide_eq_false notNull, Bool.and_false]
    rw [decides, shown, kept, Bool.or_self, if_neg Bool.false_ne_true, Option.or_none]
    rfl
  rw [h.lookup, plain, ← List.map_findSome?]
  cases way.findSome? _ <;> rfl

theorem InForce.alike {way : List Origin} {a b : Option Annotations} (ha : InForce own copied way a)
    (hb : InForce own copied way b) : Alike a b :=
  ⟨ha.isSome.trans hb.isSome.symm, fun key => (ha.lookup key).trans (hb.lookup key).symm⟩

end Way

end Inheritance

end TypedRows
