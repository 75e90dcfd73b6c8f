import TypedRows.Schema.Catalog
import TypedRows.Schema.Reference

/-!
The order in which views are resolved: each after those it reads. Views that read each other in a
circle are found on the way.
-/

namespace TypedRows

/-- The key of each view with the keys of the views it reads. -/
abbrev ViewGraph := OrderedMap String (List String)

/-- How far the views are ordered. A key is in `order` once all that it reads is. -/
structure ViewOrder where
  order : List String
  cyclic : List String

namespace ViewGraph

def ofViews (views : OrderedMap String View) : ViewGraph :=
  views.mapValues fun view =>
    (view.query.references.map Text.foldLower).filter views.contains

def reads (graph : ViewGraph) (key : String) : List String :=
  (graph.get? key).getD []

end ViewGraph

namespace ViewOrder

def start : ViewOrder := ⟨[], []⟩

/-- The keys on the way from `key` back to itself. `stack` has the newest key first. -/
def circle (key : String) (stack : List String) : List String :=
  key :: stack.takeWhile (· ≠ key)

/-- Orders `key` after what it reads. The way to `key` is `stack`; `fuel` bounds how much longer
it may get, and the number of views is enough. -/
def visit (graph : ViewGraph) : Nat → List String → ViewOrder → String → ViewOrder
  | 0, _, state, _ => state
  | fuel + 1, stack, state, key =>
    if state.order.contains key then state
    else if stack.contains key then
      { state with cyclic := state.cyclic ++ circle key stack }
    else
      let after := (graph.reads key).foldl (visit graph fuel (key :: stack)) state
      { after with order := after.order ++ [key] }

def ofGraph (graph : ViewGraph) : ViewOrder :=
  graph.keys.foldl (visit graph (graph.keys.length + 1) []) start

end ViewOrder

end TypedRows
