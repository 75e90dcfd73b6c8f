import TypedRows.Schema.Views

/-! The order of views puts each after those it reads, circles apart: of two keys that break the
order both are on a circle. -/

namespace TypedRows

/-- Everything that is read, at any depth, comes to an end. -/
inductive Grounded (reads : String → List String) : String → Prop where
  | intro (key : String) (ends : ∀ d ∈ reads key, Grounded reads d) : Grounded reads key

namespace Grounded

variable {reads : String → List String} {key : String}

theorem of_read (h : Grounded reads key) {d : String} (read : d ∈ reads key) :
    Grounded reads d := by
  cases h with
  | intro _ ends => exact ends d read

/-- No key is grounded among keys of which each reads another of them. -/
theorem not_of_circle {keys : List String} (circle : ∀ k ∈ keys, ∃ d ∈ keys, d ∈ reads k)
    (member : key ∈ keys) : ¬Grounded reads key := by
  intro h
  induction h with
  | intro key _ ih =>
    obtain ⟨d, hd, read⟩ := circle key member
    exact ih d read hd

end Grounded

namespace ViewGraph

/-- Only keys of the graph are read. -/
def Closed (graph : ViewGraph) : Prop :=
  ∀ key, graph.reads key ⊆ graph.keys

end ViewGraph

namespace ViewOrder

variable {graph : ViewGraph}

/-- The way to a key, newest first: each key is read by the one after it, and none comes twice. -/
inductive Way (graph : ViewGraph) : List String → Prop where
  | nil : Way graph []
  | cons {key : String} {stack : List String} (way : Way graph stack) (known : key ∈ graph.keys)
      (read : ∀ top ∈ stack.head?, key ∈ graph.reads top) (new : key ∉ stack) :
      Way graph (key :: stack)

theorem Way.nodup {stack : List String} (way : Way graph stack) : stack.Nodup := by
  induction way with
  | nil => exact List.nodup_nil
  | cons _ _ _ new ih => exact List.nodup_cons.mpr ⟨new, ih⟩

theorem Way.known {stack : List String} (way : Way graph stack) : stack ⊆ graph.keys := by
  induction way with
  | nil => exact List.nil_subset _
  | cons _ known _ _ ih => exact List.cons_subset.mpr ⟨known, ih⟩

/-- Before each key of the way, down to `key`, stands one that it reads. -/
theorem Way.read_before {stack : List String} (way : Way graph stack) {key last : String}
    (read : ∀ top ∈ stack.head?, last ∈ graph.reads top) (passed : key ∈ stack) :
    ∀ k ∈ key :: stack.takeWhile (· ≠ key),
      ∃ d ∈ last :: stack.takeWhile (· ≠ key), d ∈ graph.reads k := by
  induction way generalizing last with
  | nil => cases passed
  | @cons top stack _ _ below _ ih =>
    have lastRead : last ∈ graph.reads top := read top rfl
    intro k member
    by_cases same : top = key
    · have alone : (top :: stack).takeWhile (· ≠ key) = [] := by simp [same]
      rw [alone] at member ⊢
      rw [List.mem_singleton.mp member, ← same]
      exact ⟨last, List.mem_cons_self, lastRead⟩
    · have passed' : key ∈ stack := by
        cases passed with
        | head => exact absurd rfl same
        | tail _ h => exact h
      have longer : (top :: stack).takeWhile (· ≠ key) = top :: stack.takeWhile (· ≠ key) := by
        simp [same]
      rw [longer] at member ⊢
      by_cases isTop : k = top
      · exact ⟨last, List.mem_cons_self, isTop ▸ lastRead⟩
      · have member' : k ∈ key :: stack.takeWhile (· ≠ key) := by
          simp only [List.mem_cons, isTop, false_or] at member ⊢
          exact member
        obtain ⟨d, hd, hr⟩ := ih below passed' k member'
        exact ⟨d, List.mem_cons_of_mem _ hd, hr⟩

theorem Way.not_grounded_circle {stack : List String} (way : Way graph stack) {key : String}
    (read : ∀ top ∈ stack.head?, key ∈ graph.reads top) (passed : key ∈ stack) :
    ∀ k ∈ circle key stack, ¬Grounded graph.reads k := by
  intro k member
  exact Grounded.not_of_circle (way.read_before read passed) member

theorem top_mem_circle {key top : String} {stack : List String} (h : top ∈ stack.head?) :
    top ∈ circle key stack := by
  cases stack with
  | nil => cases h
  | cons _ rest =>
    cases h
    by_cases same : top = key
    · exact same ▸ List.mem_cons_self
    · simp [circle, same]

/-- Each key comes once, after what it reads, unless both are on circles. -/
inductive Settled (graph : ViewGraph) (cyclic : List String) : List String → Prop where
  | nil : Settled graph cyclic []
  | snoc {order : List String} {key : String} (before : Settled graph cyclic order)
      (new : key ∉ order)
      (after : ∀ d ∈ graph.reads key, d ∈ order ∨ d ∈ cyclic ∧ key ∈ cyclic) :
      Settled graph cyclic (order ++ [key])

theorem Settled.mono {cyclic more order : List String} (h : Settled graph cyclic order)
    (sub : cyclic ⊆ more) : Settled graph more order := by
  induction h with
  | nil => exact .nil
  | snoc _ new after ih =>
    refine .snoc ih new fun d read => ?_
    rcases after d read with before | ⟨hd, hk⟩
    · exact .inl before
    · exact .inr ⟨sub hd, sub hk⟩

/-- What holds of the order and the circles at every moment. -/
structure Sound (graph : ViewGraph) (state : ViewOrder) : Prop where
  settled : Settled graph state.cyclic state.order
  circles : ∀ key ∈ state.cyclic, ¬Grounded graph.reads key

/-- A later moment on the way `stack`: no key of the way has been ordered meanwhile. -/
structure Later (stack : List String) (before after : ViewOrder) : Prop where
  order : before.order ⊆ after.order
  cyclic : before.cyclic ⊆ after.cyclic
  apart : ∀ key ∈ stack, key ∉ before.order → key ∉ after.order

theorem Later.refl (stack : List String) (state : ViewOrder) : Later stack state state :=
  ⟨fun _ h => h, fun _ h => h, fun _ _ h => h⟩

theorem Later.trans {stack : List String} {a b c : ViewOrder} (ab : Later stack a b)
    (bc : Later stack b c) : Later stack a c where
  order _ h := bc.order (ab.order h)
  cyclic _ h := bc.cyclic (ab.cyclic h)
  apart key member new := bc.apart key member (ab.apart key member new)

/-- The key is ordered, or it closes a circle with the last key of the way. -/
def Met (stack : List String) (state : ViewOrder) (key : String) : Prop :=
  key ∈ state.order ∨
    key ∈ stack ∧ key ∈ state.cyclic ∧ ∀ top ∈ stack.head?, top ∈ state.cyclic

theorem Met.later {stack : List String} {a b : ViewOrder} {key : String} (met : Met stack a key)
    (later : Later stack a b) : Met stack b key := by
  rcases met with ordered | ⟨passed, onCircle, top⟩
  · exact .inl (later.order ordered)
  · exact .inr ⟨passed, later.cyclic onCircle, fun t ht => later.cyclic (top t ht)⟩

/-- What a visit of `key` on the way `stack` comes to. -/
structure Visited (graph : ViewGraph) (stack : List String) (before after : ViewOrder)
    (key : String) : Prop where
  sound : Sound graph after
  later : Later stack before after
  met : Met stack after key

/-- Visits one after the other, if each of them is as it should be. -/
theorem foldl_visited {stack keys : List String} {step : ViewOrder → String → ViewOrder}
    (each : ∀ state, ∀ key ∈ keys, Sound graph state → (∀ k ∈ stack, k ∉ state.order) →
      Visited graph stack state (step state key) key)
    {state : ViewOrder} (sound : Sound graph state) (apart : ∀ k ∈ stack, k ∉ state.order) :
    Sound graph (keys.foldl step state) ∧ Later stack state (keys.foldl step state) ∧
      ∀ key ∈ keys, Met stack (keys.foldl step state) key := by
  induction keys generalizing state with
  | nil =>
    refine ⟨sound, .refl stack state, ?_⟩
    intro key member
    cases member
  | cons key rest ih =>
    have first := each state key List.mem_cons_self sound apart
    have apart' : ∀ k ∈ stack, k ∉ (step state key).order :=
      fun k hk => first.later.apart k hk (apart k hk)
    have each' := fun s k (hk : k ∈ rest) => each s k (List.mem_cons_of_mem _ hk)
    obtain ⟨sound', later, met⟩ := ih each' first.sound apart'
    refine ⟨sound', first.later.trans later, ?_⟩
    intro k member
    cases member with
    | head => exact first.met.later later
    | tail _ h => exact met k h

/-- The way comes back to `key`: what it passed since then is a circle. -/
theorem visited_of_passed {stack : List String} {state : ViewOrder} {key : String}
    (way : Way graph stack) (read : ∀ top ∈ stack.head?, key ∈ graph.reads top)
    (passed : key ∈ stack) (sound : Sound graph state) :
    Visited graph stack state { state with cyclic := state.cyclic ++ circle key stack } key := by
  have more : state.cyclic ⊆ state.cyclic ++ circle key stack :=
    fun _ h => List.mem_append_left _ h
  refine ⟨⟨sound.settled.mono more, ?_⟩, ⟨fun _ h => h, more, fun _ _ h => h⟩, .inr ?_⟩
  · intro k member
    rcases List.mem_append.mp member with old | onCircle
    · exact sound.circles k old
    · exact way.not_grounded_circle read passed k onCircle
  · exact ⟨passed, List.mem_append_right _ List.mem_cons_self,
      fun top h => List.mem_append_right _ (top_mem_circle h)⟩

/-- A new key is ordered once all that it reads is met on the way through it. -/
theorem visited_of_reads_met {stack : List String} {before after : ViewOrder} {key : String}
    (new : key ∉ before.order) (passed : key ∉ stack) (sound : Sound graph after)
    (later : Later (key :: stack) before after)
    (met : ∀ d ∈ graph.reads key, Met (key :: stack) after d) :
    Visited graph stack before { after with order := after.order ++ [key] } key := by
  have still : key ∉ after.order := later.apart key List.mem_cons_self new
  refine ⟨⟨sound.settled.snoc still ?_, sound.circles⟩, ?_,
    .inl (List.mem_append_right _ List.mem_cons_self)⟩
  · intro d member
    rcases met d member with ordered | ⟨_, hd, hk⟩
    · exact .inl ordered
    · exact .inr ⟨hd, hk key rfl⟩
  · refine ⟨fun _ h => List.mem_append_left _ (later.order h), later.cyclic, ?_⟩
    intro k member hk
    have other : k ≠ key := fun e => passed (e ▸ member)
    have unordered := later.apart k (List.mem_cons_of_mem _ member) hk
    simp [unordered, other]

theorem visit_visited (closed : graph.Closed) {fuel : Nat} {stack : List String}
    {state : ViewOrder} {key : String} (way : Way graph stack) (known : key ∈ graph.keys)
    (read : ∀ top ∈ stack.head?, key ∈ graph.reads top)
    (room : graph.keys.length < fuel + stack.length) (sound : Sound graph state)
    (apart : ∀ k ∈ stack, k ∉ state.order) :
    Visited graph stack state (visit graph fuel stack state key) key := by
  induction fuel generalizing stack state key with
  | zero =>
    -- a way without repetition is no longer than the list of keys
    have short := way.nodup.length_le_of_subset way.known
    omega
  | succ fuel ih =>
    rw [visit]
    by_cases ordered : key ∈ state.order
    · rw [if_pos (List.contains_iff_mem.mpr ordered)]
      exact ⟨sound, .refl stack state, .inl ordered⟩
    rw [if_neg (mt List.contains_iff_mem.mp ordered)]
    by_cases passed : key ∈ stack
    · rw [if_pos (List.contains_iff_mem.mpr passed)]
      exact visited_of_passed way read passed sound
    -- `key` stays new while what it reads is visited, since it is on the way of those visits
    · rw [if_neg (mt List.contains_iff_mem.mp passed)]
      have way' : Way graph (key :: stack) := .cons way known read passed
      have apart' : ∀ k ∈ key :: stack, k ∉ state.order := List.forall_mem_cons.mpr ⟨ordered, apart⟩
      have room' : graph.keys.length < fuel + (key :: stack).length := by
        simp only [List.length_cons]
        omega
      have each : ∀ s, ∀ d ∈ graph.reads key, Sound graph s →
          (∀ k ∈ key :: stack, k ∉ s.order) →
          Visited graph (key :: stack) s (visit graph fuel (key :: stack) s d) d := by
        intro s d member hs ha
        exact ih way' (closed key member) (fun top h => by cases h; exact member) room' hs ha
      obtain ⟨sound', later, met⟩ := foldl_visited each sound apart'
      exact visited_of_reads_met ordered passed sound' later met

/-- All keys are ordered, each after what it reads, unless both are on circles; and what is on a
circle is not grounded. -/
theorem ofGraph_sound (closed : graph.Closed) :
    Sound graph (ofGraph graph) ∧ ∀ key ∈ graph.keys, key ∈ (ofGraph graph).order := by
  have start : Sound graph start := ⟨.nil, fun _ h => by cases h⟩
  have each : ∀ s, ∀ key ∈ graph.keys, Sound graph s → (∀ k ∈ [], k ∉ s.order) →
      Visited graph [] s (visit graph (graph.keys.length + 1) [] s key) key := by
    intro s key member hs ha
    refine visit_visited closed .nil member (fun top h => by cases h) ?_ hs ha
    simp
  obtain ⟨sound, _, met⟩ := foldl_visited each start (fun k h => by cases h)
  refine ⟨sound, fun key member => ?_⟩
  rcases met key member with ordered | ⟨passed, _⟩
  · exact ordered
  · cases passed

end ViewOrder

end TypedRows
