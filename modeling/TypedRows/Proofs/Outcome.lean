import Mathlib.Data.List.Forall2

/-! Steps that may fail, one after the other. -/

namespace TypedRows

variable {ε δ α β : Type}

theorem bind_eq_ok {x : Except ε α} {f : α → Except ε β} {b : β} (h : (x >>= f) = .ok b) :
    ∃ a, x = .ok a ∧ f a = .ok b := by
  cases x with
  | error e => cases h
  | ok a => exact ⟨a, rfl, h⟩

theorem bind_of_ok {x : Except ε α} {a : α} (h : x = .ok a) (f : α → Except ε β) :
    (x >>= f) = f a := by
  rw [h]
  rfl

theorem map_eq_ok {x : Except ε α} {f : α → β} {b : β} :
    f <$> x = .ok b ↔ ∃ a, x = .ok a ∧ f a = b := by
  cases x with
  | error e =>
    constructor
    · intro h
      cases h
    · rintro ⟨a, h, _⟩
      cases h
  | ok a =>
    constructor
    · intro h
      exact ⟨a, rfl, Except.ok.inj h⟩
    · rintro ⟨a', h, rfl⟩
      cases h
      rfl

theorem toOption_eq_some {x : Except ε α} {a : α} : x.toOption = some a ↔ x = .ok a := by
  cases x with
  | error e => constructor <;> intro h <;> cases h
  | ok b =>
    exact ⟨fun h => congrArg _ (Option.some.inj h), fun h => congrArg some (Except.ok.inj h)⟩

theorem mapError_eq_ok {x : Except ε α} {f : ε → δ} {a : α} :
    x.mapError f = .ok a ↔ x = .ok a := by
  cases x with
  | error e => constructor <;> intro h <;> cases h
  | ok b =>
    constructor
    · intro h
      cases h
      rfl
    · intro h
      cases h
      rfl

theorem mapM_eq_ok {f : α → Except ε β} {xs : List α} {ys : List β} (h : xs.mapM f = .ok ys) :
    List.Forall₂ (fun x y => f x = .ok y) xs ys := by
  induction xs generalizing ys with
  | nil =>
    rw [List.mapM_nil] at h
    cases h
    exact .nil
  | cons x rest ih =>
    rw [List.mapM_cons] at h
    obtain ⟨y, first, h⟩ := bind_eq_ok h
    obtain ⟨others, after, h⟩ := bind_eq_ok h
    cases h
    exact .cons first (ih after)

theorem mapM_of_forall₂ {f : α → Except ε β} {xs : List α} {ys : List β}
    (h : List.Forall₂ (fun x y => f x = .ok y) xs ys) : xs.mapM f = .ok ys := by
  induction h with
  | nil => rfl
  | cons first _ ih => rw [List.mapM_cons, bind_of_ok first, bind_of_ok ih]; rfl

/-- The first step that fails decides the error. -/
theorem mapM_eq_error_iff {f : α → Except ε β} {xs : List α} {e : ε} :
    xs.mapM f = .error e ↔ ∃ before x after, xs = before ++ x :: after ∧
      (∀ z ∈ before, ∃ y, f z = .ok y) ∧ f x = .error e := by
  constructor
  · intro h
    induction xs with
    | nil => cases h
    | cons x rest ih =>
      rw [List.mapM_cons] at h
      cases first : f x with
      | error e' =>
        rw [first] at h
        cases h
        exact ⟨[], x, rest, rfl, List.forall_mem_nil _, first⟩
      | ok y =>
        rw [bind_of_ok first] at h
        cases later : rest.mapM f with
        | ok ys =>
          rw [later] at h
          cases h
        | error e' =>
          rw [later] at h
          cases h
          obtain ⟨before, z, after, rfl, fine, fails⟩ := ih later
          exact ⟨x :: before, z, after, rfl, List.forall_mem_cons.mpr ⟨⟨y, first⟩, fine⟩, fails⟩
  · rintro ⟨before, x, after, rfl, fine, fails⟩
    induction before with
    | nil =>
      rw [List.nil_append, List.mapM_cons, fails]
      rfl
    | cons z rest ih =>
      obtain ⟨⟨y, first⟩, others⟩ := List.forall_mem_cons.mp fine
      rw [List.cons_append, List.mapM_cons, bind_of_ok first, ih others]
      rfl

theorem exists_of_mem_right {R : α → β → Prop} {xs : List α} {ys : List β}
    (h : List.Forall₂ R xs ys) {y : β} (member : y ∈ ys) : ∃ x ∈ xs, R x y := by
  induction h with
  | nil => cases member
  | cons related _ ih =>
    obtain rfl | member := List.mem_cons.mp member
    · exact ⟨_, List.mem_cons_self, related⟩
    · obtain ⟨x, inside, related⟩ := ih member
      exact ⟨x, List.mem_cons_of_mem _ inside, related⟩

theorem exists_of_mem_left {R : α → β → Prop} {xs : List α} {ys : List β}
    (h : List.Forall₂ R xs ys) {x : α} (member : x ∈ xs) : ∃ y ∈ ys, R x y :=
  exists_of_mem_right h.flip member

theorem exists_mapM {f : α → Except ε β} {xs : List α}
    (each : ∀ x ∈ xs, ∃ y, f x = .ok y) : ∃ ys, xs.mapM f = .ok ys := by
  induction xs with
  | nil => exact ⟨[], rfl⟩
  | cons x rest ih =>
    obtain ⟨first, others⟩ := List.forall_mem_cons.mp each
    obtain ⟨y, first⟩ := first
    obtain ⟨ys, others⟩ := ih others
    rw [List.mapM_cons, bind_of_ok first, bind_of_ok others]
    exact ⟨y :: ys, rfl⟩

theorem map_eq_of_forall₂ {γ : Type} {R : α → β → Prop} {f : α → γ} {g : β → γ} {xs : List α}
    {ys : List β} (h : List.Forall₂ R xs ys) (same : ∀ x y, R x y → g y = f x) :
    ys.map g = xs.map f := by
  induction h with
  | nil => rfl
  | cons first _ ih => rw [List.map_cons, List.map_cons, same _ _ first, ih]

theorem forM_eq_ok_iff {f : α → Except ε Unit} {xs : List α} :
    xs.forM f = .ok () ↔ ∀ x ∈ xs, f x = .ok () := by
  induction xs with
  | nil => exact iff_of_true rfl nofun
  | cons x rest ih =>
    rw [List.forall_mem_cons, ← ih]
    change (f x >>= fun _ => rest.forM f) = _ ↔ _
    cases f x with
    | error e => exact iff_of_false nofun nofun
    | ok _ => exact (and_iff_right rfl).symm

theorem foldlM_congr {f g : β → α → Except ε β} {xs : List α}
    (same : ∀ x ∈ xs, ∀ b, f b x = g b x) (b : β) : xs.foldlM f b = xs.foldlM g b := by
  induction xs generalizing b with
  | nil => rfl
  | cons x rest ih =>
    obtain ⟨first, others⟩ := List.forall_mem_cons.mp same
    rw [List.foldlM_cons, List.foldlM_cons, first]
    exact congrArg _ (funext (ih others))

/-- Both steps fail with the same error, or both give results, which are related. -/
inductive Together (R : α → β → Prop) : Except ε α → Except ε β → Prop where
  | error (e : ε) : Together R (.error e) (.error e)
  | ok {a : α} {b : β} (related : R a b) : Together R (.ok a) (.ok b)

namespace Together

variable {α' β' : Type} {R : α → β → Prop} {S : α' → β' → Prop} {x : Except ε α} {y : Except ε β}

theorem refl {R : α → α → Prop} (self : ∀ a, R a a) (x : Except ε α) : Together R x x := by
  cases x with
  | error e => exact .error e
  | ok a => exact .ok (self a)

theorem cases (h : Together R x y) : (∃ e, x = .error e ∧ y = .error e) ∨
    ∃ a b, x = .ok a ∧ y = .ok b ∧ R a b := by
  cases h with
  | error e => exact .inl ⟨e, rfl, rfl⟩
  | ok related => exact .inr ⟨_, _, rfl, rfl, related⟩

theorem of_map {f : α → α'} {g : β → β'} (h : Together S (f <$> x) (g <$> y)) :
    Together (fun a b => S (f a) (g b)) x y := by
  cases x with
  | error e =>
    cases y with
    | error e' =>
      cases h
      exact .error e
    | ok b => cases h
  | ok a =>
    cases y with
    | error e => cases h
    | ok b =>
      cases h with
      | ok related => exact .ok related

theorem imp {S : α → β → Prop} (h : Together R x y) (results : ∀ a b, R a b → S a b) :
    Together S x y := by
  cases h with
  | error e => exact .error e
  | ok related => exact .ok (results _ _ related)

/-- Steps that go together may be followed by steps that do. -/
theorem bind (h : Together R x y) {f : α → Except ε α'} {g : β → Except ε β'}
    (next : ∀ a b, R a b → Together S (f a) (g b)) : Together S (x >>= f) (y >>= g) := by
  cases h with
  | error e => exact .error e
  | ok related => exact next _ _ related

/-- One step may be followed by steps that go together. -/
theorem bind_same {f : α → Except ε α'} {g : α → Except ε β'}
    (next : ∀ a, Together S (f a) (g a)) : Together S (x >>= f) (x >>= g) := by
  cases x with
  | error e => exact .error e
  | ok a => exact next a

theorem mapError (h : Together R x y) (f : ε → δ) : Together R (x.mapError f) (y.mapError f) := by
  cases h with
  | error e => exact .error (f e)
  | ok related => exact .ok related

end Together

/-- Both steps fail, with related errors, or both give results, which are related. -/
inductive Alongside (E : ε → ε → Prop) (R : α → β → Prop) : Except ε α → Except ε β → Prop where
  | error {e d : ε} (related : E e d) : Alongside E R (.error e) (.error d)
  | ok {a : α} {b : β} (related : R a b) : Alongside E R (.ok a) (.ok b)

namespace Alongside

variable {α' β' : Type} {E : ε → ε → Prop} {R : α → β → Prop} {S : α' → β' → Prop}
  {x : Except ε α} {y : Except ε β}

theorem cases (h : Alongside E R x y) : (∃ e d, x = .error e ∧ y = .error d ∧ E e d) ∨
    ∃ a b, x = .ok a ∧ y = .ok b ∧ R a b := by
  cases h with
  | error related => exact .inl ⟨_, _, rfl, rfl, related⟩
  | ok related => exact .inr ⟨_, _, rfl, rfl, related⟩

theorem of_together (self : ∀ e, E e e) (h : Together R x y) : Alongside E R x y := by
  cases h with
  | error e => exact .error (self e)
  | ok related => exact .ok related

theorem together (h : Alongside Eq R x y) : Together R x y := by
  cases h with
  | error same => exact same ▸ .error _
  | ok related => exact .ok related

theorem imp {F : ε → ε → Prop} {R' : α → β → Prop} (h : Alongside E R x y)
    (errors : ∀ e d, E e d → F e d) (results : ∀ a b, R a b → R' a b) : Alongside F R' x y := by
  cases h with
  | error related => exact .error (errors _ _ related)
  | ok related => exact .ok (results _ _ related)

theorem bind (h : Alongside E R x y) {f : α → Except ε α'} {g : β → Except ε β'}
    (next : ∀ a b, R a b → Alongside E S (f a) (g b)) : Alongside E S (x >>= f) (y >>= g) := by
  cases h with
  | error related => exact .error related
  | ok related => exact next _ _ related

theorem mapError (h : Alongside E R x y) {F : δ → δ → Prop} {f g : ε → δ}
    (errors : ∀ e d, E e d → F (f e) (g d)) : Alongside F R (x.mapError f) (y.mapError g) := by
  cases h with
  | error related => exact .error (errors _ _ related)
  | ok related => exact .ok related

theorem foldlM {γ : Type} {T : γ → γ → Prop} {xs ys : List γ} {f : α → γ → Except ε α}
    {g : β → γ → Except ε β} (items : List.Forall₂ T xs ys)
    (step : ∀ a b i j, R a b → T i j → Alongside E R (f a i) (g b j)) {a : α} {b : β}
    (start : R a b) : Alongside E R (xs.foldlM f a) (ys.foldlM g b) := by
  induction items generalizing a b with
  | nil => exact .ok start
  | cons related _ ih =>
    rw [List.foldlM_cons, List.foldlM_cons]
    exact (step _ _ _ _ start related).bind fun _ _ next => ih next

theorem of_ok (h : Alongside E R x y) {a : α} (result : x = .ok a) : ∃ b, y = .ok b ∧ R a b := by
  cases h with
  | error _ => cases result
  | ok related =>
    cases result
    exact ⟨_, rfl, related⟩

end Alongside

end TypedRows
