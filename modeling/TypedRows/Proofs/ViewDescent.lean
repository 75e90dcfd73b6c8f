import TypedRows.Proofs.RootedColumns
import TypedRows.Proofs.ViewCopies
import TypedRows.Proofs.ViewCycles

/-! What a view copies its columns from comes before the view: tables, and views that it reads. So
the way from a column to the one it is copied from, and on from there, comes to an end. -/

namespace TypedRows

open Sql Inheritance Annotations

namespace Catalog

variable {catalog entered : Catalog}

/-- The catalog with those of its views only that have one of the keys. -/
def within (catalog : Catalog) (keys : List String) : Catalog :=
  { catalog with
    views := {
      entries := catalog.views.entries.filter (·.1 ∈ keys)
      nodup := catalog.views.nodup.sublist (List.filter_sublist.map Prod.fst) } }

theorem get?_within (catalog : Catalog) (keys : List String) (key : String) :
    (catalog.within keys).views.get? key =
      if key ∈ keys then catalog.views.get? key else none := by
  apply Option.ext
  intro view
  rw [OrderedMap.get?_eq_some_iff, within, List.mem_filter]
  split
  · rename_i member
    simp [OrderedMap.get?_eq_some_iff, member]
  · rename_i other
    simp [other]

theorem Orderly.within (orderly : catalog.Orderly) (keys : List String) :
    (catalog.within keys).Orderly where
  table := orderly.table
  view key v found := by
    rw [get?_within] at found
    split at found
    · exact orderly.view key v found
    · cases found
  apart key := by
    rw [get?_within]
    exact (orderly.apart key).imp_right fun none => by rw [none, ite_self]

/-- A view has the columns that it would have if there were no views but those it reads. -/
theorem viewColumns_within (resolved : Resolved entered (fun _ => True) catalog) {key : String}
    {view : View} (known : entered.views.get? key = some view) :
    (catalog.within (entered.reads key)).viewColumns view = catalog.viewColumns view := by
  refine viewColumns_congr known (fun _ => rfl) (fun k missing => ?_) fun d read => ?_
  · rw [get?_within, resolved.missing k missing, ite_self]
  · rw [get?_within, if_pos read]

/-- A view that a column is copied from is one of those that the view of the column reads. -/
theorem Orderly.read_of_copied (orderly : catalog.Orderly)
    (resolved : Resolved entered (fun _ => True) catalog) {key : String} {view other : View}
    (isGrounded : Grounded entered.reads key) (stored : catalog.views.get? key = some view)
    {column : ResultColumn} (member : column ∈ view.columns) {origin : Origin}
    (copied : column.origin = some origin) (found : catalog.view? origin.object = some other) :
    Text.foldLower origin.object ∈ entered.reads key := by
  obtain ⟨old, known, _⟩ := resolved.stored stored
  obtain ⟨columns, returned, stored'⟩ := resolved.grounded key old trivial known isGrounded
  cases stored.symm.trans stored'
  rw [← viewColumns_within resolved known] at returned
  have rooted := (orderly.within (entered.reads key)).keeps_rooted.viewColumns returned column
    member origin copied
  have noTable : (catalog.within (entered.reads key)).table? origin.object = none :=
    orderly.table?_of_view found
  -- there is no such table, so the view is left in the smaller catalog
  rw [contains, noTable, view?, get?_within] at rooted
  by_contra unread
  rw [if_neg unread] at rooted
  cases rooted

end Catalog

namespace Inheritance

section

variable {own : Origin → Option Annotations} {copied : Origin → Option Inherited}
  {inForce : Origin → Option Annotations}

variable (own copied) in
/-- The annotations of a column laid over those that come down to it from the column it is copied
from, and so on down a way that ends with a column that is not copied. -/
inductive HandedDown : Origin → List Origin → Option Annotations → Prop where
  | last {column : Origin} (uncopied : copied column = none) :
      HandedDown column [column] (own column)
  | next {column : Origin} {inherited : Inherited} {way : List Origin} {below : Option Annotations}
      (from' : copied column = some inherited) (lower : HandedDown inherited.origin way below) :
      HandedDown column (column :: way) (layer (below.map (passOn inherited)) (own column))

variable (copied inForce) in
/-- What a column is handed where the annotations in force for the columns are told. -/
def handed (column : Origin) : Option Annotations :=
  (copied column).bind fun inherited => (inForce inherited.origin).map (passOn inherited)

variable (own copied inForce) in
/-- The annotations in force for a column are its own laid over what it is handed. -/
def LiesOnCopy (column : Origin) : Prop :=
  Alike (inForce column) (layer (handed copied inForce column) (own column))

theorem handed_of_none {column : Origin} (uncopied : copied column = none) :
    handed copied inForce column = none := by
  rw [handed, uncopied]
  rfl

theorem handed_of_some {column : Origin} {inherited : Inherited}
    (from' : copied column = some inherited) :
    handed copied inForce column = (inForce inherited.origin).map (passOn inherited) := by
  rw [handed, from']
  rfl

namespace HandedDown

variable {column : Origin} {way : List Origin} {map : Option Annotations}

theorem unique (h : HandedDown own copied column way map) {other : List Origin}
    {map' : Option Annotations} (h' : HandedDown own copied column other map') :
    way = other ∧ map = map' := by
  induction h generalizing other map' with
  | last uncopied =>
    cases h' with
    | last => exact ⟨rfl, rfl⟩
    | next from' => cases uncopied.symm.trans from'
  | next from' _ ih =>
    cases h' with
    | last uncopied => cases uncopied.symm.trans from'
    | next from'' lower =>
      cases from'.symm.trans from''
      obtain ⟨rfl, rfl⟩ := ih lower
      exact ⟨rfl, rfl⟩

theorem head_mem (h : HandedDown own copied column way map) : column ∈ way := by
  cases h <;> exact List.mem_cons_self

/-- From each column of the way the rest of it goes down. -/
theorem of_mem (h : HandedDown own copied column way map) {d : Origin} (member : d ∈ way) :
    ∃ rest below, HandedDown own copied d rest below ∧ rest ⊆ way := by
  induction h with
  | last uncopied =>
    rw [List.mem_singleton.mp member]
    exact ⟨_, _, .last uncopied, List.Subset.refl _⟩
  | next from' lower ih =>
    obtain rfl | later := List.mem_cons.mp member
    · exact ⟨_, _, .next from' lower, List.Subset.refl _⟩
    · obtain ⟨rest, below, h, inside⟩ := ih later
      exact ⟨rest, below, h, List.subset_cons_of_subset _ inside⟩

/-- Where each column of the way lies on the next, what is handed down is what is in force. -/
theorem alike (h : HandedDown own copied column way map)
    (each : ∀ d ∈ way, LiesOnCopy own copied inForce d) : Alike (inForce column) map := by
  induction h with
  | last uncopied =>
    have lies := each _ List.mem_cons_self
    rw [LiesOnCopy, handed_of_none uncopied] at lies
    exact lies
  | next from' _ ih =>
    have lies := each _ List.mem_cons_self
    have below := ih fun d member => each d (List.mem_cons_of_mem _ member)
    rw [LiesOnCopy, handed_of_some from'] at lies
    exact lies.trans ((below.passOn _).layer _)

/-- What is handed down is in force all along the way exactly if each column lies on the next. -/
theorem alike_iff (h : HandedDown own copied column way map) :
    (∀ d ∈ way, ∀ rest below, HandedDown own copied d rest below → Alike (inForce d) below) ↔
      ∀ d ∈ way, LiesOnCopy own copied inForce d := by
  constructor
  · intro all d member
    obtain ⟨rest, below, lower, inside⟩ := h.of_mem member
    have told := all d member rest below lower
    cases lower with
    | last uncopied =>
      rw [LiesOnCopy, handed_of_none uncopied]
      exact told
    | next from' lower =>
      have next := all _ (inside (List.mem_cons_of_mem _ lower.head_mem)) _ _ lower
      rw [LiesOnCopy, handed_of_some from']
      exact told.trans ((next.passOn _).layer _).symm
  · intro each d member rest below lower
    obtain ⟨rest', below', lower', inside⟩ := h.of_mem member
    obtain ⟨rfl, rfl⟩ := lower.unique lower'
    exact lower.alike fun d' member' => each d' (inside member')

end HandedDown

end

end Inheritance

namespace Catalog

variable {catalog : Catalog}

/-- Whichever of its columns a view is taken to copy a name from, the way down comes to an end. -/
theorem exists_handedDown {items : List ScriptItem} (read : ofScript items = .ok catalog)
    {pick : View → String → Option Inherited}
    (picked : ∀ view name inherited, pick view name = some inherited →
      ∃ column ∈ view.columns, column.copy? = some inherited)
    (own : Origin → Option Annotations) (column : Origin) :
    ∃ way map, HandedDown own (catalog.copied pick) column way map := by
  have orderly := orderly_ofScript read
  obtain ⟨entered, run, resolve⟩ := bind_eq_ok read
  have resolved := resolveViews_resolved (mapError_eq_ok.mp resolve)
  by_cases isGrounded : Grounded entered.reads (Text.foldLower column.object)
  · generalize name : Text.foldLower column.object = key at isGrounded
    induction isGrounded generalizing column with
    | intro key ends ih =>
      cases from' : catalog.copied pick column with
      | none => exact ⟨_, _, .last from'⟩
      | some inherited =>
        obtain ⟨view, known, chosen⟩ := Option.bind_eq_some_iff.mp from'
        obtain ⟨result, member, copy⟩ := picked view _ _ chosen
        obtain ⟨origin, origin', rfl⟩ := Option.map_eq_some_iff.mp copy
        have lower : ∃ way map, HandedDown own (catalog.copied pick) origin way map := by
          cases found : catalog.view? origin.object with
          | none => exact ⟨_, _, .last (by rw [copied, found]; rfl)⟩
          | some other =>
            rw [view?, name] at known
            have read := orderly.read_of_copied resolved (.intro key ends) known member origin'
              found
            exact ih _ read origin rfl
        obtain ⟨way, map, lower⟩ := lower
        exact ⟨_, _, .next from' lower⟩
  · -- a view that is not resolved has no columns
    refine ⟨_, _, .last ?_⟩
    rw [copied, Option.bind_eq_none_iff]
    intro view known
    obtain ⟨circle, none⟩ := cyclic_of_resolved run resolved known
    have empty := none (circle.mpr (reachesCircle_iff.mpr isGrounded))
    refine Option.eq_none_iff_forall_ne_some.mpr fun inherited chosen => ?_
    obtain ⟨result, member, _⟩ := picked view _ _ chosen
    rw [empty] at member
    cases member

end Catalog

end TypedRows
