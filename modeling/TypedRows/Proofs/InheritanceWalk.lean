import TypedRows.Proofs.AnnotationLayers
import Mathlib.Data.List.Chain
import Mathlib.Data.List.Infix
import Mathlib.Data.List.Perm.Subperm

/-! The annotations in force for a column are those of a plain walk along the columns it is copied
from. What is known already may have been found on a way that passes columns twice; such ways differ
from the walk only in repetitions, and a repeated column has nothing new to say. -/

namespace TypedRows

@[simp] theorem Origin.fold_fold (column : Origin) : column.fold.fold = column.fold := by
  simp [Origin.fold]

namespace Inheritance

open Annotations

section Walk

variable (copied : Origin → Option Inherited)

def CopiedFrom (column next : Origin) : Prop :=
  ∃ inherited, copied column = some inherited ∧ inherited.origin.fold = next

/-- The walk from a column to those it is copied from, until one is not copied or is repeated. -/
inductive Walk : List Origin → Origin → List Origin → Prop where
  | repeated {passed : List Origin} {column : Origin} (again : column ∈ passed) :
      Walk passed column []
  | last {passed : List Origin} {column : Origin} (new : column ∉ passed)
      (own : copied column = none) : Walk passed column [column]
  | next {passed : List Origin} {column : Origin} {inherited : Inherited} {rest : List Origin}
      (new : column ∉ passed) (from' : copied column = some inherited)
      (walk : Walk (column :: passed) inherited.origin.fold rest) :
      Walk passed column (column :: rest)

/-- A way that passes columns as often as it likes but leaves none out. -/
structure Way (passed : List Origin) (column : Origin) (way : List Origin) : Prop where
  starts : way.head? = some column ∨ way = [] ∧ column ∈ passed
  linked : way.IsChain (CopiedFrom copied)
  closed : ∀ c ∈ way, ∀ d, CopiedFrom copied c d → d ∈ way ∨ d ∈ passed

variable {copied}

theorem CopiedFrom.unique {column a b : Origin} (ha : CopiedFrom copied column a)
    (hb : CopiedFrom copied column b) : a = b := by
  obtain ⟨i, from', rfl⟩ := ha
  obtain ⟨j, from'', rfl⟩ := hb
  rw [Option.some.inj (from'.symm.trans from'')]

theorem Walk.unique {passed : List Origin} {column : Origin} {a b : List Origin}
    (ha : Walk copied passed column a) (hb : Walk copied passed column b) : a = b := by
  induction ha generalizing b with
  | repeated again =>
    cases hb with
    | repeated => rfl
    | last new => exact absurd again new
    | next new => exact absurd again new
  | last new own =>
    cases hb with
    | repeated again => exact absurd again new
    | last => rfl
    | next _ from' => cases own.symm.trans from'
  | next new from' _ ih =>
    cases hb with
    | repeated again => exact absurd again new
    | last _ own => cases own.symm.trans from'
    | next _ from'' walk =>
      cases Option.some.inj (from'.symm.trans from'')
      rw [ih walk]

theorem Way.last {passed : List Origin} {column : Origin} (own : copied column = none) :
    Way copied passed column [column] where
  starts := .inl rfl
  linked := .singleton column
  closed c member d edge := by
    obtain ⟨i, from', _⟩ := edge
    rw [List.mem_singleton.mp member, own] at from'
    cases from'

theorem Way.cons {passed rest : List Origin} {column : Origin} {inherited : Inherited}
    (from' : copied column = some inherited)
    (way : Way copied (column :: passed) inherited.origin.fold rest) :
    Way copied passed column (column :: rest) where
  starts := .inl rfl
  linked := by
    cases rest with
    | nil => exact .singleton column
    | cons first others =>
      obtain starts | ⟨none, _⟩ := way.starts
      · exact way.linked.cons_cons ⟨inherited, from', (Option.some.inj starts).symm⟩
      · cases none
  closed c member d edge := by
    -- a column among those passed is either earlier or the one put in front
    have reached : d ∈ rest ∨ d ∈ column :: passed := by
      obtain rfl | member := List.mem_cons.mp member
      · rw [← CopiedFrom.unique ⟨inherited, from', rfl⟩ edge]
        obtain starts | ⟨rfl, again⟩ := way.starts
        · exact .inl (List.mem_of_mem_head? starts)
        · exact .inr again
      · exact way.closed c member d edge
    obtain later | again := reached
    · exact .inl (List.mem_cons_of_mem _ later)
    · obtain rfl | earlier := List.mem_cons.mp again
      · exact .inl List.mem_cons_self
      · exact .inr earlier

theorem Walk.way {passed : List Origin} {column : Origin} {way : List Origin}
    (walk : Walk copied passed column way) : Way copied passed column way := by
  induction walk with
  | repeated again => exact ⟨.inr ⟨rfl, again⟩, .nil, by simp⟩
  | last _ own => exact .last own
  | next _ from' _ ih => exact ih.cons from'

theorem Way.head {column : Origin} {way : List Origin} (h : Way copied [] column way) :
    way.head? = some column :=
  h.starts.resolve_right fun ⟨_, member⟩ => List.not_mem_nil member

theorem Way.mem_of_copied {column : Origin} {way : List Origin} (h : Way copied [] column way)
    {c d : Origin} (member : c ∈ way) (edge : CopiedFrom copied c d) : d ∈ way :=
  (h.closed c member d edge).resolve_right List.not_mem_nil

theorem Way.mono {column : Origin} {way : List Origin} (h : Way copied [] column way)
    (passed : List Origin) : Way copied passed column way :=
  ⟨.inl h.head, h.linked, fun _ member _ edge => .inl (h.mem_of_copied member edge)⟩

/-- Ways from one column go along together. -/
theorem prefix_or_prefix {a b : List Origin} (ha : a.IsChain (CopiedFrom copied))
    (hb : b.IsChain (CopiedFrom copied)) (starts : a.head? = b.head?) : a <+: b ∨ b <+: a := by
  induction a generalizing b with
  | nil => exact .inl List.nil_prefix
  | cons x rest ih =>
    cases b with
    | nil => cases starts
    | cons y others =>
      cases Option.some.inj starts
      have go : rest <+: others ∨ others <+: rest := by
        cases rest with
        | nil => exact .inl List.nil_prefix
        | cons c _ =>
          cases others with
          | nil => exact .inr List.nil_prefix
          | cons d _ =>
            rw [List.isChain_cons_cons] at ha hb
            exact ih ha.2 hb.2 (congrArg some (ha.1.unique hb.1))
      exact go.imp (List.prefix_cons_inj x).mpr (List.prefix_cons_inj x).mpr

/-- Where a way that leaves nothing out is continued, the continuation repeats its columns. -/
theorem Way.mem_of_prefix {column : Origin} {way longer : List Origin}
    (h : Way copied [] column way) (prefixed : way <+: longer)
    (linked : longer.IsChain (CopiedFrom copied)) : ∀ c ∈ longer, c ∈ way := by
  obtain ⟨more, rfl⟩ := prefixed
  have nonempty : way ≠ [] := by
    rintro rfl
    cases h.head
  -- from the end of the continuation: its last column is copied from by one that is in the way
  induction more using List.reverseRecOn with
  | nil => simp
  | append_singleton more c ih =>
    rw [← List.append_assoc] at linked ⊢
    have before := ih linked.left_of_append
    have reached : c ∈ way := by
      have found := List.getLast?_eq_some_getLast (List.append_ne_nil_of_left_ne_nil nonempty more)
      have edge := (List.isChain_append.mp linked).2.2 _ found c rfl
      exact h.mem_of_copied (before _ (List.mem_of_getLast? found)) edge
    intro d member
    obtain member | member := List.mem_append.mp member
    · exact before d member
    · rw [List.mem_singleton.mp member]
      exact reached

theorem findSome?_eq_of_prefix {α β : Type} {p : α → Option β} {a b : List α} (prefixed : a <+: b)
    (repeats : ∀ x ∈ b, x ∈ a) : b.findSome? p = a.findSome? p := by
  obtain ⟨more, rfl⟩ := prefixed
  rw [List.findSome?_append]
  cases found : a.findSome? p with
  | some value => rfl
  | none =>
    rw [List.findSome?_eq_none_iff] at found
    exact List.findSome?_eq_none_iff.mpr fun x member =>
      found x (repeats x (List.mem_append_right a member))

variable {own : Origin → Option Annotations}

theorem InForce.of_prefix {a b : List Origin} {map : Option Annotations}
    (h : InForce own copied b map) (prefixed : a <+: b) (repeats : ∀ c ∈ b, c ∈ a) :
    InForce own copied a map where
  isSome := by
    rw [h.isSome, Bool.eq_iff_iff, List.any_eq_true, List.any_eq_true]
    constructor
    · rintro ⟨c, member, some⟩
      exact ⟨c, repeats c member, some⟩
    · rintro ⟨c, member, some⟩
      exact ⟨c, prefixed.subset member, some⟩
  lookup key := by rw [h.lookup, findSome?_eq_of_prefix prefixed repeats]

/-- Of the ways from a column that leave nothing out each has the same annotations in force. -/
theorem Way.alike {column : Origin} {a b : List Origin} {mapA mapB : Option Annotations}
    (ha : Way copied [] column a) (hb : Way copied [] column b)
    (inA : InForce own copied a mapA) (inB : InForce own copied b mapB) : Alike mapA mapB := by
  have starts : a.head? = b.head? := ha.head.trans hb.head.symm
  obtain along | along := prefix_or_prefix ha.linked hb.linked starts
  · exact inA.alike (inB.of_prefix along (ha.mem_of_prefix along hb.linked))
  · exact (inA.of_prefix along (hb.mem_of_prefix along ha.linked)).alike inB

theorem Walk.inForce {passed : List Origin} {column : Origin} {way : List Origin}
    (walk : Walk copied passed column way) : InForce own copied way (layered own copied way) := by
  induction walk with
  | repeated => exact .nil
  | last _ own' => exact InForce.nil.cons fun _ => rfl
  | next _ from' _ ih =>
    refine ih.cons fun own' => ?_
    cases own'.symm.trans from'

/-- Where only the columns of a list are copied every walk ends. -/
theorem exists_walk {copies : List Origin}
    (finite : ∀ c : Origin, c.fold = c → (copied c).isSome → c ∈ copies) {passed : List Origin}
    (distinct : passed.Nodup) (inside : passed ⊆ copies) {column : Origin}
    (folded : column.fold = column) :
    ∃ way, Walk copied passed column way ∧ way.length + passed.length ≤ copies.length + 1 := by
  -- on the number of columns that have not been passed
  have room := (List.subperm_of_subset distinct inside).length_le
  obtain ⟨left, bound⟩ : ∃ left, copies.length + 1 = left + passed.length :=
    ⟨_, (Nat.sub_add_cancel (Nat.le_succ_of_le room)).symm⟩
  induction left generalizing passed column with
  | zero => omega
  | succ left ih =>
    by_cases again : column ∈ passed
    · exact ⟨[], .repeated again, by simp; omega⟩
    · cases from' : copied column with
      | none => exact ⟨[column], .last again from', by simp; omega⟩
      | some inherited =>
        have copy : column ∈ copies := finite column folded (by rw [from']; rfl)
        have distinct' : (column :: passed).Nodup := List.nodup_cons.mpr ⟨again, distinct⟩
        have inside' : column :: passed ⊆ copies := List.cons_subset.mpr ⟨copy, inside⟩
        obtain ⟨rest, walk, short⟩ := ih distinct' inside' (Origin.fold_fold inherited.origin)
          (List.subperm_of_subset distinct' inside').length_le (by simp; omega)
        exact ⟨column :: rest, .next again from' walk, by simp at short ⊢; omega⟩

end Walk

section Find

variable {objects : OrderedMap String ObjectAnnotations}
  {known : OrderedMap Origin (Option Annotations)} {fuel : Nat} {passed : List Origin}
  {column : Origin}

theorem find_known {map : Option Annotations} (found : known.get? column = some map) :
    find objects known (fuel + 1) passed column = map := by
  rw [find, found]

theorem find_repeated (unknown : known.get? column = none) (again : column ∈ passed) :
    find objects known (fuel + 1) passed column = none := by
  rw [find, unknown, if_pos (List.contains_iff_mem.mpr again)]

theorem find_new (unknown : known.get? column = none) (new : column ∉ passed) :
    find objects known (fuel + 1) passed column =
      layer ((inherited? objects column).bind fun inherited =>
        (find objects known fuel (column :: passed) inherited.origin.fold).map (passOn inherited))
        (declared? objects column) := by
  rw [find, unknown, if_neg fun again => new (List.contains_iff_mem.mp again)]

/-- What is declared and copied, told of columns in lower case. -/
structure Describes (objects : OrderedMap String ObjectAnnotations)
    (own : Origin → Option Annotations) (copied : Origin → Option Inherited) : Prop where
  declared : ∀ c : Origin, c.fold = c → declared? objects c = own c
  inherited : ∀ c : Origin, c.fold = c → inherited? objects c = copied c

/-- What is known of a column is in force on some way from it. -/
def Sound (own : Origin → Option Annotations) (copied : Origin → Option Inherited)
    (known : OrderedMap Origin (Option Annotations)) : Prop :=
  ∀ key map, known.get? key = some map →
    ∃ way, Way copied [] key way ∧ InForce own copied way map

variable {own : Origin → Option Annotations} {copied : Origin → Option Inherited}

/-- A search ends with the walk, and what it finds is in force on a way from the column. -/
theorem find_of_walk (describes : Describes objects own copied) (sound : Sound own copied known)
    {walked : List Origin} (walk : Walk copied passed column walked)
    (folded : column.fold = column) (enough : walked.length < fuel) :
    ∃ way, Way copied passed column way ∧
      InForce own copied way (find objects known fuel passed column) := by
  -- along the walk: where something is known the way found for it earlier takes over
  induction fuel generalizing passed column walked with
  | zero => cases enough
  | succ fuel ih =>
    cases found : known.get? column with
    | some map =>
      obtain ⟨way, through, inForce⟩ := sound column map found
      rw [find_known found]
      exact ⟨way, through.mono passed, inForce⟩
    | none =>
      cases walk with
      | repeated again =>
        rw [find_repeated found again]
        exact ⟨[], (Walk.repeated again).way, .nil⟩
      | last new own' =>
        rw [find_new found new, describes.declared column folded,
          describes.inherited column folded]
        have inForce : InForce own copied [column] (layer none (own column)) := by
          have h := (@InForce.nil own copied).cons fun _ : copied column = none => rfl
          rwa [own'] at h
        rw [own']
        exact ⟨[column], .last own', inForce⟩
      | @next _ _ inherited rest new from' walk =>
        obtain ⟨way, through, inForce⟩ :=
          ih walk (Origin.fold_fold _) (Nat.lt_of_succ_lt_succ enough)
        have inForce' := inForce.cons fun own' : copied column = none => by
          cases own'.symm.trans from'
        rw [find_new found new, describes.declared column folded,
          describes.inherited column folded]
        rw [from'] at inForce' ⊢
        exact ⟨column :: way, through.cons from', inForce'⟩

/-- No search is cut short: more fuel finds the same. -/
theorem find_fuel (describes : Describes objects own copied)
    {walked : List Origin} (walk : Walk copied passed column walked)
    (folded : column.fold = column) {more : Nat} (enough : walked.length < fuel)
    (enough' : walked.length < more) :
    find objects known fuel passed column = find objects known more passed column := by
  induction fuel generalizing passed column walked more with
  | zero => cases enough
  | succ fuel ih =>
    cases more with
    | zero => cases enough'
    | succ more =>
      cases found : known.get? column with
      | some map => rw [find_known found, find_known found]
      | none =>
        cases walk with
        | repeated again => rw [find_repeated found again, find_repeated found again]
        | last new own' =>
          rw [find_new found new, find_new found new, describes.inherited column folded, own']
          rfl
        | next new from' walk =>
          rw [find_new found new, find_new found new, describes.inherited column folded, from']
          simp only [Option.bind_some]
          rw [ih walk (Origin.fold_fold _) (Nat.lt_of_succ_lt_succ enough)
            (Nat.lt_of_succ_lt_succ enough')]

end Find

section Objects

variable {objects : OrderedMap String ObjectAnnotations}

def copies (objects : OrderedMap String ObjectAnnotations) : List Origin :=
  objects.entries.flatMap fun (name, object) => object.origins.keys.map fun column => ⟨name, column⟩

theorem longest_eq (objects : OrderedMap String ObjectAnnotations) :
    longest objects = (copies objects).length + 2 := by
  simp [longest, copies, List.length_flatMap, OrderedMap.values, OrderedMap.keys,
    Function.comp_def]

theorem mem_copies {column : Origin} (some' : (inherited? objects column).isSome) :
    column ∈ copies objects := by
  obtain ⟨inherited, found⟩ := Option.isSome_iff_exists.mp some'
  obtain ⟨object, there, copied⟩ := Option.bind_eq_some_iff.mp found
  have entry := OrderedMap.get?_eq_some_iff.mp there
  have key : column.column ∈ object.origins.keys :=
    OrderedMap.mem_keys_iff.mpr (OrderedMap.contains_iff.mpr ⟨_, copied⟩)
  exact List.mem_flatMap.mpr ⟨_, entry, List.mem_map.mpr ⟨_, key, rfl⟩⟩

theorem mem_columns {name key : String} {object : ObjectAnnotations}
    (there : objects.get? name = some object)
    (key' : key ∈ object.fields.keys ++ object.origins.keys) :
    Origin.fold ⟨name, key⟩ ∈ columns objects :=
  List.mem_flatMap.mpr ⟨_, OrderedMap.get?_eq_some_iff.mp there, List.mem_map.mpr ⟨_, key', rfl⟩⟩

theorem declared?_eq_none {column : Origin} (folded : column.fold = column)
    (absent : column ∉ columns objects) : declared? objects column = none := by
  rw [declared?, Option.bind_eq_none_iff]
  intro object there
  rw [ObjectAnnotations.declared?, Option.map_eq_none_iff, List.find?_eq_none]
  intro entry member same
  have key : entry.1 ∈ object.fields.keys ++ object.origins.keys :=
    List.mem_append_left _ (List.mem_map.mpr ⟨entry, member, rfl⟩)
  have names : Origin.fold ⟨column.object, entry.1⟩ = column := by
    rw [Origin.fold, Text.sameName_iff.mp same]
    exact folded
  exact absent (names ▸ mem_columns there key)

theorem inherited?_eq_none {column : Origin} (folded : column.fold = column)
    (absent : column ∉ columns objects) : inherited? objects column = none := by
  rw [inherited?, Option.bind_eq_none_iff]
  intro object there
  cases copied : object.origins.get? column.column with
  | none => rfl
  | some _ =>
    have key : column.column ∈ object.fields.keys ++ object.origins.keys :=
      List.mem_append_right _
        (OrderedMap.mem_keys_iff.mpr (OrderedMap.contains_iff.mpr ⟨_, copied⟩))
    exact absurd (folded ▸ mem_columns there key) absent

variable {own : Origin → Option Annotations} {copied : Origin → Option Inherited}

theorem Describes.exists_walk (describes : Describes objects own copied) {column : Origin}
    (folded : column.fold = column) :
    ∃ walked, Walk copied [] column walked ∧ walked.length < longest objects := by
  have finite : ∀ c : Origin, c.fold = c → (copied c).isSome → c ∈ copies objects :=
    fun c folded some' => mem_copies (describes.inherited c folded ▸ some')
  obtain ⟨walked, walk, short⟩ := Inheritance.exists_walk finite List.nodup_nil
    (List.nil_subset _) folded
  refine ⟨walked, walk, ?_⟩
  rw [longest_eq]
  simp only [List.length_nil] at short
  omega

theorem Sound.learn {known : OrderedMap Origin (Option Annotations)}
    (sound : Sound own copied known) (describes : Describes objects own copied) {key : Origin}
    (folded : key.fold = key) : Sound own copied (learn objects known key) := by
  intro column map found
  rw [Inheritance.learn, OrderedMap.get?_put] at found
  by_cases same : column = key
  · rw [if_pos same] at found
    cases found
    obtain ⟨walked, walk, short⟩ := describes.exists_walk folded
    rw [same]
    exact find_of_walk describes sound walk folded short
  · rw [if_neg same] at found
    exact sound column map found

theorem Sound.learnAll {known : OrderedMap Origin (Option Annotations)}
    (sound : Sound own copied known) (describes : Describes objects own copied) {keys : List Origin}
    (folded : ∀ key ∈ keys, key.fold = key) :
    Sound own copied (keys.foldl (Inheritance.learn objects) known) := by
  induction keys generalizing known with
  | nil => exact sound
  | cons key rest ih =>
    obtain ⟨first, others⟩ := List.forall_mem_cons.mp folded
    exact ih (sound.learn describes first) others

theorem contains_learnAll {known : OrderedMap Origin (Option Annotations)} {keys : List Origin}
    {key : Origin} (wanted : known.contains key = true ∨ key ∈ keys) :
    (keys.foldl (learn objects) known).contains key = true := by
  induction keys generalizing known with
  | nil => exact wanted.resolve_right List.not_mem_nil
  | cons first rest ih =>
    apply ih
    rw [List.mem_cons] at wanted
    rw [learn, OrderedMap.contains, OrderedMap.get?_put]
    by_cases same : key = first
    · exact .inl (by rw [if_pos same]; rfl)
    · rw [if_neg same]
      exact wanted.imp_right fun member => member.resolve_left same

def objectNamed? (objects : OrderedMap String ObjectAnnotations) (name : String) :
    Option ObjectAnnotations :=
  (objects.entries.find? fun entry => Text.sameName entry.1 name).map Prod.snd

def declaredIn (objects : OrderedMap String ObjectAnnotations) (column : Origin) :
    Option Annotations :=
  (objectNamed? objects column.object).bind fun object => object.declared? column.column

/-- What the objects copy a column from: of several that differ only in case, the last counts. -/
def copiedIn (objects : OrderedMap String ObjectAnnotations) (column : Origin) :
    Option Inherited :=
  (objectNamed? objects column.object).bind fun object =>
    (object.origins.entries.reverse.find? fun entry => Text.sameName entry.1 column.column).map
      Prod.snd

theorem find?_sameName_eq_some {α : Type} {entries : List (String × α)}
    (distinct : (entries.map fun entry => Text.foldLower entry.1).Nodup) {name : String} {a : α} :
    (entries.find? fun entry => Text.sameName entry.1 name).map Prod.snd = some a ↔
      (Text.foldLower name, a) ∈ entries.map fun entry => (Text.foldLower entry.1, entry.2) := by
  have distinct' : ((entries.map fun entry => (Text.foldLower entry.1, entry.2)).map
      Prod.fst).Nodup := by
    rw [List.map_map]
    exact distinct
  rw [← OrderedMap.find?_key_eq_some distinct', List.find?_map, Option.map_map]
  rfl

theorem objectNamed?_eq_some (distinct : (objects.keys.map Text.foldLower).Nodup) {name : String}
    {object : ObjectAnnotations} : objectNamed? objects name = some object ↔
      (Text.foldLower name, object) ∈
        objects.entries.map fun entry => (Text.foldLower entry.1, entry.2) := by
  rw [OrderedMap.keys, List.map_map] at distinct
  exact find?_sameName_eq_some distinct

theorem objectNamed?_foldLower (objects : OrderedMap String ObjectAnnotations) (name : String) :
    objectNamed? objects (Text.foldLower name) = objectNamed? objects name := by
  simp only [objectNamed?, Text.sameName, Text.foldLower_foldLower]

section Shuffled

variable {shuffled : OrderedMap String ObjectAnnotations}

end Shuffled

theorem get?_objects (distinct : (objects.keys.map Text.foldLower).Nodup) {name : String}
    (folded : Text.foldLower name = name) :
    (ofObjects objects).objects.get? name =
      (objectNamed? objects name).map ObjectAnnotations.fold := by
  have distinct' : ((objects.entries.map fun (name, object) =>
      (Text.foldLower name, object.fold)).map Prod.fst).Nodup := by
    rw [List.map_map]
    rw [OrderedMap.keys, List.map_map] at distinct
    exact distinct
  simp only [objectNamed?, Text.sameName_eq_decide folded]
  rw [ofObjects, OrderedMap.get?_ofList_of_nodup distinct', List.find?_map, Option.map_map,
    Option.map_map]
  rfl

theorem get?_origins (object : ObjectAnnotations) {name : String}
    (folded : Text.foldLower name = name) :
    object.fold.origins.get? name =
      (object.origins.entries.reverse.find? fun entry => Text.sameName entry.1 name).map
        Prod.snd := by
  simp only [Text.sameName_eq_decide folded]
  rw [ObjectAnnotations.fold, OrderedMap.get?_ofList, ← List.map_reverse, List.find?_map,
    Option.map_map]
  rfl

theorem describes_ofObjects (distinct : (objects.keys.map Text.foldLower).Nodup) :
    Describes (ofObjects objects).objects (declaredIn objects) (copiedIn objects) where
  declared c folded := by
    rw [declared?, get?_objects distinct (congrArg Origin.object folded), Option.bind_map]
    rfl
  inherited c folded := by
    rw [inherited?, get?_objects distinct (congrArg Origin.object folded), Option.bind_map]
    simp only [Function.comp_def, get?_origins _ (congrArg Origin.column folded)]
    rfl

theorem annotations?_alike (distinct : (objects.keys.map Text.foldLower).Nodup)
    {object column : String} {way : List Origin}
    (walk : Walk (copiedIn objects) [] (Origin.fold ⟨object, column⟩) way) :
    Alike ((ofObjects objects).annotations? object column)
      (layered (declaredIn objects) (copiedIn objects) way) := by
  have describes := describes_ofObjects distinct
  have folded : ∀ key ∈ columns (ofObjects objects).objects, key.fold = key := by
    intro key member
    obtain ⟨_, _, member⟩ := List.mem_flatMap.mp member
    obtain ⟨_, _, rfl⟩ := List.mem_map.mp member
    exact Origin.fold_fold _
  have sound : Sound (declaredIn objects) (copiedIn objects) (ofObjects objects).known :=
    Sound.learnAll (fun _ _ found => by cases found) describes folded
  rw [annotations?]
  cases found : (ofObjects objects).known.get? (Origin.fold ⟨object, column⟩) with
  | some map =>
    obtain ⟨other, through, inForce⟩ := sound _ _ found
    exact through.alike walk.way inForce walk.inForce
  | none =>
    -- the column is none of those that declare or copy anything
    have absent : Origin.fold ⟨object, column⟩ ∉ columns (ofObjects objects).objects := by
      intro member
      have known : (ofObjects objects).known.contains (Origin.fold ⟨object, column⟩) = true :=
        contains_learnAll (.inr member)
      rw [OrderedMap.contains, found] at known
      cases known
    have own := declared?_eq_none (Origin.fold_fold _) absent
    have copied := inherited?_eq_none (Origin.fold_fold _) absent
    rw [describes.declared _ (Origin.fold_fold _)] at own
    rw [describes.inherited _ (Origin.fold_fold _)] at copied
    cases walk.unique (.last List.not_mem_nil copied)
    rw [layered, own, copied]
    exact .refl none

/-- What is in force for a column lies on what is in force for the column it is copied from. -/
theorem annotations?_step (distinct : (objects.keys.map Text.foldLower).Nodup)
    (object column : String) :
    Alike ((ofObjects objects).annotations? object column)
      (layer
        ((copiedIn objects (Origin.fold ⟨object, column⟩)).bind fun inherited =>
          ((ofObjects objects).annotations? inherited.origin.object inherited.origin.column).map
            (passOn inherited))
        (declaredIn objects (Origin.fold ⟨object, column⟩))) := by
  have describes := describes_ofObjects distinct
  obtain ⟨way, walk, _⟩ := describes.exists_walk (Origin.fold_fold ⟨object, column⟩)
  have alike := annotations?_alike distinct walk
  cases from' : copiedIn objects (Origin.fold ⟨object, column⟩) with
  | none =>
    cases walk.unique (.last List.not_mem_nil from')
    rw [layered, from'] at alike
    exact alike
  | some inherited =>
    -- the walk from the next column may come back, so it is a way only
    obtain ⟨rest, below, _⟩ := describes.exists_walk (Origin.fold_fold inherited.origin)
    have through := (below.way.mono [Origin.fold ⟨object, column⟩]).cons from'
    have lower : InForce (declaredIn objects) (copiedIn objects) rest _ := below.inForce
    have inForce := lower.cons
      fun last : copiedIn objects (Origin.fold ⟨object, column⟩) = none => by
        cases last.symm.trans from'
    rw [from'] at inForce
    have next := walk.way.alike through walk.inForce inForce
    exact alike.trans (next.trans
      (((annotations?_alike distinct below).symm.passOn inherited).layer _))

/-- What is in force under a key was declared somewhere. -/
theorem declaredIn_of_lookup? (distinct : (objects.keys.map Text.foldLower).Nodup)
    {object column key : String} {value : Value}
    (found : lookup? ((ofObjects objects).annotations? object column) key = some value) :
    ∃ c map, declaredIn objects c = some map ∧ map.get? key = some value := by
  obtain ⟨way, walk, _⟩ :=
    (describes_ofObjects distinct).exists_walk (Origin.fold_fold ⟨object, column⟩)
  rw [(annotations?_alike distinct walk).lookup, walk.inForce.lookup,
    Option.join_eq_some_iff] at found
  obtain ⟨c, _, decided⟩ := List.exists_of_findSome?_eq_some found
  rw [decides, Option.or_eq_some_iff, Option.map_eq_some_iff] at decided
  obtain ⟨_, said, e⟩ | ⟨_, hidden⟩ := decided
  · cases e
    obtain ⟨map, declared, got⟩ := Option.bind_eq_some_iff.mp said
    exact ⟨c, map, declared, got⟩
  · split at hidden <;> cases hidden

def circle : OrderedMap String ObjectAnnotations := .ofList [
  ("Low", ⟨.ofList [("x", .ofList [(Key.notNull, .bool true), (Key.adapter, .text "custom")])],
    .ofList [("X", ⟨⟨"top", "X"⟩, false⟩)]⟩),
  ("TOP", ⟨.ofList [("X", .ofList [(Key.propertyType, .text "Id")])],
    .ofList [("x", ⟨⟨"low", "x"⟩, true⟩)]⟩)]

end Objects

end Inheritance

end TypedRows
