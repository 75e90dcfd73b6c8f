import TypedRows.Proofs.AnnotationLayers
import TypedRows.Proofs.Outcome

/-! When the annotations of a field are accepted: what they say under each key must fit, and nothing
may be lacking that one key needs of another. For a field that is not dynamic each key is checked by
itself, so annotations laid over each other are accepted if the layers are. -/

namespace TypedRows

namespace Annotations

variable {map : Annotations} {owner key : String}

/-- There is a value, other than null, under the key. -/
def Gives (map : Annotations) (key : String) : Prop :=
  ∃ value, map.get? key = some value ∧ value ≠ .null

theorem single_cases (map : Annotations) (owner key : String) :
    (∃ text, map.single owner key = .ok text ∧ (text.isSome = true ↔ map.Gives key)) ∨
      ∃ items, map.get? key = some (.list items) ∧
        map.single owner key = .error (.notSingle key owner) := by
  unfold single Gives
  cases map.get? key with
  | none => exact .inl ⟨none, rfl, by simp⟩
  | some value => cases value <;> simp

theorem gives_of_single {text : Option String}
    (h : map.single owner key = .ok text) : text.isSome = true ↔ map.Gives key := by
  obtain ⟨text', read, gives⟩ | ⟨_, _, fails⟩ := single_cases map owner key
  · rw [h] at read
    cases read
    exact gives
  · rw [h] at fails
    cases fails

theorem single_isOk_iff : (∃ text, map.single owner key = .ok text) ↔
    ∀ items, map.get? key ≠ some (.list items) := by
  unfold single
  split <;> simp [*]

theorem boolean_getD {flag : Option Bool} (h : map.boolean owner key = .ok flag) :
    flag.getD false = ((map.get? key).bind Value.bool?).getD false := by
  unfold boolean at h
  split at h
  · rename_i absent
    cases h
    rw [absent]
    rfl
  · rename_i found
    cases h
    rw [found]
    rfl
  · rename_i value _ found
    split at h
    · rename_i b truth
      cases h
      rw [found, Option.bind_some, truth]
    · cases h

theorem isDynamic_eq_true : map.isDynamic = true ↔
    (map.get? Key.isDynamicField).bind Value.bool? = some true := by
  rw [isDynamic]
  cases (map.get? Key.isDynamicField).bind Value.bool? <;> simp

theorem boolean_isOk_iff : (∃ flag, map.boolean owner key = .ok flag) ↔
    ∀ value, map.get? key = some value → value = .null ∨ value.bool?.isSome = true := by
  unfold boolean
  split
  · simp [*]
  · simp [*]
  · rename_i value other found
    cases truth : value.bool? <;> simp [found, truth]
    exact other

end Annotations

namespace FieldOverrides

theorem ofAnnotations_congr {a b : Annotations} (same : ∀ key, a.get? key = b.get? key)
    (field : String) : ofAnnotations field a = ofAnnotations field b := by
  have single : ∀ key, a.single field key = b.single field key := fun key => by
    rw [Annotations.single, Annotations.single, same]
  have boolean : ∀ key, a.boolean field key = b.boolean field key := fun key => by
    rw [Annotations.boolean, Annotations.boolean, same]
  simp only [ofAnnotations, mappingOf, adapterOf, single, boolean]

variable {map : Annotations} {field : String} {overrides : FieldOverrides}

theorem adapterOf_isOk_iff : (∃ custom, adapterOf field map = .ok custom) ↔
    ∀ value, map.get? Key.adapter = some value →
      value = .null ∨ value = .text "default" ∨ value = .text "custom" := by
  unfold adapterOf Annotations.single
  cases found : map.get? Key.adapter with
  | none => exact ⟨fun _ _ h => (by cases h), fun _ => ⟨false, rfl⟩⟩
  | some value =>
    cases value with
    | null => exact ⟨fun _ _ h => .inl (Option.some.inj h).symm, fun _ => ⟨false, rfl⟩⟩
    | bool flag =>
      constructor
      · rintro ⟨custom, h⟩
        cases flag <;> cases h
      · intro h
        obtain h | h | h := h _ rfl <;> cases h
    | text name =>
      constructor
      · rintro ⟨custom, h⟩ value e
        cases e
        obtain ⟨given, e, h⟩ := bind_eq_ok h
        cases e
        split at h
        · rename_i none'
          cases none'
        · rename_i default'
          cases default'
          exact .inr (.inl rfl)
        · rename_i custom'
          cases custom'
          exact .inr (.inr rfl)
        · cases h
      · intro h
        obtain h | h | h := h _ rfl <;> cases h
        · exact ⟨false, rfl⟩
        · exact ⟨true, rfl⟩
    | list items =>
      constructor
      · rintro ⟨custom, h⟩
        cases h
      · intro h
        obtain h | h | h := h _ rfl <;> cases h

/-- Each part of the overrides as it is read from the annotations. -/
structure Reads (field : String) (map : Annotations) (overrides : FieldOverrides) : Prop where
  said : ∃ flag, map.boolean field Key.isDynamicField = .ok flag
  isDynamicField : overrides.isDynamicField = map.isDynamic
  propertyType : map.single field Key.propertyType = .ok overrides.propertyType
  typed : overrides.isDynamicField = true → overrides.propertyType.isSome = true
  mapping : ∃ kind, map.single field Key.mappingType = .ok kind ∧
    mappingOf field map overrides.isDynamicField kind = .ok overrides.mapping
  adapter : adapterOf field map = .ok overrides.adapter
  propertyName : map.single field Key.propertyName = .ok overrides.propertyName
  notNull : map.boolean field Key.notNull = .ok overrides.notNull
  sqlTypeHint : map.single field Key.sqlTypeHint = .ok overrides.sqlTypeHint
  defaultValue : map.single field Key.defaultValue = .ok overrides.defaultValue

theorem reads_of_ok (h : ofAnnotations field map = .ok overrides) : Reads field map overrides := by
  obtain ⟨flag, said, h⟩ := bind_eq_ok h
  obtain ⟨propertyType, type, h⟩ := bind_eq_ok h
  obtain ⟨kind, mapped, h⟩ := bind_eq_ok h
  dsimp only at h
  split at h
  · cases h
  · rename_i typed
    obtain ⟨mapping, made, h⟩ := bind_eq_ok h
    obtain ⟨custom, adapter, h⟩ := bind_eq_ok h
    obtain ⟨propertyName, name, h⟩ := bind_eq_ok h
    obtain ⟨notNull, filled, h⟩ := bind_eq_ok h
    obtain ⟨sqlTypeHint, hint, h⟩ := bind_eq_ok h
    obtain ⟨defaultValue, default', h⟩ := bind_eq_ok h
    cases h
    refine ⟨⟨flag, said⟩, Annotations.boolean_getD said, type, fun dynamic => ?_,
      ⟨kind, mapped, made⟩, adapter, name, filled, hint, default'⟩
    rw [← Bool.not_eq_false, Option.isSome_eq_false_iff]
    exact fun untyped => typed ⟨dynamic, untyped⟩

/-- What a field, dynamic or not, may say under a key, whatever it says under the others. -/
structure Fits (key : String) (value : Value) : Prop where
  single : key ∈ [Key.propertyType, Key.propertyName, Key.sqlTypeHint, Key.defaultValue] →
    ∀ items, value ≠ .list items
  boolean : key ∈ [Key.isDynamicField, Key.notNull] → value = .null ∨ value.bool?.isSome = true
  adapter : key = Key.adapter → value = .null ∨ value = .text "default" ∨ value = .text "custom"
  kind : key = Key.mappingType → value = .null ∨
    ∃ name kind, value = .text name ∧ MappingKind.ofString? name = some kind

/-- What annotations lack, with the error that says so. -/
inductive Lapse (field : String) (map : Annotations) : AnnotationsError → Prop where
  | untyped (dynamic : map.isDynamic = true) (untyped : ¬ map.Gives Key.propertyType) :
    Lapse field map (.untypedDynamicField field)
  | ofColumn (mapped : map.Gives Key.mappingType) (plain : map.isDynamic = false) :
    Lapse field map (.mappingOfColumn field)
  | unsourced (mapped : map.Gives Key.mappingType) (unsourced : ¬ map.Gives Key.sourceTable) :
    Lapse field map (.mappingWithoutSource field)
  | several {key : String} {items : List String} (mapped : map.Gives Key.mappingType)
    (read : key ∈ [Key.sourceTable, Key.aliasPrefix, Key.collectionKey])
    (several : map.get? key = some (.list items)) : Lapse field map (.notSingle key field)

theorem kind_of_fits (fits : ∀ value, map.get? Key.mappingType = some value →
    Fits Key.mappingType value) {name : String}
    (read : map.single field Key.mappingType = .ok (some name)) :
    ∃ kind, MappingKind.ofString? name = some kind := by
  obtain ⟨value, found, given⟩ := (Annotations.gives_of_single read).mp rfl
  obtain ⟨name', kind, rfl, known⟩ := ((fits value found).kind rfl).resolve_left given
  rw [Annotations.single, found] at read
  cases read
  exact ⟨kind, known⟩

theorem mappingOf_of_kind {name : String} {kind : MappingKind}
    (known : MappingKind.ofString? name = some kind) :
    mappingOf field map true (some name) = (do
      match ← map.single field Key.sourceTable with
      | none => throw (.mappingWithoutSource field)
      | some sourceTable =>
        let aliasPrefix ← map.single field Key.aliasPrefix
        let collectionKey ← map.single field Key.collectionKey
        return some { kind, sourceTable, aliasPrefix, collectionKey }) := by
  rw [mappingOf, MappingKind.parse, known]
  rfl

theorem mappingOf_cases {dynamic : Bool} {kind : Option String}
    (read : map.single field Key.mappingType = .ok kind) (said : dynamic = map.isDynamic)
    (fits : ∀ value, map.get? Key.mappingType = some value → Fits Key.mappingType value) :
    (∃ mapping, mappingOf field map dynamic kind = .ok mapping) ∨
      ∃ e, mappingOf field map dynamic kind = .error e ∧ Lapse field map e := by
  cases kind with
  | none => exact .inl ⟨none, rfl⟩
  | some name =>
    have mapped : map.Gives Key.mappingType := (Annotations.gives_of_single read).mp rfl
    obtain ⟨kind, known⟩ := kind_of_fits fits read
    cases dynamic with
    | false => exact .inr ⟨_, rfl, .ofColumn mapped said.symm⟩
    | true =>
      rw [mappingOf_of_kind known]
      obtain ⟨source, given, gives⟩ | ⟨items, several, fails⟩ :=
        Annotations.single_cases map field Key.sourceTable
      · rw [bind_of_ok given]
        cases source with
        | none =>
          exact .inr ⟨_, rfl, .unsourced mapped fun own => nomatch gives.mpr own⟩
        | some source =>
          dsimp only
          obtain ⟨label, given, _⟩ | ⟨items, several, fails⟩ :=
            Annotations.single_cases map field Key.aliasPrefix
          · rw [bind_of_ok given]
            obtain ⟨key, given, _⟩ | ⟨items, several, fails⟩ :=
              Annotations.single_cases map field Key.collectionKey
            · rw [bind_of_ok given]
              exact .inl ⟨_, rfl⟩
            · rw [fails]
              exact .inr ⟨_, rfl, .several mapped (by simp) several⟩
          · rw [fails]
            exact .inr ⟨_, rfl, .several mapped (by simp) several⟩
      · rw [fails]
        exact .inr ⟨_, rfl, .several mapped (by simp) several⟩

theorem mappingOf_eq_ok {dynamic : Bool} {name : String} {mapping : Option Mapping}
    (h : mappingOf field map dynamic (some name) = .ok mapping) :
    dynamic = true ∧ (∃ kind, MappingKind.ofString? name = some kind) ∧
      map.Gives Key.sourceTable ∧
      ∀ key ∈ [Key.sourceTable, Key.aliasPrefix, Key.collectionKey], ∀ items,
        map.get? key ≠ some (.list items) := by
  cases dynamic with
  | false => cases h
  | true =>
    cases known : MappingKind.ofString? name with
    | none =>
      rw [mappingOf, MappingKind.parse, known] at h
      cases h
    | some kind =>
      rw [mappingOf_of_kind known] at h
      obtain ⟨source, sourced, h⟩ := bind_eq_ok h
      cases source with
      | none => cases h
      | some source =>
        obtain ⟨label, labelled, h⟩ := bind_eq_ok h
        obtain ⟨key, keyed, h⟩ := bind_eq_ok h
        refine ⟨rfl, ⟨kind, rfl⟩, (Annotations.gives_of_single sourced).mp rfl, ?_⟩
        simp only [List.forall_mem_cons]
        exact ⟨Annotations.single_isOk_iff.mp ⟨_, sourced⟩,
          Annotations.single_isOk_iff.mp ⟨_, labelled⟩,
          Annotations.single_isOk_iff.mp ⟨_, keyed⟩, List.forall_mem_nil _⟩

/-- What fits under each key is accepted, unless something is lacking. -/
theorem ofAnnotations_cases (fits : ∀ key value, map.get? key = some value → Fits key value)
    (field : String) : (∃ overrides, ofAnnotations field map = .ok overrides) ∨
      ∃ e, ofAnnotations field map = .error e ∧ Lapse field map e := by
  have single : ∀ key ∈ [Key.propertyType, Key.propertyName, Key.sqlTypeHint, Key.defaultValue],
      ∃ text, map.single field key = .ok text := fun key member =>
    Annotations.single_isOk_iff.mpr fun items found => (fits key _ found).single member items rfl
  have boolean : ∀ key ∈ [Key.isDynamicField, Key.notNull],
      ∃ flag, map.boolean field key = .ok flag := fun key member =>
    Annotations.boolean_isOk_iff.mpr fun value found => (fits key value found).boolean member
  obtain ⟨flag, said⟩ := boolean Key.isDynamicField (by simp)
  obtain ⟨propertyType, type⟩ := single Key.propertyType (by simp)
  obtain ⟨kind, mapped⟩ : ∃ kind, map.single field Key.mappingType = .ok kind := by
    refine Annotations.single_isOk_iff.mpr fun items found => ?_
    obtain none' | ⟨name, kind, text, _⟩ := (fits _ _ found).kind rfl
    · cases none'
    · cases text
  obtain ⟨propertyName, name⟩ := single Key.propertyName (by simp)
  obtain ⟨sqlTypeHint, hint⟩ := single Key.sqlTypeHint (by simp)
  obtain ⟨defaultValue, default'⟩ := single Key.defaultValue (by simp)
  obtain ⟨custom, adapter⟩ : ∃ custom, adapterOf field map = .ok custom :=
    adapterOf_isOk_iff.mpr fun value found => (fits _ value found).adapter rfl
  obtain ⟨notNull, filled⟩ := boolean Key.notNull (by simp)
  have dynamic : flag.getD false = map.isDynamic := Annotations.boolean_getD said
  rw [ofAnnotations, bind_of_ok said, bind_of_ok type, bind_of_ok mapped]
  dsimp only
  split
  · rename_i untyped
    refine .inr ⟨_, rfl, .untyped (dynamic ▸ untyped.1) fun given => ?_⟩
    have typed := (Annotations.gives_of_single type).mpr given
    rw [Option.isNone_iff_eq_none] at untyped
    rw [untyped.2] at typed
    cases typed
  · obtain ⟨mapping, made⟩ | ⟨e, fails, lapse⟩ :=
      mappingOf_cases mapped dynamic fun value found => fits _ value found
    · rw [bind_of_ok made, bind_of_ok adapter, bind_of_ok name, bind_of_ok filled,
        bind_of_ok hint, bind_of_ok default']
      exact .inl ⟨_, rfl⟩
    · rw [fails]
      exact .inr ⟨e, rfl, lapse⟩

theorem fits_kind {dynamic : Bool} {kind : Option String} {mapping : Option Mapping}
    (read : map.single field Key.mappingType = .ok kind)
    (made : mappingOf field map dynamic kind = .ok mapping) {value : Value}
    (found : map.get? Key.mappingType = some value) :
    value = .null ∨ ∃ name kind, value = .text name ∧ MappingKind.ofString? name = some kind := by
  rw [Annotations.single, found] at read
  cases value with
  | null => exact .inl rfl
  | text name =>
    cases read
    obtain ⟨kind, known⟩ := (mappingOf_eq_ok made).2.1
    exact .inr ⟨name, kind, rfl, known⟩
  | bool flag =>
    cases read
    obtain ⟨kind, known⟩ := (mappingOf_eq_ok made).2.1
    cases flag <;> cases known
  | list items => cases read

theorem Reads.fits (h : Reads field map overrides) {key : String} {value : Value}
    (found : map.get? key = some value) : Fits key value := by
  have single : ∀ k ∈ [Key.propertyType, Key.propertyName, Key.sqlTypeHint, Key.defaultValue],
      ∃ text, map.single field k = .ok text := by
    simp only [List.forall_mem_cons]
    exact ⟨⟨_, h.propertyType⟩, ⟨_, h.propertyName⟩, ⟨_, h.sqlTypeHint⟩, ⟨_, h.defaultValue⟩,
      List.forall_mem_nil _⟩
  have boolean : ∀ k ∈ [Key.isDynamicField, Key.notNull],
      ∃ flag, map.boolean field k = .ok flag := by
    simp only [List.forall_mem_cons]
    exact ⟨h.said, ⟨_, h.notNull⟩, List.forall_mem_nil _⟩
  refine ⟨fun member items e => ?_, fun member => ?_, ?_, ?_⟩
  · exact Annotations.single_isOk_iff.mp (single key member) items (e ▸ found)
  · exact Annotations.boolean_isOk_iff.mp (boolean key member) value found
  · rintro rfl
    exact adapterOf_isOk_iff.mp ⟨_, h.adapter⟩ value found
  · rintro rfl
    obtain ⟨kind, read, made⟩ := h.mapping
    exact fits_kind read made found

theorem Reads.sourced (h : Reads field map overrides) (mapped : map.Gives Key.mappingType) :
    map.isDynamic = true ∧ map.Gives Key.sourceTable ∧
      ∀ key ∈ [Key.sourceTable, Key.aliasPrefix, Key.collectionKey], ∀ items,
        map.get? key ≠ some (.list items) := by
  obtain ⟨kind, read, made⟩ := h.mapping
  obtain ⟨name, rfl⟩ := Option.isSome_iff_exists.mp ((Annotations.gives_of_single read).mpr mapped)
  obtain ⟨dynamic, _, source, one⟩ := mappingOf_eq_ok made
  exact ⟨h.isDynamicField ▸ dynamic, source, one⟩

theorem Reads.dynamic_of_mapping (h : Reads field map overrides) {mapping : Mapping}
    (made : overrides.mapping = some mapping) : overrides.isDynamicField = true := by
  obtain ⟨kind, _, made'⟩ := h.mapping
  cases kind with
  | none =>
    rw [made] at made'
    cases made'
  | some name => exact (mappingOf_eq_ok made').1

theorem Reads.not_lapse (h : Reads field map overrides) {e : AnnotationsError} :
    ¬ Lapse field map e := by
  intro lapse
  cases lapse with
  | untyped dynamic untyped =>
    have typed := h.typed (h.isDynamicField.trans dynamic)
    exact untyped ((Annotations.gives_of_single h.propertyType).mp typed)
  | ofColumn mapped plain =>
    rw [(h.sourced mapped).1] at plain
    cases plain
  | unsourced mapped unsourced => exact unsourced (h.sourced mapped).2.1
  | several mapped read several => exact (h.sourced mapped).2.2 _ read _ several

/-- Annotations that fit under each key are accepted exactly if nothing is lacking. -/
theorem isOk_iff (fits : ∀ key value, map.get? key = some value → Fits key value)
    (field : String) :
    (∃ overrides, ofAnnotations field map = .ok overrides) ↔ ∀ e, ¬ Lapse field map e := by
  refine ⟨fun ⟨_, h⟩ _ => (reads_of_ok h).not_lapse, fun complete => ?_⟩
  obtain accepted | ⟨e, _, lapse⟩ := ofAnnotations_cases fits field
  · exact accepted
  · exact absurd lapse (complete e)

theorem lapse_of_error (fits : ∀ key value, map.get? key = some value → Fits key value)
    {e : AnnotationsError} (h : ofAnnotations field map = .error e) : Lapse field map e := by
  obtain ⟨overrides, accepted⟩ | ⟨e', fails, lapse⟩ := ofAnnotations_cases fits field
  · rw [h] at accepted
    cases accepted
  · rw [h] at fails
    cases fails
    exact lapse


/-- What a field that is not dynamic may say under a key. -/
structure Allowed (key : String) (value : Value) : Prop where
  single : key ∈ [Key.propertyType, Key.propertyName, Key.sqlTypeHint, Key.defaultValue] →
    ∀ items, value ≠ .list items
  column : key = Key.mappingType → value = .null
  adapter : key = Key.adapter → value = .null ∨ value = .text "default" ∨ value = .text "custom"
  boolean : key = Key.notNull → value = .null ∨ value.bool?.isSome = true

theorem isDynamic_of_static (static : map.contains Key.isDynamicField = false) :
    map.isDynamic = false := by
  rw [Annotations.isDynamic, OrderedMap.contains_eq_false_iff.mp static]
  rfl

theorem ofAnnotations_eq_ok (static : map.contains Key.isDynamicField = false)
    {overrides : FieldOverrides} (h : ofAnnotations field map = .ok overrides) :
    overrides.mapping = none ∧ overrides.isDynamicField = false ∧
      ∀ key value, map.get? key = some value → Allowed key value := by
  have plain := isDynamic_of_static static
  have reads := reads_of_ok h
  have static' := reads.isDynamicField.trans plain
  refine ⟨?_, static', fun key value found => ?_⟩
  · cases made : overrides.mapping with
    | none => rfl
    | some mapping => cases static'.symm.trans (reads.dynamic_of_mapping made)
  · have fits := reads.fits found
    refine ⟨fits.single, ?_, fits.adapter, fun filled => fits.boolean (by simp [filled])⟩
    rintro rfl
    by_contra given
    exact reads.not_lapse (.ofColumn ⟨value, found, given⟩ plain)

/-- A field that is not dynamic is accepted if what it says under each key is. -/
theorem exists_ofAnnotations (static : map.contains Key.isDynamicField = false)
    (allowed : ∀ key value, map.get? key = some value → Allowed key value) :
    ∃ overrides, ofAnnotations field map = .ok overrides := by
  have fits : ∀ key value, map.get? key = some value → Fits key value := by
    intro key value found
    have own := allowed key value found
    refine ⟨own.single, fun member => ?_, own.adapter, fun mapped => .inl (own.column mapped)⟩
    obtain rfl | filled := List.mem_cons.mp member
    · rw [OrderedMap.contains_eq_false_iff.mp static] at found
      cases found
    · exact own.boolean (List.mem_singleton.mp filled)
  have unmapped : ¬ map.Gives Key.mappingType := fun ⟨value, found, given⟩ =>
    given ((allowed _ value found).column rfl)
  refine (isOk_iff fits field).mpr fun e lapse => ?_
  cases lapse with
  | untyped dynamic _ => cases (isDynamic_of_static static).symm.trans dynamic
  | ofColumn mapped _ | unsourced mapped _ | several mapped _ _ => exact unmapped mapped

end FieldOverrides

/-! The annotations in comments. -/

namespace Annotations

/-- Unless the field is dynamic, what it says under each key is accepted. -/
def Vetted (map : Annotations) : Prop :=
  map.contains Key.isDynamicField = false →
    ∀ key value, map.get? key = some value → FieldOverrides.Allowed key value

theorem contains_merge (base top : Annotations) {key : String} (other : key ≠ Key.adapter) :
    (base.merge top).contains key = (base.contains key || top.contains key) := by
  unfold OrderedMap.contains
  rw [get?_merge_of_ne base top other]
  cases top.get? key <;> simp

theorem Vetted.merge {base top : Annotations} (hb : base.Vetted) (ht : top.Vetted) :
    (base.merge top).Vetted := by
  intro static key value found
  rw [contains_merge base top (by decide), Bool.or_eq_false_iff] at static
  rw [get?_merge, Option.or_eq_some_iff] at found
  obtain found | ⟨_, found⟩ := found
  · exact ht static.2 key value found
  · split at found
    · cases found
    · exact hb static.1 key value found

/-- A block is accepted by itself, with the adapter that its type needs. -/
theorem fieldOfBlock_eq_ok {block name : String} {map own : Annotations}
    (h : fieldOfBlock block map = .ok (name, own)) :
    (∃ given, withAdapter name given = .ok own) ∧
      ∃ overrides, FieldOverrides.ofAnnotations name own = .ok overrides := by
  have finish : ∀ name' given, fieldOfBlock.finish name' given = .ok (name, own) →
      (∃ given, withAdapter name given = .ok own) ∧
        ∃ overrides, FieldOverrides.ofAnnotations name own = .ok overrides := by
    intro name' given h
    obtain ⟨whole, adapted, h⟩ := bind_eq_ok h
    obtain ⟨overrides, accepted, h⟩ := bind_eq_ok h
    cases h
    exact ⟨⟨given, adapted⟩, overrides, accepted⟩
  unfold fieldOfBlock at h
  dsimp only at h
  split at h
  · cases h
  · cases h
  · obtain ⟨_, _, h⟩ := bind_eq_ok h
    exact finish _ _ h
  · obtain ⟨_, _, h⟩ := bind_eq_ok h
    split at h
    · cases h
    · exact finish _ _ h

theorem fieldOfBlock_vetted {block name : String} {map map' : Annotations}
    (h : fieldOfBlock block map = .ok (name, map')) : map'.Vetted := by
  obtain ⟨_, overrides, accepted⟩ := fieldOfBlock_eq_ok h
  exact fun static => (FieldOverrides.ofAnnotations_eq_ok static accepted).2.2

def AllVetted (fields : OrderedMap String Annotations) : Prop :=
  ∀ name map, fields.get? name = some map → map.Vetted

theorem AllVetted.addFieldBlock {fields fields' : OrderedMap String Annotations}
    (all : AllVetted fields) {block : String} {map : Annotations}
    (h : Annotations.addFieldBlock fields block map = .ok fields') : AllVetted fields' := by
  obtain ⟨⟨name, own⟩, read, h⟩ := bind_eq_ok h
  cases h
  have vetted : own.Vetted := fieldOfBlock_vetted read
  intro name' map' found
  unfold putField at found
  cases known : fields.get? name with
  | none =>
    simp only [known, OrderedMap.get?_put] at found
    split at found
    · cases found
      exact vetted
    · exact all name' map' found
  | some below =>
    simp only [known, OrderedMap.get?_put] at found
    split at found
    · cases found
      exact (all name below known).merge vetted
    · exact all name' map' found

end Annotations

namespace CommentAnnotations

theorem foldlM_vetted {blocks : List String} {acc read : CommentAnnotations}
    (all : Annotations.AllVetted acc.fields) (h : blocks.foldlM addBlock acc = .ok read) :
    Annotations.AllVetted read.fields := by
  induction blocks generalizing acc with
  | nil =>
    cases h
    exact all
  | cons block rest ih =>
    rw [List.foldlM_cons] at h
    obtain ⟨next, step, h⟩ := bind_eq_ok h
    refine ih ?_ h
    obtain ⟨map, _, step⟩ := bind_eq_ok step
    split at step
    · obtain ⟨fields, added, step⟩ := bind_eq_ok step
      cases step
      exact all.addFieldBlock added
    · cases step
      exact all

theorem ofComments_vetted {lines : List String} {read : CommentAnnotations}
    (h : ofComments lines = .ok read) : Annotations.AllVetted read.fields := by
  obtain ⟨blocks, _, h⟩ := bind_eq_ok h
  exact foldlM_vetted (fun _ _ found => by cases found) h

end CommentAnnotations

end TypedRows
