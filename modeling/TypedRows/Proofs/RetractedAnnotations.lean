import TypedRows.Proofs.AdapterLayers

/-! Each block about a field is checked when it is read, the annotations that blocks leave in force
are not. What is wrong with one key cannot come from laying blocks over each other; but a block may
take back what another one needs: a type, a source, or that the field is dynamic. -/

namespace TypedRows

namespace Annotations

variable {lines : List String} {name : String} {layer map : Annotations}

/-- The blocks about a field, in order. -/
def blocksOf (lines : List String) (name : String) : List Annotations :=
  ((fieldBlocks lines).filter fun block => block.1 = name).map Prod.snd

theorem accepted_of_mem (member : layer ∈ blocksOf lines name) :
    ∃ overrides, FieldOverrides.ofAnnotations name layer = .ok overrides := by
  obtain ⟨block, inside, rfl⟩ := List.mem_map.mp member
  obtain ⟨whole, same⟩ := List.mem_filter.mp inside
  obtain rfl := of_decide_eq_true same
  obtain ⟨text, map, made⟩ := fieldOfBlock_of_mem whole
  exact (fieldOfBlock_eq_ok made).2

/-- What is told of a key is the value of one of the layers. -/
theorem mem_of_told {layers : List Annotations} {key : String} {value : Value}
    (h : told layers key = some value) : ∃ layer ∈ layers, layer.get? key = some value := by
  obtain ⟨layer, member, said⟩ := List.exists_of_findSome?_eq_some (Option.join_eq_some_iff.mp h)
  refine ⟨layer, List.mem_reverse.mp member, ?_⟩
  rw [tells] at said
  cases found : layer.get? key with
  | some own =>
    rw [found] at said
    exact Option.some.inj said
  | none =>
    rw [found, Option.map_none, Option.none_or] at said
    split at said <;> cases said

theorem addBlock_of_addFieldBlock {fields next : OrderedMap String Annotations} {block : String}
    (parsed : parseBlock block = .ok map) (h : addFieldBlock fields block map = .ok next)
    (statement : Annotations) :
    CommentAnnotations.addBlock ⟨statement, fields⟩ block = .ok ⟨statement, next⟩ := by
  have about : (map.contains Key.field || map.contains Key.dynamicField) = true := by
    by_contra whole
    rw [Bool.not_eq_true, Bool.or_eq_false_iff, OrderedMap.contains_eq_false_iff,
      OrderedMap.contains_eq_false_iff] at whole
    obtain ⟨_, named, _⟩ := bind_eq_ok h
    rw [fieldOfBlock, whole.1, whole.2] at named
    cases named
  rw [CommentAnnotations.addBlock, bind_of_ok parsed, if_pos about, bind_of_ok h]
  rfl

/-- Where every block names a field, the fields are read in the same way. -/
theorem ofComments_of_fieldsOfComments {fields : OrderedMap String Annotations}
    (h : fieldsOfComments lines = .ok fields) :
    CommentAnnotations.ofComments lines = .ok ⟨.empty, fields⟩ := by
  have each : ∀ (blocks : List String) (acc : OrderedMap String Annotations),
      blocks.foldlM (fun acc block => do addFieldBlock acc block (← parseBlock block)) acc =
        .ok fields →
      blocks.foldlM CommentAnnotations.addBlock ⟨.empty, acc⟩ = .ok ⟨.empty, fields⟩ := by
    intro blocks
    induction blocks with
    | nil =>
      intro acc h
      cases h
      rfl
    | cons block rest ih =>
      intro acc h
      rw [List.foldlM_cons] at h ⊢
      obtain ⟨next, step, h⟩ := bind_eq_ok h
      obtain ⟨map, parsed, step⟩ := bind_eq_ok step
      rw [bind_of_ok (addBlock_of_addFieldBlock parsed step .empty)]
      exact ih next h
  obtain ⟨blocks, scanned, h⟩ := bind_eq_ok h
  rw [CommentAnnotations.ofComments, bind_of_ok scanned]
  exact each blocks .empty h

/-- The fields are those of the comments, read in either way. -/
def ReadAs (lines : List String) (fields : OrderedMap String Annotations) : Prop :=
  (∃ statement, CommentAnnotations.ofComments lines = .ok ⟨statement, fields⟩) ∨
    fieldsOfComments lines = .ok fields

theorem ReadAs.eq {fields : OrderedMap String Annotations} (h : ReadAs lines fields) :
    fields = fieldsOf (fieldBlocks lines) := by
  obtain ⟨statement, read⟩ | read := h
  · exact CommentAnnotations.fields_of_ofComments read
  · exact CommentAnnotations.fields_of_ofComments (ofComments_of_fieldsOfComments read)

theorem ReadAs.get?_eq {fields : OrderedMap String Annotations} (h : ReadAs lines fields)
    (found : fields.get? name = some map) (key : String) :
    map.get? key = told (blocksOf lines name) key := by
  rw [h.eq, get?_fieldsOf] at found
  rw [← lookup?_merged, blocksOf, found]
  rfl

theorem ReadAs.fits {fields : OrderedMap String Annotations} (h : ReadAs lines fields)
    (found : fields.get? name = some map) {key : String} {value : Value}
    (given : map.get? key = some value) : FieldOverrides.Fits key value := by
  rw [h.get?_eq found] at given
  obtain ⟨layer, member, own⟩ := mem_of_told given
  obtain ⟨overrides, accepted⟩ := accepted_of_mem member
  exact (FieldOverrides.reads_of_ok accepted).fits own

/-- The block takes nothing back that other blocks may need. -/
structure Keeps (block : Annotations) : Prop where
  type : block.get? Key.propertyType ≠ some .null
  source : block.get? Key.sourceTable ≠ some .null
  dynamic : ∀ value, block.get? Key.isDynamicField = some value → value.bool? = some true
  single : ∀ key ∈ [Key.sourceTable, Key.aliasPrefix, Key.collectionKey], ∀ items,
    block.get? key ≠ some (.list items)

section Fields

variable {fields : OrderedMap String Annotations} (h : ReadAs lines fields)
  (found : fields.get? name = some map)
include h found

/-- A key of one block has the value of some block, unless it is that of the adapter. -/
theorem ReadAs.exists_get? {key : String} (other : key ≠ Key.adapter)
    (member : layer ∈ blocksOf lines name) {value : Value} (own : layer.get? key = some value) :
    ∃ block ∈ blocksOf lines name, ∃ value, block.get? key = some value ∧
      map.get? key = some value := by
  rw [h.get?_eq found, told]
  cases first : (blocksOf lines name).reverse.findSome? (tells key) with
  | none =>
    have silent := List.findSome?_eq_none_iff.mp first layer (List.mem_reverse.mpr member)
    rw [tells, own] at silent
    cases silent
  | some said =>
    obtain ⟨block, inside, tell⟩ := List.exists_of_findSome?_eq_some first
    rw [tells_of_shown (hides_of_ne block other)] at tell
    obtain ⟨value, given, rfl⟩ := Option.map_eq_some_iff.mp tell
    exact ⟨block, List.mem_reverse.mp inside, value, given, rfl⟩

theorem ReadAs.gives {key : String} (other : key ≠ Key.adapter)
    (kept : ∀ block ∈ blocksOf lines name, block.get? key ≠ some .null)
    (member : layer ∈ blocksOf lines name) (own : layer.Gives key) : map.Gives key := by
  obtain ⟨_, own, _⟩ := own
  obtain ⟨block, inside, value, given, inForce⟩ := h.exists_get? found other member own
  exact ⟨value, inForce, fun null => kept block inside (null ▸ given)⟩

/-- A value in force is that of a block which is accepted by itself. -/
theorem ReadAs.exists_block {key : String} {value : Value} (given : map.get? key = some value) :
    ∃ block ∈ blocksOf lines name, block.get? key = some value ∧
      ∀ e, ¬ FieldOverrides.Lapse name block e := by
  rw [h.get?_eq found] at given
  obtain ⟨block, member, own⟩ := mem_of_told given
  obtain ⟨overrides, accepted⟩ := accepted_of_mem member
  exact ⟨block, member, own, fun _ => (FieldOverrides.reads_of_ok accepted).not_lapse⟩

theorem ReadAs.complete (keeps : ∀ block ∈ blocksOf lines name, block.Keeps)
    {e : AnnotationsError} : ¬ FieldOverrides.Lapse name map e := by
  intro lapse
  cases lapse with
  | untyped dynamic untyped =>
    obtain ⟨value, given, truth⟩ := Option.bind_eq_some_iff.mp (isDynamic_eq_true.mp dynamic)
    obtain ⟨block, member, own, complete⟩ := h.exists_block found given
    have dynamic' : block.isDynamic = true :=
      isDynamic_eq_true.mpr (Option.bind_eq_some_iff.mpr ⟨value, own, truth⟩)
    have typed : block.Gives Key.propertyType := by
      by_contra untyped'
      exact complete _ (.untyped dynamic' untyped')
    exact untyped (h.gives found (by decide) (fun b inside => (keeps b inside).type) member typed)
  | ofColumn mapped plain =>
    obtain ⟨value, given, nonnull⟩ := mapped
    obtain ⟨block, member, own, complete⟩ := h.exists_block found given
    have dynamic : block.isDynamic = true := by
      by_contra plain'
      exact complete _ (.ofColumn ⟨value, own, nonnull⟩ (Bool.eq_false_iff.mpr plain'))
    obtain ⟨flag, own', _⟩ := Option.bind_eq_some_iff.mp (isDynamic_eq_true.mp dynamic)
    obtain ⟨last, inside, flag', given', inForce⟩ := h.exists_get? found (by decide) member own'
    have dynamic' : map.isDynamic = true := isDynamic_eq_true.mpr
      (Option.bind_eq_some_iff.mpr ⟨flag', inForce, (keeps last inside).dynamic flag' given'⟩)
    rw [dynamic'] at plain
    cases plain
  | unsourced mapped unsourced =>
    obtain ⟨value, given, nonnull⟩ := mapped
    obtain ⟨block, member, own, complete⟩ := h.exists_block found given
    have sourced : block.Gives Key.sourceTable := by
      by_contra unsourced'
      exact complete _ (.unsourced ⟨value, own, nonnull⟩ unsourced')
    exact unsourced
      (h.gives found (by decide) (fun b inside => (keeps b inside).source) member sourced)
  | several mapped read several =>
    obtain ⟨block, member, own, _⟩ := h.exists_block found several
    exact (keeps block member).single _ read _ own

/-- The blocks about a field are accepted one by one. What they leave in force is accepted exactly
if nothing is lacking, and else the error tells what; as long as no block takes anything back,
nothing is. -/
theorem fields_accepted_iff :
    (∀ block ∈ blocksOf lines name,
      ∃ overrides, FieldOverrides.ofAnnotations name block = .ok overrides) ∧
    (∀ key, map.get? key = told (blocksOf lines name) key) ∧
    ((∃ overrides, FieldOverrides.ofAnnotations name map = .ok overrides) ↔
      ∀ e, ¬ FieldOverrides.Lapse name map e) ∧
    (∀ e, FieldOverrides.ofAnnotations name map = .error e → FieldOverrides.Lapse name map e) ∧
    ((∀ block ∈ blocksOf lines name, block.Keeps) →
      ∃ overrides, FieldOverrides.ofAnnotations name map = .ok overrides) := by
  have fits : ∀ key value, map.get? key = some value → FieldOverrides.Fits key value :=
    fun _ _ => h.fits found
  have accepted := FieldOverrides.isOk_iff fits name
  exact ⟨fun _ => accepted_of_mem, h.get?_eq found, accepted,
    fun _ => FieldOverrides.lapse_of_error fits,
    fun keeps => accepted.mpr fun _ => h.complete found keeps⟩

end Fields

/-- The second block takes back the source of the first. -/
def retractedLines : List String :=
  ["@@\x7bdynamicField=d, propertyType=T, mappingType=entity, sourceTable=t\x7d",
    "@@\x7bfield=d, sourceTable=null\x7d"]

theorem fields_accepted_iff_retracted : ∃ fields map,
    fieldsOfComments retractedLines = .ok fields ∧ fields.get? "d" = some map ∧
      (∀ block ∈ blocksOf retractedLines "d",
        ∃ overrides, FieldOverrides.ofAnnotations "d" block = .ok overrides) ∧
      ¬ ∃ overrides, FieldOverrides.ofAnnotations "d" map = .ok overrides := by
  have read : ((fieldsOfComments retractedLines).toOption.bind fun fields =>
      (fields.get? "d").map fun map => (map.get? Key.mappingType, map.get? Key.sourceTable)) =
        some (some (.text "entity"), some .null) := by
    decide +kernel
  obtain ⟨fields, made, read⟩ := Option.bind_eq_some_iff.mp read
  obtain ⟨map, found, read⟩ := Option.map_eq_some_iff.mp read
  obtain ⟨mapped, source⟩ := Prod.mk.inj read
  obtain ⟨each, -, accepted, -, -⟩ := fields_accepted_iff (.inr (toOption_eq_some.mp made)) found
  refine ⟨fields, map, toOption_eq_some.mp made, found, each, fun ok => ?_⟩
  refine accepted.mp ok _ (.unsourced ⟨_, mapped, nofun⟩ ?_)
  rintro ⟨value, given, nonnull⟩
  rw [source] at given
  exact nonnull (Option.some.inj given).symm

end Annotations

end TypedRows
