import TypedRows.Schema.Catalog

/-!
The annotations in force for each column: those of the column itself laid over those of the column
it is copied from, through any number of views.
-/

namespace TypedRows

/-- Where a view column is copied from. -/
structure Inherited where
  origin : Origin
  /-- Whether an outer join on the way does away with the origin's `notNull`. -/
  dropNotNull : Bool
  deriving DecidableEq

/-- The annotations declared on a table or view, and the columns it passes on, by name. -/
structure ObjectAnnotations where
  fields : OrderedMap String Annotations
  origins : OrderedMap String Inherited

def ObjectAnnotations.fold (object : ObjectAnnotations) : ObjectAnnotations :=
  { object with
    origins := .ofList (object.origins.entries.map fun (name, inherited) =>
      (Text.foldLower name, inherited)) }

/-- The annotations declared on the first field of that name. -/
def ObjectAnnotations.declared? (object : ObjectAnnotations) (column : String) :
    Option Annotations :=
  (object.fields.entries.find? fun entry => Text.sameName entry.1 column).map Prod.snd

/-- A column by names in lower case. -/
def Origin.fold (origin : Origin) : Origin :=
  ⟨Text.foldLower origin.object, Text.foldLower origin.column⟩

/-- The annotations in force, by column in lower case. -/
structure Inheritance where
  objects : OrderedMap String ObjectAnnotations
  known : OrderedMap Origin (Option Annotations)

namespace Inheritance

def declared? (objects : OrderedMap String ObjectAnnotations) (key : Origin) :
    Option Annotations :=
  (objects.get? key.object).bind fun object => object.declared? key.column

def inherited? (objects : OrderedMap String ObjectAnnotations) (key : Origin) :
    Option Inherited :=
  (objects.get? key.object).bind fun object => object.origins.get? key.column

/-- Lays the annotations of a column over those below it. -/
def layer : Option Annotations → Option Annotations → Option Annotations
  | none, top => top
  | below, none => below
  | some below, some top => some (below.merge top)

def passOn (inherited : Inherited) (map : Annotations) : Annotations :=
  if inherited.dropNotNull then map.erase Key.notNull else map

/-- The annotations in force for a column. What is known already is used; a column that the way
has passed before adds nothing. `fuel` bounds the way. -/
def find (objects : OrderedMap String ObjectAnnotations)
    (known : OrderedMap Origin (Option Annotations)) : Nat → List Origin → Origin →
    Option Annotations
  | 0, _, _ => none
  | fuel + 1, passed, key =>
    match known.get? key with
    | some found => found
    | none =>
      if passed.contains key then none
      else
        -- what comes from below has gone through the joins before the own annotations lie on it
        let below := (inherited? objects key).bind fun inherited =>
          (find objects known fuel (key :: passed) inherited.origin.fold).map (passOn inherited)
        layer below (declared? objects key)

/-- A bound on the length of a way without repetition. -/
def longest (objects : OrderedMap String ObjectAnnotations) : Nat :=
  (objects.values.flatMap fun object => object.origins.entries).length + 2

/-- The columns that have or inherit annotations. -/
def columns (objects : OrderedMap String ObjectAnnotations) : List Origin :=
  objects.entries.flatMap fun (name, object) =>
    (object.fields.keys ++ object.origins.keys).map fun column => Origin.fold ⟨name, column⟩

/-- Finds the annotations of a column and keeps them. -/
def learn (objects : OrderedMap String ObjectAnnotations)
    (known : OrderedMap Origin (Option Annotations)) (key : Origin) :
    OrderedMap Origin (Option Annotations) :=
  known.put key (find objects known (longest objects) [] key)

/-- The columns that the objects pass on to each other may form circles. -/
def ofObjects (objects : OrderedMap String ObjectAnnotations) : Inheritance :=
  let folded : OrderedMap String ObjectAnnotations :=
    .ofList (objects.entries.map fun (name, object) => (Text.foldLower name, object.fold))
  ⟨folded, (columns folded).foldl (learn folded) .empty⟩

def ofTable (table : Table) : ObjectAnnotations := ⟨table.fieldAnnotations, .empty⟩

def ofView (view : View) : ObjectAnnotations :=
  -- of several columns with one name the last one that is copied counts
  ⟨view.fieldAnnotations, .ofList (view.columns.filterMap fun c =>
    c.origin.map fun origin => (c.name, ⟨origin, c.joinedNullable⟩))⟩

def ofCatalog (catalog : Catalog) : Inheritance :=
  ofObjects (.ofList
    ((catalog.tables.values.map fun table => (table.name, ofTable table)) ++
      catalog.views.values.map fun view => (view.name, ofView view)))

def annotations? (inheritance : Inheritance) (object column : String) : Option Annotations :=
  (inheritance.known.get? (Origin.fold ⟨object, column⟩)).join

def overrides? (inheritance : Inheritance) (object column : String) :
    Except AnnotationsError (Option FieldOverrides) :=
  match inheritance.annotations? object column with
  | some map => some <$> FieldOverrides.ofAnnotations column map
  | none => .ok none

end Inheritance

/-- Whether the annotations declare a dynamic field. -/
def Annotations.isDynamic (map : Annotations) : Bool :=
  ((map.get? Key.isDynamicField).bind Value.bool?).getD false

/-- The dynamic fields declared on a table or view itself. -/
def Inheritance.dynamicFields (inheritance : Inheritance) (object : String) :
    List (String × Annotations) :=
  match inheritance.objects.get? (Text.foldLower object) with
  | some declared => declared.fields.entries.filter fun entry => Annotations.isDynamic entry.2
  | none => []

end TypedRows
