import Mathlib.Data.List.Basic
import TypedRows.Sql.Statement

/-! Which columns of a declared table can hold no null. A key counts in either place where it can
be declared, and a key column of one of the integer types is taken for the row number. Only a type
that is called `INTEGER` makes it one. -/

namespace TypedRows

theorem Text.toUpper_toLower (c : Char) : c.toLower.toUpper = c.toUpper := by
  by_cases upper : c.val ≥ 'A'.val ∧ c.val ≤ 'Z'.val
  · have each : ∀ n ≤ 90, (Char.ofNat n).toLower.toUpper = (Char.ofNat n).toUpper := by decide
    have most : c.toNat ≤ 90 := UInt32.le_iff_toNat_le.mp upper.2
    have told := each c.toNat most
    rwa [Char.ofNat_toNat] at told
  · have same : c.toLower = c := dif_neg upper
    rw [same]

namespace Sql

namespace ColumnOption

def isNotNull : ColumnOption → Bool
  | notNull => true
  | _ => false

def isPrimaryKey : ColumnOption → Bool
  | primaryKey => true
  | _ => false

def default? : ColumnOption → Option String
  | default value => some value.print
  | _ => none

end ColumnOption

namespace ColumnSyntax

def isNotNull (column : ColumnSyntax) : Bool := column.options.any ColumnOption.isNotNull

/-- Whether the column is declared to be the key in its own place. -/
def isKey (column : ColumnSyntax) : Bool := column.options.any ColumnOption.isPrimaryKey

/-- Of several defaults the last one counts. -/
def default? (column : ColumnSyntax) : Option String :=
  column.options.reverse.findSome? ColumnOption.default?

end ColumnSyntax

/-- The place of a name: that of the first of the names that is spelled so in some case. -/
def position? (names : List String) (name : String) : Option Nat :=
  names.findIdx? fun own => Text.sameName own name

namespace ColumnDecl

theorem foldl_applyOption (options : List ColumnOption) (column : ColumnDecl) :
    options.foldl applyOption column = {
      column with
      notNull := column.notNull || options.any ColumnOption.isNotNull
      primaryKey := column.primaryKey || options.any ColumnOption.isPrimaryKey
      default := (options.reverse.findSome? ColumnOption.default?).or column.default } := by
  induction options generalizing column with
  | nil => simp
  | cons option rest ih =>
    rw [List.foldl_cons, ih]
    cases option <;>
      simp [applyOption, ColumnOption.isNotNull, ColumnOption.isPrimaryKey,
        ColumnOption.default?]

theorem ofSyntax_eq (column : ColumnSyntax) : ofSyntax column = {
    name := column.name
    type := column.type
    notNull := column.isNotNull || (column.isKey && isIntegerType column.type)
    primaryKey := column.isKey
    default := column.default? } := by
  rw [ofSyntax, foldl_applyOption, ColumnSyntax.isKey]
  cases column.options.any ColumnOption.isPrimaryKey <;>
    simp [makeKey, ColumnSyntax.isNotNull, ColumnSyntax.default?]

theorem getElem?_markKey (sole : Bool) (name : String) (columns : List ColumnDecl) (i : Nat) :
    (markKey sole name columns)[i]? = columns[i]?.map fun column =>
      if position? (columns.map ColumnDecl.name) name = some i then column.makeKey sole
      else column := by
  induction columns generalizing i with
  | nil => simp [markKey]
  | cons column rest ih =>
    rw [markKey, List.map_cons, position?, List.findIdx?_cons]
    by_cases found : Text.sameName column.name name = true
    · cases i <;> simp [found]
    · cases i with
      | zero => simp [found]
      | succ i =>
        by_cases here : position? (rest.map ColumnDecl.name) name = some i <;>
          simp_all [position?]

theorem names_markKey (sole : Bool) (name : String) (columns : List ColumnDecl) :
    (markKey sole name columns).map ColumnDecl.name = columns.map ColumnDecl.name := by
  induction columns with
  | nil => rfl
  | cons column rest ih =>
    rw [markKey]
    split
    · rfl
    · rw [List.map_cons, ih, List.map_cons]

/-- Columns that are marked one after the other: each is marked if one of the marks names it. -/
theorem getElem?_foldl_markKey (marks : List (Bool × String)) (columns : List ColumnDecl)
    (i : Nat) :
    (marks.foldl (fun columns mark => markKey mark.1 mark.2 columns) columns)[i]? =
      columns[i]?.map fun column => {
        column with
        notNull := column.notNull || (isIntegerType column.type && marks.any fun mark =>
          mark.1 && position? (columns.map ColumnDecl.name) mark.2 = some i)
        primaryKey := column.primaryKey || marks.any fun mark =>
          position? (columns.map ColumnDecl.name) mark.2 = some i } := by
  induction marks generalizing columns with
  | nil => simp
  | cons mark rest ih =>
    rw [List.foldl_cons, ih, getElem?_markKey]
    simp only [names_markKey, List.any_cons]
    cases columns[i]? with
    | none => rfl
    | some column =>
      by_cases here : position? (columns.map ColumnDecl.name) mark.2 = some i
      · simp only [here, if_true, Option.map_some, makeKey, decide_true, Bool.true_and,
          Bool.true_or, Bool.or_true, Bool.and_or_distrib_left, Bool.or_assoc,
          Bool.and_comm mark.1]
      · simp [here]

end ColumnDecl

namespace TableSyntax

/-- The place of the column that a key means by a name: the first that has it. -/
def position? (table : TableSyntax) (name : String) : Option Nat :=
  Sql.position? (table.columns.map ColumnSyntax.name) name

def IsOwnKey (table : TableSyntax) (i : Nat) : Prop :=
  ∃ column, table.columns[i]? = some column ∧ column.isKey = true

/-- The column is a key or part of one, declared in its own place or behind the columns. -/
def IsKey (table : TableSyntax) (i : Nat) : Prop :=
  table.IsOwnKey i ∨ ∃ key ∈ table.primaryKeys, ∃ name ∈ key, table.position? name = some i

/-- The column is declared to be a key by itself. -/
def IsSingleKey (table : TableSyntax) (i : Nat) : Prop :=
  table.IsOwnKey i ∨ ∃ name, [name] ∈ table.primaryKeys ∧ table.position? name = some i

/-- The column is a key by itself and no other column is a key or part of one. -/
def IsOnlyKey (table : TableSyntax) (i : Nat) : Prop :=
  table.IsSingleKey i ∧ ∀ j, table.IsKey j → j = i

/-- The table with other options for a column and other keys behind the columns. -/
def declaring (table : TableSyntax) (i : Nat) (options : List ColumnOption)
    (keys : List (List String)) : TableSyntax :=
  { table with
    columns := table.columns.modify i fun column => { column with options }
    primaryKeys := keys }

/-- What the keys behind the columns say, name by name. -/
def marks (table : TableSyntax) : List (Bool × String) :=
  table.primaryKeys.flatMap fun key => key.map fun name => (decide (key.length = 1), name)

theorem mem_marks {table : TableSyntax} {mark : Bool × String} :
    mark ∈ table.marks ↔
      ∃ key ∈ table.primaryKeys, mark.2 ∈ key ∧ mark.1 = decide (key.length = 1) := by
  obtain ⟨sole, name⟩ := mark
  simp only [marks, List.mem_flatMap, List.mem_map, Prod.mk.injEq]
  constructor
  · rintro ⟨key, declared, _, member, rfl, rfl⟩
    exact ⟨key, declared, member, rfl⟩
  · rintro ⟨key, declared, member, rfl⟩
    exact ⟨key, declared, name, member, rfl, rfl⟩

theorem any_marks {table : TableSyntax} {i : Nat} :
    (table.marks.any fun mark => table.position? mark.2 = some i) = true ↔
      ∃ key ∈ table.primaryKeys, ∃ name ∈ key, table.position? name = some i := by
  simp only [List.any_eq_true, mem_marks, decide_eq_true_eq]
  constructor
  · rintro ⟨mark, ⟨key, declared, member, _⟩, here⟩
    exact ⟨key, declared, mark.2, member, here⟩
  · rintro ⟨key, declared, name, member, here⟩
    exact ⟨(_, name), ⟨key, declared, member, rfl⟩, here⟩

theorem any_sole_marks {table : TableSyntax} {i : Nat} :
    (table.marks.any fun mark => mark.1 && table.position? mark.2 = some i) = true ↔
      ∃ name, [name] ∈ table.primaryKeys ∧ table.position? name = some i := by
  simp only [List.any_eq_true, mem_marks, Bool.and_eq_true, decide_eq_true_eq]
  constructor
  · rintro ⟨mark, ⟨key, declared, member, sole⟩, alone, here⟩
    rw [sole, decide_eq_true_eq, List.length_eq_one_iff] at alone
    obtain ⟨name, rfl⟩ := alone
    rw [List.mem_singleton.mp member] at here
    exact ⟨name, declared, here⟩
  · rintro ⟨name, declared, here⟩
    exact ⟨(true, name), ⟨[name], declared, List.mem_singleton_self name, rfl⟩, rfl, here⟩

end TableSyntax

namespace TableDecl

theorem foldl_applyKey (keys : List (List String)) (columns : List ColumnDecl) :
    keys.foldl applyKey columns =
      (keys.flatMap fun key => key.map fun name => (decide (key.length = 1), name)).foldl
        (fun columns mark => ColumnDecl.markKey mark.1 mark.2 columns) columns := by
  induction keys generalizing columns with
  | nil => rfl
  | cons key rest ih =>
    rw [List.foldl_cons, ih, List.flatMap_cons, List.foldl_append, List.foldl_map]
    rfl

/-- What is declared of the column in a place of the table. -/
structure Declares (table : TableSyntax) (i : Nat) (column : ColumnSyntax)
    (declared : ColumnDecl) : Prop where
  name : declared.name = column.name
  type : declared.type = column.type
  default : declared.default = column.default?
  primaryKey : declared.primaryKey = true ↔ table.IsKey i
  notNull : declared.notNull = true ↔ column.isNotNull = true ∨
    isIntegerType column.type = true ∧ table.IsSingleKey i

/-- What is declared depends on the column and on which keys it is part of. -/
theorem Declares.eq_of_same {table other : TableSyntax} {i : Nat} {column changed : ColumnSyntax}
    {a b : ColumnDecl} (ha : Declares table i column a) (hb : Declares other i changed b)
    (name : column.name = changed.name) (type : column.type = changed.type)
    (default : column.default? = changed.default?)
    (isNotNull : column.isNotNull = changed.isNotNull) (key : table.IsKey i ↔ other.IsKey i)
    (single : table.IsSingleKey i ↔ other.IsSingleKey i) : a = b := by
  have primaryKey : a.primaryKey = b.primaryKey := by
    rw [Bool.eq_iff_iff, ha.primaryKey, hb.primaryKey, key]
  have notNull : a.notNull = b.notNull := by
    rw [Bool.eq_iff_iff, ha.notNull, hb.notNull, isNotNull, type, single]
  cases a
  cases b
  rw [ColumnDecl.mk.injEq]
  exact ⟨(ha.name.trans name).trans hb.name.symm, (ha.type.trans type).trans hb.type.symm,
    notNull, primaryKey, (ha.default.trans default).trans hb.default.symm⟩

variable {table : TableSyntax} {decl : TableDecl}

theorem ofSyntax?_eq (supported : table.fromQuery = false) : ofSyntax? table = some {
    name := table.name
    columns := table.primaryKeys.foldl applyKey (table.columns.map ColumnDecl.ofSyntax)
    withoutRowid := table.withoutRowid } := by
  rw [ofSyntax?, supported, if_neg Bool.false_ne_true]

theorem getElem?_columns (made : ofSyntax? table = some decl) (i : Nat) :
    decl.columns[i]? = table.columns[i]?.map fun column => {
      name := column.name
      type := column.type
      notNull := column.isNotNull || (column.isKey && isIntegerType column.type) ||
        (isIntegerType column.type &&
          table.marks.any fun mark => mark.1 && table.position? mark.2 = some i)
      primaryKey := column.isKey ||
        table.marks.any fun mark => table.position? mark.2 = some i
      default := column.default? } := by
  have names : (table.columns.map ColumnDecl.ofSyntax).map ColumnDecl.name =
      table.columns.map ColumnSyntax.name := by
    simp only [List.map_map, Function.comp_def, ColumnDecl.ofSyntax_eq]
  rw [ofSyntax?] at made
  split at made
  · cases made
  · cases made
    dsimp only
    rw [foldl_applyKey, ColumnDecl.getElem?_foldl_markKey]
    simp only [names, List.getElem?_map, Option.map_map]
    simp only [Function.comp_def, ColumnDecl.ofSyntax_eq, TableSyntax.marks]
    rfl

/-- Each column is declared in its place as the options and the keys have it. -/
theorem exists_declared (made : ofSyntax? table = some decl) {i : Nat} {column : ColumnSyntax}
    (here : table.columns[i]? = some column) :
    ∃ declared, decl.columns[i]? = some declared ∧ Declares table i column declared := by
  have own : table.IsOwnKey i ↔ column.isKey = true := by
    simp [TableSyntax.IsOwnKey, here]
  have columns := getElem?_columns made i
  rw [here, Option.map_some] at columns
  refine ⟨_, columns, rfl, rfl, rfl, ?_, ?_⟩
  · rw [Bool.or_eq_true, TableSyntax.any_marks, ← own]
    rfl
  · rw [Bool.or_eq_true, Bool.or_eq_true, Bool.and_eq_true, Bool.and_eq_true,
      TableSyntax.any_sole_marks, ← own, TableSyntax.IsSingleKey]
    tauto

end TableDecl

/-! A key of one column may stand in the place of the column or behind the columns. -/

namespace TableSyntax

variable {table : TableSyntax} {i : Nat} {options : List ColumnOption} {keys : List (List String)}

theorem getElem?_declaring (j : Nat) : (table.declaring i options keys).columns[j]? =
    table.columns[j]?.map fun column => if i = j then { column with options } else column := by
  rw [declaring, List.getElem?_modify]
  rfl

theorem position?_declaring (name : String) :
    (table.declaring i options keys).position? name = table.position? name := by
  have names : ((table.declaring i options keys).columns.map ColumnSyntax.name) =
      table.columns.map ColumnSyntax.name := by
    refine List.ext_getElem? fun j => ?_
    rw [List.getElem?_map, getElem?_declaring, List.getElem?_map]
    cases table.columns[j]? with
    | none => rfl
    | some column => by_cases here : i = j <;> simp [here]
  rw [position?, names, position?]

theorem isOwnKey_declaring_of_ne {j : Nat} (other : j ≠ i) :
    (table.declaring i options keys).IsOwnKey j ↔ table.IsOwnKey j := by
  have apart : ¬i = j := fun same => other same.symm
  simp [IsOwnKey, getElem?_declaring, apart]

theorem isOwnKey_declaring {column : ColumnSyntax} (here : table.columns[i]? = some column)
    (key : options.any ColumnOption.isPrimaryKey = true) :
    (table.declaring i options keys).IsOwnKey i := by
  refine ⟨{ column with options }, ?_, key⟩
  rw [getElem?_declaring, here, Option.map_some, if_pos rfl]

section Moved

variable {name : String} {before after : List ColumnOption} {earlier later : List (List String)}

/-- The table with the key of one column in the place of the column. -/
abbrev inPlace (table : TableSyntax) (i : Nat) (before after : List ColumnOption)
    (earlier later : List (List String)) : TableSyntax :=
  table.declaring i (before ++ .primaryKey :: after) (earlier ++ later)

/-- The table with the key of one column behind the columns. -/
abbrev behind (table : TableSyntax) (i : Nat) (name : String) (before after : List ColumnOption)
    (earlier later : List (List String)) : TableSyntax :=
  table.declaring i (before ++ after) (earlier ++ [name] :: later)

theorem exists_of_position? (named : table.position? name = some i) :
    ∃ column, table.columns[i]? = some column := by
  obtain ⟨inside, _⟩ := List.findIdx?_eq_some_iff_getElem.mp named
  exact ⟨_, List.getElem?_eq_getElem (by simpa using inside)⟩

theorem isOwnKey_inPlace (named : table.position? name = some i) :
    (table.inPlace i before after earlier later).IsOwnKey i := by
  obtain ⟨column, here⟩ := exists_of_position? named
  exact isOwnKey_declaring here (by simp [ColumnOption.isPrimaryKey])

theorem isKey_moved (named : table.position? name = some i) (j : Nat) :
    (table.inPlace i before after earlier later).IsKey j ↔
      (table.behind i name before after earlier later).IsKey j := by
  by_cases same : j = i
  · subst same
    refine iff_of_true (.inl (isOwnKey_inPlace named)) (.inr ⟨[name], ?_, name, ?_, ?_⟩)
    · exact List.mem_append_right _ List.mem_cons_self
    · exact List.mem_singleton_self name
    · exact (position?_declaring name).trans named
  · have apart : ¬i = j := fun e => same e.symm
    simp only [IsKey, isOwnKey_declaring_of_ne same, position?_declaring]
    simp [declaring, or_and_right, exists_or, named, apart]

theorem isSingleKey_moved (named : table.position? name = some i) (j : Nat) :
    (table.inPlace i before after earlier later).IsSingleKey j ↔
      (table.behind i name before after earlier later).IsSingleKey j := by
  by_cases same : j = i
  · subst same
    refine iff_of_true (.inl (isOwnKey_inPlace named)) (.inr ⟨name, ?_, ?_⟩)
    · exact List.mem_append_right _ List.mem_cons_self
    · exact (position?_declaring name).trans named
  · have apart : ¬i = j := fun e => same e.symm
    simp only [IsSingleKey, isOwnKey_declaring_of_ne same, position?_declaring]
    simp [declaring, or_and_right, exists_or, named, apart]

theorem columns_moved (named : table.position? name = some i) {first second : TableDecl}
    (made : TableDecl.ofSyntax? (table.inPlace i before after earlier later) = some first)
    (made' : TableDecl.ofSyntax? (table.behind i name before after earlier later) = some second) :
    first.columns = second.columns := by
  refine List.ext_getElem? fun j => ?_
  cases here : table.columns[j]? with
  | none =>
    rw [TableDecl.getElem?_columns made, TableDecl.getElem?_columns made', getElem?_declaring,
      getElem?_declaring, here]
    rfl
  | some column =>
    have options : ∀ given keys, (table.declaring i given keys).columns[j]? =
        some (if i = j then { column with options := given } else column) := by
      intro given keys
      rw [getElem?_declaring, here, Option.map_some]
    obtain ⟨a, storedA, declaredA⟩ := TableDecl.exists_declared made (options _ _)
    obtain ⟨b, storedB, declaredB⟩ := TableDecl.exists_declared made' (options _ _)
    rw [storedA, storedB, Option.some.injEq]
    refine declaredA.eq_of_same declaredB ?_ ?_ ?_ ?_ (isKey_moved named j)
      (isSingleKey_moved named j)
    · split <;> rfl
    · split <;> rfl
    · split
      · simp [ColumnSyntax.default?, ColumnOption.default?, List.findSome?_cons]
      · rfl
    · split
      · simp [ColumnSyntax.isNotNull, ColumnOption.isNotNull]
      · rfl

/-- Moving a key between its two places changes nothing of what is declared. -/
theorem ofSyntax?_moved (named : table.position? name = some i) :
    TableDecl.ofSyntax? (table.inPlace i before after earlier later) =
      TableDecl.ofSyntax? (table.behind i name before after earlier later) := by
  cases query : table.fromQuery with
  | true => simp [TableDecl.ofSyntax?, declaring, query]
  | false =>
    have first : TableDecl.ofSyntax? (table.inPlace i before after earlier later) = _ :=
      TableDecl.ofSyntax?_eq query
    have second : TableDecl.ofSyntax? (table.behind i name before after earlier later) = _ :=
      TableDecl.ofSyntax?_eq query
    have columns := columns_moved named first second
    rw [first, second, Option.some.injEq, TableDecl.mk.injEq]
    exact ⟨rfl, columns, rfl⟩

end Moved

end TableSyntax

/-- Whether a type is the one by which a key stands for the row number. -/
def namesInteger (type : Option String) : Bool :=
  type.any fun t => Text.sameName t "INTEGER"

theorem isIntegerType_of_namesInteger {type : Option String} (h : namesInteger type = true) :
    isIntegerType type = true := by
  cases type with
  | none => cases h
  | some t =>
    have lower : t.toList.map Char.toLower = "INTEGER".toList.map Char.toLower := by
      simpa [namesInteger, Text.sameName_eq_toList] using h
    have upper : (Text.foldUpper t).toList = "INTEGER".toList := by
      have raised := congrArg (List.map Char.toUpper) lower
      simpa [Text.foldUpper, String.toUpper, Function.comp_def, Text.toUpper_toLower] using raised
    rw [isIntegerType, Text.contains, upper]
    decide

namespace TableDecl

/-- A column is said to hold no null if it is declared so or is a key by itself with a type whose
name has `INT` in it. The database promises no more than this: that it is declared so or is the only
key and of the type `INTEGER`. Both are the same for a column exactly if it is declared so, or if,
being such a key, it is the only one and of that type. The place of a key makes no difference. -/
theorem notNull_promised_iff {table : TableSyntax} {decl : TableDecl}
    (made : ofSyntax? table = some decl) :
    (∀ i column, table.columns[i]? = some column → ∃ declared, decl.columns[i]? = some declared ∧
      Declares table i column declared ∧
      ((declared.notNull = true ↔ column.isNotNull = true ∨
          table.IsOnlyKey i ∧ namesInteger column.type = true) ↔
        column.isNotNull = true ∨
          (table.IsSingleKey i → isIntegerType column.type = true →
            table.IsOnlyKey i ∧ namesInteger column.type = true))) ∧
    ∀ i name, table.position? name = some i → ∀ before after earlier later,
      ofSyntax? (table.inPlace i before after earlier later) =
        ofSyntax? (table.behind i name before after earlier later) := by
  refine ⟨fun i column here => ?_, fun i name named before after earlier later => ?_⟩
  · obtain ⟨declared, stored, declares⟩ := exists_declared made here
    refine ⟨declared, stored, declares, ?_⟩
    have single : table.IsOnlyKey i → table.IsSingleKey i := And.left
    have integer : namesInteger column.type = true → isIntegerType column.type = true :=
      isIntegerType_of_namesInteger
    rw [declares.notNull]
    tauto
  · exact TableSyntax.ofSyntax?_moved named

/-- `CREATE TABLE t (label TEXT, id BIGINT PRIMARY KEY)` -/
def longKey : TableSyntax :=
  ⟨"t", [⟨"label", some "TEXT", []⟩, ⟨"id", some "BIGINT", [.primaryKey]⟩], [], false, false⟩

theorem notNull_longKey : ∃ decl declared, ofSyntax? longKey = some decl ∧
    decl.columns[1]? = some declared ∧ declared.notNull = true ∧
    ¬(declared.notNull = true ↔ longKey.IsOnlyKey 1 ∧ namesInteger (some "BIGINT") = true) ∧
    longKey.position? "ID" = some 1 ∧
    ofSyntax? (longKey.inPlace 1 [] [.notNull] [] []) =
      ofSyntax? (longKey.behind 1 "ID" [] [.notNull] [] []) := by
  obtain ⟨decl, made⟩ : ∃ decl, ofSyntax? longKey = some decl := ⟨_, rfl⟩
  obtain ⟨each, moved⟩ := notNull_promised_iff made
  obtain ⟨declared, stored, declares, promised⟩ := each 1 _ rfl
  have single : longKey.IsSingleKey 1 := .inl ⟨_, rfl, rfl⟩
  have integer : isIntegerType (some "BIGINT") = true := by decide +kernel
  have other : namesInteger (some "BIGINT") = false := by
    simp only [namesInteger, Option.any_some, Text.sameName_eq_toList]
    decide
  have position : longKey.position? "ID" = some 1 := by
    simp only [TableSyntax.position?, Sql.position?, Text.sameName_eq_toList]
    decide
  have claimed : declared.notNull = true := declares.notNull.mpr (.inr ⟨integer, single⟩)
  refine ⟨decl, declared, made, stored, claimed, ?_, position,
    moved 1 "ID" position [] [.notNull] [] []⟩
  simp [claimed, other]

end TableDecl

end Sql

end TypedRows
