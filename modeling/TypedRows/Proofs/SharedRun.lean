import TypedRows.Proofs.MapLookup
import TypedRows.SharedResult

/-! Runs of the registry of shared results. What it holds under a name is told by the accepted
calls under that name alone: the first of them, and the names that any of them lists. -/

namespace TypedRows

theorem eraseDups_snoc (xs : List String) (x : String) :
    (xs ++ [x]).eraseDups = if x ∈ xs then xs.eraseDups else xs.eraseDups ++ [x] := by
  rw [List.eraseDups_append]
  have alone : [x].eraseDups = [x] := rfl
  by_cases member : x ∈ xs <;> simp [List.removeAll, member, alone]

theorem union_eraseDups (xs ys : List String) : union xs.eraseDups ys = (xs ++ ys).eraseDups := by
  induction ys generalizing xs with
  | nil => simp [union]
  | cons y rest ih =>
    have step : union xs.eraseDups (y :: rest) = union (xs ++ [y]).eraseDups rest := by
      rw [eraseDups_snoc]
      by_cases member : y ∈ xs <;> simp [union, member]
    rw [step, ih, List.append_assoc, List.singleton_append]

namespace SharedResults

structure Call where
  statement : TypedStatement
  «namespace» : String

namespace Call

def key? (call : Call) : Option ResultKey :=
  call.statement.overrides.queryResult.map fun name => ⟨call.namespace, name⟩

def outcome (call : Call) (results : SharedResults) : Except Error SharedResult × SharedResults :=
  (registration call.statement call.namespace).run.run results

def accepted (call : Call) (results : SharedResults) : Bool := (call.outcome results).1.isOk

def after (call : Call) (results : SharedResults) : SharedResults := (call.outcome results).2

def implements (call : Call) : List String := call.statement.overrides.implements

def excludes (call : Call) : List String := call.statement.overrides.excludeOverrideFields

end Call

def run (results : SharedResults) (calls : List Call) : SharedResults :=
  calls.foldl (fun results call => call.after results) results

/-- The calls of a run that are accepted. -/
def acceptedOf (results : SharedResults) : List Call → List Call
  | [] => []
  | call :: rest =>
    if call.accepted results then call :: acceptedOf (call.after results) rest
    else acceptedOf (call.after results) rest

def under (key : ResultKey) (calls : List Call) : List Call :=
  calls.filter fun call => call.key? = some key

/-- The result that accepted calls under one name come to. -/
def resultOf (key : ResultKey) : List Call → Option SharedResult
  | [] => none
  | first :: rest => some {
    SharedResult.ofStatement key first.statement with
    implements := ((first :: rest).flatMap Call.implements).eraseDups }

def excludedBy (calls : List Call) : List String := (calls.flatMap Call.excludes).eraseDups

def enter (results : SharedResults) (key : ResultKey) (statement : TypedStatement) :
    SharedResults :=
  ⟨results.results.put key (results.shared key statement),
    (results.exclude key statement).excluded⟩

theorem run_registration {statement : TypedStatement} {space name : String}
    (results : SharedResults) (named : statement.overrides.queryResult = some name) :
    (registration statement space).run.run results =
      match results.agree ⟨space, name⟩ statement with
      | .ok () => (.ok (results.shared ⟨space, name⟩ statement),
          results.enter ⟨space, name⟩ statement)
      | .error e => (.error e, results) := by
  unfold registration
  rw [named]
  change (liftExcept (results.agree ⟨space, name⟩ statement) >>= _ : Registration _).run.run
    results = _
  cases results.agree ⟨space, name⟩ statement <;> rfl

/-- A call is refused and changes nothing, or it is accepted under its name. -/
theorem call_cases (call : Call) (results : SharedResults) :
    (call.accepted results = false ∧ call.after results = results) ∨
    (call.accepted results = true ∧ ∃ key, call.key? = some key ∧
      call.after results = results.enter key call.statement) := by
  obtain ⟨statement, space⟩ := call
  unfold Call.accepted Call.after Call.outcome Call.key?
  cases named : statement.overrides.queryResult with
  | none =>
    left
    unfold registration
    rw [named]
    exact ⟨rfl, rfl⟩
  | some name =>
    rw [run_registration results named]
    cases results.agree ⟨space, name⟩ statement with
    | error e => exact .inl ⟨rfl, rfl⟩
    | ok _ => exact .inr ⟨rfl, ⟨space, name⟩, rfl, rfl⟩

/-- What the registry holds under each name is told by the accepted calls. -/
structure Tells (accepted : List Call) (results : SharedResults) : Prop where
  result : ∀ key, results.get? key = resultOf key (under key accepted)
  excluded : ∀ key, results.excludedOf key = excludedBy (under key accepted)

theorem resultOf_snoc {key : ResultKey} {calls : List Call} {call : Call}
    {results : SharedResults} (known : results.get? key = resultOf key calls) :
    resultOf key (calls ++ [call]) = some (results.shared key call.statement) := by
  rw [shared, known]
  -- the first call brings its statement, each later one only what it implements
  cases calls with
  | nil =>
    have listed : union [] call.implements = call.implements.eraseDups :=
      union_eraseDups [] call.implements
    simp only [List.nil_append, resultOf, List.flatMap_singleton, ← listed]
    rfl
  | cons first rest =>
    have listed := union_eraseDups ((first :: rest).flatMap Call.implements) call.implements
    simp only [resultOf, Option.getD_some, Option.some.injEq, List.cons_append]
    congr 1
    rw [← List.cons_append, List.flatMap_append, List.flatMap_singleton]
    exact listed.symm

theorem under_snoc {call : Call} {key : ResultKey} (named : call.key? = some key)
    (calls : List Call) (k : ResultKey) :
    under k (calls ++ [call]) = if k = key then under k calls ++ [call] else under k calls := by
  rw [under, List.filter_append]
  by_cases same : k = key
  · simp [same, named, under]
  · have other : key ≠ k := fun e => same e.symm
    simp [same, named, other, under]

theorem Tells.enter {accepted : List Call} {results : SharedResults} {call : Call}
    {key : ResultKey} (tells : Tells accepted results) (named : call.key? = some key) :
    Tells (accepted ++ [call]) (results.enter key call.statement) where
  result k := by
    change (results.results.put key _).get? k = _
    rw [OrderedMap.get?_put, under_snoc named]
    by_cases same : k = key
    · subst same
      rw [if_pos rfl, if_pos rfl]
      exact (resultOf_snoc (tells.result k)).symm
    · rw [if_neg same, if_neg same]
      exact tells.result k
  excluded k := by
    change ((results.excluded.put key _).get? k).getD [] = _
    rw [OrderedMap.get?_put, under_snoc named]
    by_cases same : k = key
    · subst same
      rw [if_pos rfl, if_pos rfl, Option.getD_some, tells.excluded k, excludedBy,
        union_eraseDups, excludedBy, List.flatMap_append, List.flatMap_singleton]
      rfl
    · rw [if_neg same, if_neg same]
      exact tells.excluded k

theorem Tells.run {accepted : List Call} {results : SharedResults}
    (tells : Tells accepted results) (calls : List Call) :
    Tells (accepted ++ acceptedOf results calls) (run results calls) := by
  induction calls generalizing accepted results with
  | nil =>
    rw [acceptedOf, List.append_nil]
    exact tells
  | cons call rest ih =>
    rw [acceptedOf, SharedResults.run, List.foldl_cons]
    -- a refused call is none of the accepted ones and leaves the registry alone
    rcases call_cases call results with ⟨refused, same⟩ | ⟨taken, key, named, next⟩
    · rw [if_neg (by simp [refused]), same]
      exact ih tells
    · rw [if_pos taken, next, ← List.singleton_append, ← List.append_assoc]
      exact ih (tells.enter named)

theorem tells_run (calls : List Call) : Tells (acceptedOf empty calls) (run empty calls) := by
  have start : Tells [] empty := ⟨fun _ => rfl, fun _ => rfl⟩
  exact start.run calls

/-- A statement with the result `rows`. -/
def rowsStatement (name : String) (fields : List Field) (implements excluded : List String) :
    TypedStatement :=
  ⟨name, "n", "", "", .select, ⟨some "rows", none, implements, excluded, .snake, .empty⟩, fields,
    [], [], .empty, [], none⟩

def extraField : Field :=
  ⟨"x", .unknown "x", .empty, ⟨none, none, none, false, none, none, false, none⟩, "x", "i64",
    none, true, false⟩

end SharedResults

end TypedRows
