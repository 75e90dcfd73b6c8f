import TypedRows.OrderedMap
import Mathlib.Data.List.Nodup

/-! Lookups in maps that keep the order of insertion. -/

namespace TypedRows.OrderedMap

variable {κ α β : Type} [DecidableEq κ]

theorem find?_putEntry (key k : κ) (value : α) (entries : List (κ × α)) :
    ((putEntry key value entries).find? (·.1 = k)).map Prod.snd =
      if k = key then some value else (entries.find? (·.1 = k)).map Prod.snd := by
  induction entries with
  | nil =>
    by_cases same : k = key
    · simp [putEntry, same]
    · have other : key ≠ k := fun e => same e.symm
      simp [putEntry, same, other]
  | cons entry rest ih =>
    obtain ⟨first, old⟩ := entry
    rw [putEntry]
    by_cases put : first = key
    · rw [if_pos put]
      by_cases same : k = key
      · simp [put, same]
      · have other : key ≠ k := fun e => same e.symm
        simp [put, same, other]
    · rw [if_neg put]
      by_cases found : first = k
      · have other : k ≠ key := fun e => put (found.trans e)
        simp [found, other]
      · simp only [List.find?_cons, found, decide_false]
        exact ih

theorem get?_put (m : OrderedMap κ α) (key k : κ) (value : α) :
    (m.put key value).get? k = if k = key then some value else m.get? k :=
  find?_putEntry key k value m.entries

@[simp] theorem get?_put_self (m : OrderedMap κ α) (key : κ) (value : α) :
    (m.put key value).get? key = some value := by
  rw [get?_put, if_pos rfl]

theorem get?_put_of_ne (m : OrderedMap κ α) {key k : κ} (value : α) (other : k ≠ key) :
    (m.put key value).get? k = m.get? k := by
  rw [get?_put, if_neg other]

/-- Values put under different keys may be put in either order. -/
theorem get?_put_comm (m : OrderedMap κ α) {a b : κ} (x y : α) (other : a ≠ b) (k : κ) :
    ((m.put a x).put b y).get? k = ((m.put b y).put a x).get? k := by
  simp only [get?_put]
  by_cases ha : k = a
  · have hb : k ≠ b := fun e => other (ha.symm.trans e)
    rw [if_neg hb, if_pos ha, if_pos ha]
  · rw [if_neg ha, if_neg ha]

theorem get?_mapValues (f : α → β) (m : OrderedMap κ α) (key : κ) :
    (m.mapValues f).get? key = (m.get? key).map f := by
  simp [get?, mapValues, List.find?_map, Function.comp_def]

theorem contains_iff {m : OrderedMap κ α} {key : κ} :
    m.contains key = true ↔ ∃ value, m.get? key = some value := by
  rw [contains, Option.isSome_iff_exists]

theorem contains_eq_false_iff {m : OrderedMap κ α} {key : κ} :
    m.contains key = false ↔ m.get? key = none := by
  rw [contains, Option.isSome_eq_false_iff, Option.isNone_iff_eq_none]

theorem mem_keys_iff {m : OrderedMap κ α} {key : κ} : key ∈ m.keys ↔ m.contains key = true := by
  simp only [keys, contains, get?, Option.isSome_map, List.find?_isSome, List.mem_map,
    decide_eq_true_eq]

/-- A lookup in pairs with distinct keys finds each of them. -/
theorem find?_key_eq_some {entries : List (κ × α)} (distinct : (entries.map Prod.fst).Nodup)
    {key : κ} {value : α} :
    (entries.find? (·.1 = key)).map Prod.snd = some value ↔ (key, value) ∈ entries := by
  induction entries with
  | nil => simp
  | cons entry rest ih =>
    obtain ⟨first, old⟩ := entry
    obtain ⟨new, distinct⟩ := List.nodup_cons.mp distinct
    by_cases found : first = key
    · subst found
      have absent : (first, value) ∉ rest := fun h => new (List.mem_map.mpr ⟨_, h, rfl⟩)
      simp [absent, eq_comm]
    · have other : key ≠ first := fun e => found e.symm
      simp only [List.find?_cons, found, decide_false, List.mem_cons, Prod.mk.injEq, other,
        false_and, false_or]
      exact ih distinct

theorem get?_eq_some_iff {m : OrderedMap κ α} {key : κ} {value : α} :
    m.get? key = some value ↔ (key, value) ∈ m.entries :=
  find?_key_eq_some m.nodup

theorem mem_values_iff {m : OrderedMap κ α} {value : α} :
    value ∈ m.values ↔ ∃ key, m.get? key = some value := by
  simp [values, get?_eq_some_iff]

theorem get?_erase (m : OrderedMap κ α) (key k : κ) :
    (m.erase key).get? k = if k = key then none else m.get? k := by
  apply Option.ext
  intro value
  rw [get?_eq_some_iff, erase, List.mem_filter, ← get?_eq_some_iff]
  by_cases same : k = key <;> simp [same]

theorem get?_erase_of_ne (m : OrderedMap κ α) {key k : κ} (other : k ≠ key) :
    (m.erase key).get? k = m.get? k := by
  rw [get?_erase, if_neg other]

/-- Of several values put under one key the last is found. -/
theorem get?_putAll (m : OrderedMap κ α) (entries : List (κ × α)) (k : κ) :
    (m.putAll entries).get? k =
      ((entries.reverse.find? (·.1 = k)).map Prod.snd).or (m.get? k) := by
  induction entries generalizing m with
  | nil => rfl
  | cons entry rest ih =>
    change ((m.put entry.1 entry.2).putAll rest).get? k = _
    rw [ih, get?_put, List.reverse_cons, List.find?_append, Option.map_or, Option.or_assoc]
    congr 1
    by_cases same : k = entry.1
    · simp [same]
    · have other : entry.1 ≠ k := fun e => same e.symm
      simp [same, other]

theorem get?_ofList (entries : List (κ × α)) (k : κ) :
    (ofList entries : OrderedMap κ α).get? k =
      (entries.reverse.find? (·.1 = k)).map Prod.snd := by
  rw [ofList, get?_putAll]
  exact Option.or_none

theorem mem_of_get?_ofList {entries : List (κ × α)} {k : κ} {value : α}
    (found : (ofList entries : OrderedMap κ α).get? k = some value) : (k, value) ∈ entries := by
  rw [get?_ofList] at found
  obtain ⟨⟨key, _⟩, first, rfl⟩ := Option.map_eq_some_iff.mp found
  have same : decide (key = k) = true :=
    List.find?_some (p := fun entry : κ × α => decide (entry.1 = k)) first
  obtain rfl := of_decide_eq_true same
  exact List.mem_reverse.mp (List.mem_of_find?_eq_some first)

theorem putEntry_new {key : κ} {entries : List (κ × α)} (new : key ∉ entries.map Prod.fst)
    (value : α) : putEntry key value entries = entries ++ [(key, value)] := by
  induction entries with
  | nil => rfl
  | cons entry rest ih =>
    rw [List.map_cons, List.mem_cons, not_or] at new
    rw [putEntry, if_neg fun e => new.1 e.symm, ih new.2]
    rfl

theorem entries_putAll {m : OrderedMap κ α} {entries : List (κ × α)}
    (distinct : ((m.entries ++ entries).map Prod.fst).Nodup) :
    (m.putAll entries).entries = m.entries ++ entries := by
  induction entries generalizing m with
  | nil => exact (List.append_nil _).symm
  | cons entry rest ih =>
    obtain ⟨key, value⟩ := entry
    have new : key ∉ m.entries.map Prod.fst := by
      rw [List.map_append, List.nodup_append] at distinct
      exact fun member => distinct.2.2 _ member _ List.mem_cons_self rfl
    have put : (m.put key value).entries = m.entries ++ [(key, value)] := putEntry_new new value
    change ((m.put key value).putAll rest).entries = _
    rw [ih, put, List.append_assoc, List.singleton_append]
    rw [put, List.append_assoc, List.singleton_append]
    exact distinct

/-- Pairs with distinct keys keep their order. -/
theorem entries_ofList {entries : List (κ × α)} (distinct : (entries.map Prod.fst).Nodup) :
    (ofList entries : OrderedMap κ α).entries = entries :=
  entries_putAll (m := empty) distinct

/-- The entries of a map make up the map. -/
theorem empty_putAll (m : OrderedMap κ α) : empty.putAll m.entries = m :=
  OrderedMap.ext (entries_ofList m.nodup)

theorem find?_reverse {entries : List (κ × α)} (distinct : (entries.map Prod.fst).Nodup) (k : κ) :
    (entries.reverse.find? (·.1 = k)).map Prod.snd =
      (entries.find? (·.1 = k)).map Prod.snd := by
  apply Option.ext
  intro value
  have reversed : (entries.reverse.map Prod.fst).Nodup := by
    rw [List.map_reverse]
    exact List.nodup_reverse.mpr distinct
  rw [find?_key_eq_some distinct, find?_key_eq_some reversed, List.mem_reverse]

theorem get?_ofList_of_nodup {entries : List (κ × α)} (distinct : (entries.map Prod.fst).Nodup)
    (k : κ) : (ofList entries : OrderedMap κ α).get? k =
      (entries.find? (·.1 = k)).map Prod.snd := by
  rw [get?_ofList, find?_reverse distinct]

theorem get?_putAll_entries (m top : OrderedMap κ α) (k : κ) :
    (m.putAll top.entries).get? k = (top.get? k).or (m.get? k) := by
  rw [get?_putAll, find?_reverse top.nodup]
  rfl

theorem keys_erase (m : OrderedMap κ α) (key : κ) :
    (m.erase key).keys = m.keys.filter (· ≠ key) := by
  rw [keys, keys, erase, List.filter_map]
  rfl

theorem keys_put (m : OrderedMap κ α) (key : κ) (value : α) :
    (m.put key value).keys = if m.contains key = true then m.keys else m.keys ++ [key] := by
  change (putEntry key value m.entries).map Prod.fst = _
  rw [keys_putEntry]
  exact if_congr mem_keys_iff rfl rfl

/-- Maps with the same keys in the same order are told by what is found in them. -/
theorem eq_of_get? {m n : OrderedMap κ α} (keys : m.keys = n.keys)
    (found : ∀ key, m.get? key = n.get? key) : m = n := by
  apply OrderedMap.ext
  refine List.ext_getElem (by simpa [OrderedMap.keys] using congrArg List.length keys) ?_
  intro i inM inN
  have key : m.entries[i].1 = n.entries[i].1 := by
    have := congrArg (fun names => names[i]?) keys
    simpa [OrderedMap.keys, inM, inN] using this
  have mine : m.get? m.entries[i].1 = some m.entries[i].2 :=
    get?_eq_some_iff.mpr (List.getElem_mem inM)
  have theirs : n.get? n.entries[i].1 = some n.entries[i].2 :=
    get?_eq_some_iff.mpr (List.getElem_mem inN)
  rw [found, key, theirs] at mine
  exact Prod.ext key (Option.some.inj mine).symm

/-- Keys that are there keep their place, and the others follow in their order. -/
theorem keys_putAll (m : OrderedMap κ α) {entries : List (κ × α)}
    (distinct : (entries.map Prod.fst).Nodup) :
    (m.putAll entries).keys = m.keys ++ (entries.map Prod.fst).filter (!m.contains ·) := by
  induction entries generalizing m with
  | nil => exact (List.append_nil _).symm
  | cons entry rest ih =>
    obtain ⟨new, distinct⟩ := List.nodup_cons.mp distinct
    change ((m.put entry.1 entry.2).putAll rest).keys = _
    rw [ih _ distinct, keys_put, List.map_cons, List.filter_cons]
    have later : ∀ key ∈ rest.map Prod.fst,
        (m.put entry.1 entry.2).contains key = m.contains key := by
      intro key member
      rw [contains, contains, get?_put_of_ne]
      exact fun same => new (same ▸ member)
    rw [List.filter_congr fun key member => congrArg (!·) (later key member)]
    by_cases known : m.contains entry.1 = true
    · rw [if_pos known, if_neg (by rw [known]; exact nofun)]
    · rw [if_neg known, if_pos (by simpa using known), List.append_assoc, List.singleton_append]

theorem putAll_put (m n : OrderedMap κ α) (key : κ) (value : α) :
    m.putAll (n.put key value).entries = (m.putAll n.entries).put key value := by
  refine eq_of_get? ?_ fun k => ?_
  · have mine : ∀ n : OrderedMap κ α,
        (m.putAll n.entries).keys = m.keys ++ n.keys.filter (!m.contains ·) :=
      fun n => keys_putAll m n.nodup
    have known : (m.putAll n.entries).contains key = (n.contains key || m.contains key) := by
      rw [contains, get?_putAll_entries, Option.isSome_or, contains, contains]
    rw [keys_put, known, mine, mine, keys_put]
    cases n.contains key <;> cases there : m.contains key <;> simp [there, List.filter_append]
  · rw [get?_putAll_entries, get?_put, get?_put, get?_putAll_entries]
    split <;> rfl

/-- What is laid over a map may be laid over what lies on it. -/
theorem putAll_putAll (m n : OrderedMap κ α) (entries : List (κ × α)) :
    m.putAll (n.putAll entries).entries = (m.putAll n.entries).putAll entries := by
  induction entries generalizing n with
  | nil => rfl
  | cons entry rest ih =>
    change m.putAll ((n.put entry.1 entry.2).putAll rest).entries = _
    rw [ih, putAll_put]
    rfl

theorem erase_of_absent {m : OrderedMap κ α} {key : κ} (absent : m.get? key = none) :
    m.erase key = m := by
  refine eq_of_get? ?_ fun k => ?_
  · rw [keys_erase]
    refine List.filter_eq_self.mpr fun k member => decide_eq_true fun same => ?_
    rw [mem_keys_iff, same, contains_eq_false_iff.mpr absent] at member
    exact Bool.false_ne_true member
  · rw [get?_erase]
    split
    · rename_i same
      rw [same, absent]
    · rfl

theorem erase_put_of_ne (m : OrderedMap κ α) {key k : κ} (value : α) (other : k ≠ key) :
    (m.put k value).erase key = (m.erase key).put k value := by
  refine eq_of_get? ?_ fun x => ?_
  · have kept : (m.erase key).contains k = m.contains k := by
      rw [contains, contains, get?_erase_of_ne m other]
    rw [keys_erase, keys_put, keys_put, keys_erase, kept]
    split
    · rfl
    · rw [List.filter_append, List.filter_singleton, decide_eq_true other]
      rfl
  · rw [get?_erase, get?_put, get?_put, get?_erase]
    by_cases here : x = key
    · rw [if_pos here, if_neg (fun same => other (same.symm.trans here)), if_pos here]
    · rw [if_neg here, if_neg here]

theorem erase_put_of_new {m : OrderedMap κ α} {key : κ} (new : m.get? key = none) (value : α) :
    (m.put key value).erase key = m := by
  refine eq_of_get? ?_ fun x => ?_
  · rw [keys_erase, keys_put, if_neg (by rw [contains_eq_false_iff.mpr new]; exact nofun),
      List.filter_append, List.filter_cons_of_neg (by simp), List.filter_nil, List.append_nil,
      ← keys_erase, erase_of_absent new]
  · rw [get?_erase, get?_put]
    split
    · rename_i same
      rw [same, new]
    · rfl

theorem values_putNew_subset (m : OrderedMap κ α) (key : κ) (value : α) :
    (m.putNew key value).values ⊆ value :: m.values := by
  rw [putNew]
  split
  · exact List.subset_cons_self _ _
  · intro v member
    obtain ⟨⟨k, _⟩, inside, rfl⟩ := List.mem_map.mp member
    have found := get?_eq_some_iff.mpr inside
    rw [get?_put] at found
    split at found
    · cases found
      exact List.mem_cons_self
    · exact List.mem_cons_of_mem _ (List.mem_map.mpr ⟨_, get?_eq_some_iff.mp found, rfl⟩)

theorem values_putAllNew_subset (m : OrderedMap κ α) (entries : List (κ × α)) :
    (m.putAllNew entries).values ⊆ m.values ++ entries.map Prod.snd := by
  induction entries generalizing m with
  | nil => exact List.subset_append_left _ _
  | cons entry rest ih =>
    intro v member
    obtain member | later := List.mem_append.mp (ih (m.putNew entry.1 entry.2) member)
    · obtain rfl | old := List.mem_cons.mp (values_putNew_subset m entry.1 entry.2 member)
      · exact List.mem_append_right _ List.mem_cons_self
      · exact List.mem_append_left _ old
    · exact List.mem_append_right _ (List.mem_cons_of_mem _ later)

/-- Whatever part of the keys is looked for, a value that was put anew is found last. -/
theorem find?_putNew (m : OrderedMap κ α) (key : κ) (value : α) (p : κ → Bool) :
    (m.putNew key value).entries.find? (fun entry => p entry.1) =
      (m.entries.find? fun entry => p entry.1).or
        ([(key, value)].find? fun entry => p entry.1) := by
  rw [putNew]
  split
  · rename_i known
    by_cases wanted : p key = true
    · obtain ⟨old, found⟩ := contains_iff.mp known
      have there : (m.entries.find? fun entry => p entry.1).isSome = true :=
        List.find?_isSome.mpr ⟨(key, old), get?_eq_some_iff.mp found, wanted⟩
      rw [Option.or_of_isSome there]
    · have missed : ([(key, value)].find? fun entry => p entry.1) = none :=
        List.find?_cons_of_neg wanted
      rw [missed, Option.or_none]
  · rename_i new
    have absent : key ∉ m.entries.map Prod.fst := fun member => new (mem_keys_iff.mp member)
    change (putEntry key value m.entries).find? _ = _
    rw [putEntry_new absent, List.find?_append]

theorem find?_putAllNew (m : OrderedMap κ α) (entries : List (κ × α)) (p : κ → Bool) :
    (m.putAllNew entries).entries.find? (fun entry => p entry.1) =
      (m.entries.find? fun entry => p entry.1).or (entries.find? fun entry => p entry.1) := by
  induction entries generalizing m with
  | nil => exact Option.or_none.symm
  | cons entry rest ih =>
    change ((m.putNew entry.1 entry.2).putAllNew rest).entries.find? _ = _
    rw [ih, find?_putNew, Option.or_assoc, ← List.find?_append]
    rfl

/-- Of several values put anew under one key the first is found. -/
theorem get?_putAllNew (m : OrderedMap κ α) (entries : List (κ × α)) (k : κ) :
    (m.putAllNew entries).get? k =
      (m.get? k).or ((entries.find? (·.1 = k)).map Prod.snd) := by
  rw [get?, get?, ← Option.map_or]
  exact congrArg (Option.map Prod.snd) (find?_putAllNew m entries fun key => decide (key = k))

theorem mem_keys_putAllNew {m : OrderedMap κ α} {entries : List (κ × α)} {k : κ} :
    k ∈ (m.putAllNew entries).keys ↔ k ∈ m.keys ∨ k ∈ entries.map Prod.fst := by
  rw [mem_keys_iff, mem_keys_iff, contains, contains, get?_putAllNew, Option.isSome_or,
    Bool.or_eq_true, Option.isSome_map, List.find?_isSome, List.mem_map]
  simp only [decide_eq_true_eq]

theorem map_values_erase (m : OrderedMap κ α) {key : κ} {f : α → β} {keep : β → Bool}
    (each : ∀ k value, m.get? k = some value → keep (f value) = decide (k ≠ key)) :
    (m.erase key).values.map f = (m.values.map f).filter keep := by
  rw [values, values, erase, List.map_map, List.map_map, List.filter_map]
  refine congrArg _ (List.filter_congr fun entry member => ?_)
  exact (each entry.1 entry.2 (get?_eq_some_iff.mpr member)).symm

end TypedRows.OrderedMap
