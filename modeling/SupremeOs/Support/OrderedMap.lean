import Mathlib.Data.List.Basic

/-!
# Insertion-ordered finite maps

An `OrderedMap` behaves like the `Map` object of a scripting language: setting
an existing key keeps its place, setting a new key appends it, and the values
are enumerated in insertion order.  The structure carries the proof that no
key occurs twice, so a lookup and a membership test of an entry are the same
question.
-/

namespace SupremeOs.Support

/-- A finite map that remembers the order in which its keys were inserted. -/
structure OrderedMap (Key : Type*) (Value : Type*) where
  entries : List (Key × Value)
  nodup : (entries.map Prod.fst).Nodup

/-- A set that remembers the order in which its members were added. -/
abbrev OrderedSet (Key : Type*) := OrderedMap Key Unit

namespace OrderedMap

variable {Key Value : Type*}

instance [DecidableEq Key] [DecidableEq Value] : DecidableEq (OrderedMap Key Value) :=
  fun left right => decidable_of_iff (left.entries = right.entries) (by
    cases left
    cases right
    simp)

def empty : OrderedMap Key Value := ⟨[], List.nodup_nil⟩

instance : Inhabited (OrderedMap Key Value) := ⟨empty⟩

/-- The stored values in insertion order. -/
def values (map : OrderedMap Key Value) : List Value :=
  map.entries.map Prod.snd

def keys (map : OrderedMap Key Value) : List Key :=
  map.entries.map Prod.fst

/-- Keep the entries that satisfy a test. -/
def filter (keep : Key × Value → Bool) (map : OrderedMap Key Value) :
    OrderedMap Key Value where
  entries := map.entries.filter keep
  nodup := map.nodup.sublist (List.filter_sublist.map Prod.fst)

def mapValues {Result : Type*} (image : Value → Result) (map : OrderedMap Key Value) :
    OrderedMap Key Result where
  entries := map.entries.map fun entry => (entry.1, image entry.2)
  nodup := by
    rw [List.map_map]
    exact map.nodup

/-- Replace or drop every value in its place. -/
def filterMap {Result : Type*} (image : Key → Value → Option Result) (map : OrderedMap Key Value) :
    OrderedMap Key Result where
  entries := map.entries.filterMap fun entry => (image entry.1 entry.2).map (Prod.mk entry.1)
  nodup := by
    have keys : (map.entries.filterMap fun entry =>
        (image entry.1 entry.2).map (Prod.mk entry.1)).map Prod.fst =
        (map.entries.filter fun entry => (image entry.1 entry.2).isSome).map Prod.fst := by
      induction map.entries with
      | nil => rfl
      | cons entry rest ih => cases found : image entry.1 entry.2 <;> simp [found, ih]
    rw [keys]
    exact map.nodup.sublist (List.filter_sublist.map Prod.fst)

variable [DecidableEq Key]

/-- The value stored under a key. -/
def get (map : OrderedMap Key Value) (key : Key) : Option Value :=
  (map.entries.find? fun entry => decide (entry.1 = key)).map Prod.snd

def has (map : OrderedMap Key Value) (key : Key) : Bool :=
  (map.get key).isSome

def delete (map : OrderedMap Key Value) (key : Key) : OrderedMap Key Value :=
  map.filter fun entry => decide (entry.1 ≠ key)

/-- Replace the value of a present key in its place. -/
private def overwrite (entries : List (Key × Value)) (key : Key) (value : Value) :
    List (Key × Value) :=
  entries.map fun entry => if entry.1 = key then (key, value) else entry

private theorem overwrite_keys
    (entries : List (Key × Value)) (key : Key) (value : Value) :
    (overwrite entries key value).map Prod.fst = entries.map Prod.fst := by
  simp only [overwrite, List.map_map]
  apply List.map_congr_left
  intro entry _
  by_cases same : entry.1 = key <;> simp [same]

/-- Store a value: an existing key keeps its place, a new key is appended. -/
def set (map : OrderedMap Key Value) (key : Key) (value : Value) :
    OrderedMap Key Value :=
  if present : key ∈ map.entries.map Prod.fst then
    ⟨overwrite map.entries key value, by
      rw [overwrite_keys]
      exact map.nodup⟩
  else
    ⟨map.entries ++ [(key, value)], by
      rw [List.map_append, List.nodup_append]
      refine ⟨map.nodup, by simp, ?_⟩
      intro old oldMember new newMember equal
      simp only [List.map_cons, List.map_nil, List.mem_singleton] at newMember
      subst newMember
      exact present (equal ▸ oldMember)⟩

/-- Store all entries of another map: `{ ...map, ...patch }`. -/
def merge (map patch : OrderedMap Key Value) : OrderedMap Key Value :=
  patch.entries.foldl (fun merged entry => merged.set entry.1 entry.2) map

variable {map : OrderedMap Key Value} {key : Key} {value : Value}

theorem get_eq_some_iff :
    map.get key = some value ↔ (key, value) ∈ map.entries := by
  rcases map with ⟨entries, nodup⟩
  simp only [get]
  induction entries with
  | nil => simp
  | cons head tail ih =>
    rcases head with ⟨headKey, headValue⟩
    simp only [List.map_cons, List.nodup_cons] at nodup
    by_cases same : headKey = key
    · subst same
      have absent : (headKey, value) ∉ tail := by
        intro member
        exact nodup.1 (List.mem_map_of_mem (f := Prod.fst) member)
      simp [absent, eq_comm]
    · have differs : key ≠ headKey := fun equal => same equal.symm
      simp only [List.find?_cons, same, decide_false, List.mem_cons,
        Prod.mk.injEq, differs, false_and, false_or]
      exact ih nodup.2

theorem mem_values_iff :
    value ∈ map.values ↔ ∃ key, map.get key = some value := by
  simp only [values, List.mem_map, get_eq_some_iff]
  constructor
  · rintro ⟨⟨key, stored⟩, member, rfl⟩
    exact ⟨key, member⟩
  · rintro ⟨key, member⟩
    exact ⟨(key, value), member, rfl⟩

theorem has_iff :
    map.has key = true ↔ ∃ value, map.get key = some value := by
  simp [has, Option.isSome_iff_exists]

theorem mem_keys_iff :
    key ∈ map.keys ↔ map.has key = true := by
  simp [keys, has_iff, get_eq_some_iff]

@[simp]
theorem get_empty (key : Key) :
    (empty : OrderedMap Key Value).get key = none := by
  simp [get, empty]

theorem eq_empty_of_get (none : ∀ key, map.get key = none) :
    map = empty := by
  rcases map with ⟨entries, nodup⟩
  cases entries with
  | nil => rfl
  | cons entry rest =>
    have present := none entry.1
    simp [get] at present

@[simp]
theorem get_set (map : OrderedMap Key Value) (key query : Key) (value : Value) :
    (map.set key value).get query = if query = key then some value else map.get query := by
  apply Option.ext
  intro found
  rw [get_eq_some_iff]
  simp only [set]
  split
  · rename_i present
    simp only [overwrite, List.mem_map]
    by_cases same : query = key
    · subst same
      simp only [if_true, Option.some.injEq]
      constructor
      · rintro ⟨⟨oldKey, oldValue⟩, member, equal⟩
        by_cases sameKey : oldKey = query <;> simp_all
      · rintro rfl
        rcases List.mem_map.mp present with ⟨entry, member, equal⟩
        exact ⟨entry, member, by simp [equal]⟩
    · rw [if_neg same, get_eq_some_iff]
      constructor
      · rintro ⟨⟨oldKey, oldValue⟩, member, equal⟩
        by_cases sameKey : oldKey = key
        · simp only [sameKey, if_true, Prod.mk.injEq] at equal
          exact (same equal.1.symm).elim
        · simp only [sameKey, if_false] at equal
          exact equal ▸ member
      · intro member
        exact ⟨(query, found), member, by simp [same]⟩
  · rename_i absent
    simp only [List.mem_append, List.mem_singleton, Prod.mk.injEq]
    by_cases same : query = key
    · subst same
      have notStored : (query, found) ∉ map.entries :=
        fun member => absent (List.mem_map_of_mem (f := Prod.fst) member)
      simp [notStored, eq_comm]
    · rw [if_neg same, get_eq_some_iff]
      simp [same]

theorem forall_get_set {property : Key → Value → Prop} (here : property key value)
    (others : ∀ query found, query ≠ key → map.get query = some found → property query found) :
    ∀ query found, (map.set key value).get query = some found → property query found := by
  intro query found stored
  rw [get_set] at stored
  by_cases same : query = key
  · rw [if_pos same] at stored
    cases stored
    exact same ▸ here
  · rw [if_neg same] at stored
    exact others query found same stored

/-- Values that are alike stay under one key if the new one is like none of the others. -/
theorem unique_set
    {alike : Value → Value → Prop} (symm : ∀ first second, alike first second → alike second first)
    (new : ∀ query other, map.get query = some other → query ≠ key → ¬alike value other)
    (unique : ∀ query first other second, map.get query = some first →
      map.get other = some second → alike first second → query = other) :
    ∀ query first other second, (map.set key value).get query = some first →
      (map.set key value).get other = some second → alike first second → query = other := by
  intro query first other second stored storedOther same
  rw [get_set] at stored storedOther
  split at stored
  · rename_i own
    cases stored
    split at storedOther
    · rename_i otherOwn
      exact own.trans otherOwn.symm
    · rename_i differs
      exact absurd same (new other second storedOther differs)
  · rename_i differs
    split at storedOther
    · cases storedOther
      exact absurd (symm first value same) (new query first stored differs)
    · exact unique query first other second stored storedOther same

@[simp]
theorem get_delete (map : OrderedMap Key Value) (key query : Key) :
    (map.delete key).get query = if query = key then none else map.get query := by
  apply Option.ext
  intro found
  rw [get_eq_some_iff]
  simp only [delete, filter, List.mem_filter, decide_eq_true_eq]
  by_cases same : query = key
  · simp [same]
  · rw [if_neg same, get_eq_some_iff]
    simp [same]

private theorem get_foldl_set {entries : List (Key × Value)}
    (nodup : (entries.map Prod.fst).Nodup) (map : OrderedMap Key Value) (key : Key) :
    (entries.foldl (fun merged entry => merged.set entry.1 entry.2) map).get key =
      ((entries.find? fun entry => decide (entry.1 = key)).map Prod.snd).or (map.get key) := by
  induction entries generalizing map with
  | nil => simp
  | cons first rest ih =>
    rw [List.map_cons, List.nodup_cons] at nodup
    rw [List.foldl_cons, ih nodup.2, get_set, List.find?_cons]
    by_cases same : first.1 = key
    · have absent : rest.find? (fun entry => decide (entry.1 = key)) = none := by
        rw [List.find?_eq_none]
        intro entry member equal
        apply nodup.1
        rw [same, ← of_decide_eq_true equal]
        exact List.mem_map_of_mem member
      simp [same, absent]
    · simp [same, Ne.symm same]

@[simp]
theorem get_merge (map patch : OrderedMap Key Value) (key : Key) :
    (map.merge patch).get key = (patch.get key).or (map.get key) :=
  get_foldl_set patch.nodup map key

theorem map_values_set {Image : Type*}
    {old : Value} (image : Value → Image) (stored : map.get key = some old)
    (same : image old = image value) :
    (map.set key value).values.map image = map.values.map image := by
  have member := get_eq_some_iff.mp stored
  have present : key ∈ map.entries.map Prod.fst := List.mem_map_of_mem (f := Prod.fst) member
  simp only [set, present, dite_true, values, overwrite, List.map_map]
  apply List.map_congr_left
  intro entry entryMember
  by_cases equal : entry.1 = key
  · have unique : map.get key = some entry.2 :=
      get_eq_some_iff.mpr (equal ▸ entryMember)
    rw [stored, Option.some.injEq] at unique
    simp [equal, ← same, unique]
  · simp [equal]

theorem values_set_of_absent
    (absent : map.get key = none) : (map.set key value).values = map.values ++ [value] := by
  have notPresent : key ∉ map.entries.map Prod.fst := by
    intro present
    rcases List.mem_map.mp present with ⟨⟨stored, old⟩, member, rfl⟩
    rw [get_eq_some_iff.mpr member] at absent
    cases absent
  simp [set, notPresent, values]

theorem exists_values_set {old : Value} (stored : map.get key = some old) (value : Value) :
    ∃ before after, map.values = before ++ old :: after ∧
      (map.set key value).values = before ++ value :: after := by
  have member := get_eq_some_iff.mp stored
  have present : key ∈ map.entries.map Prod.fst := List.mem_map_of_mem (f := Prod.fst) member
  rcases List.append_of_mem member with ⟨before, after, split⟩
  have nodup := map.nodup
  rw [split, (List.perm_middle.map Prod.fst).nodup_iff, List.map_cons, List.nodup_cons] at nodup
  have others : ∀ entry ∈ before ++ after, entry.1 ≠ key := by
    rintro entry inside rfl
    have keyed : entry.1 ∈ (before ++ after).map Prod.fst := List.mem_map_of_mem inside
    exact nodup.1 keyed
  have kept : ∀ entries ⊆ before ++ after,
      (overwrite entries key value).map Prod.snd = entries.map Prod.snd := by
    intro entries inside
    rw [overwrite, List.map_map]
    refine List.map_congr_left fun entry entryMember => ?_
    simp [others entry (inside entryMember)]
  have replaced : (map.set key value).entries = overwrite map.entries key value := by
    simp only [set, present, dite_true]
  refine ⟨before.map Prod.snd, after.map Prod.snd, by simp [values, split], ?_⟩
  have left := kept before (List.subset_append_left _ _)
  have right := kept after (List.subset_append_right _ _)
  rw [overwrite] at left right
  rw [values, replaced, split, overwrite, List.map_append, List.map_append, left, List.map_cons,
    List.map_cons, right, if_pos rfl]

@[simp]
theorem get_mapValues {Result : Type*} (map : OrderedMap Key Value) (image : Value → Result)
    (key : Key) : (map.mapValues image).get key = (map.get key).map image := by
  simp only [get, mapValues, List.find?_map, Option.map_map]
  rfl

@[simp]
theorem get_filterMap {Result : Type*} (map : OrderedMap Key Value)
    (image : Key → Value → Option Result) (key : Key) :
    (map.filterMap image).get key = (map.get key).bind (image key) := by
  apply Option.ext
  intro result
  rw [Option.bind_eq_some_iff, get_eq_some_iff]
  simp only [filterMap, List.mem_filterMap, Option.map_eq_some_iff, Prod.mk.injEq]
  constructor
  · rintro ⟨⟨stored, value⟩, member, other, found, rfl, rfl⟩
    exact ⟨value, get_eq_some_iff.mpr member, found⟩
  · rintro ⟨value, stored, found⟩
    exact ⟨(key, value), get_eq_some_iff.mp stored, result, found, rfl, rfl⟩

/-- What is under a key after each item has changed what is under its own. -/
theorem get_foldl_change {Item : Type*} {keyOf : Item → Option Key}
    {change : Key → Option Value → Item → Value}
    {step : OrderedMap Key Value → Item → OrderedMap Key Value}
    (skips : ∀ map item, keyOf item = none → step map item = map)
    (changes : ∀ map item own, keyOf item = some own →
      step map item = map.set own (change own (map.get own) item))
    (items : List Item) (map : OrderedMap Key Value) (key : Key) :
    (items.foldl step map).get key = (items.filter fun item => decide (keyOf item = some key)).foldl
        (fun found item => some (change key found item)) (map.get key) := by
  induction items generalizing map with
  | nil => rfl
  | cons item rest ih =>
    rw [List.foldl_cons, ih, List.filter_cons]
    cases own : keyOf item with
    | none => simp [skips map item own]
    | some other =>
      rw [changes map item other own, get_set]
      by_cases same : other = key
      · subst same
        simp
      · simp [same, Ne.symm same]

/-- What the entries yield together is what one of them yields, if the others yield nothing. -/
theorem flatMap_entries {Item : Type*} (key : Key) (items : Key × Value → List Item)
    (others : ∀ entry ∈ map.entries, entry.1 ≠ key → items entry = []) :
    map.entries.flatMap items = (map.get key).elim [] fun value => items (key, value) := by
  cases found : map.get key with
  | none =>
    apply List.flatMap_eq_nil_iff.mpr
    intro entry member
    apply others entry member
    rintro rfl
    rw [get_eq_some_iff.mpr member] at found
    cases found
  | some value =>
    rcases List.append_of_mem (get_eq_some_iff.mp found) with ⟨before, after, split⟩
    have nodup := map.nodup
    rw [split, (List.perm_middle.map Prod.fst).nodup_iff, List.map_cons, List.nodup_cons] at nodup
    have nothing : ∀ entry ∈ before ++ after, items entry = [] := by
      intro entry member
      apply others entry
      · rw [split]
        simp only [List.mem_append, List.mem_cons] at member ⊢
        exact member.imp_right .inr
      · rintro rfl
        exact nodup.1 (by simpa using List.mem_map_of_mem (f := Prod.fst) member)
    rw [split, List.flatMap_append, List.flatMap_cons,
      List.flatMap_eq_nil_iff.mpr fun entry member =>
        nothing entry (List.mem_append_left _ member),
      List.flatMap_eq_nil_iff.mpr fun entry member =>
        nothing entry (List.mem_append_right _ member)]
    simp

theorem get_filter_eq_some_iff {keep : Key × Value → Bool} :
    (map.filter keep).get key = some value ↔
      map.get key = some value ∧ keep (key, value) = true := by
  rw [get_eq_some_iff, get_eq_some_iff]
  simp [filter, List.mem_filter]

theorem get_filter (map : OrderedMap Key Value) (keep : Key × Value → Bool) (key : Key) :
    (map.filter keep).get key = (map.get key).filter fun value => keep (key, value) := by
  apply Option.ext
  intro value
  rw [get_filter_eq_some_iff, Option.filter_eq_some_iff]

end OrderedMap

end SupremeOs.Support
