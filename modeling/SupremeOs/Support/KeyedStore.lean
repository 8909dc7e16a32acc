import SupremeOs.Support.OrderedMap

/-!
# Stores of keyed records

A store keeps records under a key that is computed from the record itself, so
that a record is found under its own key or not at all.  Putting a record
replaces the one with the same key in its place.
-/

namespace SupremeOs.Support

/-- Records under their own keys. -/
structure KeyedStore {Key Value : Type*} [DecidableEq Key] (keyOf : Value → Key) where
  items : OrderedMap Key Value
  keyed : ∀ key value, items.get key = some value → keyOf value = key

namespace KeyedStore

variable {Key Value : Type*} [DecidableEq Key] {keyOf : Value → Key}

def empty : KeyedStore keyOf := ⟨OrderedMap.empty, by simp⟩

def get (store : KeyedStore keyOf) (key : Key) : Option Value := store.items.get key

/-- The records in the order in which their keys were first put. -/
def list (store : KeyedStore keyOf) : List Value := store.items.values

def put (store : KeyedStore keyOf) (value : Value) : KeyedStore keyOf where
  items := store.items.set (keyOf value) value
  keyed := by
    intro key found lookup
    rw [OrderedMap.get_set] at lookup
    split at lookup
    · rename_i same
      simp only [Option.some.injEq] at lookup
      rw [same, lookup]
    · exact store.keyed key found lookup

def remove (store : KeyedStore keyOf) (key : Key) : KeyedStore keyOf where
  items := store.items.delete key
  keyed := by
    intro other found lookup
    rw [OrderedMap.get_delete] at lookup
    split at lookup
    · cases lookup
    · exact store.keyed other found lookup

@[simp]
theorem get_empty (key : Key) : (empty : KeyedStore keyOf).get key = none :=
  OrderedMap.get_empty key

@[simp]
theorem get_put (store : KeyedStore keyOf) (value : Value) (key : Key) :
    (store.put value).get key = if key = keyOf value then some value else store.get key :=
  OrderedMap.get_set ..

@[simp]
theorem get_remove (store : KeyedStore keyOf) (key other : Key) :
    (store.remove key).get other = if other = key then none else store.get other :=
  OrderedMap.get_delete ..

@[simp]
theorem list_empty : (empty : KeyedStore keyOf).list = [] := rfl

variable {store : KeyedStore keyOf}

theorem mem_list_iff {value : Value} :
    value ∈ store.list ↔ store.get (keyOf value) = some value := by
  rw [list, OrderedMap.mem_values_iff]
  constructor
  · rintro ⟨key, lookup⟩
    rw [store.keyed key value lookup]
    exact lookup
  · intro lookup
    exact ⟨keyOf value, lookup⟩

theorem nodup_list_keys (store : KeyedStore keyOf) : (store.list.map keyOf).Nodup := by
  have own : store.list.map keyOf = store.items.entries.map Prod.fst := by
    rw [list, OrderedMap.values, List.map_map]
    apply List.map_congr_left
    intro entry member
    exact store.keyed entry.1 entry.2 (OrderedMap.get_eq_some_iff.mpr member)
  rw [own]
  exact store.items.nodup

theorem list_put_of_absent {value : Value}
    (absent : store.get (keyOf value) = none) : (store.put value).list = store.list ++ [value] :=
  OrderedMap.values_set_of_absent absent

theorem list_remove (store : KeyedStore keyOf) (key : Key) :
    (store.remove key).list = store.list.filter fun value => decide (keyOf value ≠ key) := by
  simp only [list, remove, OrderedMap.delete, OrderedMap.filter, OrderedMap.values, List.filter_map]
  congr 1
  apply List.filter_congr
  intro entry member
  have own := store.keyed entry.1 entry.2 (OrderedMap.get_eq_some_iff.mpr member)
  rw [Function.comp_apply, own]

theorem map_list_put {Image : Type*} {old value : Value}
    (image : Value → Image) (stored : store.get (keyOf value) = some old)
    (same : image old = image value) :
    (store.put value).list.map image = store.list.map image :=
  OrderedMap.map_values_set image stored same

end KeyedStore

end SupremeOs.Support
