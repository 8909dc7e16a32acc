import SupremeOs.Support.OrderedMap

/-!
# Maps to lists

A map that keeps a list under each key, as a publisher keeps its observers.
Values are added one at a time, at the end of the list of their key, and the
list of a key is dropped as a whole.
-/

namespace SupremeOs.Support

open List OrderedMap

abbrev Multimap (Key : Type*) (Value : Type*) := OrderedMap Key (List Value)

namespace Multimap

variable {Key Value : Type*} [DecidableEq Key]

/-- The values under a key, the oldest one first. -/
def listAt (map : Multimap Key Value) (key : Key) : List Value := (map.get key).getD []

def add (map : Multimap Key Value) (key : Key) (value : Value) : Multimap Key Value :=
  map.set key (map.listAt key ++ [value])

def addAll (map : Multimap Key Value) (entries : List (Key × Value)) : Multimap Key Value :=
  entries.foldl (fun map entry => map.add entry.1 entry.2) map

def dropWhere (test : Key → Bool) (map : Multimap Key Value) (keys : List Key) :
    Multimap Key Value :=
  keys.foldl (fun map key => if test key then map.delete key else map) map

def forKey (key : Key) (entries : List (Key × Value)) : List Value :=
  (entries.filter fun entry => decide (entry.1 = key)).map Prod.snd

variable {entries : List (Key × Value)}

@[simp]
theorem mem_forKey {key : Key} {value : Value} :
    value ∈ forKey key entries ↔ (key, value) ∈ entries := by
  simp [forKey, and_comm]

@[simp]
theorem forKey_append (key : Key) (first second : List (Key × Value)) :
    forKey key (first ++ second) = forKey key first ++ forKey key second := by
  simp [forKey]

theorem forKey_eq_nil {key : Key}
    (absent : ∀ entry ∈ entries, entry.1 ≠ key) : forKey key entries = [] := by
  apply eq_nil_iff_forall_not_mem.mpr
  intro value member
  exact absent _ (mem_forKey.mp member) rfl

theorem forKey_cons (key : Key) (entry : Key × Value) (rest : List (Key × Value)) :
    forKey key (entry :: rest) =
      if entry.1 = key then entry.2 :: forKey key rest else forKey key rest := by
  by_cases same : entry.1 = key <;> simp [forKey, same]

theorem forKey_filter {key : Key} {keep : Key × Value → Bool}
    (kept : ∀ entry ∈ entries, entry.1 = key → keep entry = true) :
    forKey key (entries.filter keep) = forKey key entries := by
  rw [forKey, forKey, filter_filter]
  congr 1
  apply filter_congr
  intro entry member
  by_cases here : entry.1 = key
  · simp [here, kept entry member here]
  · simp [here]

theorem forKey_filter_sublist (key : Key) (keep : Key × Value → Bool)
    (entries : List (Key × Value)) :
    (forKey key (entries.filter keep)).Sublist (forKey key entries) :=
  (filter_sublist.filter _).map _

variable (map : Multimap Key Value)

theorem listAt_add (key query : Key) (value : Value) : (map.add key value).listAt query =
      if key = query then map.listAt query ++ [value] else map.listAt query := by
  by_cases same : key = query
  · subst same
    simp [listAt, add]
  · simp [listAt, add, same, Ne.symm same]

theorem listAt_addAll (entries : List (Key × Value)) (key : Key) :
    (map.addAll entries).listAt key = map.listAt key ++ forKey key entries := by
  induction entries generalizing map with
  | nil => simp [addAll, forKey]
  | cons entry rest ih =>
    have onward := ih (map.add entry.1 entry.2)
    simp only [addAll, foldl_cons] at onward ⊢
    rw [onward, listAt_add, forKey_cons]
    split
    · rw [append_assoc, singleton_append]
    · rfl

theorem addAll_append (first second : List (Key × Value)) :
    map.addAll (first ++ second) = (map.addAll first).addAll second :=
  foldl_append

theorem listAt_dropWhere (test : Key → Bool) (map : Multimap Key Value) (keys : List Key)
    (key : Key) :
    (dropWhere test map keys).listAt key =
      if key ∈ keys ∧ test key = true then [] else map.listAt key := by
  induction keys generalizing map with
  | nil => simp [dropWhere]
  | cons first rest ih =>
    have onward := ih (if test first then map.delete first else map)
    simp only [dropWhere, foldl_cons] at onward ⊢
    rw [onward]
    by_cases same : key = first
    · subst same
      cases passes : test key <;> simp [listAt]
    · have kept : Multimap.listAt (if test first then map.delete first else map) key =
          map.listAt key := by
        split <;> simp [listAt, same]
      simp [kept, same]

theorem perm_flatten_add (key : Key) (value : Value) :
    (map.add key value).values.flatten.Perm (map.values.flatten ++ [value]) := by
  cases found : map.get key with
  | none =>
    rw [add, values_set_of_absent found, listAt, found, flatten_append]
    exact List.Perm.refl _
  | some old =>
    rcases exists_values_set found (old ++ [value]) with
      ⟨before, after, split, replaced⟩
    rw [add, listAt, found, Option.getD_some, replaced, split]
    simp only [flatten_append, flatten_cons, append_assoc]
    exact ((perm_append_comm).append_left old).append_left before.flatten

theorem perm_flatten_addAll (entries : List (Key × Value)) :
    (map.addAll entries).values.flatten.Perm (map.values.flatten ++ entries.map Prod.snd) := by
  induction entries generalizing map with
  | nil => simp [addAll]
  | cons entry rest ih =>
    have onward := (ih (map.add entry.1 entry.2)).trans
      ((perm_flatten_add map entry.1 entry.2).append_right _)
    rwa [append_assoc, singleton_append] at onward

theorem entries_empty_iff {map : Multimap Key Value} :
    (∀ entry ∈ map.entries, entry.2 = []) ↔ ∀ key, map.listAt key = [] := by
  constructor
  · intro every key
    rw [listAt]
    cases found : map.get key with
    | none => rfl
    | some values => exact every _ (get_eq_some_iff.mp found)
  · rintro every ⟨key, values⟩ member
    have values_eq := every key
    rw [listAt, get_eq_some_iff.mpr member] at values_eq
    exact values_eq

end Multimap

end SupremeOs.Support
