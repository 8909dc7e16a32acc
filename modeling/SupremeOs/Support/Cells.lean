import Mathlib.Data.List.Nodup
import SupremeOs.Support.OrderedMap

/-!
# Numbered objects

Objects that other objects refer to are kept in a list and referred to by
their place in it.  An object is made at the end of the list and stays there,
so a number that denotes an object denotes it from then on.
-/

namespace SupremeOs.Support

open List

namespace Cells

variable {Cell : Type*}

/-- Change the objects with the given numbers, one after the other. -/
def modifyAll (change : Cell → Cell) (numbers : List Nat) (cells : List Cell) : List Cell :=
  numbers.foldl (fun cells number => cells.modify number change) cells

@[simp]
theorem getElem?_modify (cells : List Cell) (changed number : Nat) (change : Cell → Cell) :
    (cells.modify changed change)[number]? =
      if changed = number then cells[number]?.map change else cells[number]? := by
  rw [List.getElem?_modify]
  by_cases same : changed = number
  · simp [same]
  · simp [same]

@[simp]
theorem getElem?_concat (cells : List Cell) (cell : Cell) (number : Nat) :
    (cells ++ [cell])[number]? = if number = cells.length then some cell else cells[number]? := by
  rcases Nat.lt_trichotomy number cells.length with old | rfl | beyond
  · simp [getElem?_append_left old, Nat.ne_of_lt old]
  · simp
  · rw [if_neg (Nat.ne_of_gt beyond), getElem?_eq_none (by simp; omega),
      getElem?_eq_none (Nat.le_of_lt beyond)]

theorem lt_of_getElem? {cells : List Cell} {number : Nat} {cell : Cell}
    (found : cells[number]? = some cell) : number < cells.length :=
  (List.getElem?_eq_some_iff.mp found).1

theorem getElem?_modifyAll (change : Cell → Cell) {numbers : List Nat} (nodup : numbers.Nodup)
    (cells : List Cell) (number : Nat) :
    (modifyAll change numbers cells)[number]? =
      if number ∈ numbers then cells[number]?.map change else cells[number]? := by
  induction numbers generalizing cells with
  | nil => simp [modifyAll]
  | cons first rest ih =>
    have later := ih (nodup_cons.mp nodup).2 (cells.modify first change)
    simp only [modifyAll, foldl_cons] at later ⊢
    rw [later]
    by_cases same : first = number
    · subst same
      simp [(nodup_cons.mp nodup).1]
    · simp [same, Ne.symm same]

end Cells

namespace OrderedMap

variable {Key Value : Type*} [DecidableEq Key]

theorem nodup_values {map : OrderedMap Key Value} (keyOf : Value → Option Key)
    (keyed : ∀ key value, map.get key = some value → keyOf value = some key) :
    map.values.Nodup := by
  have keys : map.values.map keyOf = map.keys.map some := by
    simp only [values, OrderedMap.keys, map_map]
    apply map_congr_left
    intro entry member
    exact keyed entry.1 entry.2 (get_eq_some_iff.mpr member)
  apply List.Nodup.of_map keyOf
  rw [keys]
  exact map.nodup.map fun _ _ => Option.some.inj

end OrderedMap

end SupremeOs.Support
