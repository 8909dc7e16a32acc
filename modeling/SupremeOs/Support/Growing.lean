import Mathlib.Data.List.Forall2

/-!
# Lists that grow

What a program has made, in the order in which it made it: a step changes
entries in place and appends new ones.  `Grows` says how it may change an old
entry and what a new one is like, so that what holds of new entries and is kept
by the changes holds of all entries.
-/

namespace SupremeOs.Support

open List

variable {Entry : Type*}

structure Grows (related : Entry → Entry → Prop) (new : Entry → Prop)
    (items next : List Entry) : Prop where
  kept : ∀ (place : Nat) (entry : Entry), items[place]? = some entry →
    ∃ after, next[place]? = some after ∧ related entry after
  fresh : ∀ (place : Nat) (entry : Entry), items.length ≤ place → next[place]? = some entry →
    new entry

section Rules

variable {related : Entry → Entry → Prop} {new : Entry → Prop}
variable {items next : List Entry} {entry image : Entry} {place : Nat}

namespace Grows

theorem same (keeps : ∀ entry ∈ items, related entry entry) : Grows related new items items where
  kept place entry found := ⟨entry, found, keeps entry (mem_of_getElem? found)⟩
  fresh place entry beyond found := by
    rw [getElem?_eq_none beyond] at found
    simp at found

theorem map {change : Entry → Entry} (keeps : ∀ entry ∈ items, related entry (change entry)) :
    Grows related new items (items.map change) where
  kept place entry found :=
    ⟨change entry, by simp [found], keeps entry (mem_of_getElem? found)⟩
  fresh place entry beyond found := by
    rw [getElem?_eq_none (by simpa using beyond)] at found
    simp at found

theorem set (found : items[place]? = some entry) (changes : related entry image)
    (others : ∀ entry ∈ items, related entry entry) :
    Grows related new items (items.set place image) where
  kept position other present := by
    by_cases here : place = position
    · subst here
      cases found.symm.trans present
      rcases List.getElem?_eq_some_iff.mp found with ⟨bound, _⟩
      exact ⟨image, by simp [bound], changes⟩
    · exact ⟨other, by rw [getElem?_set_ne here, present],
        others other (mem_of_getElem? present)⟩
  fresh position other beyond present := by
    rw [getElem?_eq_none (by simpa using beyond)] at present
    simp at present

theorem append {change : Nat → Entry → Entry}
    (keeps : ∀ place, ∀ entry ∈ items, related entry (change place entry)) (isNew : new image) :
    Grows related new items (items.mapIdx change ++ [image]) where
  kept place entry found := by
    rcases List.getElem?_eq_some_iff.mp found with ⟨bound, _⟩
    refine ⟨change place entry, ?_, keeps place entry (mem_of_getElem? found)⟩
    rw [getElem?_append_left (by simpa using bound), getElem?_mapIdx, found]
    rfl
  fresh place entry beyond found := by
    rw [getElem?_append_right (by simpa using beyond)] at found
    obtain rfl := mem_singleton.mp (mem_of_getElem? found)
    exact isNew

theorem forall_mem {property : Entry → Prop} (grows : Grows related new items next)
    (keeps : ∀ entry after, related entry after → property entry → property after)
    (isNew : ∀ entry, new entry → property entry) (before : ∀ entry ∈ items, property entry) :
    ∀ entry ∈ next, property entry := by
  intro entry member
  rcases getElem?_of_mem member with ⟨place, found⟩
  rcases Nat.lt_or_ge place items.length with old | beyond
  · rcases grows.kept place _ (getElem?_eq_getElem old) with ⟨after, present, changes⟩
    cases present.symm.trans found
    exact keeps _ _ changes (before _ (getElem_mem old))
  · exact isNew entry (grows.fresh place entry beyond found)

end Grows

theorem forall₂_set (found : items[place]? = some entry) (changes : related entry image)
    (others : ∀ entry ∈ items, related entry entry) :
    List.Forall₂ related items (items.set place image) := by
  induction items generalizing place with
  | nil => simp at found
  | cons head tail ih =>
    cases place with
    | zero =>
      obtain rfl : head = entry := by simpa using found
      exact .cons changes (forall₂_same.mpr fun other member =>
        others other (.tail _ member))
    | succ place =>
      simp only [getElem?_cons_succ] at found
      exact .cons (others head (.head _))
        (ih found fun other member => others other (.tail _ member))

theorem forall₂_map {change : Entry → Entry}
    (keeps : ∀ entry ∈ items, related entry (change entry)) :
    List.Forall₂ related items (items.map change) := by
  rw [forall₂_map_right_iff]
  exact forall₂_same.mpr keeps

theorem forall_mem_of_forall₂ {property : Entry → Prop} (lists : List.Forall₂ related items next)
    (keeps : ∀ entry ∈ items, ∀ after, related entry after → property after) :
    ∀ after ∈ next, property after := by
  induction lists with
  | nil => simp
  | cons first _ ih =>
    intro after member
    rcases mem_cons.mp member with rfl | later
    · exact keeps _ (.head _) _ first
    · exact ih (fun entry inside => keeps entry (.tail _ inside)) after later

end Rules

end SupremeOs.Support
