import Mathlib.Data.List.Sort

/-!
# Stable insertion

Items are kept in the order of their ranks, and those of one rank in the order
of their numbers.  A new item has the highest number and is inserted before the
first one that it ranks below, or else at the end.

Not every two ranks need be comparable.
-/

namespace SupremeOs.Support

open List

variable {Item Rank : Type*} {below : Rank → Rank → Prop} {rank : Item → Rank}
variable {number : Item → Nat}

variable (below rank number) in
def Precedes (first second : Item) : Prop :=
  ¬below (rank second) (rank first) ∧ (rank first = rank second → number first < number second)

theorem precedes_of_below [IsTrans Rank below] {item head other : Item}
    (lower : below (rank item) (rank head)) (after : Precedes below rank number head other) :
    Precedes below rank number item other := by
  constructor
  · intro lowest
    exact after.1 (IsTrans.trans _ _ _ lowest lower)
  · intro same
    rw [same] at lower
    exact absurd lower after.1

theorem precedes_orderedInsert [IsStrictOrder Rank below] [DecidableRel below] {items : List Item}
    {item : Item} (ordered : items.Pairwise (Precedes below rank number))
    (newest : ∀ other ∈ items, number other < number item) :
    (items.orderedInsert (fun new old => below (rank new) (rank old)) item).Pairwise
      (Precedes below rank number) := by
  induction items with
  | nil => exact pairwise_singleton _ _
  | cons head rest ih =>
    rw [orderedInsert_cons]
    by_cases lower : below (rank item) (rank head)
    · rw [if_pos lower, pairwise_cons]
      refine ⟨?_, ordered⟩
      intro other member
      rcases mem_cons.mp member with rfl | behind
      · constructor
        · exact asymm lower
        · intro same
          rw [same] at lower
          exact absurd lower (irrefl _)
      · exact precedes_of_below lower (rel_of_pairwise_cons ordered behind)
    · rw [if_neg lower, pairwise_cons]
      constructor
      · intro other member
        rcases mem_orderedInsert _ |>.mp member with rfl | behind
        · exact ⟨lower, fun _ => newest head (.head _)⟩
        · exact rel_of_pairwise_cons ordered behind
      · exact ih ordered.of_cons fun other member =>
          newest other (.tail _ member)

end SupremeOs.Support
