import Mathlib.Data.List.Sort

/-!
# The newer items of a list

Items that arrive one after another are ordered by a total preorder, the ones
that it does not tell apart by their arrival.  What comes after an item in this
order is newer than the item.

Dropping all but the last of the sorted items leaves a bounded list, and an item
that is dropped has as many newer ones as are kept.
-/

namespace SupremeOs.Support.Recency

open List

variable {Item : Type*} (le : Item → Item → Prop) [DecidableRel le]

variable {item : Item} {list : List Item}

theorem orderedInsert_of_forall_le {sorted : List Item} (before : ∀ other ∈ sorted, le item other) :
    sorted.orderedInsert le item = item :: sorted := by
  cases sorted with
  | nil => rfl
  | cons head rest => exact orderedInsert_cons_of_le le rest (before head (.head _))

theorem filter_orderedInsert [IsTrans Item le] (keep : Item → Bool) (item : Item)
    {sorted : List Item} (ordered : sorted.Pairwise le) :
    (sorted.orderedInsert le item).filter keep =
      if keep item then (sorted.filter keep).orderedInsert le item else sorted.filter keep := by
  induction sorted with
  | nil => simp [filter_cons]
  | cons head rest ih =>
    by_cases first : le item head
    · have before : ∀ other ∈ (head :: rest).filter keep, le item other := by
        intro other member
        rcases mem_cons.mp (mem_of_mem_filter member) with rfl | later
        · exact first
        · exact trans_of le first (rel_of_pairwise_cons ordered later)
      rw [orderedInsert_cons_of_le le rest first, orderedInsert_of_forall_le le before, filter_cons]
    · rw [orderedInsert_of_not_le le rest first, filter_cons, ih ordered.of_cons, filter_cons]
      by_cases kept : keep head <;> by_cases own : keep item <;>
        simp [kept, own, first]

theorem filter_insertionSort [Std.Total le] [IsTrans Item le] (keep : Item → Bool)
    (list : List Item) :
    (list.insertionSort le).filter keep = (list.filter keep).insertionSort le := by
  induction list with
  | nil => rfl
  | cons item rest ih =>
    rw [insertionSort_cons, filter_orderedInsert le keep item
      (pairwise_insertionSort le rest), ih, filter_cons]
    split
    · rw [insertionSort_cons]
    · rfl

variable [DecidableEq Item]

theorem filter_ne_eq_self (absent : item ∉ list) :
    (list.filter fun other => decide (other ≠ item)) = list := by
  refine filter_eq_self.mpr fun other inside => decide_eq_true fun same => ?_
  subst same
  exact absent inside

/-- What comes after an item, the oldest first and equally old ones as they arrived. -/
def newer (list : List Item) (item : Item) : List Item :=
  ((list.insertionSort le).dropWhile fun other => decide (other ≠ item)).tail

theorem newer_eq {before after : List Item}
    (split : list.insertionSort le = before ++ item :: after) (first : item ∉ before) :
    newer le list item = after := by
  have passed : ∀ other ∈ before, decide (other ≠ item) = true := by
    intro other member
    exact decide_eq_true fun same => first (same ▸ member)
  rw [newer, split, dropWhile_append_of_pos passed, dropWhile_cons_of_neg (by simp), tail_cons]

theorem exists_insertionSort_eq (member : item ∈ list) :
    ∃ before, list.insertionSort le = before ++ item :: newer le list item ∧ item ∉ before := by
  have sorted : item ∈ list.insertionSort le := (mem_insertionSort le).mpr member
  rcases eq_append_cons_of_mem sorted with ⟨before, after, split, first⟩
  exact ⟨before, by rw [newer_eq le split first, split], first⟩

theorem mem_of_mem_newer {other : Item} (later : other ∈ newer le list item) : other ∈ list := by
  have sorted := (dropWhile_suffix _).mem (mem_of_mem_tail later)
  exact (mem_insertionSort le).mp sorted

theorem newer_filter [Std.Total le] [IsTrans Item le] (keep : Item → Bool)
    (member : item ∈ list) (kept : keep item = true) :
    newer le (list.filter keep) item = (newer le list item).filter keep := by
  rcases exists_insertionSort_eq le member with ⟨before, split, first⟩
  have sorted : (list.filter keep).insertionSort le =
      before.filter keep ++ item :: (newer le list item).filter keep := by
    rw [← filter_insertionSort, split, filter_append, filter_cons_of_pos kept]
  exact newer_eq le sorted fun inside => first (mem_of_mem_filter inside)

theorem length_newer_concat [Std.Total le] [IsTrans Item le]
    {arrival : Item} (member : item ∈ list) (fresh : arrival ∉ list) :
    (newer le list item).length ≤ (newer le (list ++ [arrival]) item).length := by
  have others : (list ++ [arrival]).filter (fun other => decide (other ≠ arrival)) = list := by
    rw [filter_append, filter_ne_eq_self fresh]
    simp
  have kept : decide (item ≠ arrival) = true := decide_eq_true fun same => fresh (same ▸ member)
  have restricted := newer_filter le (fun other => decide (other ≠ arrival))
    (mem_append_left [arrival] member) kept
  rw [others] at restricted
  rw [restricted]
  exact length_filter_le _ _

/-- Of two items with enough newer ones the one keeps them when the other goes. -/
theorem le_length_newer_erase [Std.Total le] [IsTrans Item le]
    {other : Item} {count : Nat} (distinct : list.Nodup) (member : item ∈ list)
    (enough : count ≤ (newer le list item).length)
    (otherEnough : other ∈ list → count ≤ (newer le list other).length) (differs : item ≠ other) :
    count ≤ (newer le (list.filter fun entry => decide (entry ≠ other)) item).length := by
  rw [newer_filter le _ member (decide_eq_true differs)]
  by_cases later : other ∈ newer le list item
  · -- the newer ones of the other item come after it, so they are newer than both
    rcases exists_insertionSort_eq le member with ⟨before, split, -⟩
    rcases append_of_mem later with ⟨between, after, position⟩
    have sorted : (list.insertionSort le).Nodup :=
      (perm_insertionSort le list).nodup_iff.mpr distinct
    rw [position] at split
    have shifted : list.insertionSort le = (before ++ item :: between) ++ other :: after := by
      rw [split]
      simp
    rw [shifted] at sorted
    have absent : other ∉ before ++ item :: between ∧ other ∉ after := by
      have := nodup_append.mp sorted
      refine ⟨fun inside => this.2.2 other inside other (.head _) rfl,
        (nodup_cons.mp this.2.1).1⟩
    have remaining : newer le list other = after := newer_eq le shifted absent.1
    have bound := otherEnough (mem_of_mem_newer le later)
    rw [remaining] at bound
    rw [position, filter_append, filter_cons_of_neg (by simp), length_append,
      filter_ne_eq_self absent.2]
    exact Nat.le_add_left_of_le bound
  · rw [filter_ne_eq_self later]
    exact enough

theorem le_length_newer {count : Nat}
    (dropped : item ∈ (list.insertionSort le).take (list.length - count)) :
    count ≤ (newer le list item).length := by
  rcases eq_append_cons_of_mem dropped with ⟨before, after, split, first⟩
  have whole : list.insertionSort le =
      before ++ item :: (after ++ (list.insertionSort le).drop (list.length - count)) := by
    rw [← cons_append, ← append_assoc, ← split, take_append_drop]
  have some : 0 < list.length - count := by
    have := length_pos_of_mem dropped
    rw [length_take] at this
    omega
  rw [newer_eq le whole first, length_append, length_drop, length_insertionSort]
  omega

theorem length_filter_not_mem_take (list : List Item) (count : Nat) : (list.filter fun item =>
      decide (item ∉ (list.insertionSort le).take (list.length - count))).length ≤ count := by
  rw [← ((perm_insertionSort le list).filter _).length_eq]
  conv_lhs => rw [← take_append_drop (list.length - count) (list.insertionSort le)]
  rw [filter_append, filter_eq_nil_iff.mpr fun item inside => by simpa using inside,
    nil_append]
  refine (length_filter_le _ _).trans ?_
  rw [length_drop, length_insertionSort]
  omega

end SupremeOs.Support.Recency
