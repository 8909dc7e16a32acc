import Mathlib.Data.List.Pairwise
import Mathlib.Data.List.Sort

/-!
# Comparing position by position

Two sequences are compared at one position after the other, up to the first at
which they differ.  A comparison may have no result; then the whole has none.
Where the comparison at every position composes, so does that of the sequences.

A list that is sorted from the greatest element on begins with a greatest one,
if the comparison composes on the elements of the list.
-/

namespace SupremeOs.Support

variable {Item : Type*} {compareItems : Item → Item → Option Ordering}

/-- What is at most in both comparisons is at most in the third. -/
def Composes (first second whole : Option Ordering) : Prop :=
  ∀ left right, first = some left → second = some right → left.isLE → right.isLE →
    whole = some (left.then right)

/-- The two results are numbers, and one is the other with its sign changed. -/
def Opposed (first second : Option Ordering) : Prop :=
  ∃ sign : Ordering, first = some sign ∧ second = some sign.swap

/-- So many positions are compared, from a first one on. -/
def compareFrom (compareItems : Item → Item → Option Ordering) (left right : Nat → Item) :
    Nat → Nat → Option Ordering
  | 0, _ => some .eq
  | count + 1, i =>
    match compareItems (left i) (right i) with
    | some .eq => compareFrom compareItems left right count (i + 1)
    | other => other

variable {left middle right : Nat → Item}

theorem compareFrom_opposite
    (items : ∀ i, Opposed (compareItems (left i) (right i)) (compareItems (right i) (left i)))
    (count i : Nat) :
    Opposed (compareFrom compareItems left right count i)
      (compareFrom compareItems right left count i) := by
  induction count generalizing i with
  | zero => exact ⟨.eq, rfl, rfl⟩
  | succ count ih =>
    rcases items i with ⟨sign, forward, backward⟩
    simp only [compareFrom, forward, backward]
    cases sign with
    | eq => exact ih (i + 1)
    | lt => exact ⟨.lt, rfl, rfl⟩
    | gt => exact ⟨.gt, rfl, rfl⟩

theorem compareFrom_of_isLE {count i : Nat} {sign : Ordering}
    (compared : compareFrom compareItems left right (count + 1) i = some sign) (below : sign.isLE) :
    compareItems (left i) (right i) = some .lt ∧ sign = .lt ∨
      compareItems (left i) (right i) = some .eq ∧
        compareFrom compareItems left right count (i + 1) = some sign := by
  simp only [compareFrom] at compared
  split at compared
  · rename_i same
    exact .inr ⟨same, compared⟩
  · rename_i differs
    cases sign with
    | lt => exact .inl ⟨compared, rfl⟩
    | eq => exact absurd compared differs
    | gt => cases below

theorem compareFrom_composes
    (items : ∀ i, Composes (compareItems (left i) (middle i)) (compareItems (middle i) (right i))
      (compareItems (left i) (right i)))
    (count i : Nat) :
    Composes (compareFrom compareItems left middle count i)
      (compareFrom compareItems middle right count i)
      (compareFrom compareItems left right count i) := by
  induction count generalizing i with
  | zero =>
    rintro _ _ ⟨⟩ ⟨⟩ - -
    rfl
  | succ count ih =>
    intro one two first second oneLE twoLE
    simp only [compareFrom]
    rcases compareFrom_of_isLE first oneLE with ⟨here, rfl⟩ | ⟨here, first⟩ <;>
      rcases compareFrom_of_isLE second twoLE with ⟨next, rfl⟩ | ⟨next, second⟩
    · rw [items i _ _ here next rfl rfl]
      rfl
    · rw [items i _ _ here next rfl rfl]
      rfl
    · rw [items i _ _ here next rfl rfl]
      cases one with
      | lt | eq => rfl
      | gt => cases oneLE
    · rw [items i _ _ here next rfl rfl]
      exact ih (i + 1) one two first second oneLE twoLE

/-- Positions at which the sequences do not differ add nothing. -/
theorem compareFrom_extend {count more i : Nat}
    (same : ∀ j, i + count ≤ j → compareItems (left j) (right j) = some .eq) :
    compareFrom compareItems left right (count + more) i =
      compareFrom compareItems left right count i := by
  induction count generalizing i with
  | zero =>
    induction more generalizing i with
    | zero => rfl
    | succ more ih =>
      have here := same i (Nat.le_refl i)
      rw [Nat.zero_add] at ih ⊢
      simp only [compareFrom, here]
      exact ih fun j later => same j (by omega)
  | succ count ih =>
    rw [Nat.succ_add]
    simp only [compareFrom]
    split
    · exact ih fun j later => same j (by omega)
    · rfl

/-- What a sorted list begins with comes before everything, if that is so of its elements. -/
theorem head_insertionSort {before : Item → Item → Prop} [DecidableRel before]
    {items : List Item} {first : Item} (trans : ∀ one ∈ items, ∀ two ∈ items, ∀ three ∈ items,
      before one two → before two three → before one three)
    (total : ∀ one ∈ items, ∀ two ∈ items, before one two ∨ before two one)
    (sorted : (items.insertionSort before).head? = some first) :
    first ∈ items ∧ ∀ item ∈ items, before first item := by
  induction items generalizing first with
  | nil => cases sorted
  | cons item rest ih =>
    have refl : before item item := by simpa using total item (by simp) item (by simp)
    rw [List.insertionSort_cons] at sorted
    cases others : rest.insertionSort before with
    | nil =>
      have empty : rest = [] := by
        simpa [others] using (List.perm_insertionSort before rest).length_eq.symm
      subst empty
      cases sorted
      simpa using refl
    | cons second tail =>
      rcases ih (fun _ m₁ _ m₂ _ m₃ => trans _ (by simp [m₁]) _ (by simp [m₂]) _ (by simp [m₃]))
        (fun _ m₁ _ m₂ => total _ (by simp [m₁]) _ (by simp [m₂])) (by rw [others]; rfl) with
        ⟨member, leads⟩
      rw [others, List.orderedInsert_cons] at sorted
      split at sorted
      · rename_i precedes
        cases sorted
        refine ⟨by simp, fun other inside => ?_⟩
        rcases List.mem_cons.mp inside with rfl | inside
        · exact refl
        · exact trans _ (by simp) _ (by simp [member]) _ (by simp [inside]) precedes
            (leads other inside)
      · rename_i follows
        cases sorted
        refine ⟨by simp [member], fun other inside => ?_⟩
        rcases List.mem_cons.mp inside with rfl | inside
        · exact (total _ (by simp) _ (by simp [member])).resolve_left follows
        · exact leads other inside

end SupremeOs.Support
