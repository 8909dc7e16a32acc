import Mathlib.Data.List.Nodup

/-!
# Up to the first failure

Items are gone through in order.  Some of them are chosen, and a chosen one may
fail, after which none is taken any more.  What is taken is what was wanted
exactly if each item is wanted as long as it is chosen and none has failed.
-/

namespace SupremeOs.Support

open List

variable {Item : Type*} {chosen fails wanted : Item → Bool} {item : Item} {items : List Item}

/-- The chosen items, up to the first of them that fails. -/
def upToFailure (chosen fails : Item → Bool) : List Item → List Item
  | [] => []
  | item :: rest =>
    if chosen item = true then
      item :: if fails item = true then [] else upToFailure chosen fails rest
    else upToFailure chosen fails rest

theorem upToFailure_sublist : (upToFailure chosen fails items).Sublist items := by
  induction items with
  | nil => exact List.Sublist.slnil
  | cons item rest ih =>
    rw [upToFailure]
    by_cases own : chosen item = true
    · rw [if_pos own]
      refine List.Sublist.cons_cons item ?_
      split
      · exact nil_sublist rest
      · exact ih
    · rw [if_neg own]
      exact ih.cons item

def WantedUpToFailure (chosen fails wanted : Item → Bool) (items : List Item) : Prop :=
  ∀ before item after, items = before ++ item :: after → (wanted item = true ↔
      chosen item = true ∧ ∀ earlier ∈ before, chosen earlier = true → fails earlier = false)

theorem wantedUpToFailure_cons {rest : List Item} :
    WantedUpToFailure chosen fails wanted (item :: rest) ↔
      (wanted item = true ↔ chosen item = true) ∧
        if chosen item = true ∧ fails item = true then ∀ other ∈ rest, wanted other = false
        else WantedUpToFailure chosen fails wanted rest := by
  constructor
  · intro whole
    refine ⟨(whole [] item rest rfl).trans (and_iff_left fun _ absent => by cases absent), ?_⟩
    split
    · rename_i failed
      intro other member
      rcases mem_iff_append.mp member with ⟨before, after, rfl⟩
      refine Bool.eq_false_iff.mpr fun want => ?_
      have all := ((whole (item :: before) other after rfl).mp want).2
      have passed := all item (.head _) failed.1
      rw [failed.2] at passed
      cases passed
    · rename_i goesOn
      rintro before other after rfl
      rw [whole (item :: before) other after rfl]
      refine and_congr Iff.rfl ⟨fun all earlier member => all earlier
        (.tail _ member), fun all earlier member own => ?_⟩
      rcases mem_cons.mp member with rfl | behind
      · exact Bool.eq_false_iff.mpr fun failed => goesOn ⟨own, failed⟩
      · exact all earlier behind own
  · rintro ⟨first, others⟩ before other after split
    cases before with
    | nil =>
      cases split
      exact first.trans (and_iff_left fun _ absent => by cases absent).symm
    | cons head before =>
      cases split
      by_cases failed : chosen item = true ∧ fails item = true
      · rw [if_pos failed] at others
        rw [others other (mem_append_right _ (.head _))]
        constructor
        · nofun
        · rintro ⟨_, all⟩
          have passed := all item (.head _) failed.1
          rw [failed.2] at passed
          cases passed
      · rw [if_neg failed] at others
        rw [others before other after rfl]
        refine and_congr Iff.rfl ⟨fun all earlier member own => ?_, fun all earlier member =>
          all earlier (.tail _ member)⟩
        rcases mem_cons.mp member with rfl | behind
        · exact Bool.eq_false_iff.mpr fun fail => failed ⟨own, fail⟩
        · exact all earlier behind own

theorem upToFailure_eq_filter_iff (distinct : items.Nodup) :
    upToFailure chosen fails items = items.filter wanted ↔
      WantedUpToFailure chosen fails wanted items := by
  induction items with
  | nil =>
    refine iff_of_true rfl ?_
    intro before item after split
    exact absurd split.symm (append_ne_nil_of_right_ne_nil _ (cons_ne_nil _ _))
  | cons item rest ih =>
    rw [nodup_cons] at distinct
    have notTaken : item ∉ upToFailure chosen fails rest :=
      fun taken => distinct.1 (upToFailure_sublist.subset taken)
    have notKept : item ∉ rest.filter wanted :=
      fun kept => distinct.1 (mem_of_mem_filter kept)
    rw [wantedUpToFailure_cons, upToFailure, filter_cons, ← ih distinct.2]
    cases own : chosen item <;> cases want : wanted item
    · simp
    · simp only [Bool.false_eq_true, if_false, if_true, iff_false, not_true, false_and]
      intro same
      exact notTaken (same ▸ mem_cons_self)
    · simp only [Bool.false_eq_true, if_false, if_true, false_iff, not_true, false_and, iff_false]
      intro same
      exact notKept (same ▸ mem_cons_self)
    · cases failed : fails item
      · simp
      · simp

end SupremeOs.Support
