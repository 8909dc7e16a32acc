import Mathlib.Data.List.Basic

/-!
# Loops that serve items and may throw

`forEach` runs a body for the items of a list in order and stops at the first
item for which the body throws.  A `ServingLoop` is such a loop that writes one
log entry for every item it serves.  Whether the body throws for an item it
serves depends on the state in which the item is reached; the rule of this file
says that every item to be served gets its entry exactly if none throws.
-/

namespace SupremeOs.Support

open List

universe u v w x y

variable {Item : Type u} {State : Type v} {Error : Type w} {Entry : Type x} {Key : Type y}

/-- Run the body for each item; an error ends the loop. -/
def forEach (body : Item → State → State × Option Error) : List Item → State → State × Option Error
  | [], state => (state, none)
  | item :: rest, state =>
    match body item state with
    | (next, none) => forEach body rest next
    | (next, some error) => (next, some error)

/-- When an item to be served is reached, serving it does not fail. -/
def Undisturbed (body : Item → State → State × Option Error)
    (serves healthy : Item → State → Prop) : List Item → State → Prop
  | [], _ => True
  | item :: rest, state =>
    (serves item state → healthy item state) ∧
      Undisturbed body serves healthy rest (body item state).1

/--
A body that skips an item, or serves it with one entry under its key, or throws
without an entry, and that never changes whether an item with another key is to
be served.
-/
structure ServingLoop (body : Item → State → State × Option Error)
    (serves healthy : Item → State → Prop) (log : State → List Entry)
    (key : Item → Key) (entryKey : Entry → Key) : Prop where
  skipped : ∀ item state, ¬ serves item state →
    (body item state).2 = none ∧ log (body item state).1 = log state
  served : ∀ item state, serves item state → healthy item state → (body item state).2 = none ∧
      ∃ entry, entryKey entry = key item ∧ log (body item state).1 = log state ++ [entry]
  refused : ∀ item state, serves item state → ¬ healthy item state →
    (∃ error, (body item state).2 = some error) ∧ log (body item state).1 = log state
  stable : ∀ item other state, key item ≠ key other →
    (serves other (body item state).1 ↔ serves other state)

variable {body : Item → State → State × Option Error}

/-- What every round preserves, the whole loop preserves. -/
theorem forEach_invariant {invariant : State → Prop}
    (preserved : ∀ item state, invariant state → invariant (body item state).1)
    (items : List Item) {state : State} (holds : invariant state) :
    invariant (forEach body items state).1 := by
  induction items generalizing state with
  | nil => exact holds
  | cons item rest ih =>
    have here := preserved item state holds
    simp only [forEach]
    split
    · rename_i next thrown
      rw [thrown] at here
      exact ih here
    · rename_i next error thrown
      rw [thrown] at here
      exact here

/--
What a round changes is seen under the key of its item only; so a loop that is not
ended changes what is seen under each key once.
-/
theorem forEach_view {View : Type*} (key : Item → Key)
    (view : Key → State → View) (change : Item → View → View)
    (own : ∀ item state, (body item state).2 = none →
      view (key item) (body item state).1 = change item (view (key item) state))
    (others : ∀ item state other, key item ≠ other → view other (body item state).1 =
      view other state)
    {items : List Item} (distinct : (items.map key).Nodup) {state : State}
    (completes : (forEach body items state).2 = none) :
    (∀ item ∈ items, view (key item) (forEach body items state).1 =
        change item (view (key item) state)) ∧
      ∀ other ∉ items.map key, view other (forEach body items state).1 = view other state := by
  induction items generalizing state with
  | nil => exact ⟨nofun, fun _ _ => rfl⟩
  | cons item rest ih =>
    rw [map_cons, nodup_cons] at distinct
    simp only [forEach] at completes ⊢
    split at completes
    · rename_i next thrown
      have goesOn : (body item state).2 = none := congrArg Prod.snd thrown
      have reached : (body item state).1 = next := congrArg Prod.fst thrown
      obtain ⟨inside, outside⟩ := ih distinct.2 completes
      refine ⟨?_, fun other absent => ?_⟩
      · rintro other (_ | ⟨_, member⟩)
        · rw [outside _ distinct.1, ← reached, own item state goesOn]
        · have differs : key item ≠ key other :=
            fun same => distinct.1 (same ▸ mem_map_of_mem member)
          rw [inside other member, ← reached, others item state _ differs]
      · rw [map_cons, mem_cons, not_or] at absent
        rw [outside other absent.2, ← reached,
          others item state other fun same => absent.1 same.symm]
    · cases completes

/-- A loop changes nothing that is seen under a key that none of its items has. -/
theorem forEach_view_of_absent {View : Type*} {key : Item → Key} {view : Key → State → View}
    (others : ∀ item state other, key item ≠ other → view other (body item state).1 =
      view other state)
    {items : List Item} {other : Key} (absent : other ∉ items.map key) (state : State) :
    view other (forEach body items state).1 = view other state := by
  induction items generalizing state with
  | nil => rfl
  | cons item rest ih =>
    rw [map_cons, mem_cons, not_or] at absent
    have here := others item state other fun same => absent.1 same.symm
    simp only [forEach]
    split
    · rename_i next thrown
      rw [thrown] at here
      exact (ih absent.2 next).trans here
    · rename_i next error thrown
      rw [thrown] at here
      exact here

/--
If the rounds before an item go on, the loop changes what is seen under its key
as its round does, whatever happens after that.
-/
theorem forEach_view_reached {View : Type*}
    {key : Item → Key} {view : Key → State → View} {change : View → View}
    (others : ∀ item state other, key item ≠ other → view other (body item state).1 =
      view other state)
    {earlier later : List Item} {item : Item}
    (distinct : ((earlier ++ item :: later).map key).Nodup)
    (goOn : ∀ other ∈ earlier, ∀ state, (body other state).2 = none)
    (own : ∀ state, view (key item) (body item state).1 = change (view (key item) state))
    (state : State) :
    view (key item) (forEach body (earlier ++ item :: later) state).1 =
      change (view (key item) state) := by
  induction earlier generalizing state with
  | nil =>
    rw [nil_append, map_cons, nodup_cons] at distinct
    have here := own state
    simp only [nil_append, forEach]
    split
    · rename_i next thrown
      rw [thrown] at here
      exact (forEach_view_of_absent others distinct.1 next).trans here
    · rename_i next error thrown
      rw [thrown] at here
      exact here
  | cons first rest ih =>
    rw [cons_append, map_cons, nodup_cons] at distinct
    have differs : key first ≠ key item := by
      intro same
      refine distinct.1 ?_
      rw [same, map_append, map_cons]
      exact mem_append_right _ (.head _)
    have continues := goOn first (.head _) state
    have unseen := others first state (key item) differs
    simp only [cons_append, forEach]
    split
    · rename_i next thrown
      rw [thrown] at unseen
      rw [ih distinct.2 (fun other member => goOn other (.tail _ member)) next, unseen]
    · rename_i next error thrown
      rw [thrown] at continues
      cases continues

variable [DecidableEq Key]

def entriesOf (entryKey : Entry → Key) (key : Key) (entries : List Entry) : Nat :=
  (entries.filter fun entry => decide (entryKey entry = key)).length

theorem entriesOf_append (entryKey : Entry → Key) (key : Key) (left right : List Entry) :
    entriesOf entryKey key (left ++ right) =
      entriesOf entryKey key left + entriesOf entryKey key right := by
  simp [entriesOf]

theorem entriesOf_singleton (entryKey : Entry → Key) (key : Key) (entry : Entry) :
    entriesOf entryKey key [entry] = if entryKey entry = key then 1 else 0 := by
  by_cases same : entryKey entry = key <;> simp [entriesOf, same]

namespace ServingLoop

variable {body : Item → State → State × Option Error}
variable {serves healthy : Item → State → Prop} {log : State → List Entry}
variable {key : Item → Key} {entryKey : Entry → Key}

theorem entriesOf_body (loop : ServingLoop body serves healthy log key entryKey)
    (item : Item) (state : State) {other : Key} (differs : key item ≠ other) :
    entriesOf entryKey other (log (body item state).1) = entriesOf entryKey other (log state) := by
  by_cases due : serves item state
  · by_cases well : healthy item state
    · rcases (loop.served item state due well).2 with ⟨entry, owner, appended⟩
      rw [appended, entriesOf_append, entriesOf_singleton, owner, if_neg differs]
      rfl
    · rw [(loop.refused item state due well).2]
  · rw [(loop.skipped item state due).2]

/-- The loop adds no entry under a key that none of its items has. -/
theorem entriesOf_forEach (loop : ServingLoop body serves healthy log key entryKey)
    (items : List Item) (state : State) {other : Key} (absent : other ∉ items.map key) :
    entriesOf entryKey other (log (forEach body items state).1) =
      entriesOf entryKey other (log state) := by
  induction items generalizing state with
  | nil => rfl
  | cons item rest ih =>
    simp only [map_cons, mem_cons, not_or] at absent
    have here := loop.entriesOf_body item state (fun equal => absent.1 equal.symm)
    simp only [forEach]
    split
    · rename_i next thrown
      rw [ih next absent.2]
      rw [thrown] at here
      exact here
    · rename_i next error thrown
      rw [thrown] at here
      exact here

/--
Items with distinct keys: every item to be served gets exactly one entry,
exactly if the loop is undisturbed.
-/
theorem served_once_iff (loop : ServingLoop body serves healthy log key entryKey)
    (items : List Item) (distinct : (items.map key).Nodup) (state : State) :
    (∀ item ∈ items, serves item state →
      entriesOf entryKey (key item) (log (forEach body items state).1) =
        entriesOf entryKey (key item) (log state) + 1) ↔
      Undisturbed body serves healthy items state := by
  induction items generalizing state with
  | nil => simp [Undisturbed]
  | cons item rest ih =>
    simp only [map_cons, nodup_cons] at distinct
    by_cases disturbed : serves item state ∧ ¬ healthy item state
    · -- The loop ends here, and the item has no entry.
      rcases loop.refused item state disturbed.1 disturbed.2 with ⟨⟨error, thrown⟩, kept⟩
      have ends : forEach body (item :: rest) state = ((body item state).1, some error) := by
        simp only [forEach]
        split
        · rename_i next none
          simp [none] at thrown
        · rename_i next other some
          simp [some] at thrown ⊢
          exact thrown
      constructor
      · intro once
        have entry := once item (.head _) disturbed.1
        rw [ends, kept] at entry
        omega
      · intro undisturbed
        exact (disturbed.2 (undisturbed.1 disturbed.1)).elim
    · have goesOn : (body item state).2 = none := by
        by_cases due : serves item state
        · by_cases well : healthy item state
          · exact (loop.served item state due well).1
          · exact (disturbed ⟨due, well⟩).elim
        · exact (loop.skipped item state due).1
      have onward : forEach body (item :: rest) state = forEach body rest (body item state).1 := by
        simp only [forEach]
        split
        · rename_i next none
          simp [none]
        · rename_i next error some
          simp [some] at goesOn
      rw [onward]
      simp only [Undisturbed, mem_cons, forall_eq_or_imp, ← ih distinct.2 (body item state).1]
      apply and_congr
      · have elsewhere :=
          loop.entriesOf_forEach rest (body item state).1 distinct.1
        rw [elsewhere]
        constructor
        · intro _ due
          by_contra ill
          exact disturbed ⟨due, ill⟩
        · intro well due
          rcases (loop.served item state due (well due)).2 with ⟨entry, owner, appended⟩
          rw [appended, entriesOf_append, entriesOf_singleton, if_pos owner]
      · apply forall₂_congr
        intro other member
        have differs : key item ≠ key other :=
          fun equal => distinct.1 (equal ▸ mem_map_of_mem member)
        rw [loop.stable item other state differs, loop.entriesOf_body item state differs]

end ServingLoop

end SupremeOs.Support
