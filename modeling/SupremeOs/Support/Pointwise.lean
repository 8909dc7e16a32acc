import Mathlib.Data.List.Nodup

/-!
# Loops that treat one place at a time

A loop that goes through items with different places, and at every item changes
the state at the place of that item only, leaves at every place what its one
item made of it, and at all other places what was there.
-/

namespace SupremeOs.Support

open List

variable {State Item Place View : Type*}

/-- What one turn of the loop does to the view of the state. -/
structure TreatsPlace (view : State → Place → View) (placeOf : Item → Place)
    (treated : Item → View → View → Prop) (item : Item) (before after : State) : Prop where
  elsewhere : ∀ place, place ≠ placeOf item → view after place = view before place
  here : treated item (view before (placeOf item)) (view after (placeOf item))

/-- What a loop over items does to the views of the state. -/
structure TreatsPlaces (view : State → Place → View) (placeOf : Item → Place)
    (treated : Item → View → View → Prop) (items : List Item) (before after : State) : Prop where
  elsewhere : ∀ place, place ∉ items.map placeOf → view after place = view before place
  here : ∀ item ∈ items, treated item (view before (placeOf item)) (view after (placeOf item))

theorem foldl_treatsPlaces (view : State → Place → View) (placeOf : Item → Place)
    (treated : Item → View → View → Prop) (invariant : List Item → State → Prop)
    {step : State → Item → State}
    (turn : ∀ item rest state, invariant (item :: rest) state → invariant rest (step state item) ∧
        TreatsPlace view placeOf treated item state (step state item))
    {items : List Item} (apart : (items.map placeOf).Nodup) {state : State}
    (holds : invariant items state) :
    TreatsPlaces view placeOf treated items state (items.foldl step state) := by
  induction items generalizing state with
  | nil => exact ⟨fun _ _ => rfl, fun _ member => absurd member not_mem_nil⟩
  | cons first rest ih =>
    rcases turn first rest state holds with ⟨next, treats⟩
    rw [map_cons, nodup_cons] at apart
    have later := ih apart.2 next
    refine ⟨fun place outside => ?_, fun item member => ?_⟩
    · rw [map_cons, mem_cons, not_or] at outside
      rw [foldl_cons, later.elsewhere place outside.2, treats.elsewhere place outside.1]
    · rw [foldl_cons]
      rcases mem_cons.mp member with rfl | inRest
      · rw [later.elsewhere _ apart.1]
        exact treats.here
      · have differs : placeOf item ≠ placeOf first := by
          intro same
          exact apart.1 (same ▸ mem_map_of_mem inRest)
        rw [← treats.elsewhere _ differs]
        exact later.here item inRest

theorem TreatsPlaces.thenClears {Rest : Type*} {view : State → Place → View}
    {placeOf : Item → Place} {treated : Item → View → View → Prop} {restPlace : Rest → Place}
    {cleared : View} {inUse : View → Prop} {items : List Item} {rest : List Rest}
    {before middle after : State} (first : TreatsPlaces view placeOf treated items before middle)
    (second : TreatsPlaces view restPlace (fun _ _ now => now = cleared) rest middle after)
    (picked : ∀ place, place ∈ rest.map restPlace ↔
      inUse (view middle place) ∧ place ∉ items.map placeOf) :
    (∀ item ∈ items, treated item (view before (placeOf item)) (view after (placeOf item))) ∧
      ∀ place, place ∉ items.map placeOf →
        (inUse (view before place) → view after place = cleared) ∧
        (¬inUse (view before place) → view after place = view before place) := by
  constructor
  · intro item member
    have listed : placeOf item ∉ rest.map restPlace := by
      rw [picked]
      exact fun outside => outside.2 (mem_map_of_mem member)
    rw [second.elsewhere _ listed]
    exact first.here item member
  · intro place outside
    rw [← first.elsewhere place outside]
    constructor
    · intro used
      rcases mem_map.mp ((picked place).mpr ⟨used, outside⟩) with ⟨item, member, rfl⟩
      exact second.here item member
    · intro unused
      exact second.elsewhere place fun inside => unused ((picked place).mp inside).1

end SupremeOs.Support
