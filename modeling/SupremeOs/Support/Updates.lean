import Mathlib.Data.List.Induction

/-!
# Values that are changed field by field

The completed changes of a value, applied in their order, say what the value
should be.  A field that a change either sets or leaves as it is has then the
content that the last change which sets it has given it.
-/

namespace SupremeOs.Support

variable {Change Value Field : Type*}

def afterAll (apply : Value → Change → Value) (initial : Value) (history : List Change) : Value :=
  history.foldl apply initial

def lastSet (sets : Change → Option Field) (initial : Field) (history : List Change) : Field :=
  history.foldl (fun field change => (sets change).getD field) initial

variable {apply : Value → Change → Value} {sets : Change → Option Field} {initial : Value}
variable {history : List Change}

@[simp]
theorem afterAll_concat (change : Change) : afterAll apply initial (history ++ [change]) =
      apply (afterAll apply initial history) change := by
  simp [afterAll]

@[simp]
theorem lastSet_nil (field : Field) : lastSet sets field [] = field := rfl

@[simp]
theorem lastSet_concat (field : Field) (change : Change) :
    lastSet sets field (history ++ [change]) = (sets change).getD (lastSet sets field history) := by
  simp [lastSet]

theorem lastSet_induction {property : Field → Prop} {field : Field} (first : property field)
    (each : ∀ change set, sets change = some set → property set) :
    property (lastSet sets field history) := by
  induction history using List.reverseRecOn with
  | nil => exact first
  | append_singleton history change ih =>
    rw [lastSet_concat]
    cases found : sets change with
    | none => exact ih
    | some set => exact each change set found

theorem lastSet_of_none {field : Field} (none_sets : ∀ change ∈ history, sets change = none) :
    lastSet sets field history = field := by
  induction history using List.reverseRecOn with
  | nil => rfl
  | append_singleton history change ih =>
    rw [lastSet_concat, none_sets change (by simp), Option.getD_none]
    exact ih fun other member => none_sets other (List.mem_append_left _ member)

theorem lastSet_of_split {field set : Field} {change : Change} {earlier later : List Change}
    (own : sets change = some set) (none_later : ∀ other ∈ later, sets other = none) :
    lastSet sets field (earlier ++ change :: later) = set := by
  have split : lastSet sets field (earlier ++ change :: later) = lastSet sets set later := by
    simp [lastSet, own]
  rw [split, lastSet_of_none none_later]

end SupremeOs.Support
