import Mathlib.Data.List.Basic
import Mathlib.Data.List.Induction

/-!
# The last mark of a history

Some events of a history switch something on or off and the others leave it as
it is.  Whether it is on at the end can be computed from the front to the back,
and it means that the last event that switches is one that switches on.
-/

namespace SupremeOs.Support

variable {Event : Type*}

/-- Whether it is on at the end; it is off at the start. -/
def latest (mark : Event → Option Bool) (history : List Event) : Bool :=
  history.foldl (fun on event => (mark event).getD on) false

variable {mark : Event → Option Bool} {history : List Event}

@[simp]
theorem latest_nil : latest mark [] = false := rfl

@[simp]
theorem latest_concat (event : Event) :
    latest mark (history ++ [event]) = (mark event).getD (latest mark history) := by
  simp [latest]

theorem latest_concat_of_none {event : Event} (marked : mark event = none) :
    latest mark (history ++ [event]) = latest mark history := by
  rw [latest_concat, marked, Option.getD_none]

theorem concat_eq_append_cons {last event : Event} {earlier later : List Event} :
    history ++ [last] = earlier ++ event :: later ↔
      (history = earlier ∧ last = event ∧ later = []) ∨
        ∃ before, later = before ++ [last] ∧ history = earlier ++ event :: before := by
  constructor
  · intro split
    rcases later.eq_nil_or_concat' with rfl | ⟨before, final, rfl⟩
    · rcases List.append_inj' split rfl with ⟨same, ends⟩
      exact .inl ⟨same, List.singleton_inj.mp ends, rfl⟩
    · have split : history ++ [last] = (earlier ++ event :: before) ++ [final] := by
        simpa using split
      rcases List.append_inj' split rfl with ⟨same, ends⟩
      exact .inr ⟨before, by rw [List.singleton_inj.mp ends], same⟩
  · rintro (⟨rfl, rfl, rfl⟩ | ⟨before, rfl, rfl⟩)
    · rfl
    · simp

theorem latest_iff : latest mark history = true ↔
      ∃ earlier event later, history = earlier ++ event :: later ∧ mark event = some true ∧
        ∀ other ∈ later, mark other ≠ some false := by
  induction history using List.reverseRecOn with
  | nil => simp
  | append_singleton history last ih =>
    rw [latest_concat]
    constructor
    · intro on
      cases marked : mark last with
      | some switched =>
        rw [marked, Option.getD_some] at on
        exact ⟨history, last, [], rfl, by rw [marked, on], by simp⟩
      | none =>
        rw [marked, Option.getD_none] at on
        rcases ih.mp on with ⟨earlier, event, later, rfl, switched, kept⟩
        refine ⟨earlier, event, later ++ [last], by simp, switched, ?_⟩
        intro other member
        rcases List.mem_append.mp member with before | final
        · exact kept other before
        · rw [List.mem_singleton.mp final, marked]
          exact Option.some_ne_none false |>.symm
    · rintro ⟨earlier, event, later, split, switched, kept⟩
      rcases concat_eq_append_cons.mp split with ⟨_, rfl, _⟩ | ⟨before, rfl, same⟩
      · rw [switched, Option.getD_some]
      · have on := ih.mpr ⟨earlier, event, before, same, switched,
          fun other member => kept other (List.mem_append_left _ member)⟩
        have keeps := kept last (List.mem_append_right _ (.head _))
        rw [on]
        cases marked : mark last with
        | none => rfl
        | some value =>
          cases value with
          | false => exact absurd marked keeps
          | true => rfl

theorem latest_eq_false_of_opposite {opposite : Event → Option Bool}
    (opposed : ∀ event, opposite event = (mark event).map not)
    (on : latest opposite history = true) : latest mark history = false := by
  induction history using List.reverseRecOn with
  | nil => rfl
  | append_singleton history last ih =>
    rw [latest_concat, opposed] at on
    rw [latest_concat]
    cases marked : mark last with
    | none => exact ih (by simpa [marked] using on)
    | some switched => simpa [marked] using on

variable {Entry Subject : Type*} [DecidableEq Subject] {about : Entry → Subject}

def lifeOf (about : Entry → Subject) (subject : Subject) (log : List Entry) : List Entry :=
  log.filter fun entry => decide (about entry = subject)

variable {log : List Entry} {entry : Entry} {subject : Subject}

@[simp]
theorem lifeOf_nil : lifeOf about subject [] = [] := rfl

@[simp]
theorem mem_lifeOf : entry ∈ lifeOf about subject log ↔ entry ∈ log ∧ about entry = subject := by
  simp [lifeOf]

theorem lifeOf_concat_self (own : about entry = subject) :
    lifeOf about subject (log ++ [entry]) = lifeOf about subject log ++ [entry] := by
  simp [lifeOf, own]

theorem lifeOf_concat_other (other : about entry ≠ subject) :
    lifeOf about subject (log ++ [entry]) = lifeOf about subject log := by
  simp [lifeOf, other]

end SupremeOs.Support
