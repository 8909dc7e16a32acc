import Mathlib.Data.List.Basic

/-!
# Bounds on what happens within a window of time

If, whenever something happens, fewer than `bound` of the earlier ones are less
than the length of a window back, then no window of that length holds more than
`bound` of them.
-/

namespace SupremeOs.Support

open List

variable {Event : Type*}

/-- The events that are less than `length` back at a moment. -/
def recent (moment : Event → Nat) (length now : Nat) (events : List Event) : List Event :=
  events.filter fun event => now < moment event + length

/-- The events in the window of this length that begins at `start`. -/
def inWindow (moment : Event → Nat) (length start : Nat) (events : List Event) : List Event :=
  events.filter fun event => start ≤ moment event && moment event < start + length

variable {moment : Event → Nat} {length bound : Nat} {events : List Event}

theorem length_recent_anti {earlier later : Nat} (order : earlier ≤ later) :
    (recent moment length later events).length ≤ (recent moment length earlier events).length := by
  refine (monotone_filter_right events ?_).length_le
  intro event within
  simp only [decide_eq_true_eq] at within ⊢
  omega

theorem length_recent_le (now : Nat) : (recent moment length now events).length ≤ events.length :=
  length_filter_le _ _

theorem length_inWindow_le_recent {event : Event} {start : Nat}
    (until_end : moment event < start + length) :
    (inWindow moment length start events).length ≤
      (recent moment length (moment event) events).length := by
  refine (monotone_filter_right events ?_).length_le
  intro other within
  simp only [Bool.and_eq_true, decide_eq_true_eq] at within ⊢
  omega

theorem length_inWindow_concat_le {event : Event}
    (few : (recent moment length (moment event) events).length < bound)
    (bounded : ∀ start, (inWindow moment length start events).length ≤ bound) (start : Nat) :
    (inWindow moment length start (events ++ [event])).length ≤ bound := by
  have split : inWindow moment length start (events ++ [event]) =
      inWindow moment length start events ++ inWindow moment length start [event] :=
    filter_append events [event]
  rw [split, length_append]
  by_cases within : start ≤ moment event ∧ moment event < start + length
  · have before := @length_inWindow_le_recent _ moment length events _ _ within.2
    have single : (inWindow moment length start [event]).length ≤ 1 := length_filter_le _ _
    omega
  · have none : inWindow moment length start [event] = [] := by
      simp only [inWindow, filter_cons, filter_nil]
      rw [if_neg (by simpa using within)]
    rw [none, length_nil, Nat.add_zero]
    exact bounded start

end SupremeOs.Support
