import Mathlib.Data.List.Nodup

/-!
# Timers of an event loop

A timer that is set gets a handle that no other timer has had; it stays armed
until it is cleared or, if it goes off only once, until it has gone off.  An
object that keeps the handle of its timer in a field has exactly that timer
armed, as long as it clears the old timer before it sets a new one.
-/

namespace SupremeOs.Support

structure Timers where
  armed : List Nat
  next : Nat

namespace Timers

def none : Timers := ⟨[], 0⟩

/-- A new timer; its handle is `next`. -/
def set (timers : Timers) : Timers := ⟨timers.armed ++ [timers.next], timers.next + 1⟩

def clear (timers : Timers) (handle : Nat) : Timers :=
  { timers with armed := timers.armed.filter (· ≠ handle) }

def clearField (timers : Timers) : Option Nat → Timers
  | .none => timers
  | .some handle => timers.clear handle

@[simp]
theorem armed_none : none.armed = [] := rfl

@[simp]
theorem armed_set (timers : Timers) : timers.set.armed = timers.armed ++ [timers.next] := rfl

def Tracks (timers : Timers) (field : Option Nat) : Prop :=
  timers.armed = field.toList

namespace Tracks

variable {timers : Timers} {field : Option Nat} {handle : Nat}

theorem initial : none.Tracks .none := rfl

section

variable (tracks : timers.Tracks field)

include tracks

theorem length_le_one : timers.armed.length ≤ 1 := by
  rw [tracks]
  cases field <;> simp

theorem armed_eq_nil_iff : timers.armed = [] ↔ field = .none := by
  rw [tracks]
  cases field <;> simp

theorem length_eq_one_iff :
    timers.armed.length = 1 ↔ field.isSome = true := by
  rw [tracks]
  cases field <;> simp

theorem field_eq (armed : handle ∈ timers.armed) :
    field = .some handle := by
  rw [tracks] at armed
  exact Option.mem_toList.mp armed

theorem clearField : (timers.clearField field).Tracks .none := by
  cases field with
  | none => exact tracks
  | some handle =>
    have armed : timers.armed = [handle] := tracks
    simp [Tracks, Timers.clearField, clear, armed]

theorem fired (armed : handle ∈ timers.armed) :
    (timers.clear handle).Tracks .none := by
  have same := tracks.field_eq armed
  subst same
  exact tracks.clearField

end

theorem set (tracks : timers.Tracks .none) : timers.set.Tracks (.some timers.next) := by
  have armed : timers.armed = [] := tracks
  simp [Tracks, armed]

end Tracks

end Timers

end SupremeOs.Support
