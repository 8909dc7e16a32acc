import Mathlib.Data.List.Basic

/-!
# Copies that are written back

Calls read a value as a whole, change their copies, and write them back as a
whole, with a count of the writes.  What has happened is owed to the value: it
is to be recorded there, once the call that has done it has written it back.

If a copy is written back only while nothing has been written since it was
read, and no call gives up after it has done something, then all that is owed
is recorded when no call is left.
-/

namespace SupremeOs.Support

open List

/-- What a call carries: the count of writes at its read, its copy, and what it has done. -/
structure WriteBack (Call Copy Event : Type*) where
  version : Call → Option Nat
  copy : Call → Option Copy
  acts : Call → List Event

namespace WriteBack

variable {Call Copy Event : Type*} (view : WriteBack Call Copy Event)

/-- A call has done it and is still to write it back. -/
def Held (pending : List Call) (event : Event) : Prop :=
  ∃ call ∈ pending, event ∈ view.acts call

structure Sound (recorded : Event → Copy → Prop) (owed : Event → Prop) (stored : Copy)
    (writes : Nat) (pending : List Call) : Prop where
  versions : ∀ call ∈ pending, ∀ version ∈ view.version call, version ≤ writes
  own : ∀ call ∈ pending, ∀ copy ∈ view.copy call, ∀ event ∈ view.acts call, recorded event copy
  stored : ∀ event, owed event → view.Held pending event ∨ recorded event stored
  copies : ∀ call ∈ pending, view.version call = some writes → ∀ copy ∈ view.copy call,
    ∀ event, owed event → view.Held pending event ∨ recorded event copy

variable {view} {recorded : Event → Copy → Prop} {owed owed' : Event → Prop} {stored copy : Copy}
variable {writes : Nat} {pending before after more : List Call} {call : Call} {event : Event}

theorem held_append {other : List Call} :
    view.Held (pending ++ other) event ↔ view.Held pending event ∨ view.Held other event := by
  simp only [Held, mem_append]
  constructor
  · rintro ⟨call, member | member, acted⟩
    · exact .inl ⟨call, member, acted⟩
    · exact .inr ⟨call, member, acted⟩
  · rintro (⟨call, member, acted⟩ | ⟨call, member, acted⟩)
    · exact ⟨call, .inl member, acted⟩
    · exact ⟨call, .inr member, acted⟩

theorem held_cons :
    view.Held (call :: pending) event ↔ event ∈ view.acts call ∨ view.Held pending event := by
  simp [Held]

namespace Sound

theorem initial (stored : Copy) (writes : Nat) :
    view.Sound recorded (fun _ => False) stored writes [] := by
  constructor <;> simp

theorem settled (sound : view.Sound recorded owed stored writes []) (owes : owed event) :
    recorded event stored := by
  rcases sound.stored event owes with ⟨call, member, _⟩ | isRecorded
  · cases member
  · exact isRecorded

theorem single (sound : view.Sound recorded owed stored writes [call])
    (fresh : view.version call = some writes) (carries : view.copy call = some copy)
    (owes : owed event) : recorded event copy := by
  have here : call ∈ [call] := mem_cons_self
  rcases sound.copies call here fresh copy carries event owes with ⟨other, member, acted⟩ | kept
  · obtain rfl := mem_singleton.mp member
    exact sound.own other here copy carries event acted
  · exact kept

theorem idle (sound : view.Sound recorded owed stored writes [call])
    (idle : view.acts call = []) (owes : owed event) : recorded event stored := by
  rcases sound.stored event owes with ⟨other, member, acted⟩ | kept
  · obtain rfl := mem_singleton.mp member
    simp [idle] at acted
  · exact kept

theorem weaken (sound : view.Sound recorded owed stored writes pending)
    (owes : ∀ event, owed' event → owed event) :
    view.Sound recorded owed' stored writes pending := by
  refine ⟨sound.versions, sound.own, ?_, ?_⟩
  · exact fun event owing => sound.stored event (owes event owing)
  · intro call member fresh copy carries event owing
    exact sound.copies call member fresh copy carries event (owes event owing)

theorem start (sound : view.Sound recorded owed stored writes pending)
    (versions : ∀ call ∈ more, view.version call = none)
    (copies : ∀ call ∈ more, view.copy call = none) :
    view.Sound recorded owed stored writes (pending ++ more) := by
  refine ⟨?_, ?_, ?_, ?_⟩
  · intro call member version found
    rcases mem_append.mp member with old | new
    · exact sound.versions call old version found
    · simp [versions call new] at found
  · intro call member copy carries
    rcases mem_append.mp member with old | new
    · exact sound.own call old copy carries
    · simp [copies call new] at carries
  · intro event owing
    exact (sound.stored event owing).imp_left fun held => held_append.mpr (.inl held)
  · intro call member fresh copy carries event owing
    rcases mem_append.mp member with old | new
    · exact (sound.copies call old fresh copy carries event owing).imp_left
        fun held => held_append.mpr (.inl held)
    · simp [copies call new] at carries

theorem advance (sound : view.Sound recorded owed stored writes (before ++ call :: after))
    (owes : ∀ event, owed' event → owed event ∨ view.Held more event)
    (acts : ∀ event ∈ view.acts call, view.Held more event)
    (versions : ∀ other ∈ more, ∀ version ∈ view.version other, version ≤ writes)
    (own : ∀ other ∈ more, ∀ copy ∈ view.copy other, ∀ event ∈ view.acts other, recorded event copy)
    (copies : ∀ other ∈ more, view.version other = some writes → ∀ copy ∈ view.copy other,
      ∀ event, owed event → view.Held (before ++ call :: after) event ∨ recorded event copy) :
    view.Sound recorded owed' stored writes (before ++ more ++ after) := by
  have still : ∀ event, view.Held (before ++ call :: after) event →
      view.Held (before ++ more ++ after) event := by
    intro event held
    simp only [held_append, held_cons] at held ⊢
    rcases held with left | own | right
    · exact .inl (.inl left)
    · exact .inl (.inr (acts event own))
    · exact .inr right
  have recent : ∀ event, view.Held more event → view.Held (before ++ more ++ after) event := by
    intro event held
    simp only [held_append]
    exact .inl (.inr held)
  have split : ∀ other, other ∈ before ++ more ++ after →
      other ∈ before ++ call :: after ∨ other ∈ more := by
    intro other member
    simp only [mem_append, mem_cons] at member ⊢
    rcases member with (left | middle) | right
    · exact .inl (.inl left)
    · exact .inr middle
    · exact .inl (.inr (.inr right))
  refine ⟨?_, ?_, ?_, ?_⟩
  · intro other member
    exact (split other member).elim (sound.versions other) (versions other)
  · intro other member
    exact (split other member).elim (sound.own other) (own other)
  · intro event owing
    rcases owes event owing with old | new
    · exact (sound.stored event old).imp_left (still event)
    · exact .inl (recent event new)
  · intro other member fresh copy carries event owing
    rcases owes event owing with old | new
    · rcases split other member with staying | next
      · exact (sound.copies other staying fresh copy carries event old).imp_left (still event)
      · exact (copies other next fresh copy carries event old).imp_left (still event)
    · exact .inl (recent event new)

theorem finish (sound : view.Sound recorded owed stored writes (before ++ call :: after))
    (fresh : view.version call = some writes) (carries : view.copy call = some copy)
    (owes : ∀ event, owed' event → owed event ∨ recorded event copy) :
    view.Sound recorded owed' copy (writes + 1) (before ++ after) := by
  have there : ∀ other, other ∈ before ++ after → other ∈ before ++ call :: after := by
    intro other member
    simp only [mem_append, mem_cons] at member ⊢
    exact member.imp_right .inr
  have here : call ∈ before ++ call :: after := by simp
  refine ⟨?_, ?_, ?_, ?_⟩
  · intro other member version found
    exact Nat.le_succ_of_le (sound.versions other (there other member) version found)
  · exact fun other member => sound.own other (there other member)
  · intro event owing
    rcases owes event owing with old | new
    · rcases sound.copies call here fresh copy carries event old with held | isRecorded
      · simp only [held_append, held_cons] at held ⊢
        rcases held with left | own | right
        · exact .inl (.inl left)
        · exact .inr (sound.own call here copy carries event own)
        · exact .inl (.inr right)
      · exact .inr isRecorded
    · exact .inr new
  · intro other member isFresh
    have bound := sound.versions other (there other member) (writes + 1) isFresh
    exact absurd bound (Nat.not_succ_le_self writes)

end Sound

end WriteBack

end SupremeOs.Support
