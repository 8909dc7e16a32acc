import Mathlib.Data.List.Basic
import Mathlib.Order.Basic

/-!
# Episodes

At some moments a condition holds.  A watcher remembers since when it has held
without a break, fires once as soon as that is long enough, and forgets all of
it when the condition does not hold.

Over moments of which all meet the condition, after one that does not, it fires
at the first moment at which it has held long enough since the first of them.
-/

namespace SupremeOs.Support

open List

structure Episode (Time : Type*) where
  since : Option Time
  fired : Bool

namespace Episode

variable {Time Moment : Type*}

def cleared : Episode Time := ⟨none, false⟩

variable (time : Moment → Time) (on : Moment → Bool) (reached : Time → Time → Bool)

/-- What the watcher remembers after a moment, and whether it fires. -/
def advance (episode : Episode Time) (moment : Moment) : Episode Time × Bool :=
  if on moment then
    let since := episode.since.getD (time moment)
    let fires := !episode.fired && reached since (time moment)
    (⟨some since, episode.fired || fires⟩, fires)
  else (cleared, false)

def after (episode : Episode Time) (moments : List Moment) : Episode Time :=
  moments.foldl (fun episode moment => (advance time on reached episode moment).1) episode

def firings (episode : Episode Time) : List Moment → List Moment
  | [] => []
  | moment :: rest =>
    (if (advance time on reached episode moment).2 = true then [moment] else []) ++
      firings (advance time on reached episode moment).1 rest

/-- The condition does not hold at the last moment, if there is one. -/
def EndsOff (moments : List Moment) : Prop := ∀ last ∈ moments.getLast?, on last = false

variable {time on reached} {episode : Episode Time} {moments : List Moment} {moment : Moment}

theorem advance_of_off (off : on moment = false) :
    advance time on reached episode moment = (cleared, false) := by
  rw [advance, off, if_neg Bool.false_ne_true]

theorem firings_append (first second : List Moment) :
    firings time on reached episode (first ++ second) = firings time on reached episode first ++
        firings time on reached (after time on reached episode first) second := by
  induction first generalizing episode with
  | nil => rfl
  | cons moment rest ih =>
    rw [cons_append, firings, ih, firings, append_assoc]
    rfl

theorem after_concat : after time on reached episode (moments ++ [moment]) =
    (advance time on reached (after time on reached episode moments) moment).1 := by
  rw [after, foldl_append]
  rfl

theorem firings_concat : firings time on reached episode (moments ++ [moment]) =
    firings time on reached episode moments ++
      if (advance time on reached (after time on reached episode moments) moment).2 = true then
        [moment] else [] := by
  rw [firings_append, firings, firings, append_nil]

theorem after_of_endsOff (ends : EndsOff on moments) :
    after time on reached cleared moments = cleared := by
  rcases eq_nil_or_concat' moments with rfl | ⟨before, last, rfl⟩
  · rfl
  · have off : on last = false := ends last (by simp)
    rw [after_concat, advance_of_off off]

variable {since : Time}

theorem firings_of_fired (holds : ∀ moment ∈ moments, on moment = true) :
    firings time on reached ⟨some since, true⟩ moments = [] := by
  induction moments with
  | nil => rfl
  | cons moment rest ih =>
    have stays : advance time on reached ⟨some since, true⟩ moment =
      (⟨some since, true⟩, false) := by
      rw [advance, if_pos (holds moment (.head _))]
      rfl
    rw [firings, stays, if_neg Bool.false_ne_true, nil_append]
    exact ih fun other member => holds other (.tail _ member)

/-- It fires at the first moment that is late enough. -/
theorem firings_of_since (holds : ∀ moment ∈ moments, on moment = true) :
    firings time on reached ⟨some since, false⟩ moments =
      (moments.find? fun moment => reached since (time moment)).toList := by
  induction moments with
  | nil => rfl
  | cons moment rest ih =>
    have holdsRest : ∀ other ∈ rest, on other = true :=
      fun other member => holds other (.tail _ member)
    have step : advance time on reached ⟨some since, false⟩ moment =
        (⟨some since, reached since (time moment)⟩, reached since (time moment)) := by
      rw [advance, if_pos (holds moment (.head _))]
      rfl
    rw [firings, step]
    cases late : reached since (time moment) with
    | true =>
      rw [if_pos rfl, firings_of_fired holdsRest, find?_cons, late]
      rfl
    | false =>
      rw [if_neg Bool.false_ne_true, nil_append, ih holdsRest, find?_cons, late]

theorem firings_of_cleared {first : Moment} {rest : List Moment}
    (holds : ∀ moment ∈ first :: rest, on moment = true) :
    firings time on reached cleared (first :: rest) =
      ((first :: rest).find? fun moment => reached (time first) (time moment)).toList := by
  rw [← firings_of_since holds]
  have same : advance time on reached cleared first =
      advance time on reached ⟨some (time first), false⟩ first := by
    rw [advance, advance, if_pos (holds first (.head _)), if_pos (holds first (.head _))]
    rfl
  rw [firings, firings, same]

theorem firings_concat_of_off (off : on moment = false) :
    firings time on reached episode (moments ++ [moment]) =
      firings time on reached episode moments := by
  rw [firings_concat, advance_of_off off, if_neg Bool.false_ne_true, append_nil]

theorem firings_episode {first : Moment} {rest : List Moment} (ends : EndsOff on moments)
    (holds : ∀ moment ∈ first :: rest, on moment = true) :
    firings time on reached cleared (moments ++ first :: rest) =
      firings time on reached cleared moments ++
        ((first :: rest).find? fun moment => reached (time first) (time moment)).toList := by
  rw [firings_append, after_of_endsOff ends, firings_of_cleared holds]

/-- If being late enough lasts, it is seen at the last moment whether one is late enough. -/
theorem find?_isSome_iff_getLast [Preorder Time]
    (ascending : moments.Pairwise fun earlier later => time earlier < time later)
    (lasts : ∀ early late, early ≤ late → reached since early = true → reached since late = true)
    (nonempty : moments ≠ []) :
    (moments.find? fun moment => reached since (time moment)).isSome = true ↔
      reached since (time (moments.getLast nonempty)) = true := by
  rw [find?_isSome]
  constructor
  · rintro ⟨moment, member, late⟩
    refine lasts _ _ ?_ late
    rcases eq_nil_or_concat' moments with rfl | ⟨before, last, rfl⟩
    · exact absurd rfl nonempty
    · rw [getLast_concat]
      rcases mem_append.mp member with earlier | own
      · exact le_of_lt ((pairwise_append.mp ascending).2.2 moment earlier last
          mem_cons_self)
      · rw [mem_singleton.mp own]
  · intro late
    exact ⟨_, getLast_mem nonempty, late⟩

end Episode

end SupremeOs.Support
