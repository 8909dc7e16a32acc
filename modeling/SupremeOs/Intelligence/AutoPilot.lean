import SupremeOs.Intelligence.EnergyDecision

/-!
# Auto Pilot

What is remembered of a suggestion decides, with the settings of the home,
whether it is suppressed, notified, asked for or carried out.

Moments are milliseconds within the range of `Date`; an `executedAt` of zero
counts as none.
-/

namespace SupremeOs.Intelligence

open DomainModel

inductive SuggestionAction where
  | turnOff
  | keepOn
  | ignoreToday
  | alwaysIgnore
  | enableAutoPilot
deriving DecidableEq

inductive AutoPilotMode where
  | notifyOnly
  | approval
  | autoPilot
  | adaptive
deriving DecidableEq

structure AutoPilotSettings where
  mode : AutoPilotMode
  threshold : Option JsNumber
  reminderMinutes : Option JsNumber

/-- The least time between two reminders. -/
def AutoPilotSettings.reminderMs (settings : AutoPilotSettings) : JsNumber :=
  (settings.reminderMinutes.getD (.finite 30)).multiply (.finite 60000)

structure SuggestionState where
  key : SuggestionKey
  firstNotifiedAt : Option Nat
  lastNotifiedAt : Option Nat
  response : Option SuggestionAction
  ignoreUntilMs : Option Nat
  alwaysIgnore : Bool
  keptOnEpisode : Bool
  executedAt : Option Nat

namespace SuggestionState

/-- Nothing is remembered. -/
def fresh (key : SuggestionKey) : SuggestionState where
  key := key
  firstNotifiedAt := none
  lastNotifiedAt := none
  response := none
  ignoreUntilMs := none
  alwaysIgnore := false
  keptOnEpisode := false
  executedAt := none

/-- The state outlasts the episode. -/
def isDurable (state : SuggestionState) : Bool := state.alwaysIgnore || state.ignoreUntilMs.isSome

/-- The device has been turned off; zero counts as never. -/
def isExecuted (state : SuggestionState) : Bool := state.executedAt.any fun moment => moment ≠ 0

end SuggestionState

inductive NoticeKind where
  | suggest
  | approval

inductive AutoPilotDecision where
  | suppress (reason : String)
  | notify (kind : NoticeKind)
  | execute

def dueForReminder (state : SuggestionState) (settings : AutoPilotSettings) (confident : Bool)
    (now : Nat) : Bool :=
  state.lastNotifiedAt.any fun (last : Nat) =>
    settings.reminderMs.lessOrEqual (.finite (now - last : Int)) && confident

def decideAutoPilot (suggestion : Suggestion) (state : Option SuggestionState)
    (settings : AutoPilotSettings) (now : Nat) : AutoPilotDecision :=
  let state := state.getD (.fresh suggestion.key)
  let confident :=
    (settings.threshold.getD (roundToDouble (8 / 10))).lessOrEqual suggestion.confidence.decision
  if state.alwaysIgnore then .suppress "always_ignore"
  else if state.isExecuted then .suppress "already_executed"
  else if state.keptOnEpisode then .suppress "kept_on"
  else if state.ignoreUntilMs.any fun moment => now < moment then .suppress "ignore_today"
  else if (settings.mode = .autoPilot ∨ settings.mode = .adaptive) ∧ confident = true then .execute
  else if state.firstNotifiedAt = none ∨ dueForReminder state settings confident now = true then
    .notify (if settings.mode = .approval then .approval else .suggest)
  else .suppress "debounced"

/-- The next midnight, by the calendar of the epoch. -/
def startOfNextUtcDay (now : Nat) : Nat := (now / 86400000 + 1) * 86400000

theorem startOfNextUtcDay_mono {earlier later : Nat} (before : earlier ≤ later) :
    startOfNextUtcDay earlier ≤ startOfNextUtcDay later :=
  Nat.mul_le_mul_right _ (Nat.succ_le_succ (Nat.div_le_div_right before))

/-- The state after a response of the user. -/
def applyResponse (state : SuggestionState) (action : SuggestionAction) (now : Nat) :
    SuggestionState :=
  let next := { state with response := some action }
  match action with
  | .turnOff => { next with executedAt := some now }
  | .keepOn => { next with keptOnEpisode := true }
  | .ignoreToday => { next with ignoreUntilMs := some (startOfNextUtcDay now) }
  | .alwaysIgnore => { next with alwaysIgnore := true }
  | .enableAutoPilot => next

/-- Only what outlasts the episode stays. -/
def resetEpisode (state : SuggestionState) : SuggestionState :=
  { SuggestionState.fresh state.key with
    alwaysIgnore := state.alwaysIgnore
    ignoreUntilMs := state.ignoreUntilMs }

section Decisions

variable {suggestion : Suggestion} {state : Option SuggestionState}
variable {settings : AutoPilotSettings} {now : Nat}

/-- Nothing that has been remembered stands against acting now. -/
structure Unanswered (state : SuggestionState) (now : Nat) : Prop where
  alwaysIgnore : state.alwaysIgnore = false
  executed : state.isExecuted = false
  keptOn : state.keptOnEpisode = false
  ignored : ∀ moment ∈ state.ignoreUntilMs, moment ≤ now

theorem unanswered_of_decision
    (acts : ∀ reason, decideAutoPilot suggestion state settings now ≠ .suppress reason) :
    Unanswered (state.getD (.fresh suggestion.key)) now := by
  simp only [decideAutoPilot] at acts
  split at acts
  · exact absurd rfl (acts _)
  split at acts
  · exact absurd rfl (acts _)
  split at acts
  · exact absurd rfl (acts _)
  split at acts
  · exact absurd rfl (acts _)
  rename_i alwaysIgnore executed keptOn ignored
  refine ⟨by simpa using alwaysIgnore, by simpa using executed, by simpa using keptOn, ?_⟩
  intro moment found
  rw [Option.mem_def] at found
  simpa [found] using ignored

theorem gap_of_notify {kind : NoticeKind} {last : Nat}
    (notifies : decideAutoPilot suggestion state settings now = .notify kind)
    (before : (state.getD (.fresh suggestion.key)).firstNotifiedAt ≠ none)
    (lastly : (state.getD (.fresh suggestion.key)).lastNotifiedAt = some last) :
    settings.reminderMs.lessOrEqual (.finite (now - last : Int)) = true := by
  simp only [decideAutoPilot] at notifies
  -- the four answers of the user, and carrying out
  iterate 5
    split at notifies
    · cases notifies
  split at notifies
  · rename_i due
    have due := due.resolve_left before
    simp only [dueForReminder, lastly, Option.any_some, Bool.and_eq_true] at due
    exact due.1
  · cases notifies

end Decisions

end SupremeOs.Intelligence
