import SupremeOs.Gateway.SieRunner
import SupremeOs.Support.Histories

/-!
# What is to be remembered of a suggestion

What has happened to a device is to be remembered: responses to ignore it for
good or for the day, and all else until the device is next seen off.  The state
of a suggestion says it, if it does, and then stands against what it forbids.
-/

namespace SupremeOs.Gateway

open Support DomainModel Intelligence OrderedMap

namespace SieEvent

def deviceId : SieEvent → DeviceId
  | seenOff deviceId | responded deviceId _ _ | notified deviceId _ _ | switchedOff deviceId _
  | announced deviceId _ => deviceId

def key (event : SieEvent) : SuggestionKey := .energyIdle event.deviceId

/-- It is to be remembered for good, or by its moment. -/
def isDurable : SieEvent → Bool
  | responded _ .alwaysIgnore _ | responded _ .ignoreToday _ => true
  | responded _ .turnOff _ | responded _ .keepOn _ | responded _ .enableAutoPilot _ | seenOff _
  | notified _ _ _ | switchedOff _ _ | announced _ _ => false

/-- It is to be remembered while the device is on. -/
def isEpisodic : SieEvent → Bool
  | responded _ .turnOff _ | responded _ .keepOn _ | notified _ _ _ | switchedOff _ _
  | announced _ _ => true
  | responded _ .alwaysIgnore _ | responded _ .ignoreToday _ | responded _ .enableAutoPilot _
  | seenOff _ => false

def off : SieEvent → Option DeviceId
  | seenOff deviceId => some deviceId
  | responded _ _ _ | notified _ _ _ | switchedOff _ _ | announced _ _ => none

/-- It stays when a device is seen off. -/
def outlives (off : DeviceId) (event : SieEvent) : Bool :=
  event.isDurable || decide (event.deviceId ≠ off)

def RecordedIn : SieEvent → SuggestionState → Prop
  | responded _ .alwaysIgnore _, state => state.alwaysIgnore = true
  | responded _ .ignoreToday moment, state =>
    ∃ until' ∈ state.ignoreUntilMs, startOfNextUtcDay moment ≤ until'
  | responded _ .keepOn _, state => state.keptOnEpisode = true
  | responded _ .turnOff _, state | switchedOff _ _, state | announced _ _, state =>
    state.isExecuted = true
  | notified _ moment _, state =>
    state.firstNotifiedAt ≠ none ∧ ∃ last ∈ state.lastNotifiedAt, moment ≤ last
  | responded _ .enableAutoPilot _, _ | seenOff _, _ => True

/-- The states say it of its device. -/
def RecordedBy (event : SieEvent) (states : SuggestionStates) : Prop :=
  event.RecordedIn (stateOf states event.key)

end SieEvent

/-- What an event leaves to be remembered. -/
def settle (events : List SieEvent) (event : SieEvent) : List SieEvent :=
  match event.off with
  | some deviceId => events.filter (SieEvent.outlives deviceId)
  | none => events ++ [event]

/-- What is to be remembered after a history. -/
def outstanding (history : List SieEvent) : List SieEvent := history.foldl settle []

section Outstanding

variable {history : List SieEvent} {event : SieEvent}

theorem mem_settle {events : List SieEvent} {last : SieEvent} : event ∈ settle events last ↔
      (event ∈ events ∧ ∀ deviceId ∈ last.off, event.outlives deviceId = true) ∨
        (last.off = none ∧ event = last) := by
  rw [settle]
  cases last.off with
  | some deviceId => simp
  | none => simp

@[simp]
theorem outstanding_concat (last : SieEvent) :
    outstanding (history ++ [last]) = settle (outstanding history) last := by
  simp [outstanding]

/-- An event is to be remembered if no device was seen off that it does not outlive. -/
theorem mem_outstanding_iff : event ∈ outstanding history ↔
    ∃ earlier later, history = earlier ++ event :: later ∧ event.off = none ∧
      ∀ other ∈ later, ∀ deviceId ∈ other.off, event.outlives deviceId = true := by
  induction history using List.reverseRecOn with
  | nil => simp [outstanding]
  | append_singleton history last ih =>
    rw [outstanding_concat, mem_settle, ih]
    constructor
    · rintro (⟨⟨earlier, later, rfl, acts, lasting⟩, survives⟩ | ⟨acts, rfl⟩)
      · refine ⟨earlier, later ++ [last], by simp, acts, ?_⟩
        intro other member
        rcases List.mem_append.mp member with old | new
        · exact lasting other old
        · obtain rfl := List.mem_singleton.mp new
          exact survives
      · exact ⟨history, [], rfl, acts, by simp⟩
    · rintro ⟨earlier, later, split, acts, lasting⟩
      rcases concat_eq_append_cons.mp split with ⟨rfl, rfl, rfl⟩ | ⟨before, rfl, rfl⟩
      · exact .inr ⟨acts, rfl⟩
      · refine .inl ⟨⟨earlier, before, rfl, acts, ?_⟩, ?_⟩
        · exact fun other member => lasting other (List.mem_append_left _ member)
        · exact lasting last (by simp)

theorem mem_outstanding_append {extra : List SieEvent}
    (member : event ∈ outstanding (history ++ extra)) :
    event ∈ outstanding history ∨ event ∈ extra := by
  induction extra using List.reverseRecOn with
  | nil => exact .inl (by simpa using member)
  | append_singleton extra last ih =>
    rw [← List.append_assoc, outstanding_concat, mem_settle] at member
    rcases member with ⟨old, _⟩ | ⟨_, rfl⟩
    · exact (ih old).imp_right (List.mem_append_left _)
    · exact .inr (by simp)

end Outstanding

section Passes

variable {states : SuggestionStates} {event : SieEvent} {key : SuggestionKey}

theorem SieEvent.recordedIn_of_neither (durable : event.isDurable = false)
    (episodic : event.isEpisodic = false) (state : SuggestionState) : event.RecordedIn state := by
  cases event with
  | seenOff deviceId => trivial
  | responded deviceId action moment =>
    cases action with
    | enableAutoPilot => trivial
    | turnOff | keepOn => cases episodic
    | ignoreToday | alwaysIgnore => cases durable
  | notified | switchedOff | announced => cases episodic

theorem SieEvent.recordedIn_resetEpisode (durable : event.isDurable = true)
    {state : SuggestionState} : event.RecordedIn (resetEpisode state) ↔ event.RecordedIn state := by
  cases event with
  | responded deviceId action moment =>
    cases action with
    | ignoreToday | alwaysIgnore => exact Iff.rfl
    | turnOff | keepOn | enableAutoPilot => cases durable
  | seenOff | notified | switchedOff | announced => cases durable

theorem SieEvent.isDurable_of_recordedIn (durable : event.isDurable = true)
    {state : SuggestionState} (recorded : event.RecordedIn state) : state.isDurable = true := by
  cases event with
  | responded deviceId action moment =>
    cases action with
    | ignoreToday =>
      rcases recorded with ⟨until', found, _⟩
      rw [Option.mem_def] at found
      simp [SuggestionState.isDurable, found]
    | alwaysIgnore =>
      have ignored : state.alwaysIgnore = true := recorded
      simp [SuggestionState.isDurable, ignored]
    | turnOff | keepOn | enableAutoPilot => cases durable
  | seenOff | notified | switchedOff | announced => cases durable

theorem stateOf_set (other : SuggestionKey) (state : SuggestionState) :
    stateOf (states.set key state) other = if other = key then state else stateOf states other := by
  rw [stateOf, get_set]
  split <;> rfl

theorem stateOf_dropIdle {live : List SuggestionKey}
    (stays : key ∈ live ∨ (stateOf states key).isDurable = true) :
    stateOf (dropIdle live states) key = stateOf states key := by
  rw [stateOf, stateOf, dropIdle, get_filter]
  cases found : states.get key with
  | none => rfl
  | some state =>
    have kept : key ∈ live ∨ state.isDurable = true := by
      simpa [stateOf, found] using stays
    simp [Option.filter, kept]

theorem SieEvent.RecordedBy.dropIdle {live : List SuggestionKey}
    (recorded : event.RecordedBy states) (stays : event.isEpisodic = true →
      event.key ∈ live ∨ (stateOf states event.key).isDurable = true) :
    event.RecordedBy (dropIdle live states) := by
  have kept (stays : event.key ∈ live ∨ (stateOf states event.key).isDurable = true) :
      event.RecordedBy (Gateway.dropIdle live states) := by
    rw [SieEvent.RecordedBy, stateOf_dropIdle stays]
    exact recorded
  cases durable : event.isDurable with
  | true => exact kept (.inr (SieEvent.isDurable_of_recordedIn durable recorded))
  | false =>
    cases episodic : event.isEpisodic with
    | true => exact kept (stays episodic)
    | false => exact SieEvent.recordedIn_of_neither durable episodic _

theorem stateOf_endEpisodes {onSince : OrderedMap DeviceId Nat}
    (goesOn : hasEnded onSince key = false) :
    stateOf (endEpisodes onSince states) key = stateOf states key := by
  rw [stateOf, stateOf, endEpisodes, get_filterMap]
  simp [goesOn]

theorem SieEvent.RecordedBy.endEpisodes {onSince : OrderedMap DeviceId Nat}
    (recorded : event.RecordedBy states)
    (goesOn : event.isEpisodic = true → onSince.has event.deviceId = true) :
    event.RecordedBy (endEpisodes onSince states) := by
  cases ended : hasEnded onSince event.key with
  | false =>
    rw [SieEvent.RecordedBy, stateOf_endEpisodes ended]
    exact recorded
  | true =>
    have isOff : onSince.has event.deviceId = false := by
      simpa [hasEnded, SieEvent.key, SuggestionKey.device] using ended
    have notEpisodic : event.isEpisodic = false := by
      by_contra episodic
      rw [goesOn (by simpa using episodic)] at isOff
      cases isOff
    cases durable : event.isDurable with
    | false => exact SieEvent.recordedIn_of_neither durable notEpisodic _
    | true =>
      have lasts := SieEvent.isDurable_of_recordedIn durable recorded
      rw [SieEvent.RecordedBy, stateOf, Gateway.endEpisodes, get_filterMap]
      cases found : states.get event.key with
      | none => simp [stateOf, found, SuggestionState.fresh, SuggestionState.isDurable] at lasts
      | some state =>
        have same : stateOf states event.key = state := by simp [stateOf, found]
        rw [same] at lasts
        rw [SieEvent.RecordedBy, same] at recorded
        simpa [ended, lasts] using (SieEvent.recordedIn_resetEpisode durable).mpr recorded

end Passes

section Acts

variable {state : SuggestionState} {event : SieEvent} {now : Nat}

theorem SieEvent.RecordedIn.executed (recorded : event.RecordedIn state) (late : now ≠ 0) :
    event.RecordedIn { state with executedAt := some now } := by
  have isExecuted : SuggestionState.isExecuted { state with executedAt := some now } = true := by
    simp [SuggestionState.isExecuted, late]
  cases event with
  | seenOff deviceId => trivial
  | responded deviceId action moment =>
    cases action with
    | turnOff => exact isExecuted
    | keepOn | ignoreToday | alwaysIgnore | enableAutoPilot => exact recorded
  | notified deviceId moment gap => exact recorded
  | switchedOff | announced => exact isExecuted

def SieEvent.isLaterNotice (deviceId : DeviceId) (now : Nat) : SieEvent → Bool
  | .notified other moment _ => decide (other = deviceId) && decide (now < moment)
  | .seenOff _ | .responded _ _ _ | .switchedOff _ _ | .announced _ _ => false

def SieEvent.isLaterIgnore (deviceId : DeviceId) (now : Nat) : SieEvent → Bool
  | .responded other .ignoreToday moment => decide (other = deviceId) && decide (now < moment)
  | .responded _ .turnOff _ | .responded _ .keepOn _ | .responded _ .alwaysIgnore _
  | .responded _ .enableAutoPilot _ | .seenOff _ | .notified _ _ _ | .switchedOff _ _
  | .announced _ _ => false

theorem SieEvent.RecordedIn.notified (recorded : event.RecordedIn state)
    (inTime : event.isLaterNotice event.deviceId now = false) :
    event.RecordedIn
      { state with
        firstNotifiedAt := state.firstNotifiedAt.or (some now)
        lastNotifiedAt := some now } := by
  cases event with
  | seenOff deviceId => trivial
  | responded deviceId action moment => cases action <;> exact recorded
  | notified deviceId moment gap =>
    have before : moment ≤ now := by
      simpa [SieEvent.isLaterNotice, SieEvent.deviceId] using inTime
    exact ⟨by simp, now, rfl, before⟩
  | switchedOff | announced => exact recorded

theorem SieEvent.RecordedIn.respond (recorded : event.RecordedIn state)
    (response : Option SuggestionAction) :
    event.RecordedIn { state with response := response } := by
  cases event with
  | responded deviceId action moment => cases action <;> exact recorded
  | seenOff | notified | switchedOff | announced => exact recorded

theorem SieEvent.RecordedIn.applyResponse (recorded : event.RecordedIn state)
    {action : SuggestionAction} (late : now ≠ 0)
    (inTime : action = .ignoreToday → event.isLaterIgnore event.deviceId now = false) :
    event.RecordedIn (applyResponse state action now) := by
  cases action with
  | turnOff => exact (recorded.respond _).executed late
  | keepOn =>
    cases event with
    | responded deviceId action moment =>
      cases action with
      | keepOn => exact rfl
      | turnOff | ignoreToday | alwaysIgnore | enableAutoPilot => exact recorded
    | seenOff | notified | switchedOff | announced => exact recorded
  | ignoreToday =>
    cases event with
    | responded deviceId action moment =>
      cases action with
      | ignoreToday =>
        have before : moment ≤ now := by
          simpa [SieEvent.isLaterIgnore, SieEvent.deviceId] using inTime rfl
        exact ⟨_, rfl, startOfNextUtcDay_mono before⟩
      | turnOff | keepOn | alwaysIgnore | enableAutoPilot => exact recorded
    | seenOff | notified | switchedOff | announced => exact recorded
  | alwaysIgnore =>
    cases event with
    | responded deviceId action moment =>
      cases action with
      | alwaysIgnore => exact rfl
      | turnOff | keepOn | ignoreToday | enableAutoPilot => exact recorded
    | seenOff | notified | switchedOff | announced => exact recorded
  | enableAutoPilot => exact recorded.respond _

theorem SieEvent.recordedIn_applyResponse (deviceId : DeviceId) (action : SuggestionAction)
    (late : now ≠ 0) :
    (SieEvent.responded deviceId action now).RecordedIn (applyResponse state action now) := by
  cases action with
  | turnOff =>
    simp [SieEvent.RecordedIn, Intelligence.applyResponse, SuggestionState.isExecuted, late]
  | keepOn | alwaysIgnore => exact rfl
  | ignoreToday => exact ⟨_, rfl, le_refl _⟩
  | enableAutoPilot => trivial

end Acts

end SupremeOs.Gateway
