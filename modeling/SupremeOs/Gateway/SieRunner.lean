import SupremeOs.Intelligence.AutoPilot
import SupremeOs.Support.Interleaving

/-!
# The intelligence runner

A tick reads what is going on, evaluates it, reads the states of the
suggestions, acts on one suggestion after the other, and writes all states back
at its end.  A response of the user reads all states, changes one of them,
carries it out and writes all states back.

Each await may take any time and may be rejected; an error of the history is
only logged.  The store hands out copies.
-/

namespace SupremeOs.Gateway

open Support DomainModel Intelligence

structure SieDevice where
  id : DeviceId
  roomId : Option String
  on : Bool
  watts : Option JsNumber
  intel : Option DeviceIntel

structure SieInput where
  zones : List Zone
  online : List String
  devices : List SieDevice
  settings : AutoPilotSettings

inductive SieEvent where
  /-- A tick has seen the device off. -/
  | seenOff (deviceId : DeviceId)
  /-- The response of the user at a moment has resolved. -/
  | responded (deviceId : DeviceId) (action : SuggestionAction) (moment : Nat)
  /-- The user has been notified or asked, under a gap for reminders. -/
  | notified (deviceId : DeviceId) (moment : Nat) (gap : JsNumber)
  /-- The device has been switched off automatically. -/
  | switchedOff (deviceId : DeviceId) (moment : Nat)
  /-- The user has been told that it has been switched off. -/
  | announced (deviceId : DeviceId) (moment : Nat)
deriving DecidableEq

abbrev SuggestionStates := OrderedMap SuggestionKey SuggestionState

structure Sie where
  now : Nat
  onSince : OrderedMap DeviceId Nat
  lastSuggestions : List Suggestion
  states : SuggestionStates
  /-- How often the states have been written. -/
  writes : Nat
  history : List SieEvent

/-- What is remembered of a suggestion, or nothing yet. -/
def stateOf (states : SuggestionStates) (key : SuggestionKey) : SuggestionState :=
  (states.get key).getD (.fresh key)

def hasEnded (onSince : OrderedMap DeviceId Nat) (key : SuggestionKey) : Bool :=
  key.device.any fun deviceId => !onSince.has deviceId

def endEpisodes (onSince : OrderedMap DeviceId Nat) (states : SuggestionStates) :
    SuggestionStates :=
  states.filterMap fun key state =>
    if hasEnded onSince key = false then some state
    else if state.isDurable then some (resetEpisode state)
    else none

def dropIdle (live : List SuggestionKey) (states : SuggestionStates) : SuggestionStates :=
  states.filter fun entry => live.contains entry.1 || entry.2.isDurable

/-- Since when the devices are on, and each of them as the engine sees it. -/
def observe (zones : List Zone) (now : Nat) : OrderedMap DeviceId Nat → List SieDevice →
      OrderedMap DeviceId Nat × List EnergyDeviceInput
  | onSince, [] => (onSince, [])
  | onSince, device :: rest =>
    let since :=
      if device.on then
        if onSince.has device.id then onSince else onSince.set device.id now
      else onSince.delete device.id
    let input : EnergyDeviceInput :=
      { deviceId := device.id, roomId := device.roomId, zoneId := zoneOfRoom zones device.roomId
        on := device.on
        onSinceMs := since.get device.id
        watts := device.watts
        intel := device.intel }
    let (final, inputs) := observe zones now since rest
    (final, input :: inputs)

def suggestionsOf (onSince : OrderedMap DeviceId Nat) (input : SieInput) (now : Nat) :
    List Suggestion :=
  let estimates := heartbeatEstimates input.online
  evaluateEnergyIntelligence
    { now := now, devices := (observe input.zones now onSince input.devices).2, presence := estimates
      zones := zoneOccupancies input.zones estimates }

def SieInput.offDevices (input : SieInput) : List DeviceId :=
  (input.devices.filter fun device => !device.on).map SieDevice.id

namespace Sie

def initial (now : Nat) (states : SuggestionStates) : Sie :=
  ⟨now, OrderedMap.empty, [], states, 0, []⟩

def record (sie : Sie) (events : List SieEvent) : Sie :=
  { sie with history := sie.history ++ events }

def observed (sie : Sie) (input : SieInput) (now : Nat) : Sie :=
  { sie.record (input.offDevices.map .seenOff) with
    onSince := (observe input.zones now sie.onSince input.devices).1 }

def write (sie : Sie) (states : SuggestionStates) : Sie :=
  { sie with states := states, writes := sie.writes + 1 }

end Sie

structure Evaluated where
  now : Nat
  settings : AutoPilotSettings
  suggestions : List Suggestion
  /-- The number of writes when the devices were read. -/
  writes : Nat

/-- A tick that works on its copy of the states. -/
structure TickRun where
  tick : Evaluated
  /-- The suggestions that are still to be looked at. -/
  rest : List Suggestion
  states : SuggestionStates
  /-- What the tick has done so far. -/
  acts : List SieEvent

/-- What a tick awaits while it applies its suggestions. -/
inductive TickStep where
  | command (suggestion : Suggestion)
  | announce (suggestion : Suggestion)
  | recordOff (suggestion : Suggestion)
  | notify (suggestion : Suggestion) (kind : NoticeKind)
  | record
  | write

/-- A response that has changed its copy of the states. -/
structure ResponseRun where
  key : SuggestionKey
  action : SuggestionAction
  now : Nat
  states : SuggestionStates
  /-- The number of writes when the states were read. -/
  writes : Nat

inductive ResponseStep where
  | command
  | getRate
  | getSettings
  | setSettings
  | record
  | write

inductive SieRequest where
  | tick (input : SieInput)
  | respond (key : SuggestionKey) (action : SuggestionAction)
  | wait (milliseconds : Nat)

inductive SieReply where
  | done
  | rejected
deriving DecidableEq

inductive SieCall where
  | reading (now : Nat) (input : SieInput)
  | evaluating (tick : Evaluated)
  | readingStates (tick : Evaluated)
  | applying (run : TickRun) (step : TickStep)
  | responding (key : SuggestionKey) (action : SuggestionAction) (now : Nat)
  | carryingOut (response : ResponseRun) (step : ResponseStep)

namespace TickRun

def live (run : TickRun) : List SuggestionKey := run.tick.suggestions.map Suggestion.key

/-- On to the next suggestion that is not suppressed, or to the end. -/
def proceed (run : TickRun) : List Suggestion → SieCall
  | [] => .applying { run with rest := [], states := dropIdle run.live run.states } .write
  | suggestion :: rest =>
    match decideAutoPilot suggestion (run.states.get suggestion.key) run.tick.settings
        run.tick.now with
    | .suppress _ => run.proceed rest
    | .execute =>
      .applying { run with rest := rest }
        (if suggestion.deviceId = "" then .announce suggestion else .command suggestion)
    | .notify kind => .applying { run with rest := rest } (.notify suggestion kind)

def act (run : TickRun) (event : SieEvent) : TickRun := { run with acts := run.acts ++ [event] }

/-- The suggestion has been carried out. -/
def executed (run : TickRun) (suggestion : Suggestion) : TickRun :=
  { run with
    states := run.states.set suggestion.key
      { stateOf run.states suggestion.key with executedAt := some run.tick.now } }

def notified (run : TickRun) (suggestion : Suggestion) : TickRun :=
  let previous := stateOf run.states suggestion.key
  { run with
    states := run.states.set suggestion.key
      { previous with
        firstNotifiedAt := previous.firstNotifiedAt.or (some run.tick.now)
        lastNotifiedAt := some run.tick.now } }

def resume (sie : Sie) (run : TickRun) : TickStep → SieReply → Option (Sie × List SieCall)
  | .command suggestion, .done =>
    let event := SieEvent.switchedOff suggestion.deviceId run.tick.now
    some (sie.record [event], [.applying (run.act event) (.announce suggestion)])
  | .announce suggestion, .done =>
    let event := SieEvent.announced suggestion.deviceId run.tick.now
    some (sie.record [event], [.applying (run.act event) (.recordOff suggestion)])
  | .recordOff suggestion, _ => some (sie, [(run.executed suggestion).proceed run.rest])
  | .notify suggestion _, .done =>
    let event := SieEvent.notified suggestion.deviceId run.tick.now run.tick.settings.reminderMs
    some (sie.record [event], [.applying ((run.act event).notified suggestion) .record])
  | .record, _ => some (sie, [run.proceed run.rest])
  | .write, .done => some (sie.write run.states, [])
  | .command _, .rejected | .announce _, .rejected | .notify _ _, .rejected | .write, .rejected =>
    some (sie, [])

end TickRun

namespace ResponseRun

def read (sie : Sie) (key : SuggestionKey) (action : SuggestionAction) (now : Nat) :
    ResponseRun where
  key := key
  action := action
  now := now
  states := sie.states.set key (applyResponse (stateOf sie.states key) action now)
  writes := sie.writes

def device (sie : Sie) (key : SuggestionKey) : Option DeviceId :=
  ((sie.lastSuggestions.find? fun suggestion => suggestion.key = key).map Suggestion.deviceId).or
    key.device

/-- What a response does first when it has read the states. -/
def first (device : Option DeviceId) (action : SuggestionAction) : ResponseStep :=
  if action = .turnOff ∧ (nonEmpty device).isSome then .command
  else if action = .enableAutoPilot then .getSettings
  else .record

/-- What is known when the response has resolved. -/
def event (response : ResponseRun) : List SieEvent :=
  response.key.device.toList.map fun deviceId =>
    .responded deviceId response.action response.now

/-- An await of a response settles. -/
def resume (sie : Sie) (response : ResponseRun) :
    ResponseStep → SieReply → Option (Sie × List SieCall)
  | .command, .done => some (sie, [.carryingOut response .getRate])
  | .getRate, .done => some (sie, [.carryingOut response .record])
  | .getSettings, .done => some (sie, [.carryingOut response .setSettings])
  | .setSettings, .done => some (sie, [.carryingOut response .record])
  | .record, _ => some (sie, [.carryingOut response .write])
  | .write, .done => some ((sie.write response.states).record response.event, [])
  | .command, .rejected | .getRate, .rejected | .getSettings, .rejected
  | .setSettings, .rejected | .write, .rejected => some (sie, [])

end ResponseRun

namespace Sie

def start (sie : Sie) : SieRequest → Sie × List SieCall
  | .tick input => (sie, [.reading sie.now input])
  | .respond key action => (sie, [.responding key action sie.now])
  | .wait milliseconds => ({ sie with now := sie.now + milliseconds }, [])

def resume (sie : Sie) : SieCall → SieReply → Option (Sie × List SieCall)
  | .reading now input, .done =>
    some (sie.observed input now,
      [.evaluating ⟨now, input.settings, suggestionsOf sie.onSince input now, sie.writes⟩])
  | .evaluating tick, .done =>
    some ({ sie with lastSuggestions := tick.suggestions }, [.readingStates tick])
  -- a module that throws is only reported
  | .evaluating _, .rejected => none
  | .readingStates tick, .done =>
    some (sie, [TickRun.proceed ⟨tick, tick.suggestions, endEpisodes sie.onSince sie.states, []⟩
      tick.suggestions])
  | .applying run step, reply => run.resume sie step reply
  | .responding key action now, .done =>
    some (sie, [.carryingOut (.read sie key action now)
      (ResponseRun.first (ResponseRun.device sie key) action)])
  | .carryingOut response step, reply => response.resume sie step reply
  | .reading _ _, .rejected | .readingStates _, .rejected | .responding _ _ _, .rejected =>
    some (sie, [])

end Sie

/-- Ticks and responses, segment by segment. -/
def sieProgram : Program Sie SieRequest SieCall SieReply where
  start := Sie.start
  resume := Sie.resume

end SupremeOs.Gateway
