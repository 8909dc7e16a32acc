import SupremeOs.DomainModel.AutomationsDsl
import SupremeOs.Support.Loop

/-!
# Automation engine

The engine serves an event by walking through its automations in order; each
one whose trigger matches is executed: its conditions are read, its actions
are performed, and a run is recorded.  All effects go through executors, which
are arbitrary functions on an abstract world and may reject at any call.

A rejected action is caught and becomes part of the run.  A rejected read of a
condition is not caught; it leaves the walk.
-/

namespace SupremeOs.Automations

open Support DomainModel

universe u

/-- A call into the world; a rejection carries its message. -/
abbrev Effect (World : Type u) (Value : Type) := World → World × Except String Value

structure AutomationExecutors (World : Type u) where
  command : DeviceId → CapabilityCommand → Effect World Unit
  activateScene : String → Effect World Unit
  notify : NotificationLevel → String → String → Option String → Effect World Unit
  /-- Read the current state for the evaluation of a condition. -/
  getState : DeviceId → CapabilityKind → Effect World (Option CapabilityState)
  /-- Executor sets from before the intent engine do not have it. -/
  runIntent : Option
    (String → IntentTarget → OrderedMap String JsPrimitive → Effect World Unit)

structure EngineOptions (World : Type u) where
  executors : AutomationExecutors World
  sleep : Nat → Effect World Unit
  onRun : Option (String → Bool → World → World)
  historyLimit : Nat
  now : World → Int
  /-- The clock on the wall, which `new Date()` reads. -/
  newDate : World → HubDate

structure DeviceStateEvent where
  deviceId : DeviceId
  capability : CapabilityKind
  state : CapabilityState

structure AutomationRunAction where
  type : String
  ok : Bool
  error : Option String
  durationMs : Int
  summary : String

/-- The trace of a single execution. -/
structure AutomationRun where
  id : String
  automationId : String
  startedAt : HubDate
  trigger : String
  conditionsPassed : Bool
  /-- The first condition that failed. -/
  failedCondition : Option String
  actions : List AutomationRunAction
  durationMs : Int
  ok : Bool
  error : Option String

structure AutomationEngine where
  automations : List Automation
  /-- The list comes from a store that is keyed by the id. -/
  distinct : (automations.map Automation.id).Nodup
  /-- The minute in which a time or interval trigger last fired. -/
  lastFired : OrderedMap String Int
  /-- The retained runs, newest last. -/
  runs : List AutomationRun
  runSeq : Nat

structure EngineState (World : Type u) where
  engine : AutomationEngine
  world : World
  recorded : List AutomationRun

/-- What the engine loads of a list of automations. -/
def isActive (automation : Automation) : Bool :=
  automation.enabled && decide (automation.engine = .supreme)

def AutomationEngine.setAutomations (engine : AutomationEngine) (list : List Automation)
    (distinct : (list.map Automation.id).Nodup) : AutomationEngine :=
  { engine with
    automations := list.filter isActive
    distinct := distinct.sublist (List.filter_sublist.map Automation.id) }

def describeIntentTarget : IntentTarget → String
  | .device deviceId => deviceId
  | .room roomId => "room " ++ roomId
  | .scene sceneId => "scene " ++ sceneId
  | .automation automationId => "automation " ++ automationId
  | .home => "home"

/-- A short summary of an action for the timeline of a run. -/
def describeAutomationAction : AutomationAction → String
  | .deviceCommand deviceId command =>
    "Command " ++ command.capability.literal ++ " → " ++ deviceId
  | .sceneActivate sceneId => "Activate scene " ++ sceneId
  | .notify _ title _ _ => "Notify \"" ++ title ++ "\""
  | .delay ms => "Delay " ++ toString ms ++ "ms"
  | .intent intentId target _ =>
    "Intent " ++ intentId ++ " → " ++ describeIntentTarget target

variable {World : Type u}

def runAutomationAction (action : AutomationAction) (executors : AutomationExecutors World)
    (sleep : Nat → Effect World Unit) : Effect World Unit :=
  match action with
  | .deviceCommand deviceId command => executors.command deviceId command
  | .sceneActivate sceneId => executors.activateScene sceneId
  | .notify level title body userId => executors.notify level title body userId
  | .delay ms => sleep ms
  | .intent intentId target params =>
    match executors.runIntent with
    | none => fun world => (world, .error ("intent action \"" ++ intentId ++
        "\" requires a wired Intent Engine — this executor set does not support runIntent"))
    | some runIntent => runIntent intentId target params

structure ActionsOutcome where
  actions : List AutomationRunAction
  ok : Bool
  error : Option String

/-- Perform the actions in order up to the first one that fails. -/
def runActions (options : EngineOptions World) :
    List AutomationAction → World → World × ActionsOutcome
  | [], world => (world, ⟨[], true, none⟩)
  | action :: rest, world =>
    match runAutomationAction action options.executors options.sleep world with
    | (after, .ok ()) =>
      let outcome := runActions options rest after
      (outcome.1, { outcome.2 with
          actions :=
            { type := action.type, ok := true, error := none
              durationMs := options.now after - options.now world
              summary := describeAutomationAction action } :: outcome.2.actions })
    | (after, .error message) =>
      (after,
        { actions :=
            [{ type := action.type, ok := false, error := some message
               durationMs := options.now after - options.now world
               summary := describeAutomationAction action }]
          ok := false
          error := some message })

structure ConditionResult where
  passed : Bool
  failed : Option String

def failedTest (test : DeviceStateTest) : String :=
  test.capability.literal ++ "." ++ test.field ++ " " ++ test.op.literal ++ " " ++
    (test.value.getD .undefined).json ++ " on " ++ test.deviceId

def failedWindow (window : ScheduleWindow) : String :=
  "outside window " ++ window.start.text ++ "–" ++ window.finish.text

/-- Read the conditions in order; the first one that fails ends it, as does a rejection. -/
def evaluateConditions (options : EngineOptions World) (now : HubDate) :
    List AutomationCondition → Effect World ConditionResult
  | [], world => (world, .ok ⟨true, none⟩)
  | .deviceState test :: rest, world =>
    match options.executors.getState test.deviceId test.capability world with
    | (after, .error message) => (after, .error message)
    | (after, .ok none) => (after, .ok ⟨false, some (failedTest test)⟩)
    | (after, .ok (some state)) =>
      if test.holdsOf state then evaluateConditions options now rest after
      else (after, .ok ⟨false, some (failedTest test)⟩)
  | .timeWindow window :: rest, world =>
    if isWithinScheduleWindow window now then evaluateConditions options now rest world
    else (world, .ok ⟨false, some (failedWindow window)⟩)

variable (options : EngineOptions World)

def record (run : AutomationRun) (state : EngineState World) : EngineState World :=
  let runs := state.engine.runs ++ [run]
  { engine := { state.engine with
      runs := if options.historyLimit < runs.length then runs.drop 1 else runs }
    world :=
      match run.conditionsPassed, options.onRun with
      | true, some onRun => onRun run.automationId run.ok state.world
      | _, _ => state.world
    recorded := state.recorded ++ [run] }

/-- The part of an execution that follows the conditions; it cannot fail. -/
def performRun (automation : Automation) (trigger : String)
    (started : HubDate) (startedMs : Int) (checked : ConditionResult)
    (state : EngineState World) : EngineState World :=
  let performed :=
    if checked.passed then runActions options automation.actions state.world
    else (state.world, ⟨[], true, none⟩)
  record options
    { id := "run-" ++ toString started.time ++ "-" ++ toString state.engine.runSeq
      automationId := automation.id
      startedAt := started
      trigger := trigger
      conditionsPassed := checked.passed
      failedCondition := checked.failed
      actions := performed.2.actions
      durationMs := options.now performed.1 - startedMs
      ok := checked.passed && performed.2.ok
      -- An empty message is left out like a missing one.
      error := performed.2.error.filter (· ≠ "") }
    { state with
      engine := { state.engine with runSeq := state.engine.runSeq + 1 }
      world := performed.1 }

/-- Execute an automation; the error is the rejection that leaves the method. -/
def execute (automation : Automation) (trigger : String)
    (skipConditions : Bool) (state : EngineState World) :
    EngineState World × Option String :=
  let started := options.newDate state.world
  let startedMs := options.now state.world
  let checked :=
    if skipConditions then (state.world, .ok ⟨true, none⟩)
    else evaluateConditions options started automation.conditions state.world
  match checked with
  | (after, .error message) => ({ state with world := after }, some message)
  | (after, .ok result) =>
    (performRun options automation trigger started startedMs result
      { state with world := after }, none)

/-- Run an automation's actions immediately, without its conditions. -/
def run (automation : Automation) (state : EngineState World) : EngineState World × Option String :=
  execute options automation "manual" true state

def deviceStateTriggered (event : DeviceStateEvent) (automation : Automation) : Bool :=
  automation.triggers.any fun trigger =>
    match trigger with
    | .deviceState test =>
      decide (test.deviceId = event.deviceId) &&
        decide (test.capability = event.capability) && test.holdsOf event.state
    | _ => false

def keypadInputTriggered (event : KeypadInputEvent) (automation : Automation) : Bool :=
  automation.triggers.any fun trigger =>
    match trigger with
    | .keypadInput keypadId control type =>
      decide (keypadId = event.keypadId) && decide (control = event.control) &&
        decide (type = event.type)
    | _ => false

/-- The key under which a trigger's last firing is kept. -/
def lastFiredKey (automationId : String) (index : Nat) : String :=
  automationId ++ "#" ++ toString index

def isDue (automationId : String) (index : Nat) (trigger : AutomationTrigger)
    (now : HubDate) (minute : Int) (lastFired : OrderedMap String Int) : Bool :=
  match trigger with
  | .time clock days =>
    decide (twoDigits now.hours ++ ":" ++ twoDigits now.minutes = clock.text) &&
      (days.isEmpty || days.contains now.day) &&
      decide (lastFired.get (lastFiredKey automationId index) ≠ some minute)
  | .interval everyMinutes =>
    match lastFired.get (lastFiredKey automationId index) with
    | none => true
    | some last => decide ((everyMinutes : Int) ≤ minute - last)
  | _ => false

/-- Whether a trigger fires; one that does is marked as fired. -/
def timeTriggerFires (automationId : String) (index : Nat) (trigger : AutomationTrigger)
    (now : HubDate) (minute : Int) (lastFired : OrderedMap String Int) :
    OrderedMap String Int × Bool :=
  if isDue automationId index trigger now minute lastFired then
    (lastFired.set (lastFiredKey automationId index) minute, true)
  else (lastFired, false)

def minuteOf (now : HubDate) : Int := now.time / 60000

def serveDeviceState (event : DeviceStateEvent)
    (automation : Automation) (state : EngineState World) :
    EngineState World × Option String :=
  if deviceStateTriggered event automation then
    execute options automation "device_state" false state
  else (state, none)

def onDeviceState (event : DeviceStateEvent)
    (state : EngineState World) : EngineState World × Option String :=
  forEach (serveDeviceState options event) state.engine.automations state

def serveKeypadInput (event : KeypadInputEvent)
    (automation : Automation) (state : EngineState World) :
    EngineState World × Option String :=
  if keypadInputTriggered event automation then
    execute options automation "keypad_input" false state
  else (state, none)

def onKeypadInput (event : KeypadInputEvent)
    (state : EngineState World) : EngineState World × Option String :=
  forEach (serveKeypadInput options event) state.engine.automations state

def serveTriggers (options : EngineOptions World) (now : HubDate) (automation : Automation) :
    Nat → List AutomationTrigger → EngineState World → EngineState World × Option String
  | _, [], state => (state, none)
  | index, trigger :: rest, state =>
    let (lastFired, fires) := timeTriggerFires automation.id index trigger now
      (minuteOf now) state.engine.lastFired
    let marked := { state with engine := { state.engine with lastFired := lastFired } }
    if fires then execute options automation trigger.type false marked
    else serveTriggers options now automation (index + 1) rest marked

def serveTick (now : HubDate) (automation : Automation)
    (state : EngineState World) : EngineState World × Option String :=
  serveTriggers options now automation 0 automation.triggers state

/-- Evaluate the time and interval triggers. -/
def tick (now : HubDate) (state : EngineState World) : EngineState World × Option String :=
  forEach (serveTick options now) state.engine.automations state

inductive EngineEvent where
  | deviceState (event : DeviceStateEvent)
  | keypadInput (event : KeypadInputEvent)
  | tick (now : HubDate)

/-- The method that receives an event. -/
def handle (event : EngineEvent) (state : EngineState World) : EngineState World × Option String :=
  match event with
  | .deviceState event => onDeviceState options event state
  | .keypadInput event => onKeypadInput options event state
  | .tick now => tick options now state

/-- What that method does for one automation. -/
def serve (event : EngineEvent) (automation : Automation) (state : EngineState World) :
    EngineState World × Option String :=
  match event with
  | .deviceState event => serveDeviceState options event automation state
  | .keypadInput event => serveKeypadInput options event automation state
  | .tick now => serveTick options now automation state

theorem handle_eq_forEach (options : EngineOptions World) (event : EngineEvent)
    (state : EngineState World) :
    handle options event state = forEach (serve options event) state.engine.automations state := by
  cases event <;> rfl

end SupremeOs.Automations
