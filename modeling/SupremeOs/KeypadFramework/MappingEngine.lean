import SupremeOs.Automations.Engine
import SupremeOs.Support.Machine
import SupremeOs.Support.PromiseChain

/-!
# Keypad mapping engine

An input event fires, one after the other, the mappings for its keypad,
control and gesture.  A firing is chained to the last firing of its mapping,
so that a second press waits for the command of the first one; the firings of
different mappings run concurrently.

The interleavings at await points are the runs of a machine whose labels say
what happens next: an event comes in, an execution goes on with the reply that
it awaits, or a handler goes on because the firing that it awaits has settled.
The list of loaded mappings does not change; a behavior's memory does.
-/

namespace SupremeOs.KeypadFramework

open Support DomainModel
open Automations (describeAutomationAction failedTest failedWindow)

structure KeypadMappingInput where
  keypadId : DeviceId
  control : String
  event : KeypadInputEventType
deriving DecidableEq

inductive KeypadMappingBehavior where
  | direct
  | toggle
  | alternate
  | cycle
  | increment
  | decrement
deriving DecidableEq

def KeypadMappingBehavior.literal : KeypadMappingBehavior → String
  | .direct => "direct"
  | .toggle => "toggle"
  | .alternate => "alternate"
  | .cycle => "cycle"
  | .increment => "increment"
  | .decrement => "decrement"

structure KeypadMappingTarget where
  deviceId : DeviceId
  capability : CapabilityKind
deriving DecidableEq

inductive StepDirection where
  | up
  | down
deriving DecidableEq

/-- What a mapping remembers about its own past firings. -/
structure KeypadMappingBehaviorState where
  lastDirection : Option StepDirection
  cycleIndex : Nat
deriving DecidableEq

structure KeypadMapping where
  id : String
  enabled : Bool
  input : KeypadMappingInput
  conditions : List AutomationCondition
  actions : List AutomationAction
  behavior : KeypadMappingBehavior
  target : Option KeypadMappingTarget
  behaviorState : KeypadMappingBehaviorState
deriving DecidableEq

/-- The mappings that the engine has loaded, from a store that is keyed by the id. -/
structure LoadedMappings where
  mappings : List KeypadMapping
  distinct : (mappings.map KeypadMapping.id).Nodup

def setMappings (list : List KeypadMapping)
    (distinct : (list.map KeypadMapping.id).Nodup) : LoadedMappings where
  mappings := list.filter KeypadMapping.enabled
  distinct := distinct.sublist (List.filter_sublist.map KeypadMapping.id)

theorem LoadedMappings.index_eq (loaded : LoadedMappings) {first second : Nat}
    {left right : KeypadMapping} (foundLeft : loaded.mappings[first]? = some left)
    (foundRight : loaded.mappings[second]? = some right) (same : left.id = right.id) :
    first = second := by
  have bound := (List.getElem?_eq_some_iff.mp foundLeft).1
  apply (List.getElem?_inj (by simpa using bound) loaded.distinct).mp
  simp [foundLeft, foundRight, same]

def inputOf (event : KeypadInputEvent) : KeypadMappingInput :=
  ⟨event.keypadId, event.control, event.type⟩

def matchesEvent (mapping : KeypadMapping) (event : KeypadInputEvent) : Bool :=
  decide (mapping.input = inputOf event)

structure KeypadMappingRunAction where
  type : String
  ok : Bool
  error : Option String
  summary : String

/-- The trace of a single execution. -/
structure KeypadMappingRun where
  mappingId : String
  conditionsPassed : Bool
  failedCondition : Option String
  actions : List KeypadMappingRunAction
  ok : Bool
  error : Option String

/-- A mapping, by its place in the list, that an event has fired. -/
structure Firing where
  index : Nat
  mapping : KeypadMapping
  seq : Nat

def Firing.mappingId (firing : Firing) : String := firing.mapping.id

/-- What a running execution awaits. -/
inductive Phase where
  /-- The state that a condition is about. -/
  | reading (now : HubDate) (test : DeviceStateTest) (rest : List AutomationCondition)
  /-- The command that a behavior resolves to, for a device. -/
  | resolving (deviceId : DeviceId)
  /-- The store of behavior states. -/
  | persisting (toRun : List AutomationAction)
  | acting (action : AutomationAction) (rest : List AutomationAction)
      (done : List KeypadMappingRunAction)

inductive Reply where
  /-- The clock on the wall, when an execution starts. -/
  | clock (now : HubDate)
  | state (state : Option CapabilityState)
  /-- The command of a behavior, and what the mapping remembers next. -/
  | resolved (command : CapabilityCommand) (next : Option KeypadMappingBehaviorState)
  | done
  | rejected (message : String)

/-- An event's walk over the mappings, which awaits the firing of one of them. -/
structure Handler where
  seq : Nat
  event : KeypadInputEvent
  /-- The number of the firing's promise. -/
  firing : Nat
  /-- The place of the mapping in the list. -/
  index : Nat

structure Execution where
  mappingId : String
  seq : Nat
deriving DecidableEq

structure MappingEngine where
  /-- The behavior states that have changed since the mappings were loaded. -/
  behaviorStates : OrderedMap String KeypadMappingBehaviorState
  chains : Chains Firing String Phase KeypadMappingRun
  handlers : List Handler
  /-- The events so far. -/
  events : List KeypadInputEvent
  /-- The executions that were started. -/
  executions : List Execution
  runs : List KeypadMappingRun
  /-- The firings that were reported to the caller of the engine. -/
  fired : List (KeypadInputEvent × KeypadMappingRun)

namespace MappingEngine

def idle : MappingEngine where
  behaviorStates := OrderedMap.empty
  chains := Chains.empty
  handlers := []
  events := []
  executions := []
  runs := []
  fired := []

/-- The promise of a firing changes its status. -/
def setStatus (number : Nat) (status : LinkStatus Phase KeypadMappingRun)
    (engine : MappingEngine) : MappingEngine :=
  { engine with chains := engine.chains.setStatus number status }

/-- An execution records its run and is done. -/
def record (number : Nat) (run : KeypadMappingRun) (engine : MappingEngine) : MappingEngine :=
  { engine.setStatus number (.resolved run) with runs := engine.runs ++ [run] }

/-- A condition of the mapping does not hold. -/
def conditionFailed (number : Nat) (firing : Firing) (failed : String)
    (engine : MappingEngine) : MappingEngine :=
  engine.record number ⟨firing.mappingId, false, some failed, [], false, none⟩

/-- The run failed; an empty message is left out like a missing one. -/
def runFailed (number : Nat) (firing : Firing) (actions : List KeypadMappingRunAction)
    (message : String) (engine : MappingEngine) : MappingEngine :=
  engine.record number
    ⟨firing.mappingId, true, none, actions, false, (some message).filter (· ≠ "")⟩

def runActions (number : Nat) (firing : Firing) (done : List KeypadMappingRunAction) :
    List AutomationAction → MappingEngine → MappingEngine
  | [], engine => engine.record number ⟨firing.mappingId, true, none, done, true, none⟩
  | action :: rest, engine => engine.setStatus number (.running (.acting action rest done))

def behaviorStateOf (engine : MappingEngine) (mapping : KeypadMapping) :
    KeypadMappingBehaviorState :=
  (engine.behaviorStates.get mapping.id).getD mapping.behaviorState

/-- Remember a behavior state and store it, if there is a store, before the actions run. -/
def applyBehaviorState (persists : Bool) (number : Nat) (firing : Firing)
    (next : KeypadMappingBehaviorState) (toRun : List AutomationAction)
    (engine : MappingEngine) : MappingEngine :=
  let updated :=
    { engine with behaviorStates := engine.behaviorStates.set firing.mappingId next }
  if persists then updated.setStatus number (.running (.persisting toRun))
  else runActions number firing [] toRun updated

def noTarget (behavior : KeypadMappingBehavior) : String :=
  "keypad-framework: behavior \"" ++ behavior.literal ++ "\" has no target"

def resolveActionsToRun (persists : Bool) (number : Nat) (firing : Firing)
    (engine : MappingEngine) : MappingEngine :=
  match firing.mapping.behavior with
  | .direct => runActions number firing [] firing.mapping.actions engine
  | .cycle =>
    let current := engine.behaviorStateOf firing.mapping
    let index := current.cycleIndex % firing.mapping.actions.length
    match firing.mapping.actions[index]? with
    | none => runActions number firing [] [] engine
    | some action =>
      applyBehaviorState persists number firing
        { current with cycleIndex := (index + 1) % firing.mapping.actions.length }
        [action] engine
  | behavior =>
    match firing.mapping.target with
    | none => runFailed number firing [] (noTarget behavior) engine
    | some target => engine.setStatus number (.running (.resolving target.deviceId))

/-- Go on with the conditions that remain, up to the next one that reads a state. -/
def evaluateConditions (persists : Bool) (number : Nat) (firing : Firing) (now : HubDate) :
    List AutomationCondition → MappingEngine → MappingEngine
  | [], engine => resolveActionsToRun persists number firing engine
  | .deviceState test :: rest, engine =>
    engine.setStatus number (.running (.reading now test rest))
  | .timeWindow window :: rest, engine =>
    if isWithinScheduleWindow window now then
      evaluateConditions persists number firing now rest engine
    else conditionFailed number firing (failedWindow window) engine

def execute (persists : Bool) (number : Nat) (firing : Firing) (now : HubDate)
    (engine : MappingEngine) : MappingEngine :=
  evaluateConditions persists number firing now firing.mapping.conditions
    { engine with executions := engine.executions ++ [⟨firing.mappingId, firing.seq⟩] }

/-- An execution goes on with the reply that it awaits. -/
def advance (persists : Bool) (number : Nat) (firing : Firing) (engine : MappingEngine) :
    Phase → Reply → Option MappingEngine
  | .reading now test rest, .state (some state) =>
    some (if test.holdsOf state then
      evaluateConditions persists number firing now rest engine
    else conditionFailed number firing (failedTest test) engine)
  | .reading _ test _, .state none =>
    some (conditionFailed number firing (failedTest test) engine)
  | .reading _ _ _, .rejected message =>
    -- Nothing catches this one: the promise of the firing is rejected.
    some (engine.setStatus number (.rejected message))
  | .resolving deviceId, .resolved command (some next) =>
    some (applyBehaviorState persists number firing next [.deviceCommand deviceId command] engine)
  | .resolving deviceId, .resolved command none =>
    some (runActions number firing [] [.deviceCommand deviceId command] engine)
  | .resolving _, .rejected message => some (runFailed number firing [] message engine)
  | .persisting toRun, .done => some (runActions number firing [] toRun engine)
  | .persisting _, .rejected message => some (runFailed number firing [] message engine)
  | .acting action rest done, .done =>
    some (runActions number firing
      (done ++ [⟨action.type, true, none, describeAutomationAction action⟩]) rest engine)
  | .acting action _ done, .rejected message =>
    some (runFailed number firing
      (done ++ [⟨action.type, false, some message, describeAutomationAction action⟩])
      message engine)
  | _, _ => none

def fire (seq : Nat) (event : KeypadInputEvent) (index : Nat) (mapping : KeypadMapping)
    (engine : MappingEngine) : MappingEngine :=
  { engine with
    chains := engine.chains.chain Firing.mappingId ⟨index, mapping, seq⟩
    handlers := engine.handlers ++ [⟨seq, event, engine.chains.links.length, index⟩] }

/-- Go on to the next mapping that matches, from a place in the list on. -/
def fireFrom (seq : Nat) (event : KeypadInputEvent) :
    Nat → List KeypadMapping → MappingEngine → MappingEngine
  | _, [], engine => engine
  | index, mapping :: rest, engine =>
    if matchesEvent mapping event then engine.fire seq event index mapping
    else fireFrom seq event (index + 1) rest engine

def onInputEvent (loaded : LoadedMappings) (event : KeypadInputEvent)
    (engine : MappingEngine) : MappingEngine :=
  fireFrom engine.events.length event 0 loaded.mappings
    { engine with events := engine.events ++ [event] }

/-- The firing is done: the handler forgets its promise, reports it, and goes on. -/
def afterFiring (loaded : LoadedMappings) (position : Nat) (handler : Handler)
    (firing : Firing) (run : KeypadMappingRun) (engine : MappingEngine) : MappingEngine :=
  fireFrom handler.seq handler.event (handler.index + 1)
    (loaded.mappings.drop (handler.index + 1))
    { engine with
      chains := (engine.chains.release handler.firing).forget firing.mappingId handler.firing
      handlers := engine.handlers.eraseIdx position
      fired := engine.fired ++ [(handler.event, run)] }

def abandon (position : Nat) (handler : Handler) (engine : MappingEngine) : MappingEngine :=
  { engine with
    chains := engine.chains.release handler.firing
    handlers := engine.handlers.eraseIdx position }

inductive Label where
  | input (event : KeypadInputEvent)
  /-- The task of this promise goes on. -/
  | advance (number : Nat) (reply : Reply)
  /-- The handler at this position goes on. -/
  | react (position : Nat)

def step (loaded : LoadedMappings) (persists : Bool) (engine : MappingEngine) :
    Label → Option MappingEngine
  | .input event => some (onInputEvent loaded event engine)
  | .advance number reply =>
    match engine.chains.promise number with
    | none => none
    | some link =>
      match link.status with
      | .waiting =>
        match engine.chains.priorOutcome link, reply with
        | .fulfilled, .clock now => some (execute persists number link.task now engine)
        | .rejected message, .done => some (engine.setStatus number (.rejected message))
        | _, _ => none
      | .running phase => advance persists number link.task engine phase reply
      | _ => none
  | .react position =>
    match engine.handlers[position]? with
    | none => none
    | some handler =>
      match engine.chains.promise handler.firing with
      | none => none
      | some link =>
        match link.status with
        | .resolved run => some (afterFiring loaded position handler link.task run engine)
        | .rejected _ => some (abandon position handler engine)
        | _ => none

/-- All interleavings of the handling of events. -/
def machine (loaded : LoadedMappings) (persists : Bool) : Machine MappingEngine Label :=
  ⟨step loaded persists⟩

end MappingEngine

end SupremeOs.KeypadFramework
