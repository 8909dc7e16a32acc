import SupremeOs.DomainModel.StateExpectation
import SupremeOs.Scenes.SceneService

/-!
# The scene runner

The command of a step is sent, then the device is read, and unless it already
is what was asked for the step waits for a report or its deadline.  Steps in no
phase start at once; a phase starts when the calls for the steps of the one
before it have returned.  A newer run takes over what an older one has not yet
finished of the same capabilities.

Whatever is awaited settles by a label of the machine, so its runs are all
orders in which calls settle, devices report, deadlines pass and scenes are
started.  A run keeps for each of its steps how far the call of `runStep` has
come.  Runs are known by the order in which they begin, steps by their index in
the scene; the snapshots that are published are left out.
-/

namespace SupremeOs.Scenes

open Support DomainModel

/-- What an awaited call settles with; an error may have a message. -/
abbrev Outcome (Value : Type) := Except (Option String) Value

structure DeviceSnapshot where
  status : String
  state : List (String × StateFields)

inductive StepState where
  | queued
  | sent
  | confirmed
  | timeout
  | skipped
  | failed
deriving DecidableEq

/-- How far the call of `runStep` for a step has come. -/
inductive StepTask where
  | ready
  | commanding
  | checking (expectation : StateExpectation)
  /-- A listener and a timer conclude the step, whichever comes first. -/
  | waiting (expectation : StateExpectation) (due : Nat)
  | returned
  | rejected
deriving DecidableEq

structure SceneRunStep where
  index : Nat
  deviceId : String
  roomId : Option String
  capability : String
  state : StepState
  verifiable : Bool
  reason : Option String
  command : Option (List (String × Json))
  task : StepTask
  /-- Whether the command has been handed over. -/
  commanded : Bool

/-- `{ capability: step.capability, ...step.values }`. -/
def SceneStep.rawCommand (step : SceneStep) : List (String × Json) :=
  match givenField step.values "capability" with
  | some _ => step.values
  | none => ("capability", .text step.capability) :: step.values

def SceneStep.queuedAs (step : SceneStep) (index : Nat) (roomId : Option String)
    (device : Option DeviceSnapshot) : SceneRunStep :=
  let parsed := safeParse step.rawCommand
  let reason :=
    match parsed, device with
    | none, _ => some "invalid_command"
    | some _, none => some "device_not_found"
    | some _, some device =>
      if device.status ≠ "online" then some "device_unreachable" else none
  { index := index, deviceId := step.deviceId, roomId := roomId, capability := step.capability
    state := if reason.isSome then .skipped else .queued
    verifiable := parsed.isSome && (expectationOf step.capability step.rawCommand).isSome
    reason := reason
    command := if reason.isSome then none else parsed
    task := .ready
    commanded := false }

def DEFAULT_DEADLINES : List (String × Nat) :=
  [("onoff", 10000), ("brightness", 10000), ("media", 10000), ("temperature", 15000),
    ("position", 90000)]

def FALLBACK_DEADLINE : Nat := 10000

/-- The deadline of a capability, with the ones that are configured before the default ones. -/
def deadline (deadlines : List (String × Nat)) (capability : String) : Nat :=
  ((deadlines ++ DEFAULT_DEADLINES).lookup capability).getD FALLBACK_DEADLINE

namespace SceneRunStep

def set (step : SceneRunStep) (state : StepState) (reason : Option String) : SceneRunStep :=
  { step with state := state, reason := reason }

def returns (step : SceneRunStep) : SceneRunStep := { step with task := .returned }

/-- `runStep` up to its first await. -/
def runStep (step : SceneRunStep) : SceneRunStep :=
  if step.state = .queued ∧ step.command.isSome then
    { step with task := .commanding, commanded := true }
  else
    match step.task with
    | .ready => step.returns
    -- a call for a step of an earlier phase, which returns at once
    | _ => step

def wait (now : Nat) (deadlines : List (String × Nat)) (expectation : StateExpectation)
    (step : SceneRunStep) : SceneRunStep :=
  { step with task := .waiting expectation (now + deadline deadlines step.capability) }

/-- The timer is cleared, the listener is gone, and what is merely sent gets its verdict. -/
def conclude (step : SceneRunStep) (state : StepState) (reason : Option String) : SceneRunStep :=
  if step.state = .sent then (step.set state reason).returns else step.returns

def sent (step : SceneRunStep) : SceneRunStep :=
  match step.command.bind (expectationOf step.capability) with
  | none => (step.set .sent none).returns
  | some expectation =>
    let sent := step.set .sent none
    { sent with task := .checking expectation }

def commandSettled (outcome : Outcome Unit) (step : SceneRunStep) : Option SceneRunStep :=
  match step.task with
  | .commanding =>
    if step.state = .queued then
      match outcome with
      | .error message =>
        some (step.set .failed (some (message.getD "command_failed"))).returns
      | .ok () => some step.sent
    -- superseded while sending
    else some step.returns
  | _ => none

def deviceRead (now : Nat) (deadlines : List (String × Nat))
    (outcome : Outcome (Option DeviceSnapshot)) (step : SceneRunStep) : Option SceneRunStep :=
  match step.task with
  | .checking expectation =>
    match outcome with
    | .error _ => some { step with task := .rejected }
    | .ok device =>
      match device.bind fun device => device.state.lookup step.capability with
      | some fields =>
        if expectation.accepts fields then some (step.conclude .confirmed none)
        else some (step.wait now deadlines expectation)
      | none => some (step.wait now deadlines expectation)
  | _ => none

/-- A report reaches the listener; one of a movement restarts the deadline. -/
def reported (now : Nat) (deadlines : List (String × Nat)) (deviceId capability : String)
    (fields : StateFields) (step : SceneRunStep) : SceneRunStep :=
  match step.task with
  | .waiting expectation _ =>
    if step.deviceId = deviceId ∧ step.capability = capability then
      if expectation.accepts fields then step.conclude .confirmed none
      else if flagIs fields "moving" true then step.wait now deadlines expectation
      else step
    else step
  | _ => step

def timedOut (now : Nat) (step : SceneRunStep) : Option SceneRunStep :=
  match step.task with
  | .waiting _ due => if due ≤ now then some (step.conclude .timeout (some "no_report")) else none
  | _ => none

def key (step : SceneRunStep) : String × String := (step.deviceId, step.capability)

/-- A newer run addresses the step, which is not finished. -/
def hit (mine : List (String × String)) (step : SceneRunStep) : Bool :=
  (step.state = .queued || step.state = .sent) && decide (step.key ∈ mine)

def superseded (step : SceneRunStep) : SceneRunStep :=
  match step.task with
  | .waiting _ _ => step.conclude .skipped (some "superseded")
  | _ => if step.state = .queued then step.set .skipped (some "superseded") else step

end SceneRunStep

inductive RunStatus where
  | running
  | completed
  | partially
  | failed
deriving DecidableEq

structure SceneRun where
  sceneId : String
  spaceIds : List String
  status : RunStatus
  startedAt : Nat
  finishedAt : Option Nat
  phase : Nat
  steps : List SceneRunStep
  supersededBy : Option Nat
  /-- The steps of each phase, without the phases that have none. -/
  groups : List (List Nat)
  free : List Nat
  phasesDone : Bool

namespace SceneRun

/-- A run before its first step. -/
def queued (scene : Scene) (spaceIds : List String) (now : Nat) (steps : List SceneRunStep) :
    SceneRun :=
  let idsOf (phase : List Nat) : List Nat :=
    (steps.filter fun step => decide (step.index ∈ phase)).map SceneRunStep.index
  { sceneId := scene.id, spaceIds := spaceIds, status := .running, startedAt := now, finishedAt := none
    phase := 0
    steps := steps
    supersededBy := none
    groups := (scene.phases.map idsOf).filter fun ids => !ids.isEmpty
    free := (steps.filter fun step => scene.phases.all fun phase =>
      decide (step.index ∉ phase)).map SceneRunStep.index
    phasesDone := false }

variable (run : SceneRun)

def mapSteps (change : SceneRunStep → SceneRunStep) : SceneRun :=
  { run with steps := run.steps.map change }

/-- `runStep` is called for all these steps. -/
def runSteps (ids : List Nat) : SceneRun :=
  run.mapSteps fun step => if step.index ∈ ids then step.runStep else step

/-- Whether the calls for all these steps have returned. -/
def allReturned (ids : List Nat) : Bool :=
  run.steps.all fun step => decide (step.index ∈ ids → step.task = .returned)

def turn : SceneRun :=
  match run.groups[run.phase]? with
  | some ids =>
    let next := { run with phase := run.phase + 1 }
    next.runSteps ids
  | none => { run with phasesDone := true }

/-- The calls for the free steps and for the first phase. -/
def started : SceneRun := (run.runSteps run.free).turn

/-- The loop goes on when all calls of the phase have returned. -/
def nextPhase : Option SceneRun :=
  if run.phasesDone then none
  else
    match run.groups[run.phase - 1]? with
    | some ids => if run.allReturned ids then some run.turn else none
    | none => none

def bad (step : SceneRunStep) : Bool :=
  step.state = .failed || step.state = .timeout || step.state = .skipped

def good (step : SceneRunStep) : Bool := step.state = .confirmed || step.state = .sent

def verdict (steps : List SceneRunStep) : RunStatus :=
  if steps.countP bad = 0 then .completed
  else if steps.countP good = 0 then .failed
  else .partially

def finish (now : Nat) (run : SceneRun) : Option SceneRun :=
  if run.finishedAt.isNone && run.phasesDone && run.allReturned run.free then
    some { run with status := verdict run.steps, finishedAt := some now }
  else none

def updateStep (place : Nat) (change : SceneRunStep → Option SceneRunStep) : Option SceneRun :=
  run.steps[place]?.bind fun step => (change step).map fun next =>
    { run with steps := run.steps.set place next }

/-- What is not finished of these capabilities is left to a newer run. -/
def supersede (mine : List (String × String)) (next : Nat) (run : SceneRun) : SceneRun :=
  if run.status = .running ∧ run.steps.any (SceneRunStep.hit mine) then
    { run with
      steps := run.steps.map fun step => if step.hit mine then step.superseded else step
      supersededBy := some next }
  else run

end SceneRun

/-- A call of `start`: it awaits the room of the next step, or its device if the room is known. -/
structure Starting where
  scene : Scene
  spaceIds : List String
  next : Nat
  roomId : Option (Option String)
  steps : List SceneRunStep

structure SceneRunner where
  now : Nat
  runs : List SceneRun
  starting : List Starting

/-- How many runs are kept; a newer run supersedes only these. -/
def MAX_RUNS : Nat := 50

inductive RunnerLabel where
  | start (scene : Scene) (spaceIds : List String)
  | roomOf (call : Nat) (outcome : Outcome (Option String))
  | getDevice (call : Nat) (outcome : Outcome (Option DeviceSnapshot))
  | commandSettled (run step : Nat) (outcome : Outcome Unit)
  | deviceRead (run step : Nat) (outcome : Outcome (Option DeviceSnapshot))
  | report (deviceId capability : String) (fields : StateFields)
  | timer (run step : Nat)
  | nextPhase (run : Nat)
  | finish (run : Nat)
  | tick (milliseconds : Nat)

namespace SceneRunner

def initial : SceneRunner := ⟨0, [], []⟩

/-- All steps have been looked up: the run begins. -/
def launch (runner : SceneRunner) (call : Starting) : SceneRunner :=
  let run := SceneRun.queued call.scene call.spaceIds runner.now call.steps
  let mine := (run.steps.filter fun step => step.state = .queued).map SceneRunStep.key
  let runId := runner.runs.length
  let older := runner.runs.mapIdx fun place other =>
    if runId ≤ place + MAX_RUNS then other.supersede mine runId else other
  { runner with runs := older ++ [run.started] }

/-- `start` goes on with its next step, if there is one. -/
def proceed (runner : SceneRunner) (call : Starting) : SceneRunner :=
  if call.next < call.scene.steps.length then
    { runner with starting := runner.starting ++ [call] }
  else runner.launch call

/-- A call of `start` continues; if what it awaits is rejected no run begins. -/
def resumeStart (runner : SceneRunner) (place : Nat)
    (change : Starting → SceneStep → Option (Option Starting)) : Option SceneRunner :=
  runner.starting[place]?.bind fun call =>
    call.scene.steps[call.next]?.bind fun step =>
      (change call step).map fun next =>
        let rest := { runner with starting := runner.starting.eraseIdx place }
        match next with
        | none => rest
        | some next => rest.proceed next

/-- The room of a step has been looked up. -/
def roomFound (outcome : Outcome (Option String)) (call : Starting) (_ : SceneStep) :
    Option (Option Starting) :=
  match call.roomId, outcome with
  | some _, _ => none
  | none, .error _ => some none
  | none, .ok roomId =>
    if !call.spaceIds.isEmpty && roomId.all (fun room => !call.spaceIds.contains room) then
      some (some { call with next := call.next + 1 })
    else some (some { call with roomId := some roomId })

/-- The device of a step has been looked up. -/
def deviceFound (outcome : Outcome (Option DeviceSnapshot)) (call : Starting)
    (step : SceneStep) : Option (Option Starting) :=
  match call.roomId, outcome with
  | none, _ => none
  | some _, .error _ => some none
  | some roomId, .ok device =>
    some (some { call with
      next := call.next + 1
      roomId := none
      steps := call.steps ++ [step.queuedAs call.next roomId device] })

def updateRun (runner : SceneRunner) (place : Nat) (change : SceneRun → Option SceneRun) :
    Option SceneRunner :=
  runner.runs[place]?.bind fun run => (change run).map fun next =>
    { runner with runs := runner.runs.set place next }

def step (deadlines : List (String × Nat)) (runner : SceneRunner) : RunnerLabel → Option SceneRunner
  | .start scene spaceIds => some (runner.proceed ⟨scene, spaceIds, 0, none, []⟩)
  | .roomOf call outcome => runner.resumeStart call (roomFound outcome)
  | .getDevice call outcome => runner.resumeStart call (deviceFound outcome)
  | .commandSettled run step outcome =>
    runner.updateRun run (·.updateStep step (·.commandSettled outcome))
  | .deviceRead run step outcome =>
    runner.updateRun run (·.updateStep step (·.deviceRead runner.now deadlines outcome))
  | .report deviceId capability fields =>
    some { runner with
      runs := runner.runs.map fun run =>
        run.mapSteps (·.reported runner.now deadlines deviceId capability fields) }
  | .timer run step => runner.updateRun run (·.updateStep step (·.timedOut runner.now))
  | .nextPhase run => runner.updateRun run SceneRun.nextPhase
  | .finish run => runner.updateRun run (SceneRun.finish runner.now)
  | .tick milliseconds => some { runner with now := runner.now + milliseconds }

end SceneRunner

def runnerMachine (deadlines : List (String × Nat)) : Machine SceneRunner RunnerLabel where
  step := SceneRunner.step deadlines

end SupremeOs.Scenes
