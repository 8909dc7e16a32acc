import SupremeOs.Automations.Service
import SupremeOs.IntentEngine.CapabilityIndex

/-!
# Running intents

An intent names the capabilities that it needs and the targets that it accepts.
A run checks the intent and its parameters, finds the devices of the target and
then reads the state of one device after the other and sends a command to it.
The executors may fail at any call, which ends the run.

The devices are found in one go before the first call of an executor, so what
happens to the index during the calls makes no difference to the run.
-/

namespace SupremeOs.IntentEngine

open Support DomainModel
open Automations (SupremeError)

inductive IntentTargetKind where
  | device
  | room
  | scene
  | automation
  | home
deriving DecidableEq

def IntentTargetKind.literal : IntentTargetKind → String
  | .device => "device"
  | .room => "room"
  | .scene => "scene"
  | .automation => "automation"
  | .home => "home"

/-- `target.kind`. -/
def kindOf : IntentTarget → IntentTargetKind
  | .device _ => .device
  | .room _ => .room
  | .scene _ => .scene
  | .automation _ => .automation
  | .home => .home

inductive IntentParameterType where
  | number
  | boolean
  | string
  | enum

structure IntentParameterSpec where
  key : String
  type : IntentParameterType
  required : Bool
  min : Option JsNumber
  max : Option JsNumber
  options : Option (List String)
  default : Option JsPrimitive

structure IntentDefinition where
  id : String
  requiredCapabilities : List CapabilityKind
  parameters : List IntentParameterSpec
  targetKinds : List IntentTargetKind

abbrev IntentParams := OrderedMap String JsValue

def parameterError (intentId : String) (spec : IntentParameterSpec) (problem : String) :
    SupremeError :=
  ⟨"validation_failed", "intent \"" ++ intentId ++ "\" parameter \"" ++ spec.key ++
    "\" " ++ problem⟩

def validateNumber (intentId : String) (spec : IntentParameterSpec) (value : JsNumber) :
    Except SupremeError Unit :=
  match spec.min.filter value.less with
  | some min => .error (parameterError intentId spec ("must be >= " ++ min.toText))
  | none =>
    match spec.max.filter fun max => max.less value with
    | some max => .error (parameterError intentId spec ("must be <= " ++ max.toText))
    | none => .ok ()

def validateOne (intentId : String) (spec : IntentParameterSpec) (value : JsValue) :
    Except SupremeError Unit :=
  match spec.type, value with
  | .number, .primitive (.number .notANumber) =>
    .error (parameterError intentId spec "must be a number")
  | .number, .primitive (.number number) => validateNumber intentId spec number
  | .number, _ => .error (parameterError intentId spec "must be a number")
  | .boolean, .primitive (.boolean _) => .ok ()
  | .boolean, _ => .error (parameterError intentId spec "must be a boolean")
  | .string, .primitive (.text _) => .ok ()
  | .string, _ => .error (parameterError intentId spec "must be a string")
  | .enum, value =>
    let options := spec.options.getD []
    if value.asText.any options.contains then .ok ()
    else .error (parameterError intentId spec ("must be one of: " ++ ", ".intercalate options))

/-- The loop over the parameters that are specified; values that are omitted get their default. -/
def validateParameters (intentId : String) :
    List IntentParameterSpec → IntentParams → Except SupremeError IntentParams
  | [], resolved => .ok resolved
  | spec :: rest, resolved =>
    match (resolved.get spec.key).getD (.primitive .undefined) with
    | .primitive .undefined =>
      if spec.required then
        .error ⟨"validation_failed", "intent \"" ++ intentId ++
          "\" is missing required parameter \"" ++ spec.key ++ "\""⟩
      else
        validateParameters intentId rest
          (match spec.default with
          | some value => resolved.set spec.key (.primitive value)
          | none => resolved)
    | value =>
      match validateOne intentId spec value with
      | .error error => .error error
      | .ok () => validateParameters intentId rest resolved

def validateIntentParams (definition : IntentDefinition) (params : IntentParams) :
    Except SupremeError IntentParams :=
  validateParameters definition.id definition.parameters params

/-- Why a run ends: an error of the engine or of a catalogue, or one that was thrown elsewhere. -/
inductive IntentFailure where
  | supreme (error : SupremeError)
  | thrown (message : String)

def IntentFailure.message : IntentFailure → String
  | .supreme error => error.message
  | .thrown message => message

inductive ExecutorCall where
  | getState (deviceId : DeviceId) (capability : CapabilityKind)
  | getCapabilityConfig (deviceId : DeviceId) (capability : CapabilityKind)
  | command (deviceId : DeviceId) (command : CapabilityCommand)

abbrev CapabilityConfig := OrderedMap String JsValue

/-- How the calls come out, which may depend on all calls before. -/
structure IntentEngineExecutors where
  command : List ExecutorCall → DeviceId → CapabilityCommand → Except IntentFailure Unit
  getState : List ExecutorCall → DeviceId → CapabilityKind →
    Except IntentFailure (Option CapabilityState)
  getCapabilityConfig : Option (List ExecutorCall → DeviceId → CapabilityKind →
    Except IntentFailure (Option CapabilityConfig))

structure IntentTranslateInput where
  params : IntentParams
  state : Option CapabilityState
  capabilityConfig : Option CapabilityConfig

abbrev IntentTranslator := IntentTranslateInput → Except IntentFailure CapabilityCommand

/-- The calls that the handler makes, and how it ends. -/
abbrev IntentSystemHandler :=
  IntentTarget → IntentParams → IntentEngineExecutors → List ExecutorCall × Except
    IntentFailure Unit

structure IntentRegistration where
  definition : IntentDefinition
  translate : Option IntentTranslator
  runSystem : Option IntentSystemHandler

abbrev IntentRegistry := OrderedMap String IntentRegistration

def IntentRegistry.register (registry : IntentRegistry) (definition : IntentDefinition)
    (translate : Option IntentTranslator) (runSystem : Option IntentSystemHandler) :
    Except SupremeError IntentRegistry :=
  let error (problem : String) : Except SupremeError IntentRegistry :=
    .error ⟨"conflict", "intent \"" ++ definition.id ++ "\" " ++ problem⟩
  let capabilityDriven := !definition.requiredCapabilities.isEmpty
  if capabilityDriven && translate.isNone then
    error "requires a capability but registered no translate handler"
  else if !capabilityDriven && runSystem.isNone then
    error "requires no capability but registered no runSystem handler"
  else if capabilityDriven && runSystem.isSome then
    error "cannot have both a translate and a runSystem handler"
  else .ok (registry.set definition.id ⟨definition, translate, runSystem⟩)

def declares (device : Device) (kind : CapabilityKind) : Bool :=
  device.capabilities.any fun capability => capability.kind = kind

/-- The devices that are not in the list yet are put to its end. -/
def addUnseen (result : OrderedSet DeviceId × List Device) (device : Device) :
    OrderedSet DeviceId × List Device :=
  if result.1.has device.id then result
  else (result.1.set device.id (), result.2 ++ [device])

def resolveDevices (index : CapabilityIndex) (requiredCapabilities : List CapabilityKind) :
    IntentTarget → List Device
  | .device deviceId =>
    match index.get deviceId with
    | none => []
    | some device => if requiredCapabilities.any (declares device) then [device] else []
  | .room roomId =>
    (requiredCapabilities.foldl
      (fun result kind => (index.devicesWithCapabilityInRoom kind roomId).foldl addUnseen result)
      (OrderedMap.empty, [])).2
  | .scene _ | .automation _ | .home => []

/-- The times are in milliseconds. -/
structure IntentRun where
  id : String
  intentId : String
  target : IntentTarget
  startedAt : Nat
  resolvedDeviceIds : List DeviceId
  durationMs : Int
  ok : Bool
  error : Option String

/-- The calls so far, and how the rest comes out. -/
abbrev Calls (Result : Type) := List ExecutorCall × Except IntentFailure Result

def readConfig (executors : IntentEngineExecutors) (deviceId : DeviceId)
    (capability : CapabilityKind) (calls : List ExecutorCall) : Calls (Option CapabilityConfig) :=
  match executors.getCapabilityConfig with
  | none => (calls, .ok none)
  | some getCapabilityConfig =>
    let calls := calls ++ [.getCapabilityConfig deviceId capability]
    (calls, getCapabilityConfig calls deviceId capability)

/-- One round of the loop over the devices. -/
def commandDevice (executors : IntentEngineExecutors) (requiredCapabilities : List CapabilityKind)
    (translate : IntentTranslator) (params : IntentParams) (device : Device)
    (calls : List ExecutorCall) : Calls Unit :=
  match requiredCapabilities.find? (declares device) with
  | none => (calls, .ok ())
  | some capability =>
    let calls := calls ++ [.getState device.id capability]
    match executors.getState calls device.id capability with
    | .error error => (calls, .error error)
    | .ok state =>
      match readConfig executors device.id capability calls with
      | (calls, .error error) => (calls, .error error)
      | (calls, .ok capabilityConfig) =>
        match translate ⟨params, state, capabilityConfig⟩ with
        | .error error => (calls, .error error)
        | .ok command =>
          let calls := calls ++ [.command device.id command]
          (calls, executors.command calls device.id command)

def commandDevices (executors : IntentEngineExecutors) (requiredCapabilities : List CapabilityKind)
    (translate : IntentTranslator) (params : IntentParams) :
    List Device → List ExecutorCall → Calls Unit
  | [], calls => (calls, .ok ())
  | device :: rest, calls =>
    match commandDevice executors requiredCapabilities translate params device calls with
    | (calls, .error error) => (calls, .error error)
    | (calls, .ok ()) =>
      commandDevices executors requiredCapabilities translate params rest calls

structure Attempt where
  resolvedDeviceIds : List DeviceId
  calls : List ExecutorCall
  outcome : Except IntentFailure Unit

def refuse (code message : String) : Attempt := ⟨[], [], .error (.supreme ⟨code, message⟩)⟩

def attempt (registry : IntentRegistry) (index : CapabilityIndex)
    (executors : IntentEngineExecutors) (intentId : String) (target : IntentTarget)
    (params : IntentParams) : Attempt :=
  match registry.get intentId with
  | none => refuse "not_found" ("intent \"" ++ intentId ++ "\" is not registered")
  | some registration =>
    let definition := registration.definition
    if kindOf target ∉ definition.targetKinds then
      refuse "validation_failed" ("intent \"" ++ intentId ++ "\" does not accept a \"" ++
        (kindOf target).literal ++ "\" target (accepts: " ++
        ", ".intercalate (definition.targetKinds.map IntentTargetKind.literal) ++ ")")
    else
      match validateIntentParams definition params with
      | .error error => ⟨[], [], .error (.supreme error)⟩
      | .ok resolvedParams =>
        if definition.requiredCapabilities = [] then
          match registration.runSystem with
          | none =>
            refuse "conflict" ("intent \"" ++ intentId ++ "\" has no runSystem handler wired")
          | some runSystem =>
            let (calls, outcome) := runSystem target resolvedParams executors
            ⟨[], calls, outcome⟩
        else
          let devices := resolveDevices index definition.requiredCapabilities target
          if devices = [] then
            refuse "backend_unavailable" ("no device compatible with intent \"" ++ intentId ++
              "\" was found for this target")
          else
            match registration.translate with
            | none =>
              refuse "conflict" ("intent \"" ++ intentId ++ "\" has no translate handler wired")
            | some translate =>
              let (calls, outcome) := commandDevices executors definition.requiredCapabilities
                translate resolvedParams devices []
              ⟨devices.map Device.id, calls, outcome⟩

structure IntentEngineState where
  registry : IntentRegistry
  executors : IntentEngineExecutors
  runs : List IntentRun
  historyLimit : Nat
  runSeq : Nat

namespace IntentEngineState

def record (engine : IntentEngineState) (run : IntentRun) : IntentEngineState :=
  let runs := engine.runs ++ [run]
  { engine with
    runs := if engine.historyLimit < runs.length then runs.drop 1 else runs }

/-- The times at which a run starts, and what the clock says then and at its end. -/
structure RunTimes where
  started : Nat
  begin : Int
  finish : Int

def run (engine : IntentEngineState) (index : CapabilityIndex) (times : RunTimes)
    (intentId : String)
    (target : IntentTarget) (params : IntentParams) :
    IntentEngineState × List ExecutorCall × Except IntentFailure IntentRun :=
  let tried := attempt engine.registry index engine.executors intentId target params
  let trace (error : Option String) : IntentRun :=
    { id := "int-" ++ toString times.started ++ "-" ++ toString engine.runSeq, intentId := intentId
      target := target
      startedAt := times.started
      resolvedDeviceIds := tried.resolvedDeviceIds
      durationMs := times.finish - times.begin
      ok := error.isNone
      error := error }
  let numbered := { engine with runSeq := engine.runSeq + 1 }
  match tried.outcome with
  | .ok () => (numbered.record (trace none), tried.calls, .ok (trace none))
  | .error error => (numbered.record (trace (some error.message)), tried.calls, .error error)

end IntentEngineState

end SupremeOs.IntentEngine
