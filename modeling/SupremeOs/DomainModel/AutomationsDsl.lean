import SupremeOs.DomainModel.Capabilities

/-!
# The automation language

Triggers, conditions and actions of an automation, and the automation record.
A keypad mapping uses the same conditions and actions.
-/

namespace SupremeOs.DomainModel

open Support

inductive Comparator where
  | eq
  | ne
  | gt
  | lt
  | gte
  | lte
  | changed
deriving DecidableEq

def Comparator.literal : Comparator → String
  | .eq => "eq"
  | .ne => "ne"
  | .gt => "gt"
  | .lt => "lt"
  | .gte => "gte"
  | .lte => "lte"
  | .changed => "changed"

/-- A time of day as `dd:dd`; the format admits more than the hours of a day. -/
structure ClockText where
  hour : Fin 100
  minute : Fin 100
deriving DecidableEq

/-- A number below one hundred with two digits. -/
def twoDigits (value : Nat) : String :=
  (if value < 10 then "0" else "") ++ toString value

def ClockText.text (clock : ClockText) : String :=
  twoDigits clock.hour ++ ":" ++ twoDigits clock.minute

/-- Weekdays and a time span, local to the home. -/
structure ScheduleWindow where
  days : List Nat
  start : ClockText
  finish : ClockText
deriving DecidableEq

/-- A point in time as the hub's clock shows it. -/
structure HubDate where
  /-- Milliseconds since the epoch. -/
  time : Int
  /-- The local weekday, from Sunday. -/
  day : Nat
  hours : Nat
  minutes : Nat

structure DeviceStateTest where
  deviceId : DeviceId
  capability : CapabilityKind
  field : String
  op : Comparator
  value : Option JsPrimitive
deriving DecidableEq

inductive AutomationTrigger where
  | deviceState (test : DeviceStateTest)
  | time (clock : ClockText) (days : List Nat)
  | interval (everyMinutes : Nat)
  | keypadInput (keypadId : DeviceId) (control : String) (event : KeypadInputEventType)
deriving DecidableEq

/-- The `type` discriminant, which a run records as what set it off. -/
def AutomationTrigger.type : AutomationTrigger → String
  | .deviceState _ => "device_state"
  | .time _ _ => "time"
  | .interval _ => "interval"
  | .keypadInput _ _ _ => "keypad_input"

inductive AutomationCondition where
  | deviceState (test : DeviceStateTest)
  | timeWindow (window : ScheduleWindow)
deriving DecidableEq

inductive NotificationLevel where
  | info
  | warning
  | critical
deriving DecidableEq

inductive IntentTarget where
  | device (deviceId : DeviceId)
  | room (roomId : String)
  | scene (sceneId : String)
  | automation (automationId : String)
  | home
deriving DecidableEq

inductive AutomationAction where
  | deviceCommand (deviceId : DeviceId) (command : CapabilityCommand)
  | sceneActivate (sceneId : String)
  | notify (level : NotificationLevel) (title body : String) (userId : Option String)
  | delay (ms : Nat)
  | intent (intentId : String) (target : IntentTarget)
      (params : OrderedMap String JsPrimitive)
deriving DecidableEq

def AutomationAction.type : AutomationAction → String
  | .deviceCommand _ _ => "device_command"
  | .sceneActivate _ => "scene_activate"
  | .notify _ _ _ _ => "notify"
  | .delay _ => "delay"
  | .intent _ _ _ => "intent"

/-- Where an automation runs; rows from before the native engine may still say `ha`. -/
inductive EngineKind where
  | supreme
  | ha
deriving DecidableEq

structure Automation where
  id : String
  homeId : String
  name : String
  enabled : Bool
  triggers : List AutomationTrigger
  conditions : List AutomationCondition
  actions : List AutomationAction
  engine : EngineKind
  externalRef : Option String
  aiGenerated : Bool
  tags : List String
deriving DecidableEq

/-- Read a named field off a capability state; `kind` is a field like the others. -/
def readCapabilityField (state : CapabilityState) (field : String) : JsValue :=
  if field = "kind" then .primitive (.text state.kind.literal)
  else (state.fields.get field).getD (.primitive .undefined)

def evaluateComparator (actual : JsValue) (op : Comparator) (value : JsValue) : Bool :=
  match op with
  | .changed => true
  | .eq => actual.strictEquals value
  | .ne => !actual.strictEquals value
  | .gt => value.toNumber.less actual.toNumber
  | .lt => actual.toNumber.less value.toNumber
  | .gte => value.toNumber.lessOrEqual actual.toNumber
  | .lte => actual.toNumber.lessOrEqual value.toNumber

/-- A state passes the test; a test without a value compares with `undefined`. -/
def DeviceStateTest.holdsOf (test : DeviceStateTest) (state : CapabilityState) : Bool :=
  evaluateComparator (readCapabilityField state test.field) test.op
    (.primitive (test.value.getD .undefined))

def toMinutes (clock : ClockText) : Nat := clock.hour * 60 + clock.minute

/-- Whether a date falls inside a weekly window. -/
def isWithinScheduleWindow (window : ScheduleWindow) (now : HubDate) : Bool :=
  window.days.contains now.day &&
    decide (toMinutes window.start ≤ now.hours * 60 + now.minutes) &&
    decide (now.hours * 60 + now.minutes < toMinutes window.finish)

end SupremeOs.DomainModel
