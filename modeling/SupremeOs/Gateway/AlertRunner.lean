import SupremeOs.DomainModel.JsValue
import SupremeOs.Support.Episodes
import SupremeOs.Support.Loop
import SupremeOs.Support.OrderedMap

/-!
# Alert rules

A rule asks for a notification when a device has been left on, open or unlocked
for some minutes.  At every tick the runner goes through the rules: it reads the
device of a rule, which may fail, remembers since when the condition of the rule
has held, and notifies once when that is long enough.

The call that reads a device is not guarded, so if it fails the tick ends there.
-/

namespace SupremeOs.Gateway

open DomainModel Support

inductive AlertRuleType where
  | leftOn
  | leftOpen
  | leftUnlocked
deriving DecidableEq

def AlertRuleType.literal : AlertRuleType → String
  | .leftOn => "left_on"
  | .leftOpen => "left_open"
  | .leftUnlocked => "left_unlocked"

def AlertRuleType.ofLiteral (text : String) : Option AlertRuleType :=
  [AlertRuleType.leftOn, .leftOpen, .leftUnlocked].find? fun type => type.literal = text

/-- The message is not checked to be a text. -/
structure AlertRule where
  id : String
  deviceId : String
  type : AlertRuleType
  durationMinutes : JsNumber
  message : Option JsValue
deriving DecidableEq

/-- An object of which nothing is known, or no object. -/
abbrev UnknownRecord := OrderedMap String JsValue

def readField (record : UnknownRecord) (key : String) : JsValue :=
  (record.get key).getD (.primitive .undefined)

/-- Whether a condition takes the value for true. -/
def isTruthy : JsValue → Bool
  | .primitive .undefined | .primitive .null => false
  | .primitive (.boolean value) => value
  | .primitive (.number value) => decide (value ≠ .notANumber ∧ value ≠ .finite 0)
  | .primitive (.text value) => decide (value ≠ "")
  | .object _ _ => true

def nonEmptyText (value : JsValue) : Option String :=
  value.asText.filter fun text => text ≠ ""

/-- The number, unless it is zero, negative or more than the minutes of a day. -/
def durationOf : JsValue → Option JsNumber
  | .primitive (.number value) =>
    if value.lessOrEqual (.finite 0) || (JsNumber.finite 1440).less value then none
    else some value
  | _ => none

def validateAlertRule (record : UnknownRecord) : Except String AlertRule :=
  match nonEmptyText (readField record "deviceId") with
  | none => .error "rule needs a deviceId"
  | some deviceId =>
    match (readField record "type").asText.bind AlertRuleType.ofLiteral with
    | none => .error "rule type must be left_on|left_open|left_unlocked"
    | some type =>
      match durationOf (readField record "durationMinutes") with
      | none => .error "durationMinutes must be 1..1440"
      | some durationMinutes =>
        let message := readField record "message"
        .ok
          { id := (nonEmptyText (readField record "id")).getD
              ("alert_" ++ deviceId ++ "_" ++ type.literal)
            deviceId := deviceId
            type := type
            durationMinutes := durationMinutes
            message := if isTruthy message then some message else none }

abbrev AlertState := OrderedMap String UnknownRecord

def capabilityField (state : AlertState) (capability field : String) : JsValue :=
  match state.get capability with
  | none => .primitive .undefined
  | some fields => readField fields field

/-- `value ?? 0`. -/
def orZero : JsValue → JsValue
  | .primitive .undefined | .primitive .null => .primitive (.number (.finite 0))
  | value => value

/-- Whether a rule's alerting condition currently holds. -/
def alertConditionMet (type : AlertRuleType) : Option AlertState → Bool
  | none => false
  | some state =>
    match type with
    | .leftOn => capabilityField state "onoff" "on" = .primitive (.boolean true)
    | .leftOpen => (JsNumber.finite 0).less (orZero (capabilityField state "position"
        "position")).toNumber
    | .leftUnlocked => capabilityField state "lock" "locked" = .primitive (.boolean false)

def defaultMessage (type : AlertRuleType) (name : String) : String :=
  match type with
  | .leftOn => name ++ " has been left on"
  | .leftOpen => name ++ " has been left open"
  | .leftUnlocked => name ++ " has been left unlocked"

structure AlertDevice where
  name : String
  state : Option AlertState

inductive NotifyOutcome where
  | resolved
  /-- Rejected with an error. -/
  | rejected (message : String)
  /-- Rejected with no value, of which no message can be read. -/
  | rejectedWithNothing

/-- What there is at a tick, and how the calls for the rules come out, by their identifiers. -/
structure AlertTick where
  now : ℚ
  device : String → Option AlertDevice
  /-- The call of `getDevice` for the rule rejects. -/
  unreadable : String → Bool
  notify : String → NotifyOutcome

/-- A call of `notify`, for which rule and when. -/
structure AlertAttempt where
  ruleId : String
  time : ℚ
  message : JsValue

structure AlertRuleRunner where
  episodes : OrderedMap String (Episode ℚ)
  attempts : List AlertAttempt

def AlertTick.met (rule : AlertRule) (tick : AlertTick) : Bool :=
  alertConditionMet rule.type ((tick.device rule.id).bind AlertDevice.state)

/-- `t - since >= rule.durationMinutes * 60_000`. -/
def AlertRule.reached (rule : AlertRule) (since now : ℚ) : Bool :=
  (rule.durationMinutes.multiply (.finite 60000)).lessOrEqual (.finite (now - since))

def AlertRule.attempt (rule : AlertRule) (tick : AlertTick) : AlertAttempt where
  ruleId := rule.id
  time := tick.now
  message := rule.message.getD (.primitive (.text (defaultMessage rule.type
    (((tick.device rule.id).map AlertDevice.name).getD "A device"))))

namespace AlertRuleRunner

def initial : AlertRuleRunner := ⟨OrderedMap.empty, []⟩

/-- The memory of an episode is changed in place, if the map has it. -/
def mutate (id : String) (episode : Episode ℚ) (episodes : OrderedMap String (Episode ℚ)) :
    OrderedMap String (Episode ℚ) :=
  if episodes.has id then episodes.set id episode else episodes

def serveRule (logged : Bool) (tick : AlertTick) (rule : AlertRule) (runner : AlertRuleRunner) :
    AlertRuleRunner × Option String :=
  if tick.unreadable rule.id then (runner, some "getDevice failed")
  else
    let episode := (runner.episodes.get rule.id).getD ⟨none, false⟩
    if tick.met rule then
      let since := episode.since.getD tick.now
      if !episode.fired && rule.reached since tick.now then
        let fired : Episode ℚ := ⟨some since, true⟩
        let attempts := runner.attempts ++ [rule.attempt tick]
        match tick.notify rule.id with
        | .resolved | .rejected _ => (⟨runner.episodes.set rule.id fired, attempts⟩, none)
        | .rejectedWithNothing =>
          -- the message is read only if there is a log to write it to
          if logged then
            (⟨mutate rule.id fired runner.episodes, attempts⟩,
              some "Cannot read properties of undefined (reading 'message')")
          else (⟨runner.episodes.set rule.id fired, attempts⟩, none)
      else (⟨runner.episodes.set rule.id ⟨some since, episode.fired⟩, runner.attempts⟩, none)
    else (⟨runner.episodes.set rule.id ⟨none, false⟩, runner.attempts⟩, none)

def dropDead (rules : List AlertRule) (runner : AlertRuleRunner) : AlertRuleRunner :=
  { runner with
    episodes := runner.episodes.filter fun entry =>
      (rules.map AlertRule.id).contains entry.1 }

/-- A tick; an error that ends its loop is thrown to the caller. -/
def tick (rules : List AlertRule) (logged : Bool) (runner : AlertRuleRunner) (tick : AlertTick) :
    AlertRuleRunner × Option String :=
  forEach (serveRule logged tick) rules (runner.dropDead rules)

def afterTicks (rules : List AlertRule) (logged : Bool) (ticks : List AlertTick) :
    AlertRuleRunner :=
  ticks.foldl (fun runner moment => (runner.tick rules logged moment).1) initial

def attemptsFor (rule : AlertRule) (runner : AlertRuleRunner) : List AlertAttempt :=
  runner.attempts.filter fun attempt => attempt.ruleId = rule.id

end AlertRuleRunner

end SupremeOs.Gateway
