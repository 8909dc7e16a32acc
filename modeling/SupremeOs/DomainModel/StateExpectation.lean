import SupremeOs.DomainModel.CommandSchema

/-!
# What proves that a command took effect

The reported state that a command asks for, for the capabilities whose commands
show in the state.  For any other command there is none.

A scene step has the fields of a command.  The expectation of these fields is
the one of the command that they are parsed to, unless one of them names
another capability than the step does.
-/

namespace SupremeOs.DomainModel

abbrev StateFields := List (String × Json)

inductive StateExpectation where
  | power (on : Bool)
  | level (target : JsNumber)
  | position (target : JsNumber)
  /-- A target temperature, a mode or both. -/
  | climate (targetC : Option JsNumber) (mode : Option String)
  /-- One of these is played back. -/
  | playback (accepted : List String)
  | volume (target : JsNumber)
  | muted (muted : Bool)
deriving DecidableEq

def numField (fields : List (String × Json)) (name : String) : Option JsNumber :=
  match givenField fields name with
  | some (.number value) => some value.toJs
  | _ => none

def textField (fields : List (String × Json)) (name : String) : Option String :=
  match givenField fields name with
  | some (.text value) => some value
  | _ => none

/-- `fields.name === value` for a boolean. -/
def flagIs (fields : List (String × Json)) (name : String) (value : Bool) : Bool :=
  match givenField fields name with
  | some (.boolean actual) => actual == value
  | _ => false

def expectationOf (capability : String) (cmd : List (String × Json)) : Option StateExpectation :=
  let action := textField cmd "action"
  match capability with
  | "onoff" =>
    match action with
    | some "on" => some (.power true)
    | some "off" => some (.power false)
    | _ => none
  | "brightness" =>
    match action with
    | some "on" => some (.power true)
    | some "off" => some (.power false)
    | some "set" => (numField cmd "level").map .level
    | _ => none
  | "position" =>
    match action with
    | some "open" => some (.position (.finite 100))
    | some "close" => some (.position (.finite 0))
    | some "set" => (numField cmd "position").map .position
    | _ => none
  | "temperature" =>
    match numField cmd "targetC", textField cmd "mode" with
    | none, none => none
    | targetC, mode => some (.climate targetC mode)
  | "media" =>
    match action with
    | some "play" => some (.playback ["playing"])
    | some "pause" => some (.playback ["paused"])
    | some "stop" => some (.playback ["stopped", "idle"])
    | some "volume" => (numField cmd "volume").map .volume
    | some "mute" => some (.muted true)
    | some "unmute" => some (.muted false)
    | _ => none
  | _ => none

/-- `Math.abs(left - right)`. -/
def absDifference : JsNumber → JsNumber → JsNumber
  | .finite left, .finite right => roundToDouble |left - right|
  | .positiveInfinity, .positiveInfinity => .notANumber
  | .negativeInfinity, .negativeInfinity => .notANumber
  | .notANumber, _ => .notANumber
  | _, .notANumber => .notANumber
  | _, _ => .positiveInfinity

/-- Whether a reported state is the one that is expected. -/
def StateExpectation.accepts (state : StateFields) : StateExpectation → Bool
  | .power on => flagIs state "on" on
  | .level target =>
    if target.lessOrEqual (.finite 0) then
      flagIs state "on" false ||
        ((numField state "level").getD (.finite 100)).lessOrEqual (.finite 0)
    else
      flagIs state "on" true &&
        (absDifference ((numField state "level").getD (.finite (-100))) target).lessOrEqual
          (.finite 2)
  | .position target =>
    !flagIs state "moving" true &&
      (absDifference ((numField state "position").getD (.finite (-100))) target).lessOrEqual
        (.finite 2)
  | .climate targetC mode =>
    (targetC.all fun target => (numField state "targetC").any fun value =>
      (absDifference value target).less (roundToDouble (26 / 100))) &&
    mode.all fun expected => textField state "mode" == some expected
  | .playback accepted => (textField state "playback").any fun value => decide (value ∈ accepted)
  | .volume target =>
    (numField state "volume").any fun value =>
      (absDifference value target).lessOrEqual (.finite 1)
  | .muted value => flagIs state "muted" value

end SupremeOs.DomainModel
