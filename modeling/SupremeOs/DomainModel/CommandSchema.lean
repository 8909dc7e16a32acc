import SupremeOs.DomainModel.Json
import SupremeOs.DomainModel.JsValue

/-!
# Commands that arrive as JSON

A command is an object that names its capability.  Each kind of capability has
a shape: the fields it knows, the values they may have and whether they have to
be there.  A field that the shape does not know is left out of the command, so
what is read from a command need not be what was read from the object.
-/

namespace SupremeOs.DomainModel

def JsonNumber.decimal : JsonNumber → ℚ
  | .zero => 0
  | .nonzero negative digits point =>
    (if negative then -1 else 1) * digits.value *
      (10 : ℚ) ^ (point - (Nat.toDigits 10 digits.value).length)

def JsonNumber.toJs (number : JsonNumber) : JsNumber := roundToDouble number.decimal

def givenField (fields : List (String × Json)) (name : String) : Option Json :=
  (Json.object fields).member name

inductive FieldSchema where
  | literals (texts : List String)
  | number (whole : Bool) (least greatest : Option ℚ)
  | text
  | boolean
  /-- Any object. -/
  | record
  /-- An input by its source type and its number. -/
  | displayInput

def numberWithin (whole : Bool) (least greatest : Option ℚ) (number : JsonNumber) : Bool :=
  match number.toJs with
  | .finite value =>
    (!whole || decide (value.den = 1)) && least.all (fun bound => decide (bound ≤ value)) &&
      greatest.all fun bound => decide (value ≤ bound)
  | _ => false

def FieldSchema.parse : FieldSchema → Json → Option Json
  | .literals texts, .text value => if value ∈ texts then some (.text value) else none
  | .number whole least greatest, .number value =>
    if numberWithin whole least greatest value then some (.number value) else none
  | .text, .text value => some (.text value)
  | .boolean, .boolean value => some (.boolean value)
  | .record, .object members => some (.object members)
  | .displayInput, .object members =>
    match givenField members "source", givenField members "number" with
    | some (.number source), some (.number place) =>
      if numberWithin true (some 1) (some 5) source &&
          numberWithin true (some 1) (some 9) place then
        some (.object [("source", .number source), ("number", .number place)])
      else none
    | _, _ => none
  | _, _ => none

structure CommandField where
  name : String
  schema : FieldSchema
  required : Bool

def parseFields : List CommandField → List (String × Json) → Option (List (String × Json))
  | [], _ => some []
  | field :: rest, fields =>
    match givenField fields field.name with
    | none => if field.required then none else parseFields rest fields
    | some value =>
      match field.schema.parse value, parseFields rest fields with
      | some parsed, some others => some ((field.name, parsed) :: others)
      | _, _ => none

section Parsing

variable {shape : List CommandField} {fields parsed : List (String × Json)}

end Parsing

def requiredField (name : String) (schema : FieldSchema) : CommandField := ⟨name, schema, true⟩

def optionalField (name : String) (schema : FieldSchema) : CommandField := ⟨name, schema, false⟩

/-- A percentage, used for brightness and cover position. -/
def Percent : FieldSchema := .number false (some 0) (some 100)

/-- The duration of a change of level. -/
def fadeMs : CommandField := optionalField "fadeMs" (.number true (some 0) (some 60000))

def commandShape : String → Option (List CommandField)
  | "onoff" => some [requiredField "action" (.literals ["on", "off", "toggle"])]
  | "brightness" => some [
      requiredField "action" (.literals ["set", "on", "off"]),
      optionalField "level" Percent, fadeMs]
  | "color" => some [
      optionalField "hue" (.number false (some 0) (some 360)), optionalField "saturation" Percent,
      optionalField "kelvin" (.number true (some 1000) (some 10000)),
      optionalField "level" Percent, fadeMs]
  | "temperature" => some [
      optionalField "targetC" (.number false none none),
      optionalField "targetLowC" (.number false none none),
      optionalField "targetHighC" (.number false none none),
      optionalField "mode" (.literals ["off", "heat", "cool", "auto", "fan_only"]),
      optionalField "operatingMode"
        (.literals ["auto", "comfort", "standby", "economy", "building_protection"]),
      optionalField "heatCool" (.literals ["heat", "cool"]), optionalField "advanced" .record]
  | "position" => some [
      requiredField "action" (.literals ["open", "close", "stop", "set"]),
      optionalField "position" Percent]
  | "media" => some [
      requiredField "action" (.literals ["play", "pause", "stop", "next", "previous", "volume",
        "mute", "unmute", "source", "seek", "shuffle", "repeat", "advanced"]),
      optionalField "volume" Percent, optionalField "source" .text,
      optionalField "positionSec" (.number false (some 0) none), optionalField "shuffle" .boolean,
      optionalField "repeat" (.literals ["off", "all", "one"]), optionalField "advanced" .record]
  | "lock" => some [requiredField "action" (.literals ["lock", "unlock"])]
  | "fan" => some [
      requiredField "action" (.literals ["on", "off", "preset", "direction"]),
      optionalField "preset" (.literals ["auto", "sleep", "turbo"]),
      optionalField "direction" (.literals ["forward", "reverse"])]
  | "vacuum" => some [
      requiredField "action" (.literals ["start", "pause", "stop", "return", "fan"]),
      optionalField "fanSpeed" (.literals ["quiet", "normal", "turbo"])]
  | "remote" => some [
      requiredField "action" (.literals ["up", "down", "left", "right", "select", "back", "menu",
        "home"])]
  | "display" => some [
      requiredField "action" (.literals ["on", "off", "setInput", "muteVideo", "unmuteVideo",
        "muteAudio", "unmuteAudio", "muteAv", "unmuteAv", "freeze", "unfreeze"]),
      optionalField "input" .displayInput]
  | _ => none

/-- `CapabilityCommand.safeParse`: the command of an object, if it is one. -/
def safeParse (fields : List (String × Json)) : Option (List (String × Json)) :=
  match givenField fields "capability" with
  | some (.text capability) =>
    (commandShape capability).bind fun shape =>
      (parseFields shape fields).map fun parsed => ("capability", .text capability) :: parsed
  | _ => none

example : safeParse [("capability", .text "onoff"), ("action", .text "on"), ("note", .null)] =
    some [("capability", .text "onoff"), ("action", .text "on")] := by rfl

end SupremeOs.DomainModel
