import SupremeOs.DomainModel.Capabilities
import SupremeOs.Protocols.CasambiControlValues

/-!
# Casambi units as devices

What a unit can do, and its state, are read off its advertised controls.  A
command becomes values of controls without a look at the unit.  A device that
echoes what it was told should be shown as it was told to be.

What is not read of a unit and of its controls is left out; absent lists are
empty ones.  What is shown of sensors, and the hue and saturation of the text
of a colour, are given.
-/

namespace SupremeOs.Protocols.Casambi

open DomainModel Support List

structure CasambiControl where
  type : Option String
  value : Option JsNumber
  min : Option JsNumber
  max : Option JsNumber
  rgb : Option String

structure CasambiUnit (Reading : Type*) where
  id : Nat
  type : Option String
  on : Option Bool
  dimLevel : Option JsNumber
  controls : List CasambiControl
  sensors : OrderedMap String Reading
  keypadButtonCount : Option Nat

inductive UnitState where
  | onoff (on : Bool)
  | brightness (on : Bool) (level : JsNumber)
  | color (on : Bool) (level : JsNumber) (hue saturation kelvin : Option JsNumber)
  | position (position : JsNumber)
  | sensor (measure : String) (value : JsNumber) (unit : String)
deriving DecidableEq

/-- `(text ?? "").toLowerCase()`, of ASCII letters. -/
def lowerCase (text : Option String) : String :=
  String.ofList ((text.getD "").toList.map Char.toLower)

def controlType (control : CasambiControl) : String := lowerCase control.type

def isSlider (control : CasambiControl) : Bool :=
  ["slider", "vertical"].contains (controlType control)

/-- `Math.round(number)` -/
def mathRound : JsNumber → JsNumber
  | .finite value => .finite ⌊value + 1 / 2⌋
  | number => number

/-- `left / right` for a positive divisor. -/
def divide (left : JsNumber) : JsNumber → JsNumber
  | .finite divisor => left.divideBy divisor
  | _ => match left with
    | .finite _ => .finite 0
    | _ => .notANumber

def clampPct (number : JsNumber) : JsNumber :=
  JsNumber.max (.finite 0) (JsNumber.min (.finite 100) (mathRound number))

section Reading

variable {Reading : Type*} (firstSensor : OrderedMap String Reading → String × JsNumber × String)
  (hueSat : String → Option (JsNumber × JsNumber)) (unit : CasambiUnit Reading)

def hasControl (types : List String) : Bool :=
  (unit.controls.map controlType).any fun type => types.contains type

def isKeypadUnit : Bool := lowerCase unit.type = "keypad"

def hasColour : Bool := hasControl unit ["color", "rgb", "xy", "cct", "colortemperature"]

def capabilitiesFromUnit : List CapabilityKind :=
  if isKeypadUnit unit then []
  else if lowerCase unit.type = "sensor" ∨
      unit.sensors.entries ≠ [] ∧ hasControl unit ["dimmer"] = false then
    [.sensor]
  else if hasControl unit ["slider", "vertical"] && !hasControl unit ["dimmer"] &&
      !hasColour unit then
    [.position]
  else
    (if hasControl unit ["dimmer"] then [.brightness] else [.onoff]) ++
      if hasColour unit then [.color] else []

def dimOf : JsNumber :=
  unit.dimLevel.getD (((unit.controls.find? fun control => controlType control = "dimmer").bind
    CasambiControl.value).getD (.finite 0))

def onOf : Bool := unit.on.getD ((JsNumber.finite 0).less (dimOf unit))

/-- The place of a value in the range of a slider, in percent. -/
def place (slider : Option CasambiControl) (value : JsNumber) : JsNumber :=
  let min := (slider.bind CasambiControl.min).getD (.finite 0)
  let max := (slider.bind CasambiControl.max).getD (.finite 100)
  if min.less max then
    (divide (value.subtract min) (max.subtract min)).multiply (.finite 100)
  else value

def stateOf : CapabilityKind → List UnitState
  | .onoff => [.onoff (onOf unit)]
  | .brightness => [.brightness (onOf unit) (clampPct ((dimOf unit).multiply (.finite 100)))]
  | .color =>
    let colour := unit.controls.find? fun control =>
      ["color", "rgb", "xy"].contains (controlType control)
    let cct := unit.controls.find? fun control =>
      ["cct", "colortemperature"].contains (controlType control)
    let hs := (colour.bind CasambiControl.rgb).bind hueSat
    [.color (onOf unit) (clampPct ((dimOf unit).multiply (.finite 100))) (hs.map Prod.fst)
      (hs.map Prod.snd) (((cct.bind CasambiControl.value).filter fun value =>
        (JsNumber.finite 0x400).lessOrEqual value).map mathRound)]
  | .position =>
    let slider := unit.controls.find? isSlider
    [.position (clampPct (place slider ((slider.bind CasambiControl.value).getD (.finite 0))))]
  | .sensor =>
    let (measure, value, unit) := firstSensor unit.sensors
    [.sensor measure value unit]
  | .temperature | .media | .lock | .fan | .vacuum | .remote | .display => []

def statesFromUnit : List UnitState :=
  (capabilitiesFromUnit unit).flatMap (stateOf firstSensor hueSat unit)

end Reading

inductive UnitCommand where
  | on
  | off
  | toggle
  | brightnessOn
  | brightnessOff
  | brightnessSet (level : Option JsNumber)
  | color (kelvin hue saturation level : Option JsNumber)
  | openCover
  | closeCover
  | stopCover
  | setCover (position : Option JsNumber)
  | other

inductive TargetControl where
  | onOff (value : JsNumber)
  | dimmer (value : JsNumber)
  | slider (value : JsNumber)
  | colorTemperature (value : JsNumber)
  | rgb (hue sat : JsNumber)
  | colorsource (source : String)

def UnitState.isOn : UnitState → Bool
  | .onoff on => on
  | .brightness .. | .color .. | .position .. | .sensor .. => false

def UnitState.hueSat : UnitState → Option JsNumber × Option JsNumber
  | .color _ _ hue saturation _ => (hue, saturation)
  | .onoff .. | .brightness .. | .position .. | .sensor .. => (none, none)

def commandToTargetControls (prev : Option UnitState) :
    UnitCommand → Option (List TargetControl)
  | .on => some [.onOff (.finite 1)]
  | .off => some [.onOff (.finite 0)]
  | .toggle => some [.onOff (.finite (if prev.any UnitState.isOn then 0 else 1))]
  | .brightnessOff => some [.dimmer (.finite 0)]
  | .brightnessOn => some [.dimmer (.finite 1)]
  | .brightnessSet level =>
    some [.dimmer ((clampPct (level.getD (.finite 100))).divideBy 100)]
  | .color kelvin hue saturation level =>
    let before := (prev.map UnitState.hueSat).getD (none, none)
    let colours := match kelvin with
      | some kelvin => [.colorTemperature kelvin, .colorsource "TW"]
      | none =>
        if hue.isNone && saturation.isNone then []
        else [.rgb ((hue.getD (before.1.getD (.finite 0))).divideBy 360)
            ((saturation.getD (before.2.getD (.finite 100))).divideBy 100), .colorsource "RGB"]
    let controls := colours ++ level.toList.map fun level =>
      TargetControl.dimmer ((clampPct level).divideBy 100)
    if controls.isEmpty then none else some controls
  | .openCover => some [.slider (.finite 100)]
  | .closeCover => some [.slider (.finite 0)]
  | .setCover (some position) => some [.slider (clampPct position)]
  | .setCover none | .stopCover | .other => none

section Echoes

variable {Reading : Type*}

/-- The first of the controls has another value. -/
def setValue (which : CasambiControl → Bool) (value : JsNumber) (controls : List CasambiControl) :
    List CasambiControl :=
  controls.modify (controls.findIdx which) fun control => { control with value := some value }

/-- A control of the unit has taken the value. -/
def echo (unit : CasambiUnit Reading) : TargetControl → CasambiUnit Reading
  | .onOff value => { unit with on := some (decide (value = .finite 1)) }
  | .dimmer value => { unit with
      dimLevel := some value
      controls := setValue (fun control => controlType control = "dimmer") value unit.controls }
  | .slider value => { unit with controls := setValue isSlider value unit.controls }
  | .colorTemperature _ | .rgb _ _ | .colorsource _ => unit

def UnitState.capability : UnitState → CapabilityKind
  | .onoff _ => .onoff
  | .brightness _ _ => .brightness
  | .color .. => .color
  | .position _ => .position
  | .sensor .. => .sensor

def commanded (prev : Option UnitState) : UnitCommand → Option UnitState
  | .on => some (.onoff true)
  | .off => some (.onoff false)
  | .toggle => some (.onoff !prev.any UnitState.isOn)
  | .brightnessOn | .brightnessSet none => some (.brightness true (.finite 100))
  | .brightnessOff => some (.brightness false (.finite 0))
  | .brightnessSet (some level) => some (.brightness ((JsNumber.finite 0).less level) level)
  | .openCover => some (.position (.finite 100))
  | .closeCover => some (.position (.finite 0))
  | .setCover (some position) => some (.position position)
  | .setCover none | .stopCover | .color .. | .other => none

/-- A number is within half of a whole percentage, or beyond it at the ends. -/
def Nearest : JsNumber → JsNumber → Prop
  | .finite percentage, .finite value =>
    (percentage = 0 ∨ percentage - 1 / 2 ≤ value) ∧ (percentage = 100 ∨ value < percentage + 1 / 2)
  | .finite percentage, .negativeInfinity => percentage = 0
  | .finite percentage, .positiveInfinity => percentage = 100
  | _, _ => False

/--
The explicit flag of a dimmer says what is commanded, if there is one, and a
position has its own place in the range of the slider.
-/
def OneScale (unit : CasambiUnit Reading) : UnitState → Prop
  | .brightness on _ => unit.on = none ∨ unit.on = some on
  | .position percentage => Nearest percentage (place (unit.controls.find? isSlider) percentage)
  | .onoff _ | .color .. | .sensor .. => True

variable {unit : CasambiUnit Reading} {state : UnitState} {value : JsNumber}
  {firstSensor : OrderedMap String Reading → String × JsNumber × String}
  {hueSat : String → Option (JsNumber × JsNumber)}

theorem mem_statesFromUnit : state ∈ statesFromUnit firstSensor hueSat unit ↔
    state.capability ∈ capabilitiesFromUnit unit ∧
      state ∈ stateOf firstSensor hueSat unit state.capability := by
  rw [statesFromUnit, mem_flatMap]
  constructor
  · rintro ⟨kind, able, member⟩
    cases kind <;> cases member <;> first | exact ⟨able, .head _⟩ | contradiction
  · rintro ⟨able, member⟩
    exact ⟨_, able, member⟩

theorem map_controlType_setValue (which : CasambiControl → Bool) (controls : List CasambiControl) :
    (setValue which value controls).map controlType = controls.map controlType := by
  refine ext_getElem? fun i => ?_
  rw [setValue, getElem?_map, getElem?_map, List.getElem?_modify]
  cases controls[i]? <;> [rfl; (split <;> rfl)]

theorem capabilitiesFromUnit_echo (control : TargetControl) :
    capabilitiesFromUnit (echo unit control) = capabilitiesFromUnit unit := by
  cases control <;>
    simp only [capabilitiesFromUnit, hasColour, hasControl, echo, map_controlType_setValue] <;> rfl

theorem find?_setValue {which : CasambiControl → Bool}
    (kept : ∀ control : CasambiControl, which { control with value := some value } = which control)
    (controls : List CasambiControl) : (setValue which value controls).find? which =
      (controls.find? which).map fun control => { control with value := some value } := by
  induction controls with
  | nil => rfl
  | cons control rest ih =>
    by_cases found : which control = true
    · simp [setValue, findIdx_cons, found, kept]
    · rw [Bool.not_eq_true] at found
      simpa [setValue, findIdx_cons, found] using ih

theorem whole_echoed : ∀ level < 101,
    clampPct (((clampPct (.finite (level : Nat))).divideBy 100).multiply (.finite 100)) =
        .finite (level : Nat) ∧
      (JsNumber.finite 0).less ((clampPct (.finite (level : Nat))).divideBy 100) =
        (JsNumber.finite 0).less (.finite (level : Nat)) := by
  decide +kernel

theorem whole_clamped :
    ∀ level < 101, clampPct (.finite (level : Nat)) = .finite (level : Nat) := by
  decide +kernel

theorem exists_slider (able : CapabilityKind.position ∈ capabilitiesFromUnit unit) :
    ∃ slider, unit.controls.find? isSlider = some slider := by
  rw [← Option.isSome_iff_exists, find?_isSome]
  unfold capabilitiesFromUnit at able
  split_ifs at able with keypad sensor cover <;> simp_all [hasControl, isSlider]

theorem min_intCast (left right : ℤ) :
    JsNumber.min (.finite left) (.finite right) = .finite (min left right : ℤ) := by
  simp only [JsNumber.min, JsNumber.less, reduceCtorEq, or_self, if_false, decide_eq_true_eq]
  split_ifs with below <;> refine congrArg JsNumber.finite ?_ <;> norm_cast at * <;> omega

theorem max_intCast (left right : ℤ) :
    JsNumber.max (.finite left) (.finite right) = .finite (max left right : ℤ) := by
  simp only [JsNumber.max, JsNumber.less, reduceCtorEq, or_self, if_false, decide_eq_true_eq]
  split_ifs with below <;> refine congrArg JsNumber.finite ?_ <;> norm_cast at * <;> omega

theorem clampPct_eq_iff {percentage : Nat} (whole : percentage < 101) :
    clampPct value = .finite percentage ↔ Nearest (.finite percentage) value := by
  cases value with
  | notANumber => simp [clampPct, mathRound, JsNumber.min, JsNumber.max, Nearest]
  | negativeInfinity =>
    simp [clampPct, mathRound, JsNumber.min, JsNumber.max, JsNumber.less, Nearest, eq_comm]
  | positiveInfinity =>
    simp [clampPct, mathRound, JsNumber.min, JsNumber.max, JsNumber.less]
    exact eq_comm
  | finite value =>
    have low : (percentage : ℚ) - 1 / 2 ≤ value ↔ (percentage : ℤ) ≤ ⌊value + 1 / 2⌋ := by
      rw [Int.le_floor, Int.cast_natCast, sub_le_iff_le_add]
    have high : value < percentage + 1 / 2 ↔ ⌊value + 1 / 2⌋ < (percentage : ℤ) + 1 := by
      rw [Int.floor_lt]
      push_cast
      constructor <;> intro below <;> linarith
    rw [Nearest, low, high, clampPct, mathRound]
    generalize ⌊value + 1 / 2⌋ = rounded
    have clamped : JsNumber.max (.finite 0) (JsNumber.min (.finite 100) (.finite rounded)) =
        .finite (max 0 (min 100 rounded) : ℤ) := by
      have least := min_intCast 100 rounded
      have most := max_intCast 0 (min 100 rounded)
      rw [Int.cast_ofNat] at least
      rw [Int.cast_zero] at most
      rw [least, most]
    rw [clamped]
    rw [JsNumber.finite.injEq]
    norm_cast
    omega

/-- The command is about percentages that are whole ones. -/
def Integral : UnitCommand → Prop
  | .brightnessSet level => ∀ number ∈ level, ∃ whole < 101, number = .finite (whole : Nat)
  | .setCover position => ∀ number ∈ position, ∃ whole < 101, number = .finite (whole : Nat)
  | .on | .off | .toggle | .brightnessOn | .brightnessOff | .color .. | .openCover | .closeCover
  | .stopCover | .other => True

/-- A unit that echoes a command is shown as commanded exactly if both use one scale. -/
theorem echo_isShown_iff {prev : Option UnitState} {command : UnitCommand}
    (integral : Integral command) (told : commanded prev command = some state)
    (able : state.capability ∈ capabilitiesFromUnit unit) :
    (∃ controls ∈ commandToTargetControls prev command,
        state ∈ statesFromUnit firstSensor hueSat (controls.foldl echo unit)) ↔
      OneScale unit state := by
  have shown : ∀ control, (∃ controls ∈ some [control],
      state ∈ statesFromUnit firstSensor hueSat (controls.foldl echo unit)) ↔
        state ∈ stateOf firstSensor hueSat (echo unit control) state.capability := by
    simp [ mem_statesFromUnit, capabilitiesFromUnit_echo, able]
  have lit : ∀ number, state = .onoff (decide (number = .finite 1)) →
      state ∈ stateOf firstSensor hueSat (echo unit (.onOff number)) state.capability := by
    rintro number rfl
    exact .head _
  have dimmed : ∀ (on : Bool) (level number : JsNumber), state = .brightness on level →
      clampPct (number.multiply (.finite 100)) = level ∧ (JsNumber.finite 0).less number = on →
      (state ∈ stateOf firstSensor hueSat (echo unit (.dimmer number)) state.capability ↔
        OneScale unit state) := by
    rintro on level number rfl ⟨scaled, bright⟩
    simp only [UnitState.capability, stateOf, echo, onOf, dimOf, Option.getD_some, scaled, bright, OneScale]
    cases unit.on <;> simp [eq_comm]
  have moved : ∀ percentage < 101, state = .position (.finite (percentage : Nat)) →
      (state ∈ stateOf firstSensor hueSat (echo unit (.slider (.finite percentage)))
        state.capability ↔ OneScale unit state) := by
    rintro percentage whole rfl
    rcases exists_slider able with ⟨slider, found⟩
    rw [OneScale, ← clampPct_eq_iff whole, UnitState.capability, stateOf, echo,
      mem_singleton, UnitState.position.injEq, found]
    rw [find?_setValue (fun _ => rfl), found]
    exact eq_comm
  cases command with
  | on | off =>
    cases told
    exact iff_of_true ((shown _).mpr (lit _ (by decide))) trivial
  | toggle =>
    cases told
    refine iff_of_true ((shown _).mpr (lit _ ?_)) trivial
    cases prev.any UnitState.isOn <;> decide
  | brightnessOn | brightnessOff =>
    exact (shown _).trans (dimmed _ _ _ (Option.some.inj told).symm (by decide +kernel))
  | brightnessSet level =>
    cases level with
    | none =>
      exact (shown _).trans (dimmed _ _ _ (Option.some.inj told).symm (by decide +kernel))
    | some level =>
      rcases integral level rfl with ⟨whole, small, rfl⟩
      exact (shown _).trans (dimmed _ _ _ (Option.some.inj told).symm (whole_echoed whole small))
  | openCover => exact (shown _).trans (moved 100 (by decide) (Option.some.inj told).symm)
  | closeCover => exact (shown _).trans (moved 0 (by decide) (Option.some.inj told).symm)
  | setCover position =>
    cases position with
    | none => cases told
    | some position =>
      rcases integral position rfl with ⟨whole, small, rfl⟩
      rw [commandToTargetControls, whole_clamped whole small]
      exact (shown _).trans (moved whole small (Option.some.inj told).symm)
  | stopCover | color | other => cases told

end Echoes

/-- A unit without sensors that has one control. -/
def unitOf (control : CasambiControl) : CasambiUnit Unit :=
  { id := 1, type := none, on := none, dimLevel := none, controls := [control]
    sensors := .empty, keypadButtonCount := none }

def dimmer : CasambiControl :=
  { type := some "dimmer", value := none, min := none, max := none, rgb := none }

def curtain : CasambiControl :=
  { type := some "slider", value := none, min := some (.finite 0), max := some (.finite 255)
    rgb := none }

def noSensor (_ : OrderedMap String Unit) : String × JsNumber × String := ("", .finite 0, "")

/-- A dimmer that is told 40 percent is shown at 40 percent. -/
theorem dimmer_isShown : ∃ controls ∈ commandToTargetControls none
    (.brightnessSet (some (.finite (40 : Nat)))), UnitState.brightness true (.finite (40 : Nat)) ∈
      statesFromUnit noSensor (fun _ => none) (controls.foldl echo (unitOf dimmer)) :=
  (echo_isShown_iff (by rintro _ ⟨⟩; exact ⟨40, by decide, rfl⟩) (by decide +kernel)
    (by decide +kernel)).mpr (.inl rfl)

/-- A curtain whose slider goes to 255 is told 50 percent and shown at 20. -/
theorem curtain_isShown_elsewhere : ∃ controls,
    commandToTargetControls none (.setCover (some (.finite 50))) = some controls ∧
      capabilitiesFromUnit (unitOf curtain) = [.position] ∧
      statesFromUnit noSensor (fun _ => none) (controls.foldl echo (unitOf curtain)) =
        [.position (.finite 20)] :=
  ⟨[.slider (clampPct (.finite 50))], rfl, by decide +kernel, by decide +kernel⟩

end SupremeOs.Protocols.Casambi
