import SupremeOs.DomainModel.Capabilities
import SupremeOs.DomainModel.Json
import SupremeOs.Support.KeyedStore

/-!
# Matter device types

A device is shown to Matter as one device type, chosen by the whole of its
capabilities, or not at all; a control of a keypad is shown as a switch if it
is a button.
-/

namespace SupremeOs.MatterBridge

open Support DomainModel

structure MatterDeviceTypeDefinition where
  id : JsNumber
  name : String
  /-- The capability that drives the attributes; none for an input. -/
  primaryCapability : Option CapabilityKind

abbrev MatterDeviceTypeRegistry := KeyedStore MatterDeviceTypeDefinition.id

def MATTER_DEVICE_TYPES : List MatterDeviceTypeDefinition :=
  [⟨.finite 0x0100, "On/Off Light", some .onoff⟩,
    ⟨.finite 0x010a, "On/Off Plug-in Unit", some .onoff⟩,
    ⟨.finite 0x0101, "Dimmable Light", some .brightness⟩,
    ⟨.finite 0x010c, "Color Temperature Light", some .color⟩,
    ⟨.finite 0x010d, "Extended Color Light", some .color⟩,
    ⟨.finite 0x0202, "Window Covering", some .position⟩, ⟨.finite 0x000f, "Generic Switch", none⟩,
    ⟨.finite 0x0301, "Thermostat", some .temperature⟩]

def registryOf (definitions : List MatterDeviceTypeDefinition) : MatterDeviceTypeRegistry :=
  definitions.foldl KeyedStore.put KeyedStore.empty

def matterDeviceTypeRegistry : MatterDeviceTypeRegistry := registryOf MATTER_DEVICE_TYPES

inductive MatterEndpointOutcome where
  | supported
  | degraded
  | unknown
  | unsupported
deriving DecidableEq

structure MatterDeviceTypeResolution where
  outcome : MatterEndpointOutcome
  deviceType : Option MatterDeviceTypeDefinition
  reason : Option String

structure DeclaredCapability where
  kind : CapabilityKind
  config : Json

def isInteger : JsonNumber → Bool
  | .zero => true
  | .nonzero _ digits point => decide (((Nat.toDigits 10 digits.value).length : Int) ≤ point)

def asBoolean : Json → Option Bool
  | .boolean value => some value
  | _ => none

def acceptsKelvinRange : Option Json → Bool
  | none => true
  | some range =>
    let bound := fun name =>
      match range.member name with
      | some (.number value) => isInteger value
      | _ => false
    bound "min" && bound "max"

/-- `parsed.success && parsed.data.colorModes?.rgb === true`. -/
def declaresRgb (config : Json) : Bool :=
  match config.member "colorModes" with
  | none => false
  | some modes =>
    acceptsKelvinRange (config.member "kelvinRange") &&
      (((modes.member "cct").bind asBoolean).isSome &&
        decide ((modes.member "rgb").bind asBoolean = some true))

def unsupportedRegistryGap (id : Nat) : MatterDeviceTypeResolution :=
  ⟨.unsupported, none, some ("internal: device type 0x" ++ String.ofList (Nat.toDigits 16 id) ++
    " is missing from the device-type registry — this is a bug, not a real capability gap")⟩

def noCapability : String :=
  "No SupremeOS capability on this device maps to a Matter Bridge device type supported in " ++
    "this phase (onoff, brightness, color, position, HVAC temperature) — sensors, locks, " ++
    "fans, media, and energy devices are not yet bridgeable (§ Phase 2-4/3.3+)."

def resolveTo (registry : MatterDeviceTypeRegistry) (id : Nat) : MatterDeviceTypeResolution :=
  match registry.get (.finite id) with
  | some deviceType => ⟨.supported, some deviceType, none⟩
  | none => unsupportedRegistryGap id

def has (capabilities : List DeclaredCapability) (kind : CapabilityKind) :
    Option DeclaredCapability :=
  capabilities.find? fun capability => decide (capability.kind = kind)

def resolveMatterDeviceType (capabilities : List DeclaredCapability)
    (registry : MatterDeviceTypeRegistry) (deviceKind : Option SupremeDeviceType) :
    MatterDeviceTypeResolution :=
  match has capabilities .position, has capabilities .color, has capabilities .brightness with
  | some _, _, _ => resolveTo registry 0x0202
  | none, some color, _ => resolveTo registry (if declaresRgb color.config then 0x010d else 0x010c)
  | none, none, some _ => resolveTo registry 0x0101
  | none, none, none =>
    if (has capabilities .temperature).isSome && deviceKind = some .thermostat then
      resolveTo registry 0x0301
    else if (has capabilities .onoff).isSome then
      resolveTo registry (if deviceKind = some .switch then 0x010a else 0x0100)
    else ⟨.unsupported, none, some noCapability⟩

inductive KeypadControlKind where
  | button
  | rotaryEncoder
  | touchZone
  | slider
deriving DecidableEq

def KeypadControlKind.literal : KeypadControlKind → String
  | .button => "button"
  | .rotaryEncoder => "rotary_encoder"
  | .touchZone => "touch_zone"
  | .slider => "slider"

def noControlType (kind : KeypadControlKind) : String :=
  "keypad control kind \"" ++ kind.literal ++ "\" has no Matter device type mapping decided " ++
    "yet in this phase (only \"button\" -> Generic Switch) — not silently dropped, just not " ++
    "yet supported"

def resolveKeypadControlDeviceType (controlKind : KeypadControlKind)
    (registry : MatterDeviceTypeRegistry) : MatterDeviceTypeResolution :=
  if controlKind = .button then resolveTo registry 0x000f
  else ⟨.unsupported, none, some (noControlType controlKind)⟩

variable {registry : MatterDeviceTypeRegistry}

def MatterDeviceTypeResolution.supportedType (resolution : MatterDeviceTypeResolution) :
    Option MatterDeviceTypeDefinition :=
  if resolution.outcome = .supported then resolution.deviceType else none

def FromRegistry (registry : MatterDeviceTypeRegistry) (resolution : MatterDeviceTypeResolution) :
    Prop :=
  ∀ deviceType ∈ resolution.supportedType, registry.get deviceType.id = some deviceType

theorem fromRegistry_resolveTo (id : Nat) : FromRegistry registry (resolveTo registry id) := by
  intro deviceType resolved
  rw [resolveTo] at resolved
  split at resolved
  · rename_i found
    obtain rfl := Option.mem_some_iff.mp resolved
    have own := registry.keyed _ _ found
    rw [own]
    exact found
  · cases resolved

theorem fromRegistry_resolveMatterDeviceType (capabilities : List DeclaredCapability)
    (deviceKind : Option SupremeDeviceType) :
    FromRegistry registry (resolveMatterDeviceType capabilities registry deviceKind) := by
  rw [resolveMatterDeviceType]
  split
  · exact fromRegistry_resolveTo _
  · exact fromRegistry_resolveTo _
  · exact fromRegistry_resolveTo _
  · split
    · exact fromRegistry_resolveTo _
    · split
      · exact fromRegistry_resolveTo _
      · intro _ resolved
        cases resolved

def HasType (resolution : MatterDeviceTypeResolution) : Prop :=
  resolution.outcome = .supported → resolution.deviceType.isSome = true

theorem hasType_resolveTo (id : Nat) : HasType (resolveTo registry id) := by
  intro supported
  rw [resolveTo] at supported ⊢
  split
  · rfl
  · rename_i none
    simp [none, unsupportedRegistryGap] at supported

theorem hasType_resolveMatterDeviceType (capabilities : List DeclaredCapability)
    (deviceKind : Option SupremeDeviceType) :
    HasType (resolveMatterDeviceType capabilities registry deviceKind) := by
  rw [resolveMatterDeviceType]
  split
  · exact hasType_resolveTo _
  · exact hasType_resolveTo _
  · exact hasType_resolveTo _
  · split
    · exact hasType_resolveTo _
    · split
      · exact hasType_resolveTo _
      · nofun

theorem hasType_resolveKeypadControlDeviceType (controlKind : KeypadControlKind) :
    HasType (resolveKeypadControlDeviceType controlKind registry) := by
  rw [resolveKeypadControlDeviceType]
  split
  · exact hasType_resolveTo _
  · nofun

theorem HasType.outcome_ne {resolution : MatterDeviceTypeResolution} (typed : HasType resolution)
    (none : resolution.supportedType = none) : resolution.outcome ≠ .supported := by
  intro supported
  have some := typed supported
  rw [MatterDeviceTypeResolution.supportedType, if_pos supported] at none
  rw [none] at some
  cases some

/-- A device that moves is a covering, whatever else it can do. -/
example : (resolveMatterDeviceType [⟨.onoff, .object []⟩, ⟨.position, .object []⟩]
    matterDeviceTypeRegistry (some .switch)).deviceType.map MatterDeviceTypeDefinition.name =
      some "Window Covering" := by
  decide

end SupremeOs.MatterBridge
