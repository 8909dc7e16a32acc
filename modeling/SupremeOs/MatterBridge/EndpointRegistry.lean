import SupremeOs.DomainModel.Ids
import SupremeOs.DomainModel.JsValue
import SupremeOs.Support.KeyedStore

/-!
# The registry of bridged endpoints

A bridged device, and each button of a keypad, has an endpoint number.  The
registry gives the numbers out and keeps the mappings in a store: in memory,
or in a file that is written at every change and read when the store is made.

A file is given by the value that its JSON text denotes.
-/

namespace SupremeOs.MatterBridge

open Support DomainModel

structure MatterEndpointMapping where
  deviceId : String
  endpointNumber : Nat
  deviceTypeId : JsNumber
  name : String
  controlId : Option String
  capabilityKinds : List String

def LEGACY_ON_OFF_LIGHT_DEVICE_TYPE_ID : JsNumber := .finite 0x0100

/-- A control with an empty name is no control. -/
def namedControl (controlId : Option String) : Option String :=
  controlId.filter fun control => decide (control ≠ "")

def matterEndpointKey (deviceId : String) (controlId : Option String) : String :=
  match namedControl controlId with
  | some control => deviceId ++ "::" ++ control
  | none => deviceId

def MatterEndpointMapping.key (mapping : MatterEndpointMapping) : String :=
  matterEndpointKey mapping.deviceId mapping.controlId

/-- The members that are read of an entry; an absent one is `undefined`. -/
structure RawMapping where
  deviceId : JsValue
  endpointNumber : JsValue
  deviceTypeId : JsValue
  deviceType : JsValue
  name : JsValue
  /-- Absent unless it is an array. -/
  capabilityKinds : Option (List JsValue)
  controlId : JsValue

/-- An entry of the file; `null` has no members to read. -/
inductive RawEntry where
  | null
  | mapping (raw : RawMapping)

inductive FileContent where
  | missing
  | invalidJson (cause : String)
  | notAnArray
  | entries (raw : List RawEntry)

/-- `value` if it is a text that is not empty. -/
def nonemptyText : JsValue → Option String
  | .primitive (.text value) => if value = "" then none else some value
  | _ => none

def positiveInteger : JsValue → Option Nat
  | .primitive (.number (.finite value)) =>
    if value.den = 1 ∧ 0 < value.num then some value.num.toNat else none
  | _ => none

def registryAt (filePath : String) : String :=
  "matter-bridge: endpoint registry at " ++ filePath

def invalidJsonError (filePath cause : String) : String :=
  registryAt filePath ++ " is corrupt (invalid JSON) — " ++
    "refusing to start clean, as that would risk reissuing endpoint identity. Restore " ++
    "from backup or delete the file only if you accept every bridged device will be " ++
    "re-added at a NEW endpoint number. Cause: " ++ cause

def notAnArrayError (filePath : String) : String :=
  registryAt filePath ++ " is not a JSON array"

def nullEntryError : String := "Cannot read properties of null (reading 'deviceId')"

def invalidDeviceIdError (filePath : String) : String :=
  registryAt filePath ++ " has an entry with an invalid deviceId"

def invalidNumberError (filePath deviceId : String) (endpointNumber : JsValue) : String :=
  registryAt filePath ++ " has an invalid endpoint number " ++
    "(" ++ endpointNumber.toText ++ ") for device " ++ deviceId ++ " — must be a positive integer"

def deviceTypeError (filePath deviceId : String) : String :=
  registryAt filePath ++ " has an entry for device " ++
    deviceId ++ " with no recognizable device type (neither a numeric deviceTypeId " ++
    "nor the legacy \"onOffLight\" string)"

def duplicateEntryError (filePath key : String) : String :=
  registryAt filePath ++ " has a duplicate entry for " ++ key

def duplicateNumberError (filePath : String) (endpointNumber : Nat) : String :=
  registryAt filePath ++ " maps two devices to the same " ++
    "endpoint number (" ++ toString endpointNumber ++
    ") — two ecosystem-visible identities would collide"

def loadDeviceType (raw : RawMapping) : Option JsNumber :=
  match raw.deviceTypeId with
  | .primitive (.number value) => some value
  | _ =>
    if raw.deviceType = .primitive (.text "onOffLight") then
      some LEGACY_ON_OFF_LIGHT_DEVICE_TYPE_ID
    else none

def loadEntry (filePath : String) : RawEntry → Except String MatterEndpointMapping
  | .null => .error nullEntryError
  | .mapping raw =>
    match nonemptyText raw.deviceId with
    | none => .error (invalidDeviceIdError filePath)
    | some deviceId =>
      match positiveInteger raw.endpointNumber with
      | none => .error (invalidNumberError filePath deviceId raw.endpointNumber)
      | some endpointNumber =>
        match loadDeviceType raw with
        | none => .error (deviceTypeError filePath deviceId)
        | some deviceTypeId =>
          .ok
            { deviceId := deviceId
              endpointNumber := endpointNumber
              deviceTypeId := deviceTypeId
              name := (nonemptyText raw.name).getD deviceId
              controlId := nonemptyText raw.controlId
              capabilityKinds := (raw.capabilityKinds.getD []).filterMap JsValue.asText }

abbrev Mappings := KeyedStore MatterEndpointMapping.key

/-- The loop over the entries, with the mappings and the numbers found so far. -/
def loadEntries (filePath : String) :
    Mappings → List Nat → List RawEntry → Except String Mappings
  | mappings, _, [] => .ok mappings
  | mappings, usedNumbers, entry :: rest =>
    match loadEntry filePath entry with
    | .error message => .error message
    | .ok mapping =>
      if (mappings.get mapping.key).isSome then
        .error (duplicateEntryError filePath mapping.key)
      else if mapping.endpointNumber ∈ usedNumbers then
        .error (duplicateNumberError filePath mapping.endpointNumber)
      else
        loadEntries filePath (mappings.put mapping)
          (mapping.endpointNumber :: usedNumbers) rest

def load (filePath : String) : FileContent → Except String Mappings
  | .missing => .ok KeyedStore.empty
  | .invalidJson cause => .error (invalidJsonError filePath cause)
  | .notAnArray => .error (notAnArrayError filePath)
  | .entries raw => loadEntries filePath KeyedStore.empty [] raw

/-- A number as it is written; the ones that are not finite become `null`. -/
def writtenNumber : JsNumber → JsValue
  | .finite value => .primitive (.number (.finite value))
  | _ => .primitive .null

def writtenControl : Option String → JsValue
  | some control => .primitive (.text control)
  | none => .primitive .null

def MatterEndpointMapping.written (mapping : MatterEndpointMapping) : RawEntry :=
  .mapping
    { deviceId := .primitive (.text mapping.deviceId)
      endpointNumber := .primitive (.number (.finite mapping.endpointNumber))
      deviceTypeId := writtenNumber mapping.deviceTypeId
      deviceType := .primitive .undefined
      name := .primitive (.text mapping.name)
      capabilityKinds := some (mapping.capabilityKinds.map fun kind => .primitive (.text kind))
      controlId := writtenControl mapping.controlId }

structure RegistryFile where
  filePath : String
  content : FileContent

structure MatterEndpointStore where
  cache : Mappings
  file : Option RegistryFile

namespace MatterEndpointStore

def list (store : MatterEndpointStore) : List MatterEndpointMapping := store.cache.list

def get (store : MatterEndpointStore) (key : String) : Option MatterEndpointMapping :=
  store.cache.get key

def persist (store : MatterEndpointStore) (cache : Mappings) : MatterEndpointStore where
  cache := cache
  file := store.file.map fun file =>
    { file with content := .entries (cache.list.map MatterEndpointMapping.written) }

def put (store : MatterEndpointStore) (mapping : MatterEndpointMapping) : MatterEndpointStore :=
  store.persist (store.cache.put mapping)

def remove (store : MatterEndpointStore) (key : String) : MatterEndpointStore :=
  store.persist (store.cache.remove key)

/-- A new store over the same file, if its content is accepted. -/
def restart (store : MatterEndpointStore) : Option MatterEndpointStore :=
  match store.file with
  | none => none
  | some file =>
    match load file.filePath file.content with
    | .error _ => none
    | .ok cache => some { store with cache := cache }

end MatterEndpointStore

/-- `number + 1` among the doubles, which are even from `2 ^ 53` and multiples of four
from `2 ^ 54` on; a tie goes to the multiple of four. -/
def plusOne (number : Nat) : Nat :=
  if number < 2 ^ 53 then number + 1
  else if number < 2 ^ 54 ∧ number % 4 = 2 then number + 2
  else number

example : roundToDouble (2 ^ 53 + 1) = .finite (plusOne (2 ^ 53)) := by decide +kernel
example : roundToDouble (2 ^ 53 + 3) = .finite (plusOne (2 ^ 53 + 2)) := by decide +kernel

def nextEndpointNumber (store : MatterEndpointStore) : Nat :=
  match (store.list.map MatterEndpointMapping.endpointNumber).max? with
  | none => 1
  | some highest => plusOne highest

def resolveInternal (store : MatterEndpointStore) (deviceId : SupremeId "dev")
    (controlId : Option String) (deviceTypeId : JsNumber) (name : String)
    (capabilityKinds : List String) : MatterEndpointStore × MatterEndpointMapping :=
  match store.get (matterEndpointKey deviceId.text controlId) with
  | some existing =>
    if existing.name ≠ name ∨ existing.capabilityKinds ≠ capabilityKinds then
      let updated : MatterEndpointMapping :=
        { existing with
          name := name
          capabilityKinds :=
            if capabilityKinds = [] then existing.capabilityKinds else capabilityKinds }
      (store.put updated, updated)
    else (store, existing)
  | none =>
    let mapping : MatterEndpointMapping :=
      { deviceId := deviceId.text, controlId := controlId
        endpointNumber := nextEndpointNumber store
        deviceTypeId := deviceTypeId
        name := name
        capabilityKinds := capabilityKinds }
    (store.put mapping, mapping)

/-- An argument that is left out has its default value. -/
def resolve (store : MatterEndpointStore) (deviceId : SupremeId "dev")
    (deviceTypeId : Option JsNumber) (name : Option String)
    (capabilityKinds : Option (List String)) : MatterEndpointStore × MatterEndpointMapping :=
  resolveInternal store deviceId none (deviceTypeId.getD (.finite 0x0100))
    (name.getD deviceId.text) (capabilityKinds.getD [])

def resolveButton (store : MatterEndpointStore) (deviceId : SupremeId "dev") (controlId : String)
    (deviceTypeId : JsNumber) (name : String) : MatterEndpointStore × MatterEndpointMapping :=
  resolveInternal store deviceId (some controlId) deviceTypeId name []

def remove (store : MatterEndpointStore) (deviceId : SupremeId "dev")
    (controlId : Option String) : MatterEndpointStore :=
  store.remove (matterEndpointKey deviceId.text controlId)

end SupremeOs.MatterBridge
