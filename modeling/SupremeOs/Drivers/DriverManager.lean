import SupremeOs.Automations.Service
import Mathlib.Data.List.Sort

/-!
# The driver manager

A key of the catalog can be installed more than once.  An install without
further options installs the first instance of the key again, in the order of
their installation; an update and a rollback set the version of all instances.

The catalog is any function from keys and versions to bundles.  How texts
compare, whether a signature is right and what a configuration is validated to
are parameters.
-/

namespace SupremeOs.Drivers

open Support DomainModel
open Automations (SupremeError)

inductive DriverCategory where
  | lighting
  | climate
  | shades
  | media
  | security
  | energy
  | protocol
  | other

inductive DriverChannel where
  | official
  | certified
  | community
  | beta

inductive DriverConfigFieldType where
  | text
  | password
  | number
  | boolean
  | select
  | host
  | port

structure DriverConfigField where
  key : String
  label : String
  type : DriverConfigFieldType
  required : Bool
  /-- The field and the value of it that make this one required. -/
  requiredIf : Option (String × String)
  default : Option JsValue
  /-- The values to choose from. -/
  options : Option (List String)
  min : Option ℚ
  max : Option ℚ
  isSecret : Bool

abbrev DriverConfig := OrderedMap String JsValue

structure DriverManifest where
  key : String
  category : DriverCategory
  channel : DriverChannel
  version : String
  requiresSku : Option String
  shipsDisabled : Bool
  configSchema : List DriverConfigField

inductive DriverVersionStatus where
  | published
  | deprecated
  | yanked
deriving DecidableEq

structure DriverBundle where
  manifest : DriverManifest
  contentHash : String
  bundleUrl : String
  status : DriverVersionStatus
  changelog : String

structure SignedDriverBundle where
  bundle : DriverBundle
  signature : String
  signingKeyId : String

inductive InstalledDriverStatus where
  | active
  | disabled
  | error
deriving DecidableEq

structure InstalledDriver where
  id : String
  homeId : String
  key : String
  version : String
  channel : DriverChannel
  category : DriverCategory
  installedAt : String
  enabled : Bool
  status : InstalledDriverStatus
  config : DriverConfig
  label : Option String

/-- `InMemoryInstalledDriverStore`. -/
abbrev InstalledDriverStore := OrderedMap String InstalledDriver

namespace InstalledDriverStore

variable (localeCompare : String → String → Int) (store : InstalledDriverStore)

/-- The order of the instances of a key: by the time of their installation, then by their ids. -/
def installedBefore (left right : String × String) : Bool :=
  let byTime := localeCompare left.1 right.1
  if byTime ≠ 0 then decide (byTime < 0) else decide (localeCompare left.2 right.2 ≤ 0)

def listByKey (key : String) : List InstalledDriver :=
  (store.values.filter fun driver => decide (driver.key = key)).insertionSort fun left right =>
    installedBefore localeCompare (left.installedAt, left.id) (right.installedAt, right.id) = true

def getByKey (key : String) : Option InstalledDriver := (store.listByKey localeCompare key).head?

def put (driver : InstalledDriver) : InstalledDriverStore := store.set driver.id driver

end InstalledDriverStore

def defaultDriverConfig (schema : List DriverConfigField) : DriverConfig :=
  schema.foldl (fun config field =>
    match field.default with
    | some value => config.set field.key value
    | none => config) .empty

structure ConfigValidation where
  config : DriverConfig
  errors : List String

/-- What the manager is made with, and the library that it uses. -/
structure DriverManager where
  homeId : String
  /-- `catalog.find(key, version)`. -/
  find : String → Option String → Option SignedDriverBundle
  trustedKeys : OrderedMap String String
  verifyBundle : SignedDriverBundle → String → Bool
  /-- Of a schema, an input, the stored configuration and the fallbacks. -/
  validateDriverConfig : List DriverConfigField → DriverConfig → DriverConfig → DriverConfig →
    ConfigValidation
  localeCompare : String → String → Int

def truthy (text : Option String) : Option String := text.filter fun text => !text.isEmpty

inductive DriverCall where
  /-- `id` is the id that may be drawn, `installedAt` what the clock says. -/
  | install (key : String) (version : Option String) (asNewInstance : Bool)
      (label : Option String) (licensedSkus : List String) (id installedAt : String)
  | update (key : String) (licensedSkus : List String)
  | rollback (key version : String) (licensedSkus : List String)
  | setEnabled (id : String) (enabled : Bool)
  | setConfig (id : String) (input fallbacks : DriverConfig)
  | uninstall (id : String)

namespace DriverManager

variable (manager : DriverManager) (store : InstalledDriverStore)

def verify (entry : SignedDriverBundle) : Except SupremeError Unit :=
  match manager.trustedKeys.get entry.signingKeyId with
  | none => .error ⟨"forbidden", "unknown signing key " ++ entry.signingKeyId⟩
  | some key =>
    if manager.verifyBundle entry key = false then
      .error ⟨"forbidden", "driver bundle signature verification failed"⟩
    else if entry.bundle.status = .yanked then
      .error ⟨"conflict", "driver version has been yanked"⟩
    else .ok ()

def allowInstall (entry : SignedDriverBundle) (key : String) (licensedSkus : List String) :
    Except SupremeError Unit :=
  match manager.verify entry with
  | .error error => .error error
  | .ok () =>
    match truthy entry.bundle.manifest.requiresSku with
    | some sku =>
      if licensedSkus.contains sku then .ok ()
      else .error ⟨"forbidden", "driver " ++ key ++ " requires the '" ++ sku ++ "' license"⟩
    | none => .ok ()

def existing (asNewInstance : Bool) (key : String) : Option InstalledDriver :=
  if asNewInstance then none else store.getByKey manager.localeCompare key

def installed (manifest : DriverManifest) (existing : Option InstalledDriver) (key : String)
    (label : Option String) (id installedAt : String) : InstalledDriver where
  id := (existing.map InstalledDriver.id).getD id
  homeId := manager.homeId
  key := key
  version := manifest.version
  channel := manifest.channel
  category := manifest.category
  installedAt := (existing.map InstalledDriver.installedAt).getD installedAt
  enabled := (existing.map InstalledDriver.enabled).getD !manifest.shipsDisabled
  status :=
    if manifest.shipsDisabled && !(existing.map InstalledDriver.enabled).getD false then .disabled
    else .active
  config := (existing.map InstalledDriver.config).getD (defaultDriverConfig manifest.configSchema)
  label := (truthy label).or (truthy (existing.bind InstalledDriver.label))

def install (key : String) (version : Option String) (asNewInstance : Bool)
    (label : Option String) (licensedSkus : List String) (id installedAt : String) :
    Except SupremeError (InstalledDriverStore × InstalledDriver) :=
  match manager.find key version with
  | none =>
    .error ⟨"not_found",
      "driver " ++ key ++ ((truthy version).map ("@" ++ ·)).getD "" ++ " not found"⟩
  | some entry =>
    match manager.allowInstall entry key licensedSkus with
    | .error error => .error error
    | .ok () =>
      let driver := manager.installed entry.bundle.manifest
        (manager.existing store asNewInstance key) key label id installedAt
      .ok (store.put driver, driver)

def reversion (manifest : DriverManifest) (driver : InstalledDriver) : InstalledDriver :=
  { driver with
    version := manifest.version, channel := manifest.channel, category := manifest.category }

def setVersionForEveryInstance (key version : String) (licensedSkus : List String) :
    Except SupremeError (InstalledDriverStore × InstalledDriver) :=
  match manager.find key (some version) with
  | none => .error ⟨"not_found", "driver " ++ key ++ "@" ++ version ++ " not found"⟩
  | some entry =>
    match manager.allowInstall entry key licensedSkus with
    | .error error => .error error
    | .ok () =>
      let updated :=
        (store.listByKey manager.localeCompare key).map (reversion entry.bundle.manifest)
      match updated with
      | [] => .error ⟨"not_found", "driver " ++ key ++ " is not installed"⟩
      | first :: _ => .ok (updated.foldl InstalledDriverStore.put store, first)

def requireInstalled (key : String) : Except SupremeError InstalledDriver :=
  match store.getByKey manager.localeCompare key with
  | some driver => .ok driver
  | none => .error ⟨"not_found", "driver " ++ key ++ " is not installed"⟩

def update (key : String) (licensedSkus : List String) :
    Except SupremeError (InstalledDriverStore × InstalledDriver) :=
  match manager.requireInstalled store key with
  | .error error => .error error
  | .ok driver =>
    match manager.find key none with
    | none => .error ⟨"not_found", "driver " ++ key ++ " not in catalog"⟩
    | some latest =>
      if latest.bundle.manifest.version = driver.version then .ok (store, driver)
      else
        manager.setVersionForEveryInstance store key latest.bundle.manifest.version
          licensedSkus

def rollback (key version : String) (licensedSkus : List String) :
    Except SupremeError (InstalledDriverStore × InstalledDriver) :=
  match manager.requireInstalled store key with
  | .error error => .error error
  | .ok _ => manager.setVersionForEveryInstance store key version licensedSkus

def notInstalled : SupremeError := ⟨"not_found", "driver not installed"⟩

def setEnabled (id : String) (enabled : Bool) :
    Except SupremeError (InstalledDriverStore × InstalledDriver) :=
  match store.get id with
  | none => .error notInstalled
  | some driver =>
    let next := { driver with enabled, status := if enabled then .active else .disabled }
    .ok (store.put next, next)

def schemaFor (key : String) : List DriverConfigField :=
  ((manager.find key none).map fun entry => entry.bundle.manifest.configSchema).getD []

def setConfig (id : String) (input fallbacks : DriverConfig) :
    Except SupremeError (InstalledDriverStore × InstalledDriver) :=
  match store.get id with
  | none => .error notInstalled
  | some driver =>
    let validation := manager.validateDriverConfig (manager.schemaFor driver.key) input
      driver.config fallbacks
    if validation.errors ≠ [] then
      .error ⟨"validation_failed", String.intercalate "; " validation.errors⟩
    else
      let updated := { driver with config := validation.config }
      .ok (store.put updated, updated)

def uninstall (id : String) : Except SupremeError InstalledDriverStore :=
  match store.get id with
  | none => .error notInstalled
  | some _ => .ok (store.delete id)

/-- The store after a call; a rejected one leaves it as it is. -/
def perform : DriverCall → Except SupremeError InstalledDriverStore
  | .install key version asNewInstance label licensedSkus id installedAt =>
    (manager.install store key version asNewInstance label licensedSkus id installedAt).map
      Prod.fst
  | .update key licensedSkus => (manager.update store key licensedSkus).map Prod.fst
  | .rollback key version licensedSkus =>
    (manager.rollback store key version licensedSkus).map Prod.fst
  | .setEnabled id enabled => (setEnabled store id enabled).map Prod.fst
  | .setConfig id input fallbacks => (manager.setConfig store id input fallbacks).map Prod.fst
  | .uninstall id => uninstall store id

def machine : Machine InstalledDriverStore DriverCall where
  step store call :=
    match manager.perform store call with
    | .ok next => some next
    | .error _ => some store

end DriverManager

end SupremeOs.Drivers
