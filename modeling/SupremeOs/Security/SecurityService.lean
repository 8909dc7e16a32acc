import SupremeOs.Support.Machine
import SupremeOs.Support.OrderedMap

/-!
# The security panel

The panel of a home is kept in memory, where every call reads and sets it at
once, and each transition is written through to the store.  The writes are not
waited for; `flush` waits for the newest of them.
-/

namespace SupremeOs.Security

open Support

inductive SecurityMode where
  | disarmed
  | armedHome
  | armedAway
  | armedNight
deriving DecidableEq

abbrev ArmedMode := { mode : SecurityMode // mode ≠ .disarmed }

structure SecurityState where
  homeId : String
  mode : SecurityMode
  triggered : Bool
  lastChangedBy : Option String
  lastChangedAt : String
deriving DecidableEq

structure SecurityService where
  panels : OrderedMap String SecurityState
  pinHash : Option String
  /-- The number of the most recent write, if there has been one. -/
  lastWrite : Option Nat
deriving DecidableEq

/-- A call of `flush`. -/
structure Flush where
  awaits : Option Nat
  /-- How many calls on panels had been made before it. -/
  calls : Nat
deriving DecidableEq

structure Deployment where
  service : SecurityService
  /-- What the store holds for each home. -/
  stored : OrderedMap String SecurityState
  /-- The writes in flight. -/
  saves : OrderedMap Nat SecurityState
  nextSave : Nat
  /-- The newest write of each home. -/
  newest : OrderedMap String Nat
  /-- How many calls on panels have been made. -/
  calls : Nat
  flushing : List Flush
  flushed : List Flush
deriving DecidableEq

inductive PanelCall where
  | arm (homeId : String) (mode : ArmedMode) (userId : Option String) (pin : Option String)
  | disarm (homeId : String) (userId : Option String) (pin : Option String)
  | trigger (homeId : String)

inductive SecurityLabel where
  /-- A call on a panel, and the time by the clock. -/
  | call (call : PanelCall) (now : String)
  /-- A write takes effect and resolves. -/
  | saved (number : Nat)
  | flush
  /-- What a flush waits for has resolved. -/
  | flushed (flush : Flush)

namespace SecurityState

def seed (homeId now : String) : SecurityState := ⟨homeId, .disarmed, false, none, now⟩

end SecurityState

namespace SecurityService

variable (sha256Hex : String → String)

/-- A service that has been made with the options. -/
def create (pin : Option String) : SecurityService where
  panels := OrderedMap.empty
  pinHash := (pin.filter fun pin => decide (pin ≠ "")).map sha256Hex
  lastWrite := none

/-- What has been loaded for a home becomes its panel. -/
def hydrate (service : SecurityService) (homeId : String) (persisted : Option SecurityState) :
    SecurityService :=
  match persisted with
  | some state => { service with panels := service.panels.set homeId state }
  | none => service

def checkPin (service : SecurityService) (pin : Option String) : Bool :=
  match service.pinHash with
  | some hash => decide (sha256Hex (pin.getD "") = hash)
  | none => true

end SecurityService

namespace Deployment

/-- A service that has been booted on a store: the panels of its homes have been hydrated. -/
def booted (pinHash : Option String) (stored : OrderedMap String SecurityState) : Deployment where
  service := ⟨stored, pinHash, none⟩
  stored := stored
  saves := OrderedMap.empty
  nextSave := 0
  newest := OrderedMap.empty
  calls := 0
  flushing := []
  flushed := []

variable (deployment : Deployment)

def setPanel (state : SecurityState) : Deployment :=
  { deployment with
    service := { deployment.service with
      panels := deployment.service.panels.set state.homeId state } }

/-- `this.store.save(state)`, as the most recent write. -/
def save (state : SecurityState) : Deployment :=
  { deployment with
    service := { deployment.service with lastWrite := some deployment.nextSave }
    saves := deployment.saves.set deployment.nextSave state
    nextSave := deployment.nextSave + 1
    newest := deployment.newest.set state.homeId deployment.nextSave }

def transition (homeId : String) (mode : SecurityMode) (triggered : Bool)
    (userId : Option String) (now : String) : Deployment :=
  let state := ⟨homeId, mode, triggered, userId, now⟩
  (deployment.setPanel state).save state

def getState (homeId now : String) : SecurityState × Deployment :=
  match deployment.service.panels.get homeId with
  | some state => (state, deployment)
  | none => (SecurityState.seed homeId now, deployment.setPanel (SecurityState.seed homeId now))

variable (sha256Hex : String → String)

/-- A call on a panel; one with a wrong PIN throws and changes nothing. -/
def perform (deployment : Deployment) (now : String) : PanelCall → Deployment
  | .arm homeId mode userId pin =>
    if deployment.service.checkPin sha256Hex pin then
      deployment.transition homeId mode.val false userId now
    else deployment
  | .disarm homeId userId pin =>
    if deployment.service.checkPin sha256Hex pin then
      deployment.transition homeId .disarmed false userId now
    else deployment
  | .trigger homeId =>
    let (current, deployment) := deployment.getState homeId now
    if current.mode = .disarmed ∨ current.triggered = true then deployment
    else deployment.transition homeId current.mode true none now

def completeSave (number : Nat) (state : SecurityState) : Deployment :=
  { deployment with
    stored := deployment.stored.set state.homeId state
    saves := deployment.saves.delete number }

/-- The write that a flush waits for has resolved. -/
def resolved (flush : Flush) : Bool :=
  flush.awaits.all fun number => !deployment.saves.has number

end Deployment

def securityMachine (sha256Hex : String → String) : Machine Deployment SecurityLabel where
  step
    | deployment, .call call now =>
      some { deployment.perform sha256Hex now call with calls := deployment.calls + 1 }
    | deployment, .saved number => (deployment.saves.get number).map
      (deployment.completeSave number)
    | deployment, .flush =>
      some { deployment with
        flushing := deployment.flushing ++ [⟨deployment.service.lastWrite, deployment.calls⟩] }
    | deployment, .flushed flush =>
      if flush ∈ deployment.flushing ∧ deployment.resolved flush = true then
        some { deployment with
          flushing := deployment.flushing.erase flush
          flushed := deployment.flushed ++ [flush] }
      else none

end SupremeOs.Security
