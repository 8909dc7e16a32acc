import SupremeOs.Automations.Service
import SupremeOs.DomainModel.Json
import SupremeOs.KeypadFramework.MappingEngine
import SupremeOs.Support.KeyedStore

/-!
# Keypad mapping service

The service edits a store of mappings and reloads the engine after every edit.
The engine walks over the list of mappings that it had when an event came in.
A firing of an alternating or cycling mapping remembers what it did: it writes
its mapping, with the new memory, over the entry of the engine's list that has
the same id, and then hands the memory to a hook that stores it.

The hook reads the stored mapping and puts it back with the new memory.  The
operations of the store are atomic and may complete in any order.  The awaits
inside an execution are not told apart, except for those of the hook.
-/

namespace SupremeOs.KeypadFramework

open Support DomainModel
open Automations (SupremeError)

/-- A named constant of a mapping. -/
inductive VariableValue where
  | text (value : String)
  | number (value : JsonNumber)
  | boolean (value : Bool)
deriving DecidableEq

def VariableValue.json : VariableValue → Json
  | .text value => .text value
  | .number value => .number value
  | .boolean value => .boolean value

abbrev Variables := OrderedMap String VariableValue

structure StoredTarget where
  deviceId : DeviceId
  capability : CapabilityKind
  /-- The level that a step changes, in percent. -/
  step : ℚ
  fadeMs : Option Nat
deriving DecidableEq

structure StoredMapping where
  id : String
  homeId : String
  name : String
  enabled : Bool
  input : KeypadMappingInput
  conditions : List AutomationCondition
  actions : List AutomationAction
  behavior : KeypadMappingBehavior
  target : Option StoredTarget
  behaviorState : KeypadMappingBehaviorState
  constants : Variables
deriving DecidableEq

def StoredMapping.mapping (stored : StoredMapping) : KeypadMapping where
  id := stored.id
  enabled := stored.enabled
  input := stored.input
  conditions := stored.conditions
  actions := stored.actions
  behavior := stored.behavior
  target := stored.target.map fun target => ⟨target.deviceId, target.capability⟩
  behaviorState := stored.behaviorState

def defaultBehaviorState : KeypadMappingBehaviorState := ⟨none, 0⟩

/-- Every field of a mapping but the memory of its own firings. -/
def StoredMapping.definition (stored : StoredMapping) : StoredMapping :=
  { stored with behaviorState := defaultBehaviorState }

/-- A failed check of a mapping, and the field that it is about. -/
structure Issue where
  path : List String
  message : String

def toggleCapableCapabilities : List CapabilityKind :=
  [.onoff, .brightness, .fan, .lock, .vacuum]

def levelStepCapableCapabilities : List CapabilityKind :=
  [.brightness, .position, .color]

def unsupportedCapability (behavior : KeypadMappingBehavior) (capability : CapabilityKind) :
    Issue where
  path := ["target", "capability"]
  message := "behavior \"" ++ behavior.literal ++ "\" is not supported for capability \"" ++
    capability.literal ++ "\""

/-- The capabilities that a behavior can be for, if it does not admit all of them. -/
def capableCapabilities : KeypadMappingBehavior → Option (List CapabilityKind)
  | .toggle => some toggleCapableCapabilities
  | .alternate => some levelStepCapableCapabilities
  | .increment => some levelStepCapableCapabilities
  | .decrement => some levelStepCapableCapabilities
  | .direct => none
  | .cycle => none

/-- The checks that span several fields of a mapping. -/
def StoredMapping.issues (stored : StoredMapping) : List Issue :=
  if stored.behavior = .direct then
    if stored.actions.isEmpty then
      [⟨["actions"], "a \"direct\" mapping needs at least one action"⟩]
    else []
  else
    (if stored.target.isNone then
      [⟨["target"], "behavior \"" ++ stored.behavior.literal ++ "\" requires a target"⟩]
    else []) ++ (if stored.behavior = .cycle ∧ stored.actions.isEmpty then
      [⟨["actions"], "a \"cycle\" mapping needs at least one action to cycle through"⟩]
    else []) ++ match stored.target, capableCapabilities stored.behavior with
    | some target, some capable =>
      if target.capability ∈ capable then []
      else [unsupportedCapability stored.behavior target.capability]
    | _, _ => []

abbrev MappingStore := KeyedStore StoredMapping.id

def isLineTerminator (character : Char) : Bool :=
  character = '\n' || character = '\r' || character = '\u2028' || character = '\u2029'

/-- The name between two pairs of braces that are the whole text. -/
def templateName (text : String) : Option String :=
  match text.toList with
  | '\x7b' :: '\x7b' :: rest =>
    match rest.reverse with
    | '\x7d' :: '\x7d' :: reversed =>
      if reversed.isEmpty || reversed.any isLineTerminator then none
      else some (String.ofList (stripSpaces reversed.reverse))
    | _ => none
  | _ => none

def expandText (constants : Variables) (text : String) : Json :=
  match (templateName text).bind constants.get with
  | some value => value.json
  | none => .text text

mutual

def expandVariables (constants : Variables) : Json → Json
  | .text text => expandText constants text
  | .array items => .array (expandItems constants items)
  | .object members => .object (expandMembers constants members)
  | .null => .null
  | .boolean value => .boolean value
  | .number value => .number value

def expandItems (constants : Variables) : List Json → List Json
  | [] => []
  | item :: rest => expandVariables constants item :: expandItems constants rest

def expandMembers (constants : Variables) : List (String × Json) → List (String × Json)
  | [] => []
  | (name, value) :: rest =>
    (name, expandVariables constants value) :: expandMembers constants rest

end

structure Schemas where
  conditions : List Json → Option (List AutomationCondition)
  actions : List Json → Option (List AutomationAction)

structure CreateKeypadMappingInput where
  homeId : String
  name : String
  enabled : Option Bool
  input : KeypadMappingInput
  conditions : Option (List Json)
  actions : Option (List Json)
  behavior : Option KeypadMappingBehavior
  target : Option StoredTarget
  constants : Option Variables

structure UpdateKeypadMappingInput where
  name : Option String
  enabled : Option Bool
  input : Option KeypadMappingInput
  conditions : Option (List Json)
  actions : Option (List Json)
  behavior : Option KeypadMappingBehavior
  /-- A target that is given may be no target. -/
  target : Option (Option StoredTarget)
  constants : Option Variables

/-- Why an operation of the service is rejected. -/
inductive Rejection where
  | error (error : SupremeError)
  /-- The conditions or actions do not fit their schema. -/
  | malformed
  | invalid (issues : List Issue)

def mappingNotFound : SupremeError := ⟨"not_found", "keypad mapping not found"⟩

/-- How an operation of the service resolves. -/
inductive Answer where
  | mapping (stored : StoredMapping)
  | done
  | rejected (rejection : Rejection)

/-- The checks of a whole mapping; a name is not empty. -/
def StoredMapping.validated (stored : StoredMapping) : Except Rejection StoredMapping :=
  let unnamed := if stored.name = "" then [Issue.mk ["name"] "too_small"] else []
  match unnamed ++ stored.issues with
  | [] => .ok stored
  | issues => .error (.invalid issues)

variable (schemas : Schemas)

def CreateKeypadMappingInput.stored (id : String)
    (input : CreateKeypadMappingInput) : Except Rejection StoredMapping :=
  let constants := input.constants.getD OrderedMap.empty
  match schemas.conditions ((input.conditions.getD []).map (expandVariables constants)),
      schemas.actions ((input.actions.getD []).map (expandVariables constants)) with
  | some conditions, some actions =>
    StoredMapping.validated
      { id := id, homeId := input.homeId, name := input.name, enabled := input.enabled.getD true
        input := input.input
        conditions := conditions
        actions := actions
        behavior := input.behavior.getD .direct
        target := input.target
        behaviorState := defaultBehaviorState
        constants := constants }
  | _, _ => .error .malformed

/-- What a patch makes of a list of raw values; without one the old list is kept. -/
def patched {Item : Type} (parse : List Json → Option (List Item)) (constants : Variables)
    (raw : Option (List Json)) (current : List Item) : Option (List Item) :=
  match raw with
  | some values => parse (values.map (expandVariables constants))
  | none => some current

def UpdateKeypadMappingInput.applyTo (patch : UpdateKeypadMappingInput)
    (current : StoredMapping) : Except Rejection StoredMapping :=
  let constants := patch.constants.getD current.constants
  match patched schemas.conditions constants patch.conditions current.conditions,
      patched schemas.actions constants patch.actions current.actions with
  | some conditions, some actions =>
    StoredMapping.validated
      { current with
        name := patch.name.getD current.name
        enabled := patch.enabled.getD current.enabled
        input := patch.input.getD current.input
        conditions := conditions
        actions := actions
        behavior := patch.behavior.getD current.behavior
        target := patch.target.getD current.target
        constants := constants }
  | _, _ => .error .malformed

/-- The patch that sets nothing but the flag. -/
def enabledPatch (enabled : Bool) : UpdateKeypadMappingInput :=
  ⟨none, some enabled, none, none, none, none, none, none⟩

namespace KeypadMappingService

/-- A mapping was written back over another one, or where there was none. -/
structure WriteBack where
  replaced : Option StoredMapping
  stored : StoredMapping

structure ServiceState where
  store : MappingStore
  /-- The lists that the engine has had before the current one. -/
  earlier : List (List StoredMapping)
  /-- The list of the engine. -/
  mappings : List StoredMapping
  loaded : Bool
  answered : List Answer
  /-- What firings have written back, to the list or to the store. -/
  writtenBack : List WriteBack

def ServiceState.listAt (state : ServiceState) (number : Nat) : List StoredMapping :=
  if number = state.earlier.length then state.mappings else (state.earlier[number]?).getD []

/-- A mapping that an event has fired, and its place in the list that is walked over. -/
structure MappingFiring where
  event : KeypadInputEvent
  list : Nat
  index : Nat
  stored : StoredMapping

inductive Reload where
  | boot
  | edit (answer : Answer)

/-- What an operation goes on with when it has found its mapping. -/
inductive AfterGet where
  | update (patch : UpdateKeypadMappingInput)
  | remove

inductive Call where
  | getting (id : String) (next : AfterGet)
  | putting (stored : StoredMapping)
  | removing (id : String)
  | listing (reload : Reload)
  | installing (reload : Reload) (snapshot : List StoredMapping)
  /-- An execution that has remembered nothing yet, or that waits for its turn. -/
  | firing (firing : MappingFiring)
  /-- The hook reads the stored mapping. -/
  | remembering (firing : MappingFiring) (next : KeypadMappingBehaviorState)
  /-- The hook puts what it has read, with the new memory. -/
  | restoring (firing : MappingFiring) (stored : StoredMapping)
  /-- An execution that performs its actions. -/
  | performing (firing : MappingFiring)

inductive Reply where
  | completes
  /-- The awaited execution comes to its next await. -/
  | pauses
  | rejects
  /-- A behavior has been resolved to its next memory. -/
  | remembers (next : KeypadMappingBehaviorState)

inductive Request where
  | start
  | create (id : String) (input : CreateKeypadMappingInput)
  | update (id : String) (patch : UpdateKeypadMappingInput)
  | setEnabled (id : String) (enabled : Bool)
  | remove (id : String)
  | onInputEvent (event : KeypadInputEvent)

def fireFrom (event : KeypadInputEvent) (list : Nat) : Nat → List StoredMapping → List Call
  | _, [] => []
  | index, stored :: rest =>
    if matchesEvent stored.mapping event then [.firing ⟨event, list, index, stored⟩]
    else fireFrom event list (index + 1) rest

def onInputEvent (event : KeypadInputEvent) (state : ServiceState) : List Call :=
  if state.loaded then fireFrom event state.earlier.length 0 state.mappings else []

/-- The walk of a firing goes on, in its list as it is by now. -/
def afterFiring (firing : MappingFiring) (state : ServiceState) : List Call :=
  fireFrom firing.event firing.list (firing.index + 1)
    ((state.listAt firing.list).drop (firing.index + 1))

def remembersFirings (stored : StoredMapping) : Bool :=
  match stored.behavior with
  | .alternate => true
  | .cycle => !stored.actions.isEmpty
  | _ => false

/-- Write a mapping over the entry of the engine's list that has its id. -/
def writeBack (stored : StoredMapping) (state : ServiceState) : ServiceState :=
  match state.mappings.findIdx? fun other => decide (other.id = stored.id) with
  | none => state
  | some index =>
    { state with
      mappings := state.mappings.set index stored
      writtenBack := state.writtenBack ++ [⟨state.mappings[index]?, stored⟩] }

def applyBehaviorState (persists : Bool) (firing : MappingFiring)
    (next : KeypadMappingBehaviorState) (state : ServiceState) :
    ServiceState × List Call :=
  let stored := { firing.stored with behaviorState := next }
  (writeBack stored state, [if persists then .remembering { firing with stored := stored } next
      else .performing { firing with stored := stored }])

def restore (stored : StoredMapping) (state : ServiceState) : ServiceState :=
  { state with
    store := state.store.put stored
    writtenBack := state.writtenBack ++ [⟨state.store.get stored.id, stored⟩] }

def answer (state : ServiceState) (given : Answer) : ServiceState :=
  { state with answered := state.answered ++ [given] }

def putValidated (checked : Except Rejection StoredMapping) (state : ServiceState) :
    ServiceState × List Call :=
  match checked with
  | .ok stored => (state, [.putting stored])
  | .error rejection => (answer state (.rejected rejection), [])

def create (id : String) (input : CreateKeypadMappingInput)
    (state : ServiceState) : ServiceState × List Call :=
  putValidated (input.stored schemas id) state

def update (id : String) (patch : UpdateKeypadMappingInput) (state : ServiceState) :
    ServiceState × List Call :=
  (state, [.getting id (.update patch)])

def setEnabled (id : String) (enabled : Bool) (state : ServiceState) : ServiceState × List Call :=
  update id (enabledPatch enabled) state

def remove (id : String) (state : ServiceState) : ServiceState × List Call :=
  (state, [.getting id .remove])

/-- An operation goes on with the mapping it has read. -/
def afterGet (id : String) (current : StoredMapping)
    (state : ServiceState) : AfterGet → ServiceState × List Call
  | .update patch => putValidated (patch.applyTo schemas current) state
  | .remove => (state, [.removing id])

/-- The store puts a mapping, and the operation goes on to its reload. -/
def put (stored : StoredMapping) (state : ServiceState) : ServiceState × List Call :=
  ({ state with store := state.store.put stored }, [.listing (.edit (.mapping stored))])

/-- The store removes a mapping, and the operation goes on to its reload. -/
def removeStored (id : String) (state : ServiceState) : ServiceState × List Call :=
  ({ state with store := state.store.remove id }, [.listing (.edit .done)])

/-- The engine gets a new list; walks over the old one go on there. -/
def setMappings (snapshot : List StoredMapping) (state : ServiceState) : ServiceState :=
  { state with
    earlier := state.earlier ++ [state.mappings]
    mappings := snapshot.filter StoredMapping.enabled }

/-- A call resolves after its reload. -/
def resolve (state : ServiceState) : Reload → ServiceState
  | .boot => { state with loaded := true }
  | .edit given => answer state given

def start (schemas : Schemas) (state : ServiceState) : Request → ServiceState × List Call
  | .start => (state, [.listing .boot])
  | .create id input => create schemas id input state
  | .update id patch => update id patch state
  | .setEnabled id enabled => setEnabled id enabled state
  | .remove id => remove id state
  | .onInputEvent event => (state, onInputEvent event state)

def resume (persists : Bool) (state : ServiceState) :
    Call → Reply → Option (ServiceState × List Call)
  | .getting id next, .completes =>
    match state.store.get id with
    | none => some (answer state (.rejected (.error mappingNotFound)), [])
    | some current => some (afterGet schemas id current state next)
  | .putting stored, .completes => some (put stored state)
  | .removing id, .completes => some (removeStored id state)
  | .listing reload, .completes => some (state, [.installing reload state.store.list])
  | .installing reload snapshot, .completes =>
    some (resolve (setMappings snapshot state) reload, [])
  | .firing firing, .remembers next =>
    if remembersFirings firing.stored then
      some (applyBehaviorState persists firing next state)
    else none
  | .firing firing, .completes => some (state, afterFiring firing state)
  | .firing firing, .pauses => some (state, [.firing firing])
  | .firing _, .rejects => some (state, [])
  | .remembering firing next, .completes =>
    match state.store.get firing.stored.id with
    | none => some (state, [.performing firing])
    | some current =>
      some (state, [.restoring firing { current with behaviorState := next }])
  | .restoring firing stored, .completes => some (restore stored state, [.performing firing])
  -- A rejection of the hook becomes a failed run.
  | .remembering firing _, .rejects => some (state, [.performing firing])
  | .restoring firing _, .rejects => some (state, [.performing firing])
  | .performing firing, .completes => some (state, afterFiring firing state)
  | .performing firing, .pauses => some (state, [.performing firing])
  | _, _ => none

/-- The service with all its calls, with or without a hook that stores behavior states. -/
def program (persists : Bool) : Program ServiceState Request Call Reply :=
  ⟨start schemas, resume schemas persists⟩

def constructed (store : MappingStore) : ServiceState where
  store := store
  earlier := []
  mappings := []
  loaded := false
  answered := []
  writtenBack := []

end KeypadMappingService

end SupremeOs.KeypadFramework
