import SupremeOs.Automations.Engine
import SupremeOs.Support.Interleaving

/-!
# Automation service

The service edits a store of automations and reloads the engine after every
edit; events are handed to the engine, which walks over the automations it had
when the event came in.  Both sides await: an edit awaits each operation of
the store, a walk awaits every execution and every check of a time trigger.

The operations of the store are atomic and may complete in any order, so an
awaited operation acts when its call is resumed.  The awaits inside an
execution are not told apart here: it pauses any number of times and then
completes, or is left by a rejection.

Every automation in the store is tagged with the number of the write that put
it there.  The service does not look at the tags.
-/

namespace SupremeOs.Automations

open Support DomainModel

structure StoredAutomation where
  automation : Automation
  revision : Nat
deriving DecidableEq

structure AutomationStore where
  items : OrderedMap String StoredAutomation
  keyed : ∀ id stored, items.get id = some stored → stored.automation.id = id

namespace AutomationStore

def empty : AutomationStore := ⟨OrderedMap.empty, by simp⟩

def get (store : AutomationStore) (id : String) : Option StoredAutomation :=
  store.items.get id

def list (store : AutomationStore) : List StoredAutomation := store.items.values

def put (store : AutomationStore) (stored : StoredAutomation) : AutomationStore where
  items := store.items.set stored.automation.id stored
  keyed := by
    intro id found lookup
    rw [OrderedMap.get_set] at lookup
    split at lookup
    · rename_i same
      simp only [Option.some.injEq] at lookup
      rw [same, lookup]
    · exact store.keyed id found lookup

def remove (store : AutomationStore) (id : String) : AutomationStore where
  items := store.items.delete id
  keyed := by
    intro other found lookup
    rw [OrderedMap.get_delete] at lookup
    split at lookup
    · cases lookup
    · exact store.keyed other found lookup

@[simp]
theorem get_put (store : AutomationStore) (stored : StoredAutomation) (id : String) :
    (store.put stored).get id = if id = stored.automation.id then some stored else store.get id :=
  OrderedMap.get_set ..

@[simp]
theorem get_remove (store : AutomationStore) (id other : String) :
    (store.remove id).get other = if other = id then none else store.get other :=
  OrderedMap.get_delete ..

theorem get_of_mem_list {store : AutomationStore} {stored : StoredAutomation}
    (member : stored ∈ store.list) : store.get stored.automation.id = some stored := by
  rcases OrderedMap.mem_values_iff.mp member with ⟨id, lookup⟩
  rw [store.keyed id stored lookup]
  exact lookup

end AutomationStore

structure CreateAutomationInput where
  homeId : String
  name : String
  triggers : List AutomationTrigger
  conditions : Option (List AutomationCondition)
  actions : List AutomationAction
  engine : Option EngineKind
  enabled : Option Bool
  aiGenerated : Option Bool
  tags : Option (List String)

/-- The part of a patch that an update reads. -/
structure AutomationPatch where
  name : Option String
  enabled : Option Bool
  triggers : Option (List AutomationTrigger)
  conditions : Option (List AutomationCondition)
  actions : Option (List AutomationAction)
  engine : Option EngineKind
  tags : Option (List String)

/-- The new automation of an update. -/
def AutomationPatch.applyTo (patch : AutomationPatch) (current : Automation) : Automation :=
  { current with
    name := patch.name.getD current.name
    enabled := patch.enabled.getD current.enabled
    triggers := patch.triggers.getD current.triggers
    conditions := patch.conditions.getD current.conditions
    actions := patch.actions.getD current.actions
    engine := patch.engine.getD current.engine
    tags := patch.tags.getD current.tags }

/-- The new automation of a creation under a fresh id. -/
def CreateAutomationInput.automation (input : CreateAutomationInput) (id : String) :
    Automation where
  id := id
  homeId := input.homeId
  name := input.name
  enabled := input.enabled.getD true
  triggers := input.triggers
  conditions := input.conditions.getD []
  actions := input.actions
  engine := input.engine.getD .supreme
  externalRef := none
  aiGenerated := input.aiGenerated.getD false
  tags := input.tags.getD []

structure SupremeError where
  code : String
  message : String

def notFound : SupremeError := ⟨"not_found", "automation not found"⟩

def unsupportedEngine : SupremeError :=
  ⟨"validation_failed", "engine \"ha\" automations are not executable on this hub " ++
    "(Home Assistant automation push/sync is not implemented) — use the default " ++
    "\"supreme\" engine"⟩

/-- How an operation of the service resolves. -/
inductive Answer where
  | automation (automation : Automation)
  | done
  | rejected (error : SupremeError)

/-- A write to the store, as it took effect. -/
inductive Write where
  | created (id : String)
  | patched (id : String) (patch : AutomationPatch)
  | removed (id : String)

/-- The start of an execution, with the last edit of its automation that had resolved. -/
structure StartedRun where
  stored : StoredAutomation
  trigger : String
  settled : Nat

structure ServiceState where
  store : AutomationStore
  /-- The automations that the engine has loaded. -/
  automations : List StoredAutomation
  lastFired : OrderedMap String Int
  loaded : Bool
  /-- The number of the next write. -/
  revision : Nat
  /-- The last resolved edit of an automation. -/
  settled : OrderedMap String Nat
  started : List StartedRun
  /-- The writes, newest first. -/
  written : List Write
  answered : List Answer

/-- A write that its operation has yet to resolve. -/
structure Edit where
  id : String
  revision : Nat
  answer : Answer

inductive Reload where
  | boot
  | edit (edit : Edit)

/-- What an operation goes on with when it has found its automation. -/
inductive AfterGet where
  | update (patch : AutomationPatch)
  | remove
  | duplicate (name : Option String) (freshId : String)

/-- The automation that an operation puts, with what an update computed it from. -/
inductive Put where
  | created (automation : Automation)
  | patched (current : Automation) (patch : AutomationPatch)

def Put.automation : Put → Automation
  | .created automation => automation
  | .patched current patch => patch.applyTo current

def Put.write : Put → Write
  | .created automation => .created automation.id
  | .patched current patch => .patched current.id patch

inductive Call where
  | getting (id : String) (next : AfterGet)
  | putting (put : Put)
  | removing (id : String)
  | listing (reload : Reload)
  | installing (reload : Reload) (snapshot : List StoredAutomation)
  /-- An event's walk is suspended in an execution. -/
  | serving (event : EngineEvent) (rest : List StoredAutomation)
  /-- A tick is suspended in the check of a trigger, whose answer is known. -/
  | ticking (now : HubDate) (stored : StoredAutomation) (index : Nat)
      (trigger : AutomationTrigger) (fires : Bool) (more : List AutomationTrigger)
      (rest : List StoredAutomation)

inductive Reply where
  | completes
  /-- The awaited execution comes to its next await. -/
  | pauses
  /-- The awaited execution is left by a rejection. -/
  | rejects

inductive Request where
  | start
  | create (id : String) (input : CreateAutomationInput)
  | update (id : String) (patch : AutomationPatch)
  | setEnabled (id : String) (enabled : Bool)
  | remove (id : String)
  | duplicate (id : String) (name : Option String) (freshId : String)
  | event (event : EngineEvent)

namespace AutomationService

/-- The number of the last resolved edit of an automation. -/
def settledRevision (state : ServiceState) (id : String) : Nat :=
  (state.settled.get id).getD 0

def startRun (state : ServiceState) (stored : StoredAutomation) (trigger : String) : ServiceState :=
  { state with
    started := state.started ++ [⟨stored, trigger, settledRevision state stored.automation.id⟩] }

/-- Go on to the next automation with a matching trigger, and execute it. -/
def serveFrom (event : EngineEvent) (triggered : Automation → Bool) (trigger : String) :
    List StoredAutomation → ServiceState → ServiceState × List Call
  | [], state => (state, [])
  | stored :: rest, state =>
    if triggered stored.automation then
      (startRun state stored trigger, [.serving event rest])
    else serveFrom event triggered trigger rest state

def checkTrigger (now : HubDate) (stored : StoredAutomation) (index : Nat)
    (trigger : AutomationTrigger) (more : List AutomationTrigger)
    (rest : List StoredAutomation) (state : ServiceState) : ServiceState × List Call :=
  let (lastFired, fires) := timeTriggerFires stored.automation.id index trigger now
    (minuteOf now) state.lastFired
  ({ state with lastFired := lastFired }, [.ticking now stored index trigger fires more rest])

def tickFrom (now : HubDate) : List StoredAutomation → ServiceState → ServiceState × List Call
  | [], state => (state, [])
  | stored :: rest, state =>
    match stored.automation.triggers with
    | [] => tickFrom now rest state
    | trigger :: more => checkTrigger now stored 0 trigger more rest state

def tickNext (now : HubDate) (stored : StoredAutomation) (index : Nat)
    (more : List AutomationTrigger) (rest : List StoredAutomation) (state : ServiceState) :
    ServiceState × List Call :=
  match more with
  | [] => tickFrom now rest state
  | trigger :: after => checkTrigger now stored (index + 1) trigger after rest state

def walk (event : EngineEvent) (rest : List StoredAutomation) (state : ServiceState) :
    ServiceState × List Call :=
  match event with
  | .deviceState input =>
    serveFrom event (deviceStateTriggered input) "device_state" rest state
  | .keypadInput input =>
    serveFrom event (keypadInputTriggered input) "keypad_input" rest state
  | .tick now => tickFrom now rest state

def onDeviceState (event : DeviceStateEvent) (state : ServiceState) : ServiceState × List Call :=
  if state.loaded then walk (.deviceState event) state.automations state else (state, [])

def onKeypadInput (event : KeypadInputEvent) (state : ServiceState) : ServiceState × List Call :=
  if state.loaded then walk (.keypadInput event) state.automations state else (state, [])

def tick (now : HubDate) (state : ServiceState) : ServiceState × List Call :=
  walk (.tick now) state.automations state

def answer (state : ServiceState) (answer : Answer) : ServiceState :=
  { state with answered := state.answered ++ [answer] }

/-- Refuse an engine that does not run on this hub. -/
def assertSupportedEngine (engine : Option EngineKind) (state : ServiceState)
    (supported : ServiceState × List Call) : ServiceState × List Call :=
  if engine = some .ha then (answer state (.rejected unsupportedEngine), []) else supported

def create (id : String) (input : CreateAutomationInput) (state : ServiceState) :
    ServiceState × List Call :=
  assertSupportedEngine input.engine state
    (state, [.putting (.created (input.automation id))])

def update (id : String) (patch : AutomationPatch) (state : ServiceState) :
    ServiceState × List Call :=
  assertSupportedEngine patch.engine state (state, [.getting id (.update patch)])

/-- The patch that sets nothing but the flag. -/
def enabledPatch (enabled : Bool) : AutomationPatch :=
  ⟨none, some enabled, none, none, none, none, none⟩

def setEnabled (id : String) (enabled : Bool) (state : ServiceState) : ServiceState × List Call :=
  update id (enabledPatch enabled) state

def remove (id : String) (state : ServiceState) : ServiceState × List Call :=
  (state, [.getting id .remove])

def duplicateInput (source : Automation) (name : Option String) : CreateAutomationInput where
  homeId := source.homeId
  name := name.getD (source.name ++ " (copy)")
  triggers := source.triggers
  conditions := some source.conditions
  actions := source.actions
  engine := some source.engine
  enabled := some false
  aiGenerated := none
  tags := some source.tags

def duplicate (id : String) (name : Option String) (freshId : String)
    (state : ServiceState) : ServiceState × List Call :=
  (state, [.getting id (.duplicate name freshId)])

/-- An operation goes on with the automation it has read. -/
def afterGet (id : String) (current : Automation) (state : ServiceState) :
    AfterGet → ServiceState × List Call
  | .update patch => (state, [.putting (.patched current patch)])
  | .remove => (state, [.removing id])
  | .duplicate name freshId => create freshId (duplicateInput current name) state

/-- The store puts an automation, and the operation goes on to its reload. -/
def put (put : Put) (state : ServiceState) : ServiceState × List Call :=
  ({ state with
      store := state.store.put ⟨put.automation, state.revision⟩
      revision := state.revision + 1
      written := put.write :: state.written },
    [.listing (.edit ⟨put.automation.id, state.revision, .automation put.automation⟩)])

/-- The store removes an automation, and the operation goes on to its reload. -/
def removeStored (id : String) (state : ServiceState) : ServiceState × List Call :=
  ({ state with
      store := state.store.remove id
      revision := state.revision + 1
      written := .removed id :: state.written }, [.listing (.edit ⟨id, state.revision, .done⟩)])

def setAutomations (snapshot : List StoredAutomation) (state : ServiceState) : ServiceState :=
  { state with automations := snapshot.filter fun stored => isActive stored.automation }

/-- A call resolves after its reload. -/
def resolve (state : ServiceState) : Reload → ServiceState
  | .boot => { state with loaded := true }
  | .edit edit =>
    answer
      { state with
        settled := state.settled.set edit.id
          (max (settledRevision state edit.id) edit.revision) }
      edit.answer

def start (state : ServiceState) : Request → ServiceState × List Call
  | .start => (state, [.listing .boot])
  | .create id input => create id input state
  | .update id patch => update id patch state
  | .setEnabled id enabled => setEnabled id enabled state
  | .remove id => remove id state
  | .duplicate id name freshId => duplicate id name freshId state
  | .event (.deviceState event) => onDeviceState event state
  | .event (.keypadInput event) => onKeypadInput event state
  | .event (.tick now) => tick now state

def resume (state : ServiceState) : Call → Reply → Option (ServiceState × List Call)
  | .getting id next, .completes =>
    match state.store.get id with
    | none => some (answer state (.rejected notFound), [])
    | some current => some (afterGet id current.automation state next)
  | .putting pending, .completes => some (put pending state)
  | .removing id, .completes => some (removeStored id state)
  | .listing reload, .completes => some (state, [.installing reload state.store.list])
  | .installing reload snapshot, .completes =>
    some (resolve (setAutomations snapshot state) reload, [])
  | .serving event rest, .completes => some (walk event rest state)
  | .serving event rest, .pauses => some (state, [.serving event rest])
  | .serving _ _, .rejects => some (state, [])
  | .ticking now stored index trigger fires more rest, .completes =>
    some (if fires then
      (startRun state stored trigger.type, [.serving (.tick now) rest])
    else tickNext now stored index more rest state)
  | _, _ => none

def program : Program ServiceState Request Call Reply := ⟨start, resume⟩

def constructed (store : AutomationStore) : ServiceState where
  store := store
  automations := []
  lastFired := OrderedMap.empty
  loaded := false
  revision := 1
  settled := OrderedMap.empty
  started := []
  written := []
  answered := []

/-- The two states differ in nothing that an edit reads or writes. -/
structure SameEdits (left right : ServiceState) : Prop where
  store : left.store = right.store
  automations : left.automations = right.automations
  loaded : left.loaded = right.loaded
  revision : left.revision = right.revision
  settled : left.settled = right.settled
  written : left.written = right.written

theorem SameEdits.refl (state : ServiceState) : SameEdits state state :=
  ⟨rfl, rfl, rfl, rfl, rfl, rfl⟩

def Call.edit : Call → Option Edit
  | .listing (.edit edit) => some edit
  | .installing (.edit edit) _ => some edit
  | _ => none

/--
A segment that leaves the edits alone, leaves no reload of an edit pending, and
starts at most the given automation.
-/
structure Segment (state : ServiceState) (starts : Option StoredAutomation)
    (outcome : ServiceState × List Call) : Prop where
  edits : SameEdits outcome.1 state
  calls : ∀ call ∈ outcome.2, Call.edit call = none
  runs : outcome.1.started = state.started ∨ ∃ stored trigger, starts = some stored ∧
      outcome.1.started = state.started ++
        [⟨stored, trigger, settledRevision state stored.automation.id⟩]

theorem idle_segment (state : ServiceState) (starts : Option StoredAutomation) :
    Segment state starts (state, []) :=
  ⟨SameEdits.refl state, by simp, .inl rfl⟩

variable {call : Call} {state : ServiceState} {outcome : ServiceState × List Call}

theorem pending_segment (state : ServiceState) (plain : Call.edit call = none) :
    Segment state none (state, [call]) :=
  ⟨SameEdits.refl state, by simpa using plain, .inl rfl⟩

theorem answer_segment (state : ServiceState) (given : Answer) :
    Segment state none (answer state given, []) :=
  ⟨⟨rfl, rfl, rfl, rfl, rfl, rfl⟩, by simp, .inl rfl⟩

theorem startRun_segment (state : ServiceState) (stored : StoredAutomation)
    (trigger : String) (event : EngineEvent) (rest : List StoredAutomation) :
    Segment state (some stored)
      (startRun state stored trigger, [.serving event rest]) :=
  ⟨⟨rfl, rfl, rfl, rfl, rfl, rfl⟩, by simp [Call.edit], .inr ⟨stored, trigger, rfl, rfl⟩⟩

theorem serveFrom_segment (event : EngineEvent) (triggered : Automation → Bool)
    (trigger : String) (rest : List StoredAutomation) (state : ServiceState) :
    Segment state (rest.find? fun stored => triggered stored.automation)
      (serveFrom event triggered trigger rest state) := by
  induction rest with
  | nil => exact idle_segment state none
  | cons stored rest ih =>
    simp only [serveFrom]
    by_cases hit : triggered stored.automation = true
    · rw [if_pos hit, List.find?_cons, hit]
      exact startRun_segment state stored trigger event rest
    · rw [if_neg hit, List.find?_cons, Bool.eq_false_of_not_eq_true hit]
      exact ih

theorem checkTrigger_segment (now : HubDate) (stored : StoredAutomation) (index : Nat)
    (trigger : AutomationTrigger) (more : List AutomationTrigger)
    (rest : List StoredAutomation) (state : ServiceState) :
    Segment state none (checkTrigger now stored index trigger more rest state) :=
  ⟨⟨rfl, rfl, rfl, rfl, rfl, rfl⟩, by simp [checkTrigger, Call.edit], .inl rfl⟩

theorem tickFrom_segment (now : HubDate) (rest : List StoredAutomation)
    (state : ServiceState) : Segment state none (tickFrom now rest state) := by
  induction rest with
  | nil => exact idle_segment state none
  | cons stored rest ih =>
    simp only [tickFrom]
    split
    · exact ih
    · exact checkTrigger_segment now stored 0 _ _ rest state

theorem tickNext_segment (now : HubDate) (stored : StoredAutomation) (index : Nat)
    (more : List AutomationTrigger) (rest : List StoredAutomation) (state : ServiceState) :
    Segment state none (tickNext now stored index more rest state) := by
  cases more with
  | nil => exact tickFrom_segment now rest state
  | cons trigger after =>
    exact checkTrigger_segment now stored (index + 1) trigger after rest state

def nextOf (event : EngineEvent) (rest : List StoredAutomation) : Option StoredAutomation :=
  match event with
  | .deviceState input => rest.find? fun stored => deviceStateTriggered input stored.automation
  | .keypadInput input => rest.find? fun stored => keypadInputTriggered input stored.automation
  | .tick _ => none

theorem walk_segment (event : EngineEvent) (rest : List StoredAutomation) (state : ServiceState) :
    Segment state (nextOf event rest) (walk event rest state) := by
  cases event with
  | deviceState input => exact serveFrom_segment _ _ _ rest state
  | keypadInput input => exact serveFrom_segment _ _ _ rest state
  | tick now => exact tickFrom_segment now rest state

theorem mem_of_nextOf {event : EngineEvent} {rest : List StoredAutomation}
    {stored : StoredAutomation} (next : nextOf event rest = some stored) : stored ∈ rest := by
  cases event with
  | deviceState input => exact List.mem_of_find?_eq_some next
  | keypadInput input => exact List.mem_of_find?_eq_some next
  | tick now => cases next

theorem assertSupportedEngine_segment (engine : Option EngineKind)
    {supported : ServiceState × List Call} (segment : Segment state none supported) :
    Segment state none (assertSupportedEngine engine state supported) := by
  simp only [assertSupportedEngine]
  split
  · exact answer_segment state _
  · exact segment

theorem create_segment (id : String) (input : CreateAutomationInput) (state : ServiceState) :
    Segment state none (create id input state) :=
  assertSupportedEngine_segment input.engine (pending_segment state rfl)

theorem update_segment (id : String) (patch : AutomationPatch) (state : ServiceState) :
    Segment state none (update id patch state) :=
  assertSupportedEngine_segment patch.engine (pending_segment state rfl)

theorem start_segment (state : ServiceState) (request : Request) :
    ∃ starts, (∀ stored ∈ starts, stored ∈ state.automations) ∧
      Segment state starts (start state request) := by
  have quiet : ∀ stored ∈ (none : Option StoredAutomation), stored ∈ state.automations := by
    simp
  cases request with
  | start => exact ⟨none, quiet, pending_segment state rfl⟩
  | create id input => exact ⟨none, quiet, create_segment id input state⟩
  | update id patch => exact ⟨none, quiet, update_segment id patch state⟩
  | setEnabled id enabled =>
    exact ⟨none, quiet, update_segment id (enabledPatch enabled) state⟩
  | remove id => exact ⟨none, quiet, pending_segment state rfl⟩
  | duplicate id name freshId => exact ⟨none, quiet, pending_segment state rfl⟩
  | event event =>
    refine ⟨nextOf event state.automations, fun stored next => mem_of_nextOf next, ?_⟩
    have served := walk_segment event state.automations state
    cases event with
    | deviceState input =>
      simp only [start, onDeviceState]
      split
      · exact served
      · exact idle_segment state _
    | keypadInput input =>
      simp only [start, onKeypadInput]
      split
      · exact served
      · exact idle_segment state _
    | tick now => exact served

theorem afterGet_segment (id : String) (current : Automation) (state : ServiceState)
    (next : AfterGet) : Segment state none (afterGet id current state next) := by
  cases next with
  | update patch => exact pending_segment state rfl
  | remove => exact pending_segment state rfl
  | duplicate name freshId => exact create_segment freshId _ state

def startsNext : Call → Reply → Option StoredAutomation
  | .serving event rest, .completes => nextOf event rest
  | .ticking _ stored _ _ true _ _, .completes => some stored
  | _, _ => none

/-- A call that neither writes to the store nor reloads the engine. -/
def Call.isQuiet : Call → Bool
  | .getting _ _ => true
  | .serving _ _ => true
  | .ticking _ _ _ _ _ _ _ => true
  | _ => false

theorem resume_quiet {reply : Reply} (quiet : Call.isQuiet call = true)
    (resumed : resume state call reply = some outcome) :
    Segment state (startsNext call reply) outcome := by
  cases call with
  | getting id next =>
    cases reply with
    | completes =>
      simp only [resume] at resumed
      split at resumed
      · cases resumed
        exact answer_segment state _
      · cases resumed
        exact afterGet_segment id _ state next
    | pauses => cases resumed
    | rejects => cases resumed
  | serving event rest =>
    cases reply with
    | completes =>
      cases resumed
      exact walk_segment event rest state
    | pauses =>
      cases resumed
      exact pending_segment state rfl
    | rejects =>
      cases resumed
      exact idle_segment state none
  | ticking now stored index trigger fires more rest =>
    cases reply with
    | completes =>
      cases resumed
      cases fires with
      | true => exact startRun_segment state stored trigger.type (.tick now) rest
      | false => exact tickNext_segment now stored index more rest state
    | pauses => cases resumed
    | rejects => cases resumed
  | putting pending => cases quiet
  | removing id => cases quiet
  | listing reload => cases quiet
  | installing reload snapshot => cases quiet

theorem resume_cases {reply : Reply} (resumed : resume state call reply = some outcome) :
    (Call.isQuiet call = true ∧ Segment state (startsNext call reply) outcome) ∨
    (∃ pending, call = .putting pending ∧ outcome = put pending state) ∨
    (∃ id, call = .removing id ∧ outcome = removeStored id state) ∨
    (∃ reload, call = .listing reload ∧ outcome = (state, [.installing reload state.store.list])) ∨
    (∃ reload snapshot, call = .installing reload snapshot ∧
      outcome = (resolve (setAutomations snapshot state) reload, [])) := by
  by_cases quiet : Call.isQuiet call = true
  · exact .inl ⟨quiet, resume_quiet quiet resumed⟩
  · right
    cases call with
    | putting pending =>
      cases reply <;> cases resumed
      exact .inl ⟨pending, rfl, rfl⟩
    | removing id =>
      cases reply <;> cases resumed
      exact .inr (.inl ⟨id, rfl, rfl⟩)
    | listing reload =>
      cases reply <;> cases resumed
      exact .inr (.inr (.inl ⟨reload, rfl, rfl⟩))
    | installing reload snapshot =>
      cases reply <;> cases resumed
      exact .inr (.inr (.inr ⟨reload, snapshot, rfl, rfl⟩))
    | getting id next => exact (quiet rfl).elim
    | serving event rest => exact (quiet rfl).elim
    | ticking now stored index trigger fires more rest => exact (quiet rfl).elim

end AutomationService

end SupremeOs.Automations
