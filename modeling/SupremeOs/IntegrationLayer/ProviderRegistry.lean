import SupremeOs.DomainModel.Capabilities
import SupremeOs.Support.Interleaving

/-!
# Provider registry

The provider registry keeps one record per device: which provider the device
comes from and in which lifecycle state it is.  Each of its operations has a
first segment, which reads and checks the record in memory, an await on the
persistence store, and a last segment, which writes the record in memory.

The first part of this file gives the segments.  The second part interleaves
them and records every in-memory write, and determines exactly in which runs
the successive lifecycle states of a device form a path of the lifecycle
machine.
-/

namespace SupremeOs.IntegrationLayer

open SupremeOs.Support SupremeOs.DomainModel List Option

inductive DeviceLifecycleState where
  | discovered
  | registered
  | unbound
  | binding
  | bound
  | online
  | offline
  | error
  | removed
deriving DecidableEq, Repr

/-- The literal under which a state is stored and printed. -/
def DeviceLifecycleState.literal : DeviceLifecycleState → String
  | .discovered => "DISCOVERED"
  | .registered => "REGISTERED"
  | .unbound => "UNBOUND"
  | .binding => "BINDING"
  | .bound => "BOUND"
  | .online => "ONLINE"
  | .offline => "OFFLINE"
  | .error => "ERROR"
  | .removed => "REMOVED"

/-- `DEVICE_LIFECYCLE_TRANSITIONS`: the states that may follow a state. -/
def deviceLifecycleTransitions :
    DeviceLifecycleState → List DeviceLifecycleState
  | .discovered => [.registered, .removed]
  | .registered => [.unbound, .removed]
  | .unbound => [.binding, .removed]
  | .binding => [.bound, .error, .unbound]
  -- A device with one bound capability may bind another: back to `binding`.
  | .bound => [.online, .offline, .error, .unbound, .binding]
  | .online => [.offline, .error, .unbound, .removed, .binding]
  | .offline => [.online, .error, .unbound, .removed, .binding]
  | .error => [.binding, .unbound, .removed]
  | .removed => []

/-- Whether `next` may directly follow `current`. -/
def canTransition (current next : DeviceLifecycleState) : Bool :=
  decide (next ∈ deviceLifecycleTransitions current)

structure DeviceProviderRecord where
  deviceId : DeviceId
  provider : String
  state : DeviceLifecycleState
deriving DecidableEq

/-- The in-memory index consulted on every command. -/
structure ProviderRegistry where
  byDevice : OrderedMap DeviceId DeviceProviderRecord

namespace ProviderRegistry

def empty : ProviderRegistry := ⟨OrderedMap.empty⟩

def get (registry : ProviderRegistry) (deviceId : DeviceId) :
    Option DeviceProviderRecord :=
  registry.byDevice.get deviceId

def stateOf (registry : ProviderRegistry) (deviceId : DeviceId) :
    Option DeviceLifecycleState :=
  (registry.get deviceId).map DeviceProviderRecord.state

/-- The record that `assign` stores. -/
def assignRecord (deviceId : DeviceId) (provider : String) :
    DeviceProviderRecord :=
  { deviceId, provider, state := .unbound }

/-- The check of `transition`: the record it is about to store, or its error. -/
def transitionRecord (registry : ProviderRegistry) (deviceId : DeviceId)
    (next : DeviceLifecycleState) : Except String DeviceProviderRecord :=
  match registry.get deviceId with
  | none =>
    .error s!"device {deviceId} has no provider record — call assign() first"
  | some current =>
    if canTransition current.state next then
      .ok { current with state := next }
    else
      .error s!"device {deviceId} cannot transition {current.state.literal} -> {next.literal}"

/-- The in-memory write at the end of `assign` and `transition`. -/
def write (registry : ProviderRegistry) (record : DeviceProviderRecord) :
    ProviderRegistry :=
  ⟨registry.byDevice.set record.deviceId record⟩

/-- The in-memory write at the end of `remove`. -/
def delete (registry : ProviderRegistry) (deviceId : DeviceId) :
    ProviderRegistry :=
  ⟨registry.byDevice.delete deviceId⟩

@[simp]
theorem get_write (registry : ProviderRegistry) (record : DeviceProviderRecord)
    (deviceId : DeviceId) :
    (registry.write record).get deviceId =
      if deviceId = record.deviceId then some record else registry.get deviceId := by
  simp [get, write]

@[simp]
theorem get_delete (registry : ProviderRegistry) (removed deviceId : DeviceId) :
    (registry.delete removed).get deviceId =
      if deviceId = removed then none else registry.get deviceId := by
  simp [get, delete]

@[simp]
theorem get_empty (deviceId : DeviceId) : empty.get deviceId = none := by
  simp [get, empty]

theorem stateOf_write (registry : ProviderRegistry) (record : DeviceProviderRecord)
    (deviceId : DeviceId) :
    (registry.write record).stateOf deviceId =
      if deviceId = record.deviceId then some record.state
      else registry.stateOf deviceId := by
  simp only [stateOf, get_write]
  split <;> rfl

theorem stateOf_delete (registry : ProviderRegistry) (removed deviceId : DeviceId) :
    (registry.delete removed).stateOf deviceId =
      if deviceId = removed then none else registry.stateOf deviceId := by
  simp only [stateOf, get_delete]
  split <;> rfl

/-- What a transition that passes its check has seen and is going to store. -/
theorem transitionRecord_eq_ok_iff {registry : ProviderRegistry}
    {deviceId : DeviceId} {next : DeviceLifecycleState}
    {record : DeviceProviderRecord} :
    registry.transitionRecord deviceId next = .ok record ↔
      ∃ current, registry.get deviceId = some current ∧
        canTransition current.state next = true ∧
        record = { current with state := next } := by
  simp only [transitionRecord]
  cases registry.get deviceId with
  | none => simp
  | some current =>
    by_cases allowed : canTransition current.state next = true
    · simp only [allowed, if_true, Except.ok.injEq, some.injEq, exists_eq_left', true_and]
      exact eq_comm
    · simp [allowed]

end ProviderRegistry

namespace ProviderRegistryRuns

/-- What caused an in-memory write; calls are numbered in the order they are made. -/
inductive Cause where
  | assign (ticket : Nat)
  | transition (next : DeviceLifecycleState)
  | remove (ticket : Nat)

structure Change where
  deviceId : DeviceId
  before : Option DeviceLifecycleState
  cause : Cause
  after : Option DeviceLifecycleState

/-- The registry, the number of calls made so far, and the writes performed. -/
structure World where
  registry : ProviderRegistry
  tickets : Nat
  changes : List Change

inductive Request where
  | assign (deviceId : DeviceId) (provider : String)
  | transition (deviceId : DeviceId) (next : DeviceLifecycleState)
  | remove (deviceId : DeviceId)

inductive Call where
  /-- `assign` awaits `store.put(record)`. -/
  | assigning (ticket : Nat) (record : DeviceProviderRecord)
  /-- `transition` has passed its check and awaits `store.put(record)`. -/
  | transitioning (record : DeviceProviderRecord)
  /-- `remove` awaits `store.remove(deviceId)`. -/
  | removing (ticket : Nat) (deviceId : DeviceId)

/-- How a store call ends. -/
inductive Reply where
  | stored
  | rejected

def World.commit (world : World) (deviceId : DeviceId) (cause : Cause)
    (registry : ProviderRegistry) : World :=
  { world with
    registry
    changes := world.changes ++
      [{ deviceId
         before := world.registry.stateOf deviceId
         cause
         after := registry.stateOf deviceId }] }

def startCall (world : World) : Request → World × List Call
  | .assign deviceId provider =>
    ({ world with tickets := world.tickets + 1 },
      [.assigning (world.tickets + 1)
        (ProviderRegistry.assignRecord deviceId provider)])
  | .transition deviceId next =>
    match world.registry.transitionRecord deviceId next with
    | .error _ => (world, [])
    | .ok record => (world, [.transitioning record])
  | .remove deviceId =>
    ({ world with tickets := world.tickets + 1 },
      [.removing (world.tickets + 1) deviceId])

def resumeCall (world : World) (call : Call) : Reply → Option (World × List Call)
  | .rejected => some (world, [])
  | .stored =>
    match call with
    | .assigning ticket record =>
      some (world.commit record.deviceId (.assign ticket)
        (world.registry.write record), [])
    | .transitioning record =>
      some (world.commit record.deviceId (.transition record.state)
        (world.registry.write record), [])
    | .removing ticket deviceId =>
      some (world.commit deviceId (.remove ticket)
        (world.registry.delete deviceId), [])

/-- `ProviderRegistry` over a persistence store, at await granularity. -/
def program : Program World Request Call Reply where
  start := startCall
  resume := resumeCall

/-- A registry before the first call, with the records a boot has restored. -/
def initial (registry : ProviderRegistry) : Config World Call :=
  Program.idle { registry, tickets := 0, changes := [] }

/-- The latest call that has completed a removal, `0` if there is none. -/
def latestRemoval : Nat → List Change → Nat
  | latest, [] => latest
  | latest, change :: rest =>
    match change.cause with
    | .remove ticket => latestRemoval (max latest ticket) rest
    | _ => latestRemoval latest rest

/--
Whether one write is a legal step of a lifecycle path.  An assignment starts
a path anew, unless a removal that was called after it has completed before
it: such a removal ends the device, and only a newer assignment brings it back.
-/
def Change.Legal (removal : Nat) (change : Change) : Prop :=
  match change.cause with
  | .assign ticket => removal < ticket ∧ change.after = some .unbound
  | .transition next =>
    (change.before.any fun current => canTransition current next) = true ∧
      change.after = some next
  | .remove _ => change.after = none

instance : ∀ removal change, Decidable (Change.Legal removal change) := by
  intro removal change
  unfold Change.Legal
  split <;> infer_instance

/-- The writes follow on each other from `value` and each of them is legal. -/
def LegalPath (value : Option DeviceLifecycleState) :
    Nat → List Change → Prop
  | _, [] => True
  | removal, change :: rest =>
    change.before = value ∧ change.Legal removal ∧
      LegalPath change.after (latestRemoval removal [change]) rest

instance decidableLegalPath :
    ∀ value removal path, Decidable (LegalPath value removal path)
  | _, _, [] => isTrue trivial
  | _, removal, change :: rest =>
    have := decidableLegalPath change.after (latestRemoval removal [change]) rest
    inferInstanceAs (Decidable (_ ∧ _))

def World.changesOf (world : World) (deviceId : DeviceId) : List Change :=
  world.changes.filter fun change => decide (change.deviceId = deviceId)

def FollowsLifecycle (boot : ProviderRegistry) (config : Config World Call) : Prop :=
  ∀ deviceId,
    LegalPath (boot.stateOf deviceId) 0 (config.shared.changesOf deviceId)

/--
When a store call ends, the device is still where the operation may write: a
transition finds a record whose present state admits its target, and an
assignment is newer than every removal of the device that has completed.
-/
def CommitsCurrent (config : Config World Call) : Schedule Request Reply → Prop
  | .call _ => True
  | .resume _ .rejected => True
  | .resume index .stored =>
    match config.pending[index]? with
    | some (.assigning ticket record) =>
      latestRemoval 0 (config.shared.changesOf record.deviceId) < ticket
    | some (.transitioning record) =>
      ((config.shared.registry.stateOf record.deviceId).any
        fun current => canTransition current record.state) = true
    | _ => True

def lastValue (value : Option DeviceLifecycleState) :
    List Change → Option DeviceLifecycleState
  | [] => value
  | change :: rest => lastValue change.after rest

theorem latestRemoval_append (latest : Nat) (first second : List Change) :
    latestRemoval latest (first ++ second) =
      latestRemoval (latestRemoval latest first) second := by
  induction first generalizing latest with
  | nil => rfl
  | cons change rest ih =>
    simp only [cons_append, latestRemoval]
    cases change.cause <;> exact ih _

theorem lastValue_append (value : Option DeviceLifecycleState)
    (first second : List Change) :
    lastValue value (first ++ second) = lastValue (lastValue value first) second := by
  induction first generalizing value with
  | nil => rfl
  | cons change rest ih => exact ih _

theorem legalPath_concat {value : Option DeviceLifecycleState} {removal : Nat}
    {path : List Change} {change : Change} :
    LegalPath value removal (path ++ [change]) ↔
      LegalPath value removal path ∧ change.before = lastValue value path ∧
        change.Legal (latestRemoval removal path) := by
  induction path generalizing value removal with
  | nil => simp [LegalPath, lastValue, latestRemoval]
  | cons head rest ih =>
    simp only [cons_append, LegalPath, ih, lastValue]
    have step : latestRemoval removal (head :: rest) =
        latestRemoval (latestRemoval removal [head]) rest :=
      latestRemoval_append removal [head] rest
    rw [step]
    tauto

theorem changesOf_commit_same (world : World) (deviceId : DeviceId) (cause : Cause)
    (registry : ProviderRegistry) :
    (world.commit deviceId cause registry).changesOf deviceId =
      world.changesOf deviceId ++
        [{ deviceId
           before := world.registry.stateOf deviceId
           cause
           after := registry.stateOf deviceId }] := by
  simp [World.changesOf, World.commit, filter_append]

variable {deviceId : DeviceId} {registry : ProviderRegistry}

theorem changesOf_commit_other (world : World) {other : DeviceId}
    (cause : Cause) (registry : ProviderRegistry) (differs : other ≠ deviceId) :
    (world.commit deviceId cause registry).changesOf other =
      world.changesOf other := by
  have unequal : ¬ deviceId = other := fun equal => differs equal.symm
  simp [World.changesOf, World.commit, filter_append, unequal]

def Recorded (boot : ProviderRegistry) (config : Config World Call) : Prop :=
  ∀ deviceId,
    lastValue (boot.stateOf deviceId) (config.shared.changesOf deviceId) =
      config.shared.registry.stateOf deviceId

theorem recorded_initial (boot : ProviderRegistry) :
    Recorded boot (initial boot) := by
  intro deviceId
  rfl

theorem recorded_commit {boot : ProviderRegistry} {world : World}
    {pending more : List Call} {cause : Cause}
    (recorded : Recorded boot ⟨world, pending⟩)
    (frame : ∀ other, other ≠ deviceId →
      registry.stateOf other = world.registry.stateOf other) :
    Recorded boot ⟨world.commit deviceId cause registry, more⟩ := by
  intro other
  by_cases same : other = deviceId
  · subst same
    simp only [changesOf_commit_same, lastValue_append]
    rfl
  · have kept := recorded other
    simp only [changesOf_commit_other world cause registry same]
    rw [kept]
    exact (frame other same).symm

theorem resumeCall_stored (world : World) (call : Call) :
    ∃ deviceId cause registry,
      resumeCall world call .stored =
        some (world.commit deviceId cause registry, []) ∧
      ∀ other, other ≠ deviceId →
        registry.stateOf other = world.registry.stateOf other := by
  cases call with
  | assigning ticket record =>
    refine ⟨_, _, _, rfl, ?_⟩
    intro other differs
    rw [ProviderRegistry.stateOf_write, if_neg differs]
  | transitioning record =>
    refine ⟨_, _, _, rfl, ?_⟩
    intro other differs
    rw [ProviderRegistry.stateOf_write, if_neg differs]
  | removing ticket deviceId =>
    refine ⟨_, _, _, rfl, ?_⟩
    intro other differs
    rw [ProviderRegistry.stateOf_delete, if_neg differs]

theorem startCall_frame (world : World) (request : Request) :
    (startCall world request).1.registry = world.registry ∧
      (startCall world request).1.changes = world.changes := by
  cases request with
  | assign deviceId provider => exact ⟨rfl, rfl⟩
  | transition deviceId next =>
    simp only [startCall]
    cases world.registry.transitionRecord deviceId next <;> exact ⟨rfl, rfl⟩
  | remove deviceId => exact ⟨rfl, rfl⟩

theorem recorded_step (boot : ProviderRegistry) (config next : Config World Call)
    (label : Schedule Request Reply) (recorded : Recorded boot config)
    (step : program.machine.step config label = some next) :
    Recorded boot next := by
  cases label with
  | call request =>
    obtain rfl := Program.step_call_eq_some.mp step
    rcases startCall_frame config.shared request with ⟨registry, changes⟩
    intro deviceId
    have kept := recorded deviceId
    simp only [World.changesOf, program, registry, changes] at kept ⊢
    exact kept
  | resume index reply =>
    rcases Program.step_resume_eq_some.mp step with
      ⟨before, call, after, shared, more, split, rfl, resumed, rfl⟩
    cases reply with
    | rejected =>
      simp only [program, resumeCall, some.injEq, Prod.mk.injEq] at resumed
      rcases resumed with ⟨rfl, rfl⟩
      exact recorded
    | stored =>
      rcases resumeCall_stored config.shared call with
        ⟨deviceId, cause, registry, stored, frame⟩
      simp only [program, stored, some.injEq, Prod.mk.injEq] at resumed
      rcases resumed with ⟨rfl, rfl⟩
      exact recorded_commit recorded frame

/-- Every pending assignment stores an `unbound` record. -/
def AssignsUnbound (config : Config World Call) : Prop :=
  ∀ ticket record, Call.assigning ticket record ∈ config.pending →
    record.state = .unbound

theorem assignsUnbound_step (config next : Config World Call)
    (label : Schedule Request Reply) (unbound : AssignsUnbound config)
    (step : program.machine.step config label = some next) :
    AssignsUnbound next := by
  intro ticket record member
  cases label with
  | call request =>
    obtain rfl := Program.step_call_eq_some.mp step
    rcases mem_append.mp member with old | new
    · exact unbound ticket record old
    · cases request with
      | assign deviceId provider =>
        simp only [program, startCall, mem_singleton, Call.assigning.injEq]
          at new
        rw [new.2]
        rfl
      | transition deviceId target =>
        simp only [program, startCall] at new
        split at new <;> simp at new
      | remove deviceId => simp [program, startCall] at new
  | resume index reply =>
    rcases Program.step_resume_eq_some.mp step with
      ⟨before, call, after, shared, more, split, rfl, resumed, rfl⟩
    have nothingMore : more = [] := by
      cases reply with
      | rejected =>
        simp only [program, resumeCall, some.injEq, Prod.mk.injEq] at resumed
        exact resumed.2.symm
      | stored =>
        rcases resumeCall_stored config.shared call with ⟨_, _, _, stored, _⟩
        simp only [program, stored, some.injEq, Prod.mk.injEq] at resumed
        exact resumed.2.symm
    subst nothingMore
    refine unbound ticket record ?_
    rw [split]
    simp only [append_nil, mem_append, mem_cons] at member ⊢
    tauto

theorem followsLifecycle_commit_iff {boot : ProviderRegistry} {world : World}
    {pending more : List Call} {cause : Cause}
    (recorded : Recorded boot ⟨world, pending⟩)
    (follows : FollowsLifecycle boot ⟨world, pending⟩) :
    FollowsLifecycle boot ⟨world.commit deviceId cause registry, more⟩ ↔
      Change.Legal (latestRemoval 0 (world.changesOf deviceId))
        { deviceId
          before := world.registry.stateOf deviceId
          cause
          after := registry.stateOf deviceId } := by
  constructor
  · intro extended
    have path := extended deviceId
    simp only [changesOf_commit_same, legalPath_concat] at path
    exact path.2.2
  · intro legal other
    by_cases same : other = deviceId
    · subst same
      simp only [changesOf_commit_same, legalPath_concat]
      exact ⟨follows other, (recorded other).symm, legal⟩
    · simp only [changesOf_commit_other world cause registry same]
      exact follows other

theorem followsLifecycle_step_iff (boot : ProviderRegistry)
    (config next : Config World Call) (label : Schedule Request Reply)
    (recorded : Recorded boot config) (unbound : AssignsUnbound config)
    (follows : FollowsLifecycle boot config)
    (step : program.machine.step config label = some next) :
    FollowsLifecycle boot next ↔ CommitsCurrent config label := by
  cases label with
  | call request =>
    obtain rfl := Program.step_call_eq_some.mp step
    rcases startCall_frame config.shared request with ⟨_, changes⟩
    simp only [CommitsCurrent, iff_true]
    intro deviceId
    have kept := follows deviceId
    simp only [World.changesOf, program, changes] at kept ⊢
    exact kept
  | resume index reply =>
    rcases Program.step_resume_eq_some.mp step with
      ⟨before, call, after, shared, more, split, rfl, resumed, rfl⟩
    cases reply with
    | rejected =>
      simp only [program, resumeCall, some.injEq, Prod.mk.injEq] at resumed
      rcases resumed with ⟨rfl, rfl⟩
      simp only [CommitsCurrent, iff_true]
      exact follows
    | stored =>
      have found : config.pending[before.length]? = some call := by
        simp [split]
      simp only [CommitsCurrent, found]
      cases call with
      | assigning ticket record =>
        simp only [program, resumeCall, some.injEq, Prod.mk.injEq] at resumed
        rcases resumed with ⟨rfl, rfl⟩
        rw [followsLifecycle_commit_iff recorded follows]
        have starts : record.state = .unbound :=
          unbound ticket record (by simp [split])
        simp [Change.Legal, ProviderRegistry.stateOf_write, starts]
      | transitioning record =>
        simp only [program, resumeCall, some.injEq, Prod.mk.injEq] at resumed
        rcases resumed with ⟨rfl, rfl⟩
        rw [followsLifecycle_commit_iff recorded follows]
        simp [Change.Legal, ProviderRegistry.stateOf_write]
      | removing ticket deviceId =>
        simp only [program, resumeCall, some.injEq, Prod.mk.injEq] at resumed
        rcases resumed with ⟨rfl, rfl⟩
        rw [followsLifecycle_commit_iff recorded follows]
        simp [Change.Legal, ProviderRegistry.stateOf_delete]

end ProviderRegistryRuns

end SupremeOs.IntegrationLayer
