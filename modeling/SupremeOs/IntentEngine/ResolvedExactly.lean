import Mathlib.Data.List.Nodup
import SupremeOs.IntentEngine.Engine
import SupremeOs.Support.Machine

/-!
# Rooms are resolved exactly

A run on a room commands the devices whose latest version is in the room and
has one of the capabilities, each of them once, unless it ends before.
-/

namespace SupremeOs.IntentEngine

open Support DomainModel List

inductive IndexCall where
  | hydrate (devices : List Device)
  | upsert (device : Device)
  | remove (deviceId : DeviceId)

def IndexCall.apply (index : CapabilityIndex) : IndexCall → CapabilityIndex
  | .hydrate devices => CapabilityIndex.hydrate devices
  | .upsert device => index.upsert device
  | .remove deviceId => index.remove deviceId

def indexAfter (calls : List IndexCall) : CapabilityIndex :=
  calls.foldl IndexCall.apply CapabilityIndex.empty

def IndexCall.version (id : DeviceId) (before : Option Device) : IndexCall → Option Device
  | .hydrate devices => (devices.filter fun device => device.id = id).getLast?
  | .upsert device => if id = device.id then some device else before
  | .remove deviceId => if id = deviceId then none else before

def latestVersion (calls : List IndexCall) (id : DeviceId) : Option Device :=
  calls.foldl (IndexCall.version id) none

theorem get_hydrate_eq_getLast? (devices : List Device) (id : DeviceId) :
    (CapabilityIndex.hydrate devices).get id =
      (devices.filter fun device => device.id = id).getLast? := by
  induction devices using List.reverseRecOn with
  | nil => rfl
  | append_singleton rest last ih =>
    rw [CapabilityIndex.get_hydrate_concat, filter_append, ih]
    by_cases own : id = last.id
    · simp [own]
    · simp [own, Ne.symm own]

theorem get_indexAfter (calls : List IndexCall) (id : DeviceId) :
    (indexAfter calls).get id = latestVersion calls id := by
  induction calls using List.reverseRecOn with
  | nil => rfl
  | append_singleton calls call ih =>
    rw [indexAfter, latestVersion, foldl_append, foldl_append, ← indexAfter,
      ← latestVersion, foldl_cons, foldl_cons, foldl_nil, foldl_nil, ← ih]
    cases call with
    | hydrate devices => exact get_hydrate_eq_getLast? devices id
    | upsert device => exact CapabilityIndex.get_upsert device id
    | remove deviceId => exact CapabilityIndex.get_remove deviceId id

/-- The device that is indexed with the identifier is in the room and has one of the
  capabilities. -/
def FitsRoom (version : Option Device) (requiredCapabilities : List CapabilityKind)
    (roomId : String) : Prop :=
  ∃ device, version = some device ∧ device.roomId = some roomId ∧
    ∃ kind ∈ requiredCapabilities, declares device kind = true

theorem declares_iff {device : Device} {kind : CapabilityKind} :
    declares device kind = true ↔ Exposes device.capabilities kind := by
  simp [declares, Exposes]

structure Collected (result : OrderedSet DeviceId × List Device) : Prop where
  seen : ∀ id, result.1.has id = true ↔ id ∈ result.2.map Device.id
  distinct : (result.2.map Device.id).Nodup

variable {result : OrderedSet DeviceId × List Device} {index : CapabilityIndex}

theorem collected_empty : Collected (OrderedMap.empty, []) := by
  constructor
  · simp [OrderedMap.has]
  · exact nodup_nil

theorem Collected.addUnseen (collected : Collected result) (device : Device) :
    Collected (addUnseen result device) := by
  rw [IntentEngine.addUnseen]
  by_cases seen : result.1.has device.id = true
  · rw [if_pos seen]
    exact collected
  · rw [if_neg seen]
    constructor
    · intro id
      rw [OrderedMap.has, OrderedMap.get_set, map_append, mem_append]
      have before := collected.seen id
      rw [OrderedMap.has] at before
      by_cases own : id = device.id
      · simp [own]
      · simp [own, before]
    · rw [map_append, nodup_append]
      refine ⟨collected.distinct, by simp, ?_⟩
      intro id old other new same
      rw [map_singleton, mem_singleton] at new
      rw [same, new] at old
      exact seen ((collected.seen device.id).mpr old)

theorem mem_addUnseen (collected : Collected result) {device : Device} {id : DeviceId} :
    id ∈ (addUnseen result device).2.map Device.id ↔
      id ∈ result.2.map Device.id ∨ id = device.id := by
  rw [addUnseen]
  by_cases seen : result.1.has device.id = true
  · rw [if_pos seen]
    constructor
    · exact .inl
    · rintro (old | rfl)
      · exact old
      · exact (collected.seen _).mp seen
  · rw [if_neg seen]
    simp

theorem collected_foldl (collected : Collected result) (devices : List Device) :
    Collected (devices.foldl addUnseen result) ∧
      ∀ id, id ∈ (devices.foldl addUnseen result).2.map Device.id ↔
        id ∈ result.2.map Device.id ∨ id ∈ devices.map Device.id := by
  induction devices generalizing result with
  | nil => exact ⟨collected, fun id => by simp⟩
  | cons device rest ih =>
    obtain ⟨goesOn, members⟩ := ih (collected.addUnseen device)
    refine ⟨goesOn, fun id => ?_⟩
    rw [foldl_cons, members id, mem_addUnseen collected, map_cons, mem_cons, or_assoc]

theorem collected_room (index : CapabilityIndex) (roomId : String) (kinds : List CapabilityKind)
    (collected : Collected result) :
    Collected (kinds.foldl (fun result kind =>
        (index.devicesWithCapabilityInRoom kind roomId).foldl addUnseen result) result) ∧
      ∀ id, id ∈ (kinds.foldl (fun result kind =>
          (index.devicesWithCapabilityInRoom kind roomId).foldl addUnseen result)
            result).2.map Device.id ↔
        id ∈ result.2.map Device.id ∨ FitsRoom (index.get id) kinds roomId := by
  induction kinds generalizing result with
  | nil => exact ⟨collected, fun id => by simp [FitsRoom]⟩
  | cons kind rest ih =>
    obtain ⟨inner, found⟩ := collected_foldl collected
      (index.devicesWithCapabilityInRoom kind roomId)
    obtain ⟨goesOn, members⟩ := ih inner
    refine ⟨goesOn, fun id => ?_⟩
    have ofKind : id ∈ (index.devicesWithCapabilityInRoom kind roomId).map Device.id ↔
        FitsRoom (index.get id) [kind] roomId := by
      rw [mem_map]
      constructor
      · rintro ⟨device, member, rfl⟩
        rcases CapabilityIndex.mem_devicesWithCapabilityInRoom.mp member with
          ⟨stored, exposes, inRoom⟩
        exact ⟨device, stored, inRoom, kind, mem_singleton_self _, declares_iff.mpr exposes⟩
      · rintro ⟨device, stored, inRoom, other, member, has⟩
        obtain rfl := mem_singleton.mp member
        obtain rfl := index.devices.keyed id device stored
        exact ⟨device, CapabilityIndex.mem_devicesWithCapabilityInRoom.mpr
          ⟨stored, declares_iff.mp has, inRoom⟩, rfl⟩
    rw [foldl_cons, members id, found id, ofKind, or_assoc]
    refine or_congr Iff.rfl ?_
    constructor
    · rintro (⟨device, stored, inRoom, other, member, has⟩ | ⟨device, stored, inRoom, other,
        member, has⟩)
      · obtain rfl := mem_singleton.mp member
        exact ⟨device, stored, inRoom, other, .head _, has⟩
      · exact ⟨device, stored, inRoom, other, .tail _ member, has⟩
    · rintro ⟨device, stored, inRoom, other, member, has⟩
      rcases mem_cons.mp member with rfl | behind
      · exact .inl ⟨device, stored, inRoom, other, mem_singleton_self _, has⟩
      · exact .inr ⟨device, stored, inRoom, other, behind, has⟩

theorem resolveDevices_room (index : CapabilityIndex) (kinds : List CapabilityKind)
    (roomId : String) :
    ((resolveDevices index kinds (.room roomId)).map Device.id).Nodup ∧
      ∀ id, id ∈ (resolveDevices index kinds (.room roomId)).map Device.id ↔
        FitsRoom (index.get id) kinds roomId := by
  obtain ⟨collected, members⟩ := collected_room index roomId kinds collected_empty
  refine ⟨collected.distinct, fun id => ?_⟩
  rw [resolveDevices, members id]
  simp

theorem of_mem_foldl_addUnseen {device : Device} (devices : List Device)
    (member : device ∈ (devices.foldl addUnseen result).2) :
    device ∈ result.2 ∨ device ∈ devices := by
  induction devices generalizing result with
  | nil => exact .inl member
  | cons head rest ih =>
    rcases ih member with before | behind
    · rw [addUnseen] at before
      split at before
      · exact .inl before
      · rcases mem_append.mp before with old | new
        · exact .inl old
        · exact .inr (mem_singleton.mp new ▸ mem_cons_self)
    · exact .inr (.tail _ behind)

theorem of_mem_foldl_kinds {device : Device} {roomId : String} (kinds : List CapabilityKind)
    (member : device ∈ (kinds.foldl (fun result kind =>
      (index.devicesWithCapabilityInRoom kind roomId).foldl addUnseen result) result).2) :
    device ∈ result.2 ∨ ∃ kind ∈ kinds, declares device kind = true := by
  induction kinds generalizing result with
  | nil => exact .inl member
  | cons kind rest ih =>
    rcases ih member with before | ⟨other, behind, has⟩
    · rcases of_mem_foldl_addUnseen _ before with old | found
      · exact .inl old
      · have exposes := (CapabilityIndex.mem_devicesWithCapabilityInRoom.mp found).2.1
        exact .inr ⟨kind, .head _, declares_iff.mpr exposes⟩
    · exact .inr ⟨other, .tail _ behind, has⟩

theorem declares_of_mem_resolveDevices {device : Device} {kinds : List CapabilityKind}
    {roomId : String} (member : device ∈ resolveDevices index kinds (.room roomId)) :
    ∃ kind ∈ kinds, declares device kind = true :=
  (of_mem_foldl_kinds kinds member).resolve_left not_mem_nil

def ExecutorCall.commands (id : DeviceId) : ExecutorCall → Bool
  | .command deviceId _ => deviceId = id
  | .getState _ _ | .getCapabilityConfig _ _ => false

/-- How many commands were sent to the device. -/
def commandsTo (id : DeviceId) (calls : List ExecutorCall) : Nat :=
  calls.countP (ExecutorCall.commands id)

/-- Commands went to the first of the devices, and to all of them if nothing failed. -/
def Sends {Result : Type} (ids : List DeviceId) (before : List ExecutorCall)
    (result : Calls Result) : Prop :=
  ∃ sent, sent <+: ids ∧ (∀ id, commandsTo id result.1 = commandsTo id before + sent.count id) ∧
    ∀ value, result.2 = .ok value → sent = ids

variable {executors : IntentEngineExecutors} {requiredCapabilities : List CapabilityKind}
variable {translate : IntentTranslator} {params : IntentParams} {device : Device}
variable {calls before : List ExecutorCall} {ids : List DeviceId}

theorem commandsTo_concat (id : DeviceId) (call : ExecutorCall) : commandsTo id (calls ++ [call]) =
      commandsTo id calls + if call.commands id = true then 1 else 0 := by
  rw [commandsTo, countP_append, countP_singleton, commandsTo]

theorem commandsTo_getState (id deviceId : DeviceId) (capability : CapabilityKind) :
    commandsTo id (calls ++ [.getState deviceId capability]) = commandsTo id calls := by
  rw [commandsTo_concat, ExecutorCall.commands, if_neg Bool.false_ne_true, Nat.add_zero]

theorem commandsTo_readConfig (id deviceId : DeviceId) (capability : CapabilityKind) :
    commandsTo id (readConfig executors deviceId capability calls).1 = commandsTo id calls := by
  unfold readConfig
  split
  · rfl
  · dsimp only
    rw [commandsTo_concat, ExecutorCall.commands, if_neg Bool.false_ne_true, Nat.add_zero]

theorem sends_of_error {Result : Type} {error : IntentFailure}
    (silent : ∀ id, commandsTo id calls = commandsTo id before) :
    Sends ids before ((calls, .error error) : Calls Result) :=
  ⟨[], nil_prefix, fun id => by rw [silent id, count_nil, Nat.add_zero],
    fun _ same => by cases same⟩

/-- A round sends one command, to its device, unless it fails before. -/
theorem sends_commandDevice (executors : IntentEngineExecutors) (translate : IntentTranslator)
    (params : IntentParams) (before : List ExecutorCall)
    (has : ∃ kind ∈ requiredCapabilities, declares device kind = true) :
    Sends [device.id] before
      (commandDevice executors requiredCapabilities translate params device before) := by
  unfold commandDevice
  split
  · rename_i none
    rcases has with ⟨kind, member, has⟩
    exact absurd has (find?_eq_none.mp none kind member)
  · rename_i capability _
    dsimp only
    split
    · exact sends_of_error fun id => commandsTo_getState id device.id capability
    · have read : ∀ id, commandsTo id
          (readConfig executors device.id capability
            (before ++ [.getState device.id capability])).1 = commandsTo id before :=
        fun id => (commandsTo_readConfig id device.id capability).trans
          (commandsTo_getState id device.id capability)
      split
      · rename_i calls error failed
        rw [failed] at read
        exact sends_of_error read
      · rename_i calls capabilityConfig came
        rw [came] at read
        split
        · exact sends_of_error read
        · rename_i command _
          refine ⟨[device.id], prefix_rfl, fun id => ?_, fun _ _ => rfl⟩
          rw [commandsTo_concat, read id, count_singleton]
          rfl

theorem sends_commandDevices {devices : List Device}
    (every : ∀ device ∈ devices, ∃ kind ∈ requiredCapabilities, declares device kind = true) :
    Sends (devices.map Device.id) before
      (commandDevices executors requiredCapabilities translate params devices before) := by
  induction devices generalizing before with
  | nil => exact ⟨[], nil_prefix, fun _ => rfl, fun _ _ => rfl⟩
  | cons device rest ih =>
    obtain ⟨sent, first, counted, complete⟩ :=
      sends_commandDevice executors translate params before (every device (.head _))
    rw [commandDevices]
    split
    · rename_i calls error failed
      rw [failed] at counted
      exact ⟨sent, first.trans (prefix_append [device.id] _), counted,
        fun _ same => by cases same⟩
    · rename_i calls came
      rw [came] at counted complete
      obtain rfl := complete () rfl
      obtain ⟨others, initial, countedRest, completeRest⟩ :=
        @ih calls fun other member => every other (.tail _ member)
      refine ⟨device.id :: others, cons_prefix_cons.mpr ⟨rfl, initial⟩, fun id => ?_,
        fun value same => congrArg (device.id :: ·) (completeRest value same)⟩
      rw [countedRest id, counted id, Nat.add_assoc, ← count_append, singleton_append]

/--
No device gets two commands, one that does not fit gets none, and if the run
ends without an error each one that fits gets its command.
-/
structure CommandsRoom (fits : DeviceId → Prop) (calls : List ExecutorCall)
    (ended : Except IntentFailure IntentRun) : Prop where
  once : ∀ id, commandsTo id calls ≤ 1
  noOther : ∀ id, ¬fits id → commandsTo id calls = 0
  every : ∀ run, ended = .ok run → ∀ id, fits id → commandsTo id calls = 1

variable {ended : Except IntentFailure IntentRun} {registry : IntentRegistry}
    {registration : IntentRegistration}

theorem commandsRoom_of_sends {fits : DeviceId → Prop} {outcome : Except IntentFailure Unit}
    (sends : Sends ids [] (calls, outcome))
    (distinct : ids.Nodup) (members : ∀ id, id ∈ ids ↔ fits id)
    (same : ∀ run, ended = .ok run → outcome = .ok ()) : CommandsRoom fits calls ended := by
  obtain ⟨sent, initial, counted, complete⟩ := sends
  have count : ∀ id, commandsTo id calls = sent.count id := by
    intro id
    rw [counted id]
    exact Nat.zero_add _
  have sentDistinct : sent.Nodup := distinct.sublist initial.sublist
  constructor
  · intro id
    rw [count id]
    exact nodup_iff_count_le_one.mp sentDistinct id
  · intro id unfit
    rw [count id, count_eq_zero]
    exact fun found => unfit ((members id).mp (initial.subset found))
  · intro run ok id fit
    obtain rfl := complete () (same run ok)
    rw [count id]
    exact count_eq_one_of_mem sentDistinct ((members id).mpr fit)

theorem commandsRoom_of_refusal {fits : DeviceId → Prop}
    (failed : ∀ run, ended ≠ .ok run) : CommandsRoom fits [] ended where
  once _ := Nat.zero_le 1
  noOther _ _ := rfl
  every run ok := absurd ok (failed run)

namespace IntentEngineState

variable {engine : IntentEngineState} {index : CapabilityIndex} {times : RunTimes}
variable {intentId : String} {target : IntentTarget} {run : IntentRun}

theorem run_calls : (engine.run index times intentId target params).2.1 =
    (attempt engine.registry index engine.executors intentId target params).calls := by
  rw [IntentEngineState.run]
  dsimp only
  split <;> rfl

theorem outcome_of_run (ok : (engine.run index times intentId target params).2.2 = .ok run) :
    (attempt engine.registry index engine.executors intentId target params).outcome = .ok () := by
  rw [IntentEngineState.run] at ok
  dsimp only at ok
  split at ok
  · rename_i done
    exact done
  · cases ok

end IntentEngineState

theorem attempt_cases
    {intentId : String} (index : CapabilityIndex) (executors : IntentEngineExecutors)
    (target : IntentTarget) (params : IntentParams)
    (registered : registry.get intentId = some registration)
    (required : registration.definition.requiredCapabilities ≠ []) :
    (∃ failure, attempt registry index executors intentId target params =
      ⟨[], [], .error failure⟩) ∨ ∃ translate resolvedParams devices,
      devices = resolveDevices index registration.definition.requiredCapabilities target ∧
      attempt registry index executors intentId target params = ⟨devices.map Device.id,
          (commandDevices executors registration.definition.requiredCapabilities translate
            resolvedParams devices []).1,
          (commandDevices executors registration.definition.requiredCapabilities translate
            resolvedParams devices []).2⟩ := by
  rw [attempt, registered]
  dsimp only
  split
  · exact .inl ⟨_, rfl⟩
  · split
    · exact .inl ⟨_, rfl⟩
    · rename_i resolvedParams _
      split
      · exact .inl ⟨_, rfl⟩
      · split
        · exact .inl ⟨_, rfl⟩
        · rename_i translate _
          exact .inr ⟨translate, resolvedParams, _, rfl, rfl⟩

theorem attempt_commandsRoom {intentId : String} (index : CapabilityIndex)
    (roomId : String) (registered : registry.get intentId = some registration)
    (required : registration.definition.requiredCapabilities ≠ []) (same : ∀ run, ended = .ok run →
      (attempt registry index executors intentId (.room roomId) params).outcome = .ok ()) :
    CommandsRoom
      (fun id => FitsRoom (index.get id) registration.definition.requiredCapabilities roomId)
      (attempt registry index executors intentId (.room roomId) params).calls ended := by
  rcases attempt_cases index executors (.room roomId) params registered required with
    ⟨failure, refused⟩ | ⟨translate, resolvedParams, devices, resolved, commanded⟩
  · rw [refused] at same ⊢
    refine commandsRoom_of_refusal fun run ok => ?_
    cases same run ok
  · rw [commanded] at same ⊢
    obtain ⟨distinct, members⟩ :=
      resolveDevices_room index registration.definition.requiredCapabilities roomId
    rw [← resolved] at distinct members
    refine commandsRoom_of_sends ?_ distinct members same
    refine sends_commandDevices fun device member => ?_
    rw [resolved] at member
    exact declares_of_mem_resolveDevices member

/-- After every history of the index a run on a room commands the devices that fit it. -/
theorem run_commandsRoom (history : List IndexCall) (engine : IntentEngineState)
    (times : IntentEngineState.RunTimes) (intentId roomId : String) (params : IntentParams)
    (registration : IntentRegistration)
    (registered : engine.registry.get intentId = some registration)
    (required : registration.definition.requiredCapabilities ≠ []) :
    CommandsRoom
      (fun id => FitsRoom (latestVersion history id)
        registration.definition.requiredCapabilities roomId)
      (engine.run (indexAfter history) times intentId (.room roomId) params).2.1
      (engine.run (indexAfter history) times intentId (.room roomId) params).2.2 := by
  rw [IntentEngineState.run_calls]
  simp only [← get_indexAfter]
  refine attempt_commandsRoom (indexAfter history) roomId registered required ?_
  intro run ok
  exact IntentEngineState.outcome_of_run ok

def obeying : IntentEngineExecutors where
  command _ _ _ := .ok ()
  getState _ _ _ := .ok none
  getCapabilityConfig := none

def toggleLight : IntentRegistration where
  definition := ⟨"toggleLight", [.onoff], [], [.device, .room]⟩
  translate := some fun _ =>
    .ok ⟨.onoff, OrderedMap.empty.set "action" (.primitive (.text "toggle"))⟩
  runSystem := none

def tiltDown : IntentRegistration where
  definition := ⟨"tiltDown", [.position], [], [.device, .room]⟩
  translate := some fun _ => .error (.supreme ⟨"backend_unavailable",
    "tilt is not a modeled Supreme capability field yet — no device can honor the tiltDown intent"⟩)
  runSystem := none

def twoIntents : IntentEngineState where
  registry := (OrderedMap.empty.set "toggleLight" toggleLight).set "tiltDown" tiltDown
  executors := obeying
  runs := []
  historyLimit := 100
  runSeq := 0

def blind : Device :=
  ⟨"blind", "home", some "room", "Blind", .cover, none, none, none, .online,
    [⟨.onoff, OrderedMap.empty⟩, ⟨.position, OrderedMap.empty⟩], OrderedMap.empty, OrderedMap.empty⟩

theorem toggleLight_commandsRoom : CommandsRoom
    (fun id => FitsRoom (latestVersion [.hydrate [blind]] id) [.onoff] "room")
    (twoIntents.run (indexAfter [.hydrate [blind]]) ⟨0, 0, 0⟩ "toggleLight" (.room "room")
      OrderedMap.empty).2.1
    (twoIntents.run (indexAfter [.hydrate [blind]]) ⟨0, 0, 0⟩ "toggleLight" (.room "room")
      OrderedMap.empty).2.2 :=
  run_commandsRoom [.hydrate [blind]] twoIntents ⟨0, 0, 0⟩ "toggleLight" "room" OrderedMap.empty
    toggleLight rfl (cons_ne_nil _ _)

/-- No executor fails, and yet the blind in the room is not commanded. -/
theorem tiltDown_commands_none :
    (∀ calls id command, twoIntents.executors.command calls id command = .ok ()) ∧
      (∀ calls id capability, twoIntents.executors.getState calls id capability = .ok none) ∧
      twoIntents.registry.get "tiltDown" = some tiltDown ∧
      FitsRoom (latestVersion [.hydrate [blind]] "blind") tiltDown.definition.requiredCapabilities
        "room" ∧
      commandsTo "blind" (twoIntents.run (indexAfter [.hydrate [blind]]) ⟨0, 0, 0⟩ "tiltDown"
        (.room "room") OrderedMap.empty).2.1 = 0 := by
  refine ⟨fun _ _ _ => rfl, fun _ _ _ => rfl, rfl, ?_, by decide +kernel⟩
  exact ⟨blind, by decide +kernel, rfl, .position, mem_singleton_self _, by decide +kernel⟩

/-- Registrations one after another; one that throws changes nothing. -/
def registrations : Machine IntentRegistry IntentRegistration where
  step registry call :=
    match registry.register call.definition call.translate call.runSystem with
    | .ok next => some next
    | .error _ => some registry

/-- Every intent is registered under its own name and has the handler that a run asks for. -/
def Wired (registry : IntentRegistry) : Prop :=
  ∀ intentId registration, registry.get intentId = some registration →
    registration.definition.id = intentId ∧
      if registration.definition.requiredCapabilities = [] then registration.runSystem ≠ none
      else registration.translate ≠ none ∧ registration.runSystem = none

theorem wired_register {registry next : IntentRegistry} {call : IntentRegistration}
    (wired : Wired registry)
    (accepted : registry.register call.definition call.translate call.runSystem = .ok next) :
    Wired next := by
  unfold IntentRegistry.register at accepted
  dsimp only at accepted
  split at accepted
  · cases accepted
  · split at accepted
    · cases accepted
    · split at accepted <;> cases accepted
      refine OrderedMap.forall_get_set ⟨rfl, ?_⟩ fun id registration _ => wired id registration
      split <;> simp_all

/-- A parameter has a value that was given and fits, or the default of one that may be omitted. -/
def Settled (intentId : String) (params resolved : IntentParams) (spec : IntentParameterSpec) :
    Prop :=
  match (params.get spec.key).getD (.primitive .undefined) with
  | .primitive .undefined => spec.required = false ∧
    resolved.get spec.key = (spec.default.map JsValue.primitive).or (params.get spec.key)
  | value => validateOne intentId spec value = .ok () ∧ resolved.get spec.key = some value

theorem settled_congr {intentId : String} {params next resolved : IntentParams}
    {spec : IntentParameterSpec} (same : next.get spec.key = params.get spec.key) :
    Settled intentId next resolved spec ↔ Settled intentId params resolved spec := by
  unfold Settled
  rw [same]

theorem validateParameters_spec {specs : List IntentParameterSpec}
    {params resolved : IntentParams} {intentId : String}
    (distinct : (specs.map IntentParameterSpec.key).Nodup)
    (accepted : validateParameters intentId specs params = .ok resolved) :
    (∀ spec ∈ specs, Settled intentId params resolved spec) ∧
      ∀ key ∉ specs.map IntentParameterSpec.key, resolved.get key = params.get key := by
  induction specs generalizing params with
  | nil =>
    cases accepted
    simp
  | cons spec specs ih =>
    rcases nodup_cons.mp distinct with ⟨alone, distinct⟩
    have round : ∃ next, validateParameters intentId specs next = .ok resolved ∧
        (∀ key ≠ spec.key, next.get key = params.get key) ∧
        (resolved.get spec.key = next.get spec.key → Settled intentId params resolved spec) := by
      rw [validateParameters] at accepted
      unfold Settled
      split at accepted
      · split at accepted
        · cases accepted
        · refine ⟨_, accepted, ?_, ?_⟩
          · intro key differs
            cases spec.default <;> simp [differs]
          · intro own
            rw [own]
            cases spec.default <;> simp_all
      · split at accepted
        · cases accepted
        · refine ⟨_, accepted, fun _ _ => rfl, ?_⟩
          intro own
          cases given : params.get spec.key <;> simp_all
    rcases round with ⟨next, rest, same, own⟩
    rcases ih distinct rest with ⟨settled, others⟩
    refine ⟨fun other member => ?_, fun key absent => ?_⟩
    · rcases mem_cons.mp member with rfl | later
      · exact own (others _ alone)
      · exact (settled_congr (same _ fun equal => alone (equal ▸ mem_map_of_mem later))).mp
          (settled other later)
    · rw [map_cons, mem_cons, not_or] at absent
      rw [others key absent.2, same key absent.1]

end SupremeOs.IntentEngine
