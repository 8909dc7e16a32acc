import SupremeOs.Analytics.LoadShift
import SupremeOs.DomainModel.AutomationsDsl
import SupremeOs.Support.Histories
import SupremeOs.Support.Machine
import SupremeOs.Support.Updates

/-!
# The load shift runner

At each tick the runner switches the deferrable loads off if they may not run,
and the loads that it has paused on again if they may, or if they are no longer
deferrable.  Between the ticks the owner switches devices as they like.

The runner should switch on only what it has switched from on to off, and
should switch on again all that it has switched off.
-/

namespace SupremeOs.Gateway

open Support DomainModel Analytics List OrderedMap

/-- A command of the runner, whether the device was on before and whether it resolved. -/
structure LoadCommand where
  deviceId : DeviceId
  on : Bool
  wasOn : Bool
  resolved : Bool
deriving DecidableEq

/-- What a tick reads, and the devices that reject their commands at it. -/
structure LoadShiftInput where
  tariff : Option Tariff
  devices : List DeviceId
  now : HubDate
  ceiling : Option JsNumber
  rejecting : List DeviceId

structure LoadShift where
  pausedByUs : OrderedSet DeviceId
  devicesOn : OrderedSet DeviceId
  commands : List LoadCommand

inductive LoadShiftLabel where
  | tick (input : LoadShiftInput)
  /-- The owner switches a device. -/
  | owner (deviceId : DeviceId) (on : Bool)

namespace LoadShift

def initial (devicesOn : OrderedSet DeviceId) : LoadShift := ⟨OrderedMap.empty, devicesOn, []⟩

def switch (loads : LoadShift) (deviceId : DeviceId) (on : Bool) : LoadShift :=
  { loads with
    devicesOn :=
      if on then loads.devicesOn.set deviceId () else loads.devicesOn.delete deviceId }

/-- A command of the runner; an error is only logged. -/
def apply (rejecting : List DeviceId) (loads : LoadShift) (deviceId : DeviceId) (on : Bool) :
    LoadShift :=
  let resolved := decide (deviceId ∉ rejecting)
  let switched := if resolved then loads.switch deviceId on else loads
  { switched with
    commands := loads.commands ++ [⟨deviceId, on, loads.devicesOn.has deviceId, resolved⟩] }

def resume (rejecting : List DeviceId) (loads : LoadShift) (deviceId : DeviceId) : LoadShift :=
  let applied := loads.apply rejecting deviceId true
  { applied with pausedByUs := applied.pausedByUs.delete deviceId }

def pause (rejecting : List DeviceId) (loads : LoadShift) (deviceId : DeviceId) : LoadShift :=
  if loads.pausedByUs.has deviceId then loads
  else
    let applied := loads.apply rejecting deviceId false
    { applied with pausedByUs := applied.pausedByUs.set deviceId () }

/-- What the tariff says of the moment. -/
def decision (input : LoadShiftInput) (tariff : Tariff) : LoadShiftDecision :=
  loadShiftDecision tariff (input.now.hours * 60 + input.now.minutes)
    (decide (input.now.day = 0) || decide (input.now.day = 6)) input.ceiling

def stale (loads : LoadShift) (input : LoadShiftInput) : List DeviceId :=
  loads.pausedByUs.keys.filter fun deviceId =>
    input.tariff.isNone || !input.devices.contains deviceId

def tick (loads : LoadShift) (input : LoadShiftInput) : LoadShift :=
  let kept := (loads.stale input).foldl (resume input.rejecting) loads
  match input.tariff with
  | none => kept
  | some tariff =>
    if input.devices.isEmpty then kept
    else if (decision input tariff).allowRun then
      kept.pausedByUs.keys.foldl (resume input.rejecting) kept
    else input.devices.foldl (pause input.rejecting) kept

end LoadShift

def loadShiftMachine : Machine LoadShift LoadShiftLabel where
  step
    | loads, .tick input => some (loads.tick input)
    | loads, .owner deviceId on => some (loads.switch deviceId on)

def LoadCommand.switches (deviceId : DeviceId) (command : LoadCommand) :
    Option (Option LoadCommand) :=
  if command.deviceId = deviceId ∧ command.resolved = true then some (some command) else none

def lastSwitch (commands : List LoadCommand) (deviceId : DeviceId) : Option LoadCommand :=
  lastSet (LoadCommand.switches deviceId) none commands

def HasSwitchedOff (commands : List LoadCommand) (deviceId : DeviceId) : Prop :=
  ∃ last, lastSwitch commands deviceId = some last ∧ last.on = false ∧ last.wasOn = true

def LoadShiftInput.allowsRun (input : LoadShiftInput) : Bool :=
  input.tariff.all fun tariff => (LoadShift.decision input tariff).allowRun

/-- Loads may run, or the device is not deferrable any more. -/
def LoadShiftInput.Releases (input : LoadShiftInput) (deviceId : DeviceId) : Prop :=
  input.allowsRun = true ∨ deviceId ∉ input.devices

instance (input : LoadShiftInput) (deviceId : DeviceId) : Decidable (input.Releases deviceId) :=
  inferInstanceAs (Decidable (_ ∨ _))

structure LoadsRespected (loads : LoadShift) (label : LoadShiftLabel) (next : LoadShift) :
    Prop where
  /-- A device is switched on only after the runner has switched it from on to off. -/
  wakes : ∀ earlier command later, next.commands = earlier ++ command :: later →
    command.on = true → command.resolved = true → HasSwitchedOff earlier command.deviceId
  /-- A device that the runner has switched off is commanded on as soon as it is released. -/
  resumes : ∀ input, label = .tick input → ∀ deviceId last,
    lastSwitch loads.commands deviceId = some last → last.on = false → input.Releases deviceId →
    ∃ command ∈ next.commands.drop loads.commands.length,
      command.deviceId = deviceId ∧ command.on = true

/-- Every device that is paused is on and obeys, and every device that is resumed obeys. -/
def pausesRunning (loads : LoadShift) : LoadShiftLabel → Prop
  | .tick input =>
    (input.allowsRun = false → ∀ deviceId ∈ input.devices, loads.pausedByUs.has deviceId = false →
      loads.devicesOn.has deviceId = true ∧ deviceId ∉ input.rejecting) ∧
    ∀ deviceId ∈ loads.pausedByUs.keys, input.Releases deviceId → deviceId ∉ input.rejecting
  | .owner _ _ => True

instance (loads : LoadShift) : ∀ label, Decidable (pausesRunning loads label) := by
  intro label
  unfold pausesRunning
  split <;> infer_instance

section Steps

variable {loads : LoadShift} {deviceId other : DeviceId} {rejecting : List DeviceId}

@[simp]
theorem lastSwitch_nil : lastSwitch [] deviceId = none := rfl

variable {input : LoadShiftInput} {commands : List LoadCommand}

theorem lastSwitch_concat {command : LoadCommand}
    (mine : command.deviceId = deviceId) (resolved : command.resolved = true) :
    lastSwitch (commands ++ [command]) deviceId = some command := by
  simp [lastSwitch, LoadCommand.switches, mine, resolved]

theorem lastSwitch_concat_ne {command : LoadCommand} (differs : command.deviceId ≠ deviceId) :
    lastSwitch (commands ++ [command]) deviceId = lastSwitch commands deviceId := by
  simp [lastSwitch, LoadCommand.switches, differs]

theorem mem_of_lastSwitch {last : LoadCommand}
    (found : lastSwitch commands deviceId = some last) : last ∈ commands := by
  induction commands using List.reverseRecOn with
  | nil => cases found
  | append_singleton commands command ih =>
    by_cases mine : command.deviceId = deviceId ∧ command.resolved = true
    · rw [lastSwitch_concat mine.1 mine.2, Option.some.injEq] at found
      simp [found]
    · have earlier : lastSwitch commands deviceId = some last := by
        simpa [lastSwitch, LoadCommand.switches, mine] using found
      exact mem_append_left _ (ih earlier)

structure LoadsSound (loads : LoadShift) : Prop where
  paused : ∀ deviceId, loads.pausedByUs.has deviceId = true ↔ HasSwitchedOff loads.commands deviceId
  running : ∀ command ∈ loads.commands, command.on = false → command.wasOn = true
  wakes : ∀ earlier command later, loads.commands = earlier ++ command :: later →
    command.on = true → HasSwitchedOff earlier command.deviceId

theorem loadsSound_initial (devicesOn : OrderedSet DeviceId) : LoadsSound (.initial devicesOn) := by
  refine ⟨?_, ?_, ?_⟩
  · intro deviceId
    simp [LoadShift.initial, OrderedMap.has, HasSwitchedOff]
  · simp [LoadShift.initial]
  · simp [LoadShift.initial]

theorem LoadsSound.command (sound : LoadsSound loads) {next : LoadShift} {command : LoadCommand}
    (commands : next.commands = loads.commands ++ [command]) (resolved : command.resolved = true)
    (own : next.pausedByUs.has command.deviceId = !command.on)
    (others : ∀ other, other ≠ command.deviceId →
      next.pausedByUs.has other = loads.pausedByUs.has other)
    (wakes : command.on = true → HasSwitchedOff loads.commands command.deviceId)
    (running : command.on = false → command.wasOn = true) : LoadsSound next := by
  refine ⟨?_, ?_, ?_⟩
  · intro other
    rw [commands]
    by_cases same : other = command.deviceId
    · subst same
      rw [own, HasSwitchedOff, lastSwitch_concat rfl resolved]
      simpa using running
    · rw [others other same, HasSwitchedOff, lastSwitch_concat_ne (Ne.symm same)]
      exact sound.paused other
  · intro other member off
    rw [commands, mem_append, mem_singleton] at member
    rcases member with old | rfl
    · exact sound.running other old off
    · exact running off
  · intro earlier other later split on
    rw [commands, concat_eq_append_cons] at split
    rcases split with ⟨rfl, rfl, rfl⟩ | ⟨before, rfl, split⟩
    · exact wakes on
    · exact sound.wakes earlier other before split on

theorem commands_resume : (loads.resume rejecting deviceId).commands =
    loads.commands ++ [⟨deviceId, true, loads.devicesOn.has deviceId,
      decide (deviceId ∉ rejecting)⟩] := rfl

theorem has_resume (other : DeviceId) : (loads.resume rejecting deviceId).pausedByUs.has other =
      (decide (other ≠ deviceId) && loads.pausedByUs.has other) := by
  have applied : (loads.apply rejecting deviceId true).pausedByUs = loads.pausedByUs := by
    simp only [LoadShift.apply]
    split <;> rfl
  by_cases same : other = deviceId <;> simp [LoadShift.resume, applied, OrderedMap.has, same]

theorem isOn_resume (differs : other ≠ deviceId) :
    (loads.resume rejecting deviceId).devicesOn.has other = loads.devicesOn.has other := by
  simp only [LoadShift.resume, LoadShift.apply]
  split
  · simp [LoadShift.switch, OrderedMap.has, differs]
  · rfl

theorem LoadsSound.resume (sound : LoadsSound loads)
    (isPaused : loads.pausedByUs.has deviceId = true) (obeys : deviceId ∉ rejecting) :
    LoadsSound (loads.resume rejecting deviceId) := by
  refine sound.command commands_resume (decide_eq_true obeys) ?_ ?_ ?_ ?_
  · simp [has_resume]
  · intro other differs
    simp [has_resume, differs]
  · exact fun _ => (sound.paused deviceId).mp isPaused
  · nofun

theorem LoadsSound.pause (sound : LoadsSound loads) (obeys : loads.pausedByUs.has deviceId = false →
      loads.devicesOn.has deviceId = true ∧ deviceId ∉ rejecting) :
    LoadsSound (loads.pause rejecting deviceId) := by
  rw [LoadShift.pause]
  split
  · exact sound
  · rename_i free
    rcases obeys (by simpa using free) with ⟨isOn, obeys⟩
    have commands : (loads.apply rejecting deviceId false).commands =
        loads.commands ++ [⟨deviceId, false, true, true⟩] := by
      simp [LoadShift.apply, obeys, isOn]
    refine sound.command commands rfl ?_ ?_ ?_ ?_
    · simp [OrderedMap.has]
    · intro other differs
      have differs : other ≠ deviceId := differs
      simp [LoadShift.apply, obeys, LoadShift.switch, OrderedMap.has, differs]
    · intro on
      cases on
    · exact fun _ => rfl

structure ResumedAll (ids : List DeviceId) (loads next : LoadShift) : Prop where
  paused : ∀ deviceId, deviceId ∉ ids → next.pausedByUs.has deviceId = loads.pausedByUs.has deviceId
  isOn : ∀ deviceId, deviceId ∉ ids → next.devicesOn.has deviceId = loads.devicesOn.has deviceId
  commands : ∃ fresh, next.commands = loads.commands ++ fresh ∧
    ∀ deviceId ∈ ids, ∃ command ∈ fresh, command.deviceId = deviceId ∧ command.on = true

theorem resumedAll_foldl (ids : List DeviceId) (loads : LoadShift) :
    ResumedAll ids loads (ids.foldl (LoadShift.resume rejecting) loads) := by
  induction ids generalizing loads with
  | nil => exact ⟨fun _ _ => rfl, fun _ _ => rfl, [], by simp, by simp⟩
  | cons id rest ih =>
    rw [foldl_cons]
    have onward := ih (loads.resume rejecting id)
    refine ⟨?_, ?_, ?_⟩
    · intro deviceId apart
      rw [mem_cons, not_or] at apart
      rw [onward.paused deviceId apart.2, has_resume]
      simp [apart.1]
    · intro deviceId apart
      rw [mem_cons, not_or] at apart
      rw [onward.isOn deviceId apart.2, isOn_resume apart.1]
    · rcases onward.commands with ⟨fresh, commands, each⟩
      rw [commands_resume, append_assoc] at commands
      refine ⟨_, commands, ?_⟩
      intro deviceId member
      rcases mem_cons.mp member with rfl | later
      · exact ⟨_, .head _, rfl, rfl⟩
      · rcases each deviceId later with ⟨command, found, on⟩
        exact ⟨command, .tail _ found, on⟩

theorem LoadsSound.resumeAll {ids : List DeviceId} (distinct : ids.Nodup) (sound : LoadsSound loads)
    (each : ∀ deviceId ∈ ids, loads.pausedByUs.has deviceId = true ∧ deviceId ∉ rejecting) :
    LoadsSound (ids.foldl (LoadShift.resume rejecting) loads) := by
  induction ids generalizing loads with
  | nil => exact sound
  | cons id rest ih =>
    rw [nodup_cons] at distinct
    have own := each id (.head _)
    refine ih distinct.2 (sound.resume own.1 own.2) ?_
    intro deviceId member
    have differs : deviceId ≠ id := fun same => distinct.1 (same ▸ member)
    have later := each deviceId (.tail _ member)
    exact ⟨by simp [has_resume, differs, later.1], later.2⟩

theorem has_pause (other : DeviceId) (differs : other ≠ deviceId) :
    (loads.pause rejecting deviceId).pausedByUs.has other = loads.pausedByUs.has other ∧
      (loads.pause rejecting deviceId).devicesOn.has other = loads.devicesOn.has other := by
  rw [LoadShift.pause]
  split
  · exact ⟨rfl, rfl⟩
  · simp only [LoadShift.apply]
    split <;> simp [LoadShift.switch, OrderedMap.has, differs]

theorem isPaused_pause : (loads.pause rejecting deviceId).pausedByUs.has deviceId = true := by
  rw [LoadShift.pause]
  split
  · assumption
  · simp [OrderedMap.has]

theorem LoadsSound.pauseAll {ids : List DeviceId} (sound : LoadsSound loads)
    (each : ∀ deviceId ∈ ids, loads.pausedByUs.has deviceId = false →
      loads.devicesOn.has deviceId = true ∧ deviceId ∉ rejecting) :
    LoadsSound (ids.foldl (LoadShift.pause rejecting) loads) := by
  induction ids generalizing loads with
  | nil => exact sound
  | cons id rest ih =>
    refine ih (sound.pause (each id (.head _))) ?_
    intro deviceId member free
    by_cases same : deviceId = id
    · subst same
      rw [isPaused_pause] at free
      cases free
    · rw [(has_pause deviceId same).1] at free
      rw [(has_pause deviceId same).2]
      exact each deviceId (.tail _ member) free

theorem commands_pauseAll (ids : List DeviceId) (loads : LoadShift) :
    ∃ fresh, (ids.foldl (LoadShift.pause rejecting) loads).commands = loads.commands ++ fresh := by
  induction ids generalizing loads with
  | nil => exact ⟨[], by simp⟩
  | cons id rest ih =>
    rcases ih (loads.pause rejecting id) with ⟨fresh, commands⟩
    rw [foldl_cons, commands, LoadShift.pause]
    split
    · exact ⟨fresh, rfl⟩
    · exact ⟨_, append_assoc _ _ _⟩

theorem mem_stale : deviceId ∈ loads.stale input ↔ loads.pausedByUs.has deviceId = true ∧
      (input.tariff = none ∨ deviceId ∉ input.devices) := by
  simp [LoadShift.stale, mem_keys_iff]

/-- The runner after it has given up the stale devices. -/
def LoadShift.dropStale (loads : LoadShift) (input : LoadShiftInput) : LoadShift :=
  (loads.stale input).foldl (LoadShift.resume input.rejecting) loads

theorem LoadsSound.dropStale (sound : LoadsSound loads)
    (resumes : ∀ deviceId ∈ loads.pausedByUs.keys, input.Releases deviceId →
      deviceId ∉ input.rejecting) : LoadsSound (loads.dropStale input) := by
  refine sound.resumeAll (loads.pausedByUs.nodup.filter _) fun deviceId member => ?_
  rcases mem_stale.mp member with ⟨isPaused, gone⟩
  refine ⟨isPaused, resumes deviceId (mem_keys_iff.mpr isPaused) ?_⟩
  refine gone.imp_left fun without => ?_
  simp [LoadShiftInput.allowsRun, without]

theorem isPaused_of_dropStale (isPaused : (loads.dropStale input).pausedByUs.has deviceId = true) :
    loads.pausedByUs.has deviceId = true := by
  by_cases isStale : deviceId ∈ loads.stale input
  · exact (mem_stale.mp isStale).1
  · rw [← (resumedAll_foldl (loads.stale input) loads).paused deviceId isStale]
    exact isPaused

def Released (loads : LoadShift) (input : LoadShiftInput) (next : LoadShift) : Prop :=
  ∃ fresh, next.commands = loads.commands ++ fresh ∧
    ∀ deviceId, loads.pausedByUs.has deviceId = true → input.Releases deviceId →
      ∃ command ∈ fresh, command.deviceId = deviceId ∧ command.on = true

theorem released_of_dropStale {next : LoadShift}
    (later : ∃ fresh, next.commands = (loads.dropStale input).commands ++ fresh ∧
      ∀ deviceId, (loads.dropStale input).pausedByUs.has deviceId = true →
        deviceId ∉ loads.stale input → input.Releases deviceId →
        ∃ command ∈ fresh, command.deviceId = deviceId ∧ command.on = true) :
    Released loads input next := by
  have dropped := @resumedAll_foldl input.rejecting (loads.stale input) loads
  rcases dropped.commands with ⟨first, commands, each⟩
  rcases later with ⟨second, onward, others⟩
  refine ⟨first ++ second, ?_, ?_⟩
  · rw [onward, ← append_assoc, ← commands]
    rfl
  · intro deviceId isPaused released
    by_cases isStale : deviceId ∈ loads.stale input
    · rcases each deviceId isStale with ⟨command, member, on⟩
      exact ⟨command, mem_append_left _ member, on⟩
    · have kept : (loads.dropStale input).pausedByUs.has deviceId = true := by
        rw [LoadShift.dropStale, dropped.paused deviceId isStale]
        exact isPaused
      rcases others deviceId kept isStale released with ⟨command, member, on⟩
      exact ⟨command, mem_append_right _ member, on⟩

theorem LoadsSound.tick (sound : LoadsSound loads) (obeyed : pausesRunning loads (.tick input)) :
    LoadsSound (loads.tick input) ∧ Released loads input (loads.tick input) := by
  rcases obeyed with ⟨pauses, resumes⟩
  have dropped : LoadsSound (loads.dropStale input) := sound.dropStale resumes
  -- without a tariff or a deferrable device, all paused ones are stale
  have all_stale (every : ∀ deviceId, input.tariff = none ∨ deviceId ∉ input.devices) :
      Released loads input (loads.dropStale input) := by
    refine released_of_dropStale ⟨[], by simp, fun deviceId kept fresh _ => ?_⟩
    exact absurd (mem_stale.mpr ⟨isPaused_of_dropStale kept, every deviceId⟩) fresh
  unfold LoadShift.tick
  cases tariff : input.tariff with
  | none => exact ⟨dropped, all_stale fun _ => .inl tariff⟩
  | some found =>
    have allows : input.allowsRun = (LoadShift.decision input found).allowRun := by
      simp [LoadShiftInput.allowsRun, tariff]
    simp only
    split
    · rename_i empty
      rw [List.isEmpty_iff] at empty
      exact ⟨dropped, all_stale fun _ => .inr (by simp [empty])⟩
    · split
      · rename_i allowed
        refine ⟨dropped.resumeAll (OrderedMap.nodup _) ?_, released_of_dropStale ?_⟩
        · intro deviceId member
          have isPaused := mem_keys_iff.mp member
          refine ⟨isPaused, resumes deviceId
            (mem_keys_iff.mpr (isPaused_of_dropStale isPaused)) (.inl ?_)⟩
          rw [allows, allowed]
        · rcases (@resumedAll_foldl input.rejecting (loads.dropStale input).pausedByUs.keys
            (loads.dropStale input)).commands with ⟨fresh, commands, each⟩
          exact ⟨fresh, commands,
            fun deviceId kept _ _ => each deviceId (mem_keys_iff.mpr kept)⟩
      · rename_i forbidden
        rw [Bool.not_eq_true] at forbidden
        refine ⟨dropped.pauseAll ?_, released_of_dropStale ?_⟩
        · intro deviceId member free
          have fresh : deviceId ∉ loads.stale input := by
            simp [mem_stale, tariff, member]
          have same := @resumedAll_foldl input.rejecting (loads.stale input) loads
          rw [LoadShift.dropStale, same.paused deviceId fresh] at free
          rw [LoadShift.dropStale, same.isOn deviceId fresh]
          exact pauses (allows.trans forbidden) deviceId member free
        · rcases @commands_pauseAll input.rejecting input.devices (loads.dropStale input) with
            ⟨fresh, commands⟩
          refine ⟨fresh, commands, fun deviceId kept isFresh released => ?_⟩
          rcases released with running | apart
          · rw [allows, forbidden] at running
            cases running
          · exact absurd (mem_stale.mpr ⟨isPaused_of_dropStale kept, .inr apart⟩) isFresh

end Steps

theorem loadsSound_step : ∀ loads label next, LoadsSound loads → pausesRunning loads label →
    loadShiftMachine.step loads label = some next → LoadsSound next := by
  intro loads label next sound obeyed step
  cases label with
  | tick input =>
    cases step
    exact (sound.tick obeyed).1
  | owner deviceId on =>
    cases step
    exact ⟨sound.paused, sound.running, sound.wakes⟩

theorem loadsRespected_step {loads next : LoadShift} {label : LoadShiftLabel}
    (sound : LoadsSound loads) (obeyed : pausesRunning loads label)
    (step : loadShiftMachine.step loads label = some next) : LoadsRespected loads label next := by
  have after := loadsSound_step loads label next sound obeyed step
  refine ⟨fun earlier command later split on _ => after.wakes earlier command later split on, ?_⟩
  rintro input rfl deviceId last found off released
  cases step
  have running : last.wasOn = true := sound.running last (mem_of_lastSwitch found) off
  have isPaused := (sound.paused deviceId).mpr ⟨last, found, off, running⟩
  rcases (sound.tick obeyed).2 with ⟨fresh, commands, each⟩
  rw [commands, drop_left]
  exact each deviceId isPaused released

/-- The loads are respected in every run in which only running loads that obey are paused. -/
theorem loads_respected (devicesOn : OrderedSet DeviceId) (labels : List LoadShiftLabel)
    (guarded : loadShiftMachine.Guarded pausesRunning (.initial devicesOn) labels) :
    loadShiftMachine.EachStep LoadsRespected (.initial devicesOn) labels :=
  Machine.eachStep_of_guarded loadsSound_step
    (fun _ _ _ sound obeyed step => loadsRespected_step sound obeyed step)
    (loadsSound_initial devicesOn) guarded

/-- A charger is deferrable, and six in the evening is the dear hour. -/
def chargerAt (hours : Nat) (rejecting : List DeviceId) : LoadShiftLabel :=
  .tick {
    tariff := some ⟨"EUR", [⟨"peak", .finite 2, [.finite 18], none⟩,
      ⟨"off-peak", .finite 1, [.finite 2, .finite 22], some [.weekday, .weekend]⟩]⟩
    devices := ["charger"]
    now := ⟨0, 1, hours, 0⟩
    ceiling := none
    rejecting := rejecting }

/-- The charger is on when it is paused; the owner switches it, and it is resumed at night. -/
theorem running_charger_is_resumed :
    loadShiftMachine.EachStep LoadsRespected (.initial (OrderedMap.empty.set "charger" ()))
      [chargerAt 18 [], .owner "charger" true, chargerAt 18 ["charger"], chargerAt 22 [],
        .owner "charger" false, chargerAt 2 []] :=
  loads_respected _ _ (by decide +kernel)

/-- The owner has the charger off, and at night the runner switches it on. -/
theorem charger_is_woken : ¬ ∀ (devicesOn : OrderedSet DeviceId) (labels : List LoadShiftLabel),
      loadShiftMachine.EachStep LoadsRespected (.initial devicesOn) labels := by
  intro respected
  obtain ⟨_, night, _⟩ := respected OrderedMap.empty [chargerAt 18 [], chargerAt 22 []]
  rcases night.wakes [⟨"charger", false, false, true⟩] ⟨"charger", true, false, true⟩ []
    (by decide +kernel) rfl rfl with ⟨last, found, _, wasOn⟩
  cases found
  cases wasOn

end SupremeOs.Gateway
