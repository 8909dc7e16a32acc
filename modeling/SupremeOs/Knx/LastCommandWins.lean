import SupremeOs.Knx.CommandLedger

/-!
# The last command wins

A command that is issued without a connection should be queued, and whenever
there is a connection and nothing is in flight the last command for everything
should be the one that was sent last.  This is so in every run that does not
meet one of the moments at which the flag, the client and the manager disagree.
-/

namespace SupremeOs.Knx

open Support DomainModel List

namespace KnxSystem

/--
No command is rejected for want of a client, no older command follows a newer
one, and a system that is connected and at rest has sent what was asked last,
unless it was given up for its age.
-/
structure LastCommandWins (system : KnxSystem) : Prop where
  queued_offline : system.rejectedOffline = []
  in_order : system.writes.Pairwise fun earlier later =>
    earlier.target = later.target → earlier.number < later.number
  settled : system.client = true → system.tasks = [] →
    system.offlineQueue.pending = [] ∧ ∀ (target : Target) (issued : IssuedCommand),
      Ledger.lastFor IssuedCommand.target target system.accepted = some issued →
        issued ∈ system.expired ∨
          Ledger.lastFor IssuedCommand.target target system.writes = some issued

/-- The drain that an announced connection begins. -/
def AnnouncementSafe (system : KnxSystem) (outcome : Outcome) : Prop :=
  DrainSafe (system.client && outcome.reads) system.ledger system.now outcome.writes
    system.offlineQueue.pending

instance (system : KnxSystem) (outcome : Outcome) : Decidable (system.AnnouncementSafe outcome) :=
  decidableDrainSafe ..

/-- With a client, whatever is queued waits for a connection to be announced. -/
def Announced (system : KnxSystem) : Prop :=
  system.client = true → system.offlineQueue.pending ≠ [] →
    ∃ task ∈ system.tasks, task.isResolved = true

instance (system : KnxSystem) : Decidable system.Announced :=
  inferInstanceAs (Decidable (_ → _))

/-- A reconnection is announced if it is new to the manager, which has not been stopped; what
is queued then needs another announcement otherwise. -/
def ResumeSafe (system : KnxSystem) (outcome : Outcome) : Task → Prop
  | .connectResolved => system.AnnouncementSafe outcome
  | .attemptResolved =>
    if (system.connectionManager.any fun manager =>
        !manager.stopped && manager.announcesConnected) then
      system.AnnouncementSafe outcome
    else system.Announced
  | .drain nowMs items => DrainSafe system.client system.ledger nowMs outcome.writes items
  | _ => True

instance (system : KnxSystem) (outcome : Outcome) :
    ∀ task, Decidable (system.ResumeSafe outcome task) := by
  intro task
  unfold ResumeSafe
  split <;> infer_instance

end KnxSystem

namespace Outage

open KnxSystem

/--
A command finds the flag up only with a client, and nothing older waiting for
the same capability; and it finds the flag down with a client only as long as
the connection is still to be announced.
-/
def Undisturbed (system : KnxSystem) : Label → Prop
  | .command deviceId command _ =>
    system.bindingOf ⟨deviceId, command.capability⟩ ≠ none →
      (system.connected = true → system.client = true) ∧
      (system.connected = true → ∀ waiting ∈ system.ledger.queued ++
        system.ledger.batches.flatten, waiting.target ≠ ⟨deviceId, command.capability⟩) ∧
      (system.connected = false → system.client = true →
        ∃ task ∈ system.tasks, task.isResolved = true)
  | .resume place outcome =>
    ∀ task ∈ system.tasks[place]?,
      ResumeSafe { system with tasks := system.tasks.eraseIdx place } outcome task
  | _ => True

instance (system : KnxSystem) : ∀ label, Decidable (Undisturbed system label) := by
  intro label
  unfold Undisturbed
  split <;> infer_instance

end Outage

namespace KnxSystem

variable {system : KnxSystem}

theorem sameRecords_onConnected (system : KnxSystem) (outcome : Outcome) :
    SameRecords system (system.onConnected outcome) := by
  have drained := sameRecords_drainOfflineQueue
    (if outcome.reads then system else system.loseClient) outcome.writes
  unfold onConnected
  refine SameRecords.trans ?_ drained
  split <;> exact ⟨rfl, rfl, rfl⟩

theorem pending_onConnected (system : KnxSystem) (outcome : Outcome) :
    (system.onConnected outcome).offlineQueue.pending = [] := by
  rw [onConnected, drainOfflineQueue, offlineQueue_drainFrom]
  rfl

theorem kept_onConnected (outcome : Outcome) (bound : system.Bound) (kept : Kept system.ledger)
    (safe : system.AnnouncementSafe outcome) : Kept (system.onConnected outcome).ledger := by
  unfold onConnected
  unfold AnnouncementSafe at safe
  cases reads : outcome.reads with
  | true =>
    rw [reads, Bool.and_true] at safe
    exact kept_drainOfflineQueue _ bound kept safe
  | false =>
    rw [reads, Bool.and_false] at safe
    exact @kept_drainOfflineQueue system.loseClient _ (bound.mono ⟨rfl, rfl, rfl⟩) kept safe

theorem Announced.mono {after : KnxSystem} (announced : system.Announced)
    (client : after.client = true → system.client = true)
    (queue : after.offlineQueue = system.offlineQueue)
    (tasks : ∀ task ∈ system.tasks, task ∈ after.tasks) : after.Announced := by
  intro connected queued
  rw [queue] at queued
  rcases announced (client connected) queued with ⟨task, member, resolved⟩
  exact ⟨task, tasks task member, resolved⟩

structure Sound (system : KnxSystem) : Prop where
  kept : Kept system.ledger
  bound : system.Bound
  none_rejected : system.rejectedOffline = []
  announced : system.Announced

theorem Sound.mono {after : KnxSystem} (sound : system.Sound)
    (ledger : after.ledger = system.ledger) (same : SameRecords system after)
    (announced : after.Announced) : after.Sound where
  kept := ledger ▸ sound.kept
  bound := sound.bound.mono same
  none_rejected := same.rejectedOffline.trans sound.none_rejected
  announced := announced

variable {outcome : Outcome} {task : Task}

theorem sound_spawn (sound : system.Sound) (noBatch : task.batch = none) :
    (system.spawn task).Sound :=
  sound.mono (ledger_spawn noBatch system) ⟨rfl, rfl, rfl⟩
    (sound.announced.mono id rfl fun _ member => mem_append_left _ member)

theorem lastCommandWins_of_sound (sound : system.Sound) : LastCommandWins system where
  queued_offline := sound.none_rejected
  in_order := sound.kept.in_order
  settled connected idle := by
    have empty : system.offlineQueue.pending = [] := by
      by_contra queued
      rcases sound.announced connected queued with ⟨task, member, _⟩
      rw [idle] at member
      cases member
    refine ⟨empty, sound.kept.settled_of_idle ?_⟩
    rintro issued (waits | ⟨batch, member, _⟩)
    · simp [ledger, empty] at waits
    · simp [ledger, idle] at member

theorem announced_executeCommand (announced : system.Announced) (issued : IssuedCommand)
    (works : Bool) : (system.executeCommand issued works).Announced := by
  unfold executeCommand
  split_ifs
  · exact announced
  · exact announced
  · exact announced
  · exact announced.mono (fun lost => nomatch lost) rfl fun _ member => member

theorem sound_command (sound : system.Sound) {deviceId : DeviceId} {command : CapabilityCommand}
    {works : Bool} (calm : Outage.Undisturbed system (.command deviceId command works)) :
    (system.command deviceId command works).Sound := by
  unfold KnxSystem.command
  dsimp only
  split
  · exact sound
  · rename_i binding found
    have isBound : system.bindingOf ⟨deviceId, command.capability⟩ ≠ none := by
      rw [show system.bindingOf ⟨deviceId, command.capability⟩ = some binding from found]
      exact Option.some_ne_none binding
    rcases calm isBound with ⟨online, free, awaited⟩
    have bound : ∀ issued ∈
        system.accepted ++ [(⟨system.issued, deviceId, command⟩ : IssuedCommand)],
        system.bindingOf issued.target ≠ none := by
      intro issued member
      rcases mem_append.mp member with old | new
      · exact sound.bound issued old
      · rw [mem_singleton.mp new]
        exact isBound
    split
    · rename_i down
      refine ⟨sound.kept.enqueue rfl fun other => mem_pending_enqueue, bound,
        sound.none_rejected, ?_⟩
      intro connected _
      exact awaited (by simpa using down) connected
    · rename_i up
      have flag : system.connected = true := by simpa using up
      rw [if_pos (online flag)]
      split
      · rename_i sent
        rw [@executeCommand_of_sends { system with issued := system.issued + 1 } _ _ sent]
        have none_waits : ∀ other, system.ledger.Holds other →
            other.target ≠ ⟨deviceId, command.capability⟩ := by
          rintro other (waits | ⟨batch, member, inside⟩)
          · exact free flag other (mem_append_left _ waits)
          · exact free flag other
              (mem_append_right _ (mem_flatten.mpr ⟨batch, member, inside⟩))
        exact ⟨sound.kept.perform rfl none_waits, bound, sound.none_rejected,
          sound.announced.mono id rfl fun _ member => member⟩
      · rename_i failed
        rw [Bool.not_eq_true] at failed
        have same := sameRecords_executeCommand { system with issued := system.issued + 1 }
          ⟨system.issued, deviceId, command⟩ works
        have ledger := @ledger_executeCommand_of_not_sends
          { system with issued := system.issued + 1 } _ _ failed
        exact ⟨ledger ▸ sound.kept.refuse, sound.bound.mono ⟨same.1, same.2, same.3⟩,
          same.3.trans sound.none_rejected,
          @announced_executeCommand { system with issued := system.issued + 1 }
            (sound.announced.mono id rfl fun _ member => member) _ _⟩

theorem announced_of_empty (empty : system.offlineQueue.pending = []) : system.Announced :=
  fun _ queued => (queued empty).elim

theorem sound_onConnected {outcome : Outcome} (kept : Kept system.ledger) (bound : system.Bound)
    (none_rejected : system.rejectedOffline = []) (safe : system.AnnouncementSafe outcome) :
    (system.onConnected outcome).Sound where
  kept := kept_onConnected outcome bound kept safe
  bound := bound.mono (sameRecords_onConnected system outcome)
  none_rejected := (sameRecords_onConnected system outcome).rejectedOffline.trans none_rejected
  announced := announced_of_empty (pending_onConnected system outcome)

theorem announcementSafe_of_empty
    (empty : system.offlineQueue.pending = []) : system.AnnouncementSafe outcome := by
  rw [AnnouncementSafe, empty]
  trivial

theorem sound_manage {change : ConnectionManager → ConnectionManager} (sound : system.Sound) :
    (system.manage change).Sound :=
  sound.mono rfl ⟨rfl, rfl, rfl⟩ (sound.announced.mono id rfl fun _ member => member)

theorem sound_connectResolved (kept : Kept system.ledger)
    (bound : system.Bound) (none_rejected : system.rejectedOffline = [])
    (safe : system.AnnouncementSafe outcome) : (system.connectResolved outcome).Sound := by
  unfold connectResolved
  dsimp only
  apply sound_spawn _ rfl
  split
  · have first := @sound_onConnected { system with
      connectionManager := some (system.connectionManager.getD
        ConnectionManager.initial).markConnected } outcome kept bound none_rejected safe
    have begun := @sound_manage _ ConnectionManager.startHeartbeat first
    exact sound_onConnected begun.kept begun.bound begun.none_rejected
      (announcementSafe_of_empty (pending_onConnected _ outcome))
  · exact sound_onConnected kept bound none_rejected safe

theorem sound_attemptResolved {manager : ConnectionManager}
    (kept : Kept system.ledger) (bound : system.Bound) (none_rejected : system.rejectedOffline = [])
    (safe : if !manager.stopped && manager.announcesConnected then system.AnnouncementSafe outcome
      else system.Announced) : (system.attemptResolved manager outcome).Sound := by
  unfold attemptResolved
  dsimp only
  cases stopped : manager.stopped with
  | true =>
    simp only [stopped, Bool.not_true, Bool.false_and, Bool.false_eq_true, if_false] at safe
    exact ⟨kept, bound, none_rejected, safe⟩
  | false =>
    simp only [stopped, Bool.not_false, Bool.true_and] at safe
    rw [if_neg (by simp)]
    apply sound_manage
    split
    · rename_i announces
      rw [if_pos announces] at safe
      exact sound_onConnected kept bound none_rejected safe
    · rename_i quiet
      rw [if_neg quiet] at safe
      exact ⟨kept, bound, none_rejected, safe⟩

/-- A task that is neither a drain nor about to announce a connection. -/
theorem sound_resume_plain (sound : system.Sound)
    (noBatch : task.batch = none) (unresolved : task.isResolved = false) :
    (system.resume outcome task).Sound := by
  have offline : ({ system with client := false } : KnxSystem).Sound :=
    sound.mono rfl ⟨rfl, rfl, rfl⟩ (sound.announced.mono (fun lost => nomatch lost) rfl
      fun _ member => member)
  have online : ∀ task : Task, task.batch = none → task.isResolved = true →
      ({ system with client := true }.spawn task).Sound := by
    intro task noBatch resolved
    refine sound.mono ?_ ⟨rfl, rfl, rfl⟩ ?_
    · exact ledger_spawn noBatch { system with client := true }
    · intro _ _
      exact ⟨task, mem_append_right _ (.head _), resolved⟩
  cases task with
  | connectStarts =>
    simp only [resume]
    split <;> exact sound_spawn sound rfl
  | connectHandshake =>
    simp only [resume]
    split
    · exact online _ rfl rfl
    · exact offline
  | connectResolved => cases unresolved
  | connectReturns => exact sound.mono rfl ⟨rfl, rfl, rfl⟩ sound.announced
  | disconnectStops =>
    simp only [resume]
    apply sound_spawn _ rfl
    apply sound_manage
    split
    · exact offline
    · exact sound
  | disconnectStopped => exact sound_spawn sound rfl
  | disconnectCloses =>
    simp only [resume]
    split
    · exact sound_spawn offline rfl
    · exact sound
  | disconnectReturns => exact sound.mono rfl ⟨rfl, rfl, rfl⟩ sound.announced
  | attemptHandshake =>
    simp only [resume]
    split
    · exact online _ rfl rfl
    · exact sound_manage offline
  | attemptResolved => cases unresolved
  | heartbeatFailed => exact sound_spawn (sound_manage sound) rfl
  | heartbeatDisconnects =>
    simp only [resume]
    apply sound_manage
    split
    · exact offline
    · exact sound
  | drain nowMs items => cases noBatch

theorem announced_drainFrom (announced : system.Announced) (nowMs : Nat) (works : Bool)
    (items : List QueuedCommand) : (system.drainFrom nowMs works items).Announced := by
  have spawned : ∀ (before : KnxSystem) (task : Task), before.Announced →
      (before.spawn task).Announced := fun before task awaited =>
    awaited.mono id rfl fun _ member => mem_append_left _ member
  induction items with
  | nil => exact announced
  | cons item rest ih =>
    have sent := announced_executeCommand announced item.issued works
    unfold drainFrom
    split
    · exact ih
    · split
      · exact spawned _ _ announced
      · dsimp only
        split
        · exact spawned _ _ sent
        · exact sent

theorem sound_resume {place : Nat} (sound : system.Sound) (found : system.tasks[place]? = some task)
    (safe : ResumeSafe { system with tasks := system.tasks.eraseIdx place } outcome task) :
    ({ system with tasks := system.tasks.eraseIdx place }.resume outcome task).Sound := by
  have kept := sound.kept.perm (perm_batches found)
  have plain : task.batch = none →
      Kept ({ system with tasks := system.tasks.eraseIdx place } : KnxSystem).ledger := by
    intro noBatch
    rw [noBatch] at kept
    exact kept
  have bound : ({ system with tasks := system.tasks.eraseIdx place } : KnxSystem).Bound :=
    sound.bound.mono ⟨rfl, rfl, rfl⟩
  cases resolved : task.isResolved with
  | true =>
    cases task with
    | connectResolved =>
      exact sound_connectResolved (plain rfl) bound sound.none_rejected safe
    | attemptResolved =>
      simp only [resume]
      simp only [ResumeSafe] at safe
      split
      · rename_i none
        simp only [none, Option.any_none, Bool.false_eq_true, if_false] at safe
        exact ⟨plain rfl, bound, sound.none_rejected, safe⟩
      · rename_i manager some
        simp only [some, Option.any_some] at safe
        exact sound_attemptResolved (plain rfl) bound sound.none_rejected safe
    | _ => cases resolved
  | false =>
    have announced :
        ({ system with tasks := system.tasks.eraseIdx place } : KnxSystem).Announced := by
      intro connected queued
      rcases sound.announced connected queued with ⟨other, member, awaits⟩
      rcases List.getElem?_eq_some_iff.mp found with ⟨inside, here⟩
      rcases mem_cons.mp ((getElem_cons_eraseIdx_perm inside).mem_iff.mpr member) with
        same | left
      · rw [same, here, resolved] at awaits
        cases awaits
      · exact ⟨other, left, awaits⟩
    cases batch : task.batch with
    | none =>
      exact sound_resume_plain ⟨plain batch, bound, sound.none_rejected, announced⟩ batch
        resolved
    | some commands =>
      cases task with
      | drain nowMs items =>
        have records := sameRecords_drainFrom
          { system with tasks := system.tasks.eraseIdx place } nowMs outcome.writes items
        exact ⟨kept_drainFrom _ _ _ _ bound kept safe, bound.mono records,
          records.rejectedOffline.trans sound.none_rejected,
          announced_drainFrom announced nowMs outcome.writes items⟩
      | _ => cases batch

end KnxSystem

namespace Outage

open KnxSystem

theorem sound_of_step {system next : KnxSystem} {label : Label} (sound : system.Sound)
    (calm : Undisturbed system label) (taken : machine.step system label = some next) :
    next.Sound := by
  cases label with
  | tick ms =>
    cases taken
    exact sound.mono rfl ⟨rfl, rfl, rfl⟩ sound.announced
  | command deviceId command works =>
    cases taken
    exact sound_command sound calm
  | connect =>
    cases taken
    unfold KnxSystem.connect
    split
    · exact sound
    · exact sound_spawn sound rfl
  | disconnect =>
    cases taken
    unfold KnxSystem.disconnect
    split
    · exact sound_spawn sound rfl
    · dsimp only
      split <;>
        exact sound_spawn (sound.mono rfl ⟨rfl, rfl, rfl⟩ sound.announced) rfl
  | connectionError =>
    cases taken
    exact sound.mono rfl ⟨rfl, rfl, rfl⟩ fun lost => nomatch lost
  | reconnectTimer =>
    simp only [machine] at taken
    split at taken
    · cases taken
    · split at taken
      · cases taken
        unfold KnxSystem.attemptConnect
        dsimp only
        split
        · exact sound_spawn (sound.mono rfl ⟨rfl, rfl, rfl⟩ sound.announced) rfl
        · exact sound.mono rfl ⟨rfl, rfl, rfl⟩ sound.announced
      · cases taken
  | heartbeat =>
    simp only [machine] at taken
    split at taken
    · cases taken
    · split at taken
      · cases taken
        unfold KnxSystem.runHeartbeat
        split
        · exact sound_spawn sound rfl
        · exact sound
      · cases taken
  | resume place outcome =>
    simp only [machine] at taken
    split at taken
    · cases taken
    · rename_i task found
      cases taken
      exact sound_resume sound found (calm task found)

theorem sound_initial (bindings : List KnxDeviceBinding) : (initial bindings).Sound where
  kept := Ledger.kept_empty
  bound _ member := nomatch member
  none_rejected := rfl
  announced connected := nomatch connected

/--
The last command wins in every state of every run whose commands find the flag,
the client and the queue in agreement, whose connections are announced while
something is queued, and whose drains are not overtaken and lose nothing.
-/
theorem last_command_wins (bindings : List KnxDeviceBinding) (labels : List Label)
    (calm : machine.Guarded Undisturbed (initial bindings) labels) :
    machine.Throughout LastCommandWins (initial bindings) labels :=
  (Machine.throughout_of_guarded (fun _ _ _ sound calm taken => sound_of_step sound calm taken)
    (sound_initial bindings) calm).mono fun _ sound => lastCommandWins_of_sound sound

def lamp : KnxDeviceBinding where
  deviceId := "lamp"
  capability := .onoff
  writeGa := "1/1/1"
  statusGa := "1/1/2"
  extraStatusGas := []
  feedbackGas := ["1/1/2"]
  dpt := "DPT1.001"
  config := ⟨.primitive (.text "1/1/2"), none, .primitive .undefined, .primitive .undefined⟩

def turn (action : String) : CapabilityCommand :=
  ⟨.onoff, OrderedMap.empty.set "action" (.primitive (.text action))⟩

/-- Everything that is tried works. -/
def fine : Outcome := ⟨true, true, true⟩

/-- A connection from the call to the flag; the handshake succeeds. -/
def connecting : List Label :=
  [.connect, .resume 0 fine, .resume 0 fine, .resume 0 fine]

/-- A command that was queued is sent by the first connection, and a later one after it. -/
theorem queued_command_is_sent : machine.Throughout LastCommandWins (initial [lamp])
      ([.command "lamp" (turn "on") true] ++ connecting ++
        [.resume 0 fine, .resume 0 fine, .command "lamp" (turn "off") true]) :=
  last_command_wins _ _ (by decide +kernel)

/-- While the tunnel is lost, a command is rejected: the flag is still up. -/
theorem outage_rejects_command : ¬ ∀ (bindings : List KnxDeviceBinding) (labels : List Label),
      machine.Throughout LastCommandWins (initial bindings) labels := by
  intro always
  have throughout := always [lamp] (connecting ++
    [.resume 0 fine, .connectionError, .command "lamp" (turn "on") true])
  have queued := (Machine.property_of_throughout throughout rfl).queued_offline
  revert queued
  decide +kernel

end Outage

end SupremeOs.Knx
