import SupremeOs.Gateway.TunnelClient

/-!
# One broker connection

A started client should have either one socket to the broker or one timer that
will make one, and a stopped client should make none.

The timers and the sockets of an earlier session are not told apart from those
of the present one: a timer that is still armed at a new start makes a second
socket, and an old socket that closes late arms a second timer.
-/

namespace SupremeOs.Gateway

open Support List

namespace TunnelClient

/-- The socket is open or pending. -/
def isUp (client : TunnelClient) (socket : Nat) : Bool :=
  client.sockets[socket]?.any SocketPhase.isUp

end TunnelClient

structure OneConnection (client : TunnelClient) : Prop where
  one : ∀ first second, client.isUp first = true → client.isUp second = true → first = second
  connected : client.started = true → ((∃ socket, client.isUp socket = true) ∧ client.timers = 0) ∨
      ((∀ socket, client.isUp socket = false) ∧ client.timers = 1)

def MakesNoneWhileStopped (client : TunnelClient) (label : TunnelLabel) (next : TunnelClient) :
    Prop :=
  client.stopped = true → label ≠ .start → next.sockets.length = client.sockets.length

/-- No timer is armed at a start, and only the present socket closes while the client runs. -/
def startsClean (client : TunnelClient) : TunnelLabel → Prop
  | .start => client.timers = 0
  | .event (.brokerClosed socket) => client.stopped = false → client.ws = some socket
  | .event .stop | .event (.frame _ _) | .event (.brokerOpened _) | .event .reconnect
  | .event (.localOpened _) | .event (.localMessage _ _) | .event (.localClosed _) => True

instance (client : TunnelClient) : ∀ label, Decidable (startsClean client label) := by
  intro label
  unfold startsClean
  split <;> infer_instance

/-- The connection to the broker is as before. -/
structure SameConnection (client next : TunnelClient) : Prop where
  ws : next.ws = client.ws
  stopped : next.stopped = client.stopped
  started : next.started = client.started
  timers : next.timers = client.timers
  length : next.sockets.length = client.sockets.length
  isUp : ∀ socket, next.isUp socket = client.isUp socket
  closing : ∀ socket : Nat, next.sockets[socket]? = some .closing →
    client.sockets[socket]? = some .closing

namespace SameConnection

variable {client middle next : TunnelClient}

theorem of_fields (ws : next.ws = client.ws) (stopped : next.stopped = client.stopped)
    (started : next.started = client.started) (timers : next.timers = client.timers)
    (sockets : next.sockets = client.sockets) : SameConnection client next := by
  refine ⟨ws, stopped, started, timers, by rw [sockets], ?_, ?_⟩
  · intro socket
    rw [TunnelClient.isUp, TunnelClient.isUp, sockets]
  · rw [sockets]
    exact fun _ => id

theorem trans (first : SameConnection client middle) (second : SameConnection middle next) :
    SameConnection client next :=
  ⟨second.ws.trans first.ws, second.stopped.trans first.stopped,
    second.started.trans first.started, second.timers.trans first.timers,
    second.length.trans first.length, fun socket => (second.isUp socket).trans (first.isUp socket),
    fun socket closing => first.closing socket (second.closing socket closing)⟩

end SameConnection

section Frames

variable {client : TunnelClient}

theorem sameConnection_send (frame : HubFrame) : SameConnection client (client.send frame) := by
  rw [TunnelClient.send]
  split
  · exact .of_fields rfl rfl rfl rfl rfl
  · exact .of_fields rfl rfl rfl rfl rfl

theorem sameConnection_relay (streamId data : String) :
    SameConnection client (client.relay streamId data) := by
  rw [TunnelClient.relay]
  split
  · exact .of_fields rfl rfl rfl rfl rfl
  · exact .of_fields rfl rfl rfl rfl rfl

theorem sameConnection_onFrame (socket : Nat) (frame : BrokerFrame) :
    SameConnection client (client.onFrame socket frame) := by
  cases frame with
  | challenge nonce =>
    rw [TunnelClient.onFrame]
    split
    · exact .of_fields rfl rfl rfl rfl rfl
    · exact sameConnection_send _
  | ready | other => exact .of_fields rfl rfl rfl rfl rfl
  | streamOpen id path | streamClose id =>
    rw [TunnelClient.onFrame]
    split <;> exact .of_fields rfl rfl rfl rfl rfl
  | streamData id data =>
    rw [TunnelClient.onFrame]
    split
    · exact .of_fields rfl rfl rfl rfl rfl
    · exact sameConnection_relay id data

theorem sameConnection_localClosed (index : Nat) (streamId : String) :
    SameConnection client (client.localClosed index streamId) := by
  have delisted : SameConnection client (client.delist index streamId) :=
    .of_fields rfl rfl rfl rfl rfl
  exact delisted.trans (sameConnection_send _)

inductive ConnectionStep (client : TunnelClient) : TunnelEvent → TunnelClient → Prop where
  | stop : ConnectionStep client .stop client.stop
  | brokerClosed (socket : Nat) (phase : SocketPhase)
      (found : client.sockets[socket]? = some phase) :
      ConnectionStep client (.brokerClosed socket) (client.brokerClosed socket)
  | reconnect (timers : Nat) (armed : client.timers = timers + 1) :
      ConnectionStep client .reconnect { client with timers := timers }.connect
  | same {event : TunnelEvent} {next : TunnelClient} (same : SameConnection client next)
      (clean : startsClean client (.event event)) : ConnectionStep client event next

theorem sameConnection_brokerOpened {socket : Nat}
    (pending : client.sockets[socket]? = some .connecting) :
    SameConnection client
      { client with sockets := client.sockets.modify socket fun _ => .live } := by
  refine ⟨rfl, rfl, rfl, rfl, length_modify .., ?_, ?_⟩
  · intro other
    rw [TunnelClient.isUp, TunnelClient.isUp, Cells.getElem?_modify]
    split
    · rename_i same
      subst same
      simp [pending, SocketPhase.isUp]
    · rfl
  · intro other closing
    rw [Cells.getElem?_modify] at closing
    split at closing
    · rename_i same
      subst same
      simp [pending] at closing
    · exact closing

theorem connectionStep_of_handle {event : TunnelEvent} {next : TunnelClient}
    (taken : client.handle event = some next) : ConnectionStep client event next := by
  cases event with
  | stop =>
    cases taken
    exact .stop
  | frame socket frame =>
    simp only [TunnelClient.handle] at taken
    split at taken
    · cases taken
      have noted : SameConnection client { client with received := client.received ++ [frame] } :=
        .of_fields rfl rfl rfl rfl rfl
      exact .same (noted.trans (sameConnection_onFrame socket frame)) trivial
    · cases taken
  | brokerOpened socket =>
    simp only [TunnelClient.handle] at taken
    split at taken
    · rename_i pending
      cases taken
      exact .same (sameConnection_brokerOpened pending) trivial
    · cases taken
  | brokerClosed socket =>
    simp only [TunnelClient.handle] at taken
    split at taken
    · cases taken
    · cases taken
    · rename_i phase _ found
      cases taken
      exact .brokerClosed socket phase found
  | reconnect =>
    simp only [TunnelClient.handle] at taken
    split at taken
    · cases taken
    · rename_i timers armed
      cases taken
      exact .reconnect timers armed
  | localOpened index =>
    simp only [TunnelClient.handle] at taken
    split at taken
    · cases taken
      exact .same (.of_fields rfl rfl rfl rfl rfl) trivial
    · cases taken
  | localMessage index data =>
    simp only [TunnelClient.handle] at taken
    split at taken
    · cases taken
      exact .same (sameConnection_send _) trivial
    · cases taken
  | localClosed index =>
    simp only [TunnelClient.handle] at taken
    split at taken
    · cases taken
    · cases taken
    · cases taken
      exact .same (sameConnection_localClosed index _) trivial

end Frames

structure ConnectionSound (client : TunnelClient) : Prop where
  current : ∀ socket, client.ws = some socket ↔ client.isUp socket = true
  running : client.started = true → client.stopped = false
  idle : client.started = false → client.ws = none
  unused : client.started = false → client.stopped = false → client.timers = 0 ∧ client.sockets = []

section Steps

variable {client next : TunnelClient}

theorem SameConnection.sound (same : SameConnection client next) (sound : ConnectionSound client) :
    ConnectionSound next := by
  refine ⟨?_, ?_, ?_, ?_⟩
  · intro socket
    rw [same.ws, same.isUp]
    exact sound.current socket
  · rw [same.started, same.stopped]
    exact sound.running
  · rw [same.started, same.ws]
    exact sound.idle
  · rw [same.started, same.stopped, same.timers]
    intro idle running
    rcases sound.unused idle running with ⟨timers, sockets⟩
    refine ⟨timers, eq_nil_of_length_eq_zero ?_⟩
    rw [same.length, sockets]
    rfl

theorem ConnectionSound.oneConnection_iff (sound : ConnectionSound client) : OneConnection client ↔
      (client.started = true → (client.ws = none ↔ client.timers = 1) ∧ client.timers ≤ 1) := by
  have isUp_iff : (∃ socket, client.isUp socket = true) ↔ client.ws ≠ none := by
    rw [Option.ne_none_iff_exists']
    exact exists_congr fun socket => (sound.current socket).symm
  have allDown_iff : (∀ socket, client.isUp socket = false) ↔ client.ws = none := by
    rw [← not_iff_not, ← ne_eq, ← isUp_iff]
    simp
  constructor
  · intro one started
    rcases one.connected started with ⟨up, timers⟩ | ⟨down, timers⟩
    · have present := isUp_iff.mp up
      exact ⟨by simp [present, timers], by omega⟩
    · have absent := allDown_iff.mp down
      exact ⟨by simp [absent, timers], by omega⟩
  · intro connected
    refine ⟨?_, ?_⟩
    · intro first second up other
      have same := ((sound.current first).mpr up).symm.trans ((sound.current second).mpr other)
      exact Option.some.inj same
    · intro started
      rcases connected started with ⟨absent, few⟩
      rw [isUp_iff, allDown_iff]
      by_cases down : client.ws = none
      · exact .inr ⟨down, absent.mp down⟩
      · exact .inl ⟨down, by have := mt absent.mpr down; omega⟩

theorem ConnectionSound.connect (sound : ConnectionSound client) (started : client.started = true)
    (alone : client.ws = none) : ConnectionSound client.connect := by
  have running := sound.running started
  have down : ∀ socket, client.isUp socket = false := by
    intro socket
    have absent := (sound.current socket).not.mp (by simp [alone])
    simpa using absent
  rw [TunnelClient.connect, running]
  refine ⟨?_, fun _ => rfl, ?_, ?_⟩
  · intro socket
    have before := down socket
    rw [TunnelClient.isUp] at before
    by_cases new : socket = client.sockets.length
    · simp [TunnelClient.isUp, new, SocketPhase.isUp]
    · simp [TunnelClient.isUp, new, before, eq_comm]
  · intro idle
    rw [started] at idle
    cases idle
  · intro idle
    rw [started] at idle
    cases idle

theorem isUp_modify (socket other : Nat) (change : SocketPhase → SocketPhase)
    (sockets : next.sockets = client.sockets.modify socket change) :
    next.isUp other =
      if socket = other then client.sockets[other]?.any fun phase => (change phase).isUp
      else client.isUp other := by
  rw [TunnelClient.isUp, TunnelClient.isUp, sockets, Cells.getElem?_modify]
  split
  · rw [Option.any_map]
  · rfl

theorem ConnectionSound.drop (sound : ConnectionSound client) (socket : Nat)
    (ws : next.ws = if client.ws = some socket then none else client.ws)
    (isUp : ∀ other, next.isUp other = (client.isUp other && decide (other ≠ socket))) :
    ∀ other, next.ws = some other ↔ next.isUp other = true := by
  intro other
  rw [ws, isUp, Bool.and_eq_true, ← sound.current, decide_eq_true_eq]
  by_cases present : client.ws = some socket
  · simp only [present, if_true, reduceCtorEq, Option.some.injEq, false_iff, not_and, not_not]
    exact Eq.symm
  · simp only [present, if_false]
    constructor
    · intro found
      refine ⟨found, ?_⟩
      rintro rfl
      exact present found
    · exact fun found => found.1

theorem ConnectionSound.stop (sound : ConnectionSound client) : ConnectionSound client.stop := by
  refine ⟨?_, fun started => (by cases started), fun _ => rfl, fun _ running => (by cases running)⟩
  intro socket
  rw [TunnelClient.isUp]
  have current := sound.current socket
  rw [TunnelClient.isUp] at current
  cases ws : client.ws with
  | none =>
    rw [ws] at current
    simp only [TunnelClient.stop, ws, Option.toList_none, Cells.modifyAll, foldl_nil]
    simpa using current
  | some present =>
    rw [ws] at current
    simp only [TunnelClient.stop, ws, Option.toList_some, Cells.modifyAll, foldl_cons,
      foldl_nil, Cells.getElem?_modify]
    by_cases same : present = socket
    · subst same
      cases found : client.sockets[present]? with
      | none => simp
      | some phase => cases phase <;> simp [SocketPhase.close, SocketPhase.isUp]
    · simpa [same] using current

theorem ConnectionSound.brokerClosed (sound : ConnectionSound client) {socket : Nat}
    (there : client.sockets ≠ []) : ConnectionSound (client.brokerClosed socket) := by
  refine ⟨sound.drop socket rfl fun other => ?_, sound.running, ?_, ?_⟩
  · rw [@isUp_modify client (client.brokerClosed socket) socket other _ rfl]
    by_cases same : socket = other
    · subst same
      simp [SocketPhase.isUp]
    · simp [same, Ne.symm same]
  · intro idle
    have absent := sound.idle idle
    simp [TunnelClient.brokerClosed, absent]
  · intro idle running
    exact absurd (sound.unused idle running).2 there

theorem ConnectionSound.reconnect (sound : ConnectionSound client) (one : OneConnection client)
    {timers : Nat} (armed : client.timers = timers + 1) :
    ConnectionSound { client with timers := timers }.connect := by
  have before : ConnectionSound { client with timers := timers } := by
    refine ⟨sound.current, sound.running, sound.idle, fun idle running => ?_⟩
    have unused := (sound.unused idle running).1
    omega
  by_cases started : client.started = true
  · have connected := sound.oneConnection_iff.mp one started
    refine before.connect started (connected.1.mpr ?_)
    omega
  · have idle := eq_false_of_ne_true started
    by_cases stopped : client.stopped = true
    · rwa [TunnelClient.connect, if_pos stopped]
    · have unused := (sound.unused idle (eq_false_of_ne_true stopped)).1
      omega

theorem oneTimer_brokerClosed (sound : ConnectionSound client)
    (one : client.started = true → (client.ws = none ↔ client.timers = 1) ∧ client.timers ≤ 1)
    {socket : Nat} {phase : SocketPhase} (found : client.sockets[socket]? = some phase) :
    ((client.brokerClosed socket).started = true →
        ((client.brokerClosed socket).ws = none ↔ (client.brokerClosed socket).timers = 1) ∧
          (client.brokerClosed socket).timers ≤ 1) ↔
      startsClean client (.event (.brokerClosed socket)) := by
  simp only [TunnelClient.brokerClosed, startsClean]
  by_cases stopped : client.stopped = true
  · have idle : client.started ≠ true := by
      intro started
      rw [sound.running started] at stopped
      cases stopped
    exact iff_of_true (fun started => absurd started idle) fun running => by
      rw [running] at stopped
      cases stopped
  · have running := eq_false_of_ne_true stopped
    have started : client.started = true := by
      by_contra idle
      have unused := (sound.unused (eq_false_of_ne_true idle) running).2
      simp [unused] at found
    have connected := one started
    by_cases present : client.ws = some socket
    · simp only [present, reduceCtorEq, false_iff] at connected
      simp only [started, running, present, if_true, Bool.false_eq_true, if_false, true_implies,
        true_iff, iff_true]
      omega
    · simp only [started, running, present, if_false, Bool.false_eq_true, true_implies, iff_false]
      rintro ⟨unused, few⟩
      have absent := unused.mpr (by omega)
      have armed := connected.1.mp absent
      omega

theorem connectionSound_step {label : TunnelLabel} (sound : ConnectionSound client)
    (one : OneConnection client) (taken : tunnelMachine.step client label = some next) :
    ConnectionSound next := by
  cases label with
  | start =>
    simp only [tunnelMachine] at taken
    split at taken
    · cases taken
    · rename_i idle
      cases taken
      have alone := sound.idle (by simpa using idle)
      refine ConnectionSound.connect ?_ rfl alone
      exact ⟨sound.current, fun _ => rfl, fun idle => (by cases idle), fun idle =>
        (by cases idle)⟩
  | event event =>
    cases connectionStep_of_handle taken with
    | stop => exact sound.stop
    | brokerClosed socket phase found =>
      refine sound.brokerClosed ?_
      rintro none
      simp [none] at found
    | same same clean => exact same.sound sound
    | reconnect timers armed => exact sound.reconnect one armed

theorem oneConnection_step {label : TunnelLabel} (sound : ConnectionSound client)
    (one : OneConnection client) (taken : tunnelMachine.step client label = some next) :
    OneConnection next ↔ startsClean client label := by
  rw [(connectionSound_step sound one taken).oneConnection_iff]
  rw [sound.oneConnection_iff] at one
  cases label with
  | start =>
    simp only [tunnelMachine] at taken
    split at taken
    · cases taken
    · cases taken
      simp only [TunnelClient.start, TunnelClient.connect, startsClean, Bool.false_eq_true,
        if_false, reduceCtorEq, true_implies, false_iff]
      omega
  | event event =>
    cases connectionStep_of_handle taken with
    | stop =>
      refine iff_of_true (fun started => ?_) trivial
      cases started
    | brokerClosed socket phase found => exact oneTimer_brokerClosed sound one found
    | same same clean =>
      refine iff_of_true ?_ clean
      rwa [same.ws, same.started, same.timers]
    | reconnect timers armed =>
      refine iff_of_true ?_ trivial
      intro started
      by_cases stopped : client.stopped = true
      · rw [TunnelClient.connect, if_pos stopped] at started
        rw [sound.running started] at stopped
        cases stopped
      · rw [TunnelClient.connect, if_neg stopped] at started ⊢
        have connected := one started
        simp only [reduceCtorEq, false_iff]
        omega

end Steps

theorem connectionSound_initial : ConnectionSound TunnelClient.initial where
  current := fun socket => by simp [TunnelClient.initial, TunnelClient.isUp]
  running := fun _ => rfl
  idle := fun _ => rfl
  unused := fun _ _ => ⟨rfl, rfl⟩

theorem oneConnection_initial : OneConnection TunnelClient.initial := by
  rw [connectionSound_initial.oneConnection_iff]
  nofun

theorem makesNoneWhileStopped_step {client next : TunnelClient} {label : TunnelLabel}
    (taken : tunnelMachine.step client label = some next) :
    MakesNoneWhileStopped client label next := by
  intro stopped running
  cases label with
  | start => exact absurd rfl running
  | event event =>
    cases connectionStep_of_handle taken with
    | stop =>
      simp only [TunnelClient.stop, Cells.modifyAll]
      exact List.foldlRecOn (motive := fun sockets : List SocketPhase =>
          sockets.length = client.sockets.length) _ _ rfl fun sockets same socket _ =>
            (length_modify ..).trans same
    | brokerClosed socket phase found => exact length_modify ..
    | reconnect timers armed => rw [TunnelClient.connect, if_pos stopped]
    | same same clean => exact same.length

/--
A client has one connection at a time, one timer when it has none, and makes no
socket while it is stopped, in exactly the runs in which no timer is armed at a
start and, unless the client is stopped, only the present socket closes.
-/
theorem oneConnection_throughout_iff (labels : List TunnelLabel) :
    (tunnelMachine.Throughout OneConnection TunnelClient.initial labels ∧
        tunnelMachine.EachStep MakesNoneWhileStopped TunnelClient.initial labels) ↔
      tunnelMachine.Guarded startsClean TunnelClient.initial labels := by
  have throughout : tunnelMachine.Throughout OneConnection TunnelClient.initial labels ↔
      tunnelMachine.Guarded startsClean TunnelClient.initial labels :=
    Machine.throughout_iff_guarded ConnectionSound
      (fun _ _ _ sound one taken => oneConnection_step sound one taken)
      (fun _ _ _ sound one _ taken => connectionSound_step sound one taken)
      connectionSound_initial oneConnection_initial
  have stopped : tunnelMachine.EachStep MakesNoneWhileStopped TunnelClient.initial labels :=
    @Machine.eachStep_of_step _ _ _ (fun _ => True) _ (fun _ _ _ _ _ => trivial)
      (fun _ _ _ _ taken => makesNoneWhileStopped_step taken) _ _ trivial
  rw [throughout]
  exact and_iff_left stopped

/-- The client is stopped and started again; then the first socket's `close` comes. -/
def quickRestart : List TunnelLabel :=
  [.start, .event (.brokerOpened 0), .event .stop, .start, .event (.brokerClosed 0),
    .event .reconnect]

/-- The late `close` arms a timer beside the new socket, and two sockets are then up. -/
theorem oneConnection_fails_quickRestart : ¬ ∀ labels : List TunnelLabel,
      tunnelMachine.Throughout OneConnection TunnelClient.initial labels ∧
        tunnelMachine.EachStep MakesNoneWhileStopped TunnelClient.initial labels := by
  intro every
  have reached : tunnelMachine.run TunnelClient.initial quickRestart =
      some ⟨some 2, false, false, OrderedMap.empty, OrderedMap.empty,
        [.closed, .connecting, .connecting], 0, [], true, [], []⟩ := by
    decide
  have final := Machine.property_of_throughout (every quickRestart).1 reached
  have same := final.one 1 2 (by decide) (by decide)
  cases same

end SupremeOs.Gateway
