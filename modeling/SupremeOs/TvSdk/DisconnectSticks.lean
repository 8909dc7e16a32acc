import SupremeOs.TvSdk.TvDeviceSession

/-!
# A deliberate disconnection sticks

From the return of `disconnect` to the next `connect`, the state of the session
should stay disconnected, no reconnect timer should be armed and no connection
should be begun at the transport.

The scheduler is stopped by `disconnect` and `establish` begins nothing after
it, so the timers and the transport stay quiet in every run.  The state does
not: an attempt that was waiting sets it when it goes on, whatever its outcome,
and so do the events of the transport that concern the connection.
-/

namespace SupremeOs.TvSdk

open Support List

/-- `disconnect` has returned and `connect` has not been called since. -/
def Off (history : List TvSessionRecord) : Prop :=
  ∃ earlier later, history = earlier ++ .disconnect :: later ∧ .connect ∉ later

structure Sticks (session : TvDeviceSession) : Prop where
  disconnected : Off session.history → session.state = .disconnected
  noTimer : Off session.history → session.reconnect.timers.armed = []
  noAttempt : ∀ earlier later, session.history = earlier ++ .disconnect :: later →
    .connect ∉ later → .begun ∉ later

def TvSessionRecord.switchesOff : TvSessionRecord → Option Bool
  | .disconnect => some true
  | .connect => some false
  | .begun => none

/-- Whether the session was disconnected last, and not connected since. -/
def isOff (session : TvDeviceSession) : Bool :=
  latest TvSessionRecord.switchesOff session.history

variable {session : TvDeviceSession}

theorem off_iff : Off session.history ↔ isOff session = true := by
  unfold isOff
  rw [latest_iff]
  constructor
  · rintro ⟨earlier, later, split, notConnected⟩
    refine ⟨earlier, .disconnect, later, split, rfl, ?_⟩
    intro other member on
    cases other with
    | connect => exact notConnected member
    | disconnect | begun => simp [TvSessionRecord.switchesOff] at on
  · rintro ⟨earlier, event, later, split, switched, kept⟩
    cases event with
    | disconnect => exact ⟨earlier, later, split, fun member => kept _ member rfl⟩
    | connect | begun => simp [TvSessionRecord.switchesOff] at switched

def TvTransportEvent.concernsConnection : TvTransportEvent → Bool
  | .connectionLost | .pairingRequired | .authenticationFailed _ => true
  | .mediaState | .foregroundApp | .error _ => false

/--
While the session is off, no attempt that was waiting goes on, and it hears no
event that concerns the connection.
-/
def quietGuard (config : Config TvDeviceSession TvSessionCall) :
    Schedule TvSessionRequest ConnectOutcome → Prop
  | .call (.transportEvent event) =>
    isOff config.shared = true → config.shared.hears = true → event.concernsConnection = false
  | .call _ => True
  | .resume _ _ => isOff config.shared = false

structure SessionSound (session : TvDeviceSession) : Prop where
  scheduler : session.reconnect.Kept
  /-- A session that is off has its flag set and its scheduler stopped. -/
  off : isOff session = true → session.stoppedDeliberately = true ∧ session.reconnect.stopped = true
  /-- Nothing is begun after a disconnection. -/
  noAttempt : ∀ earlier later, session.history = earlier ++ .disconnect :: later →
    .connect ∉ later → .begun ∉ later

theorem sticks_iff (sound : SessionSound session) :
    Sticks session ↔ (isOff session = true → session.state = .disconnected) := by
  constructor
  · intro sticks off
    exact sticks.disconnected (off_iff.mpr off)
  · intro stays
    refine ⟨fun off => stays (off_iff.mp off), ?_, sound.noAttempt⟩
    intro off
    have stopped := (sound.off (off_iff.mp off)).2
    exact sound.scheduler.tracks.armed_eq_nil_iff.mpr (sound.scheduler.off stopped)

theorem sessionSound_initial : SessionSound TvDeviceSession.initial where
  scheduler := TvReconnectScheduler.kept_initial
  off := fun off => Bool.noConfusion off
  noAttempt := by
    intro earlier later split
    simp [TvDeviceSession.initial] at split

section Operations

variable {session : TvDeviceSession}

section

variable (sound : SessionSound session)

include sound

theorem SessionSound.begin (on : isOff session = false) {state : TvSessionState} {transport : Nat} :
    SessionSound { session with
      state := state, transport := transport, subscribed := true
      history := session.history ++ [.begun] } := by
  refine ⟨sound.scheduler, ?_, ?_⟩
  · intro off
    have same := @latest_concat_of_none _ _ session.history TvSessionRecord.begun
      (rfl : TvSessionRecord.switchesOff .begun = none)
    exact absurd (on.symm.trans (same.symm.trans off)) Bool.false_ne_true
  · intro earlier later split notConnected
    rcases concat_eq_append_cons.mp split with ⟨_, other, _⟩ | ⟨before, rfl, same⟩
    · exact TvSessionRecord.noConfusion other
    · have off : isOff session = true := off_iff.mp ⟨earlier, before, same,
        fun member => notConnected (mem_append_left _ member)⟩
      exact absurd (on.symm.trans off) Bool.false_ne_true

theorem SessionSound.establish : SessionSound session.establish.1 ∧
      isOff session.establish.1 = isOff session ∧
      (isOff session = true → session.establish.1.state = session.state) := by
  unfold TvDeviceSession.establish
  split
  · exact ⟨sound, rfl, fun _ => rfl⟩
  · rename_i runs
    have on : isOff session = false := by
      by_contra off
      simp [(sound.off (eq_true_of_ne_false off)).1] at runs
    refine ⟨sound.begin on, latest_concat_of_none rfl, ?_⟩
    intro off
    exact absurd (on.symm.trans off) Bool.false_ne_true

theorem SessionSound.connect :
    SessionSound session.connect.1 ∧ isOff session.connect.1 = false := by
  have on : latest TvSessionRecord.switchesOff (session.history ++ [.connect]) = false :=
    latest_concat _
  have started : SessionSound { session with
      stoppedDeliberately := false
      reconnect := session.reconnect.start
      history := session.history ++ [TvSessionRecord.connect] } := by
    refine ⟨⟨sound.scheduler.tracks, fun stopped => Bool.noConfusion stopped⟩, ?_, ?_⟩
    · intro off
      exact absurd (on.symm.trans off) Bool.false_ne_true
    · intro earlier later split notConnected
      rcases concat_eq_append_cons.mp split with ⟨_, other, _⟩ | ⟨before, rfl, _⟩
      · exact TvSessionRecord.noConfusion other
      · exact absurd (mem_append_right _ (.head _)) notConnected
  exact ⟨started.establish.1, started.establish.2.1.trans on⟩

theorem SessionSound.disconnect :
    SessionSound session.disconnect := by
  refine ⟨sound.scheduler.stop, fun _ => ⟨rfl, rfl⟩, ?_⟩
  intro earlier later split notConnected
  rcases concat_eq_append_cons.mp split with ⟨_, _, rfl⟩ | ⟨before, rfl, same⟩
  · exact not_mem_nil
  · intro member
    rcases mem_append.mp member with earlierBegun | last
    · exact sound.noAttempt earlier before same
        (fun connected => notConnected (mem_append_left _ connected)) earlierBegun
    · exact TvSessionRecord.noConfusion (mem_singleton.mp last)

theorem SessionSound.dispose : SessionSound session.dispose := by
  unfold TvDeviceSession.dispose
  split
  · exact sound
  · exact ⟨sound.scheduler.stop, fun off => ⟨(sound.off off).1, rfl⟩, sound.noAttempt⟩

end

theorem dispose_spec :
    isOff session.dispose = isOff session ∧ session.dispose.state = session.state := by
  unfold TvDeviceSession.dispose
  split <;> exact ⟨rfl, rfl⟩

theorem SessionSound.reschedule {next : TvDeviceSession} (sound : SessionSound session)
    (kept : next.reconnect.Kept) (same : next.history = session.history)
    (flag : next.stoppedDeliberately = session.stoppedDeliberately)
    (stopped : next.reconnect.stopped = session.reconnect.stopped) : SessionSound next := by
  refine ⟨kept, ?_, ?_⟩
  · intro off
    rw [flag, stopped]
    exact sound.off (by rwa [isOff, same] at off)
  · rw [same]
    exact sound.noAttempt

theorem SessionSound.established (sound : SessionSound session) (outcome : ConnectOutcome) :
    SessionSound (session.established outcome) ∧
      isOff (session.established outcome) = isOff session ∧
      (session.established outcome).state ≠ .disconnected := by
  cases outcome with
  | resolved =>
    exact ⟨sound.reschedule ⟨sound.scheduler.tracks, sound.scheduler.off⟩ rfl rfl rfl, rfl,
      by simp [TvDeviceSession.established]⟩
  | rejected kind message =>
    have scheduled := sound.scheduler.scheduleNext
    cases kind with
    | pairingRequired | authentication =>
      exact ⟨sound.reschedule sound.scheduler rfl rfl rfl, rfl,
        by simp [TvDeviceSession.established, TvErrorKind.isRetryable]⟩
    | connection | timeout | unsupportedCommand | config | unknown =>
      exact ⟨sound.reschedule scheduled rfl rfl TvReconnectScheduler.stopped_scheduleNext, rfl,
        by simp [TvDeviceSession.established]⟩

theorem SessionSound.onTransportEvent (sound : SessionSound session) (event : TvTransportEvent) :
    SessionSound (session.onTransportEvent event) ∧
      isOff (session.onTransportEvent event) = isOff session ∧ (event.concernsConnection = true →
        (session.onTransportEvent event).state ≠ .disconnected) ∧
      (event.concernsConnection = false →
        (session.onTransportEvent event).state = session.state) := by
  cases event with
  | mediaState | foregroundApp =>
    exact ⟨sound, rfl, fun concerns => Bool.noConfusion concerns, fun _ => rfl⟩
  | connectionLost =>
    have scheduled := sound.scheduler.scheduleNext
    simp only [TvDeviceSession.onTransportEvent]
    split
    · exact ⟨sound.reschedule sound.scheduler rfl rfl rfl, rfl, by simp,
        fun concerns => Bool.noConfusion concerns⟩
    · exact ⟨sound.reschedule scheduled rfl rfl TvReconnectScheduler.stopped_scheduleNext,
        rfl, by simp, fun concerns => Bool.noConfusion concerns⟩
  | pairingRequired | authenticationFailed reason =>
    exact ⟨sound.reschedule sound.scheduler rfl rfl rfl, rfl,
      by simp [TvDeviceSession.onTransportEvent], fun concerns => Bool.noConfusion concerns⟩
  | error message =>
    exact ⟨sound.reschedule sound.scheduler rfl rfl rfl, rfl,
      fun concerns => Bool.noConfusion concerns, fun _ => rfl⟩

end Operations

theorem sessionSound_step {config next : Config TvDeviceSession TvSessionCall}
    {label : Schedule TvSessionRequest ConnectOutcome} (sound : SessionSound config.shared)
    (stays : isOff config.shared = true → config.shared.state = .disconnected)
    (step : tvSession.machine.step config label = some next) :
    SessionSound next.shared ∧ ((isOff next.shared = true → next.shared.state = .disconnected) ↔
        quietGuard config label) := by
  cases label with
  | call request =>
    obtain rfl := Program.step_call_eq_some.mp step
    cases request with
    | connect =>
      refine ⟨sound.connect.1, iff_of_true ?_ trivial⟩
      intro off
      exact absurd (sound.connect.2.symm.trans off) Bool.false_ne_true
    | disconnect => exact ⟨sound.disconnect, iff_of_true (fun _ => rfl) trivial⟩
    | dispose =>
      refine ⟨sound.dispose, iff_of_true ?_ trivial⟩
      intro off
      have same := @dispose_spec config.shared
      exact same.2.trans (stays (same.1.symm.trans off))
    | transportEvent event =>
      simp only [tvSession, quietGuard]
      split
      · rename_i hears
        rcases sound.onTransportEvent event with ⟨kept, same, changes, leaves⟩
        refine ⟨kept, ?_⟩
        rw [same]
        constructor
        · intro right off _
          by_contra concerns
          exact changes (eq_true_of_ne_false concerns) (right off)
        · intro quiet off
          exact (leaves (quiet off hears)).trans (stays off)
      · rename_i deaf
        exact ⟨sound, iff_of_true stays fun _ hears => absurd hears deaf⟩
    | reconnectTimer handle =>
      simp only [tvSession, quietGuard]
      split
      · rename_i armed
        have fired : SessionSound { config.shared with
            reconnect := config.shared.reconnect.fired handle } :=
          sound.reschedule (sound.scheduler.fired armed) rfl rfl rfl
        rcases fired.establish with ⟨kept, same, leaves⟩
        refine ⟨kept, iff_of_true ?_ trivial⟩
        rw [same]
        intro off
        exact (leaves off).trans (stays off)
      · exact ⟨sound, iff_of_true stays trivial⟩
  | resume index outcome =>
    rcases Program.step_resume_eq_some.mp step with
      ⟨before, call, after, shared, more, _, rfl, resumed, rfl⟩
    simp only [tvSession, Option.some.injEq, Prod.mk.injEq] at resumed
    rcases resumed with ⟨rfl, rfl⟩
    rcases sound.established outcome with ⟨kept, same, changes⟩
    refine ⟨kept, ?_⟩
    rw [same]
    constructor
    · intro right
      by_contra off
      exact changes (right (eq_true_of_ne_false off))
    · intro on off
      exact absurd (on.symm.trans off) Bool.false_ne_true

/-- A deliberate disconnection sticks exactly in the runs in which nothing disturbs it. -/
theorem disconnect_sticks_iff (labels : List (Schedule TvSessionRequest ConnectOutcome)) :
    tvSession.machine.Throughout (fun config => Sticks config.shared)
        (Program.idle TvDeviceSession.initial) labels ↔
      tvSession.machine.Guarded quietGuard (Program.idle TvDeviceSession.initial) labels := by
  apply Machine.throughout_iff_guarded fun config => SessionSound config.shared
  · intro config label next sound sticks step
    rcases sessionSound_step sound ((sticks_iff sound).mp sticks) step with ⟨kept, exact_step⟩
    exact (sticks_iff kept).trans exact_step
  · intro config label next sound sticks _ step
    exact (sessionSound_step sound ((sticks_iff sound).mp sticks) step).1
  · exact sessionSound_initial
  · exact (sticks_iff sessionSound_initial).mpr fun off => Bool.noConfusion off

/-- The transport connects after the session has been disconnected. -/
theorem late_connection_sets_state : ¬ ∀ labels : List (Schedule TvSessionRequest ConnectOutcome),
      tvSession.machine.Throughout (fun config => Sticks config.shared)
        (Program.idle TvDeviceSession.initial) labels := by
  intro sticks
  have throughout := sticks [.call .connect, .call .disconnect, .resume 0 .resolved]
  have last := Machine.property_of_throughout throughout rfl
  have state := last.disconnected ⟨[.connect, .begun], [], rfl, not_mem_nil⟩
  exact TvSessionState.noConfusion state

end SupremeOs.TvSdk
