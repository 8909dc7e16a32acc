import SupremeOs.Knx.Supervision

/-!
# Supervision never gets stuck

The transport reports every loss of an established connection once.  While
supervision is on and nothing is in flight, the manager should be connected by
a connection that has not been lost, or have a reconnect timer armed.  A health
check should not end a connection that was established after the check began.

The manager ignores a report unless its state is connected, and its state
becomes connected only after the transport has connected.  A report that falls
in between is forgotten.  A stop that ends late leaves a manager that has been
started again in the state disconnected, and a health check that ends late ends
whatever connection is there.
-/

namespace SupremeOs.Knx

open Support List Option

def lastKept (connection : SupervisedConnection) : Bool :=
  match connection.established with
  | 0 => false
  | number + 1 => decide (number ∉ connection.reported)

structure NeverStuck (config : Config SupervisedConnection SupervisionCall) : Prop where
  recovers : SwitchedOn config.shared.history → config.pending = [] →
    config.shared.state = .connected ∧ lastKept config.shared = true ∨
      config.shared.timeouts.armed.length = 1
  sparesLater : config.shared.endedLater = false

variable (config : Config SupervisedConnection SupervisionCall)

def reportsOnce : Schedule SupervisionRequest Bool → Prop
  | .call (.reportDisconnected lost) =>
    lost < config.shared.established ∧ lost ∉ config.shared.reported
  | _ => True

/-- The calls after which the manager will be connected or try again. -/
def SupervisionCall.recovers : SupervisionCall → Bool
  | .connecting | .connectResolved _ | .connectRejected | .recovering => true
  | .stopping | .checking _ => false

/-- What must not happen when a call goes on. -/
def noticesInTime (fulfilled : Bool) : SupervisionCall → Prop
  | .connectResolved _ =>
    config.shared.stopped = false →
      lastKept config.shared = true ∨ config.shared.reconnectTimer.isSome = true ∨
        1 < config.pending.countP SupervisionCall.recovers
  | .checking since => fulfilled = false → config.shared.isLater since = false
  | .stopping => config.shared.stopped = true
  | .connecting | .connectRejected | .recovering => True

/--
No successful attempt is noted after the last connection has been reported lost,
unless a reconnect timer is armed or another attempt or recovery is under way;
no health check fails after another connection has been established; and no stop
ends when supervision is on again.
-/
def noticeGuard : Schedule SupervisionRequest Bool → Prop
  | .call _ => True
  | .resume index fulfilled =>
    ∀ call ∈ config.pending[index]?, noticesInTime config fulfilled call

instance (config : Config SupervisedConnection SupervisionCall) (fulfilled : Bool) :
    ∀ call, Decidable (noticesInTime config fulfilled call) := by
  intro call
  unfold noticesInTime
  split <;> infer_instance

instance (config : Config SupervisedConnection SupervisionCall) :
    ∀ label, Decidable (reportsOnce config label) := by
  intro label
  unfold reportsOnce
  split <;> infer_instance

instance (config : Config SupervisedConnection SupervisionCall) :
    ∀ label, Decidable (noticeGuard config label) := by
  intro label
  unfold noticeGuard
  split <;> infer_instance

/-- What is kept as long as every loss is noticed in time. -/
structure RecoverySound (config : Config SupervisedConnection SupervisionCall) : Prop where
  timers : config.shared.TimersKept
  switched : config.shared.Switched
  known : ∀ lost ∈ config.shared.reported, lost < config.shared.established
  sparesLater : config.shared.endedLater = false
  /-- When the manager says it is connecting, an attempt will end that. -/
  attempting : config.shared.connecting = true → 0 < config.pending.countP SupervisionCall.isAttempt
  recovers : config.shared.stopped = false →
    config.shared.state = .connected ∧ lastKept config.shared = true ∨
      config.shared.reconnectTimer.isSome = true ∨
      0 < config.pending.countP SupervisionCall.recovers

theorem RecoverySound.neverStuck {config : Config SupervisedConnection SupervisionCall}
    (sound : RecoverySound config) : NeverStuck config := by
  refine ⟨?_, sound.sparesLater⟩
  intro on idle
  have running : config.shared.stopped = false := by
    rw [sound.switched, latest_of_switchedOn on]
    rfl
  rcases sound.recovers running with connected | armed | waiting
  · exact .inl connected
  · exact .inr (sound.timers.timeouts.length_eq_one_iff.mpr armed)
  · simp [idle] at waiting

theorem recoverySound_initial (isHealthy : Bool) :
    RecoverySound (Program.idle (SupervisedConnection.initial isHealthy)) where
  timers := SupervisedConnection.timersKept_initial isHealthy
  switched := rfl
  known := by simp [Program.idle, SupervisedConnection.initial]
  sparesLater := rfl
  attempting := fun busy => Bool.noConfusion busy
  recovers := fun running => Bool.noConfusion running

theorem lastKept_of_established {connection : SupervisedConnection} {number : Nat}
    (known : ∀ lost ∈ connection.reported, lost < number)
    (established : connection.established = number + 1) : lastKept connection = true := by
  simp only [lastKept, established, decide_eq_true_eq]
  intro lost
  exact Nat.lt_irrefl number (known number lost)

theorem countP_isAttempt_le (pending : List SupervisionCall) :
    pending.countP SupervisionCall.isAttempt ≤ pending.countP SupervisionCall.recovers :=
  countP_mono_left fun call _ attempts => by
    cases call <;> simp_all [SupervisionCall.isAttempt, SupervisionCall.recovers]

section Requests

variable {connection : SupervisedConnection} {pending : List SupervisionCall}

theorem RecoverySound.attempt (timers : connection.TimersKept) (switched : connection.Switched)
    (known : ∀ lost ∈ connection.reported, lost < connection.established)
    (sparesLater : connection.endedLater = false)
    (attempting : connection.connecting = true → 0 < pending.countP SupervisionCall.isAttempt) :
    RecoverySound ⟨connection.attemptConnect.1, pending ++ connection.attemptConnect.2⟩ := by
  rcases SupervisedConnection.attemptConnect_spec timers with
    ⟨kept, ⟨same, refused⟩ | ⟨state, _, _, _, begun⟩⟩
  · rw [same, append_nil]
    refine ⟨timers, switched, known, sparesLater, attempting, ?_⟩
    intro running
    have busy := refused.resolve_right (by simp_all)
    exact .inr (.inr (Nat.lt_of_lt_of_le (attempting busy) (countP_isAttempt_le pending)))
  · rw [begun] at kept ⊢
    refine ⟨kept, switched, known, sparesLater, ?_, ?_⟩
    · intro _
      simp [countP_append, SupervisionCall.isAttempt]
    · intro _
      exact .inr (.inr (by simp [countP_append, SupervisionCall.recovers]))

section

variable (sound : RecoverySound ⟨connection, pending⟩)

include sound

theorem RecoverySound.start :
    RecoverySound ⟨connection.start.1, pending ++ connection.start.2⟩ := by
  have switched : latest SupervisionEvent.switches (connection.history ++ [.start]) = true :=
    latest_concat _
  rw [SupervisedConnection.start_eq]
  split
  · refine RecoverySound.attempt ⟨sound.timers.timeouts, sound.timers.intervals, ?_⟩ ?_
      sound.known sound.sparesLater sound.attempting
    · simp
    · simp [SupervisedConnection.Switched, switched]
  · rename_i on
    rw [append_nil]
    refine ⟨⟨sound.timers.timeouts, sound.timers.intervals, sound.timers.off⟩, ?_, sound.known,
      sound.sparesLater, sound.attempting, sound.recovers⟩
    simpa [SupervisedConnection.Switched, switched] using on

theorem RecoverySound.stop :
    RecoverySound ⟨connection.stop.1, pending ++ connection.stop.2⟩ := by
  rcases SupervisedConnection.stop_spec sound.timers with
    ⟨timeouts, intervals, noTimeout, noInterval, ⟨_, stops⟩ | ⟨_, stops⟩⟩
  · rw [stops, append_nil]
    refine ⟨⟨noTimeout, noInterval, fun _ => ⟨rfl, rfl⟩⟩, ?_, sound.known, sound.sparesLater,
      sound.attempting, by simp⟩
    simp [SupervisedConnection.Switched, SupervisionEvent.switches]
  · rw [stops]
    refine ⟨⟨noTimeout, noInterval, fun _ => ⟨rfl, rfl⟩⟩, ?_, sound.known, sound.sparesLater,
      ?_, by simp⟩
    · simp only [SupervisedConnection.Switched, latest_concat, SupervisionEvent.switches,
        Option.getD_none, Option.getD_some, Bool.not_false]
    · simpa [countP_append, SupervisionCall.isAttempt] using sound.attempting

theorem RecoverySound.markConnected :
    RecoverySound ⟨connection.markConnected, pending⟩ := by
  rcases SupervisedConnection.markConnected_spec sound.timers with
    ⟨timer, intervals, tracks, marked⟩
  rw [marked]
  refine ⟨⟨sound.timers.timeouts, tracks, by simp⟩, ?_, ?_, sound.sparesLater, by simp, ?_⟩
  · simp [SupervisedConnection.Switched, SupervisionEvent.switches]
  · intro lost member
    exact Nat.lt_succ_of_lt (sound.known lost member)
  · intro _
    exact .inl ⟨rfl, lastKept_of_established sound.known rfl⟩

theorem RecoverySound.reportDisconnected {lost : Nat} (known : lost < connection.established) :
    RecoverySound ⟨connection.reportDisconnected lost, pending⟩ := by
  have allKnown : ∀ other ∈ connection.reported ++ [lost], other < connection.established := by
    intro other member
    rcases mem_append.mp member with old | new
    · exact sound.known other old
    · exact mem_singleton.mp new ▸ known
  rcases SupervisedConnection.reportDisconnected_spec sound.timers lost with
    ⟨disregards, ignored⟩ | ⟨on, _, handle, timeouts, intervals, armed, none, told⟩
  · rw [ignored]
    refine ⟨⟨sound.timers.timeouts, sound.timers.intervals, sound.timers.off⟩, sound.switched,
      allKnown, sound.sparesLater, sound.attempting, ?_⟩
    intro running
    rcases disregards with off | other
    · exact absurd (off.symm.trans running) Bool.noConfusion
    · rcases sound.recovers running with ⟨connected, _⟩ | waiting
      · exact absurd connected other
      · exact .inr waiting
  · rw [told]
    refine ⟨⟨armed, none, ?_⟩, sound.switched, allKnown, sound.sparesLater, sound.attempting,
      fun _ => .inr (.inl rfl)⟩
    intro stopped
    exact absurd (on.symm.trans stopped) Bool.false_ne_true

end

theorem recoverySound_call {config : Config SupervisedConnection SupervisionCall}
    {request : SupervisionRequest} (sound : RecoverySound config)
    (reported : reportsOnce config (.call request)) :
    RecoverySound ⟨(supervision.start config.shared request).1,
      config.pending ++ (supervision.start config.shared request).2⟩ := by
  cases request with
  | start => exact sound.start
  | stop => exact sound.stop
  | markConnected => simpa only [supervision, append_nil] using sound.markConnected
  | reportDisconnected lost =>
    simpa only [supervision, append_nil] using sound.reportDisconnected reported.1
  | reconnectTimer handle =>
    simp only [supervision]
    split
    · rename_i armed
      exact RecoverySound.attempt ⟨sound.timers.timeouts.fired armed, sound.timers.intervals,
        fun off => ⟨rfl, (sound.timers.off off).2⟩⟩ sound.switched sound.known
        sound.sparesLater sound.attempting
    · simpa only [append_nil] using sound
  | heartbeatTimer handle =>
    simp only [supervision]
    split
    · unfold SupervisedConnection.runHeartbeat
      split
      · simpa only [append_nil] using sound
      · refine ⟨sound.timers, sound.switched, sound.known, sound.sparesLater, ?_, ?_⟩
        · simpa [countP_append, SupervisionCall.isAttempt] using sound.attempting
        · simpa [countP_append, SupervisionCall.recovers] using sound.recovers
    · simpa only [append_nil] using sound

end Requests

section Resumes

variable {connection : SupervisedConnection} {before after : List SupervisionCall}

variable {next : SupervisedConnection} {more : List SupervisionCall}

theorem RecoverySound.connecting
    (sound : RecoverySound ⟨connection, before ++ .connecting :: after⟩) (fulfilled : Bool)
    (resumed : supervision.resume connection .connecting fulfilled = some (next, more)) :
    RecoverySound ⟨next, before ++ more ++ after⟩ := by
  cases fulfilled with
  | true =>
    simp only [supervision, if_true, some.injEq, Prod.mk.injEq] at resumed
    rcases resumed with ⟨rfl, rfl⟩
    refine ⟨⟨sound.timers.timeouts, sound.timers.intervals, sound.timers.off⟩, ?_, ?_,
      sound.sparesLater, ?_, ?_⟩
    · exact sound.switched.trans (congrArg not (latest_concat_of_none rfl).symm)
    · intro lost member
      exact Nat.lt_succ_of_lt (sound.known lost member)
    · intro _
      exact countP_pos_iff.mpr ⟨.connectResolved connection.established, by simp, rfl⟩
    · intro _
      exact .inr (.inr (countP_pos_iff.mpr
        ⟨.connectResolved connection.established, by simp, rfl⟩))
  | false =>
    simp only [supervision, Bool.false_eq_true, if_false, some.injEq,
      Prod.mk.injEq] at resumed
    rcases resumed with ⟨rfl, rfl⟩
    refine ⟨sound.timers, sound.switched, sound.known, sound.sparesLater, ?_, ?_⟩
    · intro _
      exact countP_pos_iff.mpr ⟨.connectRejected, by simp, rfl⟩
    · intro _
      exact .inr (.inr (countP_pos_iff.mpr ⟨.connectRejected, by simp, rfl⟩))

theorem RecoverySound.connectResolved {number : Nat}
    (sound : RecoverySound ⟨connection, before ++ .connectResolved number :: after⟩)
    (noticed : connection.stopped = false →
      lastKept connection = true ∨ connection.reconnectTimer.isSome = true ∨
        1 < (before ++ .connectResolved number :: after).countP SupervisionCall.recovers) :
    RecoverySound ⟨connection.connectResolved, before ++ [] ++ after⟩ := by
  have counted := Program.countP_pending SupervisionCall.recovers before after []
    (.connectResolved number)
  rcases SupervisedConnection.connectResolved_spec sound.timers with
    ⟨off, resolved⟩ | ⟨on, timer, intervals, tracks, resolved⟩
  · rw [resolved]
    refine ⟨⟨sound.timers.timeouts, sound.timers.intervals, sound.timers.off⟩, sound.switched,
      sound.known, sound.sparesLater, by simp, ?_⟩
    intro running
    exact absurd (off.symm.trans running) Bool.noConfusion
  · rw [resolved]
    refine ⟨⟨sound.timers.timeouts, tracks, ?_⟩, sound.switched, sound.known,
      sound.sparesLater, by simp, ?_⟩
    · intro stopped
      exact absurd (on.symm.trans stopped) Bool.false_ne_true
    · intro _
      rcases noticed on with kept | armed | others
      · exact .inl ⟨rfl, kept⟩
      · exact .inr (.inl armed)
      · refine .inr (.inr ?_)
        exact Nat.lt_of_succ_lt_succ (Nat.lt_of_lt_of_eq others counted.symm)

theorem RecoverySound.connectRejected
    (sound : RecoverySound ⟨connection, before ++ .connectRejected :: after⟩) :
    RecoverySound ⟨connection.connectRejected, before ++ [] ++ after⟩ := by
  rcases SupervisedConnection.connectRejected_spec sound.timers with
    ⟨timer, timeouts, tracks, armed, rejected⟩
  rw [rejected]
  refine ⟨⟨tracks, sound.timers.intervals, ?_⟩, sound.switched, sound.known,
    sound.sparesLater, by simp, ?_⟩
  · intro stopped
    refine ⟨?_, (sound.timers.off stopped).2⟩
    have stopped : connection.stopped = true := stopped
    simpa [stopped] using armed
  · intro running
    have running : connection.stopped = false := running
    exact .inr (.inl (by simpa [running] using armed))

theorem RecoverySound.leave {call : SupervisionCall} {state : ConnectionState}
    (sound : RecoverySound ⟨connection, before ++ call :: after⟩) (idle : call.recovers = false)
    (same : connection.stopped = false → state = connection.state) :
    RecoverySound ⟨{ connection with state := state }, before ++ [] ++ after⟩ := by
  have noAttempt : call.isAttempt = false := by
    cases call <;> simp_all [SupervisionCall.isAttempt, SupervisionCall.recovers]
  have attempts := Program.countP_pending SupervisionCall.isAttempt before after [] call
  have recoveries := Program.countP_pending SupervisionCall.recovers before after [] call
  simp only [noAttempt, idle, Bool.false_eq_true, if_false, Nat.add_zero,
    countP_nil] at attempts recoveries
  refine ⟨⟨sound.timers.timeouts, sound.timers.intervals, sound.timers.off⟩, sound.switched,
    sound.known, sound.sparesLater, ?_, ?_⟩
  · intro busy
    exact attempts ▸ sound.attempting busy
  · intro running
    rcases sound.recovers running with ⟨connected, kept⟩ | armed | waiting
    · exact .inl ⟨(same running).trans connected, kept⟩
    · exact .inr (.inl armed)
    · exact .inr (.inr (recoveries ▸ waiting))

theorem RecoverySound.degrade {since : Nat}
    (sound : RecoverySound ⟨connection, before ++ .checking since :: after⟩)
    (inTime : connection.isLater since = false) :
    RecoverySound ⟨connection.degrade since, before ++ [.recovering] ++ after⟩ := by
  have attempts := Program.countP_pending SupervisionCall.isAttempt before after [.recovering]
    (.checking since)
  rcases SupervisedConnection.degrade_spec sound.timers since with ⟨intervals, tracks, degraded⟩
  rw [degraded]
  refine ⟨⟨sound.timers.timeouts, tracks, ?_⟩, ?_, sound.known, ?_, ?_, ?_⟩
  · intro stopped
    exact ⟨(sound.timers.off stopped).1, rfl⟩
  · exact sound.switched.trans (congrArg not (latest_concat_of_none rfl).symm)
  · have spared : connection.endedLater = false := sound.sparesLater
    simp [spared, inTime]
  · intro busy
    exact Nat.lt_of_lt_of_eq (sound.attempting busy) attempts.symm
  · intro _
    exact .inr (.inr (countP_pos_iff.mpr ⟨.recovering, by simp, rfl⟩))

theorem RecoverySound.recover (sound : RecoverySound ⟨connection, before ++ .recovering :: after⟩) :
    RecoverySound ⟨connection.recover, before ++ [] ++ after⟩ := by
  have attempts := Program.countP_pending SupervisionCall.isAttempt before after [] .recovering
  rcases SupervisedConnection.recover_spec sound.timers with
    ⟨timer, timeouts, tracks, armed, recovered⟩
  rw [recovered]
  refine ⟨⟨tracks, sound.timers.intervals, ?_⟩, sound.switched, sound.known,
    sound.sparesLater, ?_, ?_⟩
  · intro stopped
    refine ⟨?_, (sound.timers.off stopped).2⟩
    have stopped : connection.stopped = true := stopped
    simpa [stopped] using armed
  · intro busy
    exact Nat.lt_of_lt_of_eq (sound.attempting busy) attempts.symm
  · intro running
    have running : connection.stopped = false := running
    exact .inr (.inl (by simpa [running] using armed))

theorem recoverySound_resume {call : SupervisionCall} {fulfilled : Bool}
    (sound : RecoverySound ⟨connection, before ++ call :: after⟩)
    (met : noticesInTime ⟨connection, before ++ call :: after⟩ fulfilled call)
    (resumed : supervision.resume connection call fulfilled = some (next, more)) :
    RecoverySound ⟨next, before ++ more ++ after⟩ := by
  cases call with
  | connecting => exact sound.connecting fulfilled resumed
  | connectResolved number =>
    simp only [supervision, some.injEq, Prod.mk.injEq] at resumed
    rcases resumed with ⟨rfl, rfl⟩
    exact sound.connectResolved met
  | connectRejected =>
    simp only [supervision, some.injEq, Prod.mk.injEq] at resumed
    rcases resumed with ⟨rfl, rfl⟩
    exact sound.connectRejected
  | stopping =>
    simp only [supervision, some.injEq, Prod.mk.injEq] at resumed
    rcases resumed with ⟨rfl, rfl⟩
    refine sound.leave rfl fun running => ?_
    exact absurd (running.symm.trans met) Bool.false_ne_true
  | checking since =>
    cases fulfilled with
    | true =>
      simp only [supervision, if_true, some.injEq, Prod.mk.injEq] at resumed
      rcases resumed with ⟨rfl, rfl⟩
      exact sound.leave rfl fun _ => rfl
    | false =>
      simp only [supervision, Bool.false_eq_true, if_false, some.injEq,
        Prod.mk.injEq] at resumed
      rcases resumed with ⟨rfl, rfl⟩
      exact sound.degrade (met rfl)
  | recovering =>
    simp only [supervision, some.injEq, Prod.mk.injEq] at resumed
    rcases resumed with ⟨rfl, rfl⟩
    exact sound.recover

end Resumes

theorem recoverySound_step (config : Config SupervisedConnection SupervisionCall)
    (label : Schedule SupervisionRequest Bool)
    (next : Config SupervisedConnection SupervisionCall) (sound : RecoverySound config)
    (met : reportsOnce config label ∧ noticeGuard config label)
    (step : supervision.machine.step config label = some next) :
    RecoverySound next := by
  cases label with
  | call request =>
    obtain rfl := Program.step_call_eq_some.mp step
    exact recoverySound_call sound met.1
  | resume index fulfilled =>
    rcases Program.step_resume_eq_some.mp step with
      ⟨before, call, after, shared, more, split, rfl, resumed, rfl⟩
    rcases config with ⟨connection, pending⟩
    obtain rfl : pending = before ++ call :: after := split
    exact recoverySound_resume sound (met.2 call (by simp)) resumed

/-- If every loss is noticed in time, supervision never gets stuck. -/
theorem never_stuck (isHealthy : Bool) (labels : List (Schedule SupervisionRequest Bool))
    (noticed : supervision.machine.Guarded
      (fun config label => reportsOnce config label ∧ noticeGuard config label)
      (Program.idle (SupervisedConnection.initial isHealthy)) labels) :
    supervision.machine.Throughout NeverStuck
      (Program.idle (SupervisedConnection.initial isHealthy)) labels :=
  (Machine.throughout_of_guarded recoverySound_step (recoverySound_initial isHealthy)
    noticed).mono fun _ sound => sound.neverStuck

/-- A connection that is marked, lost, restored, found unhealthy and restored again. -/
theorem recovers_twice : supervision.machine.Throughout NeverStuck
      (Program.idle (SupervisedConnection.initial true))
      [.call .markConnected, .call (.reportDisconnected 0), .call (.reconnectTimer 0),
        .resume 0 true, .resume 0 true, .call (.heartbeatTimer 1), .resume 0 false,
        .resume 0 true, .call (.reconnectTimer 1), .resume 0 true, .resume 0 true] :=
  never_stuck true _ (by decide)

/-- The connection is lost before the manager has taken note of it. -/
theorem early_loss_is_forgotten :
    ¬ ∀ (isHealthy : Bool) (labels : List (Schedule SupervisionRequest Bool)),
      supervision.machine.Guarded reportsOnce
        (Program.idle (SupervisedConnection.initial isHealthy)) labels →
      supervision.machine.Throughout NeverStuck
        (Program.idle (SupervisedConnection.initial isHealthy)) labels := by
  intro recovers
  have throughout := recovers false
    [.call .start, .resume 0 true, .call (.reportDisconnected 0), .resume 0 true] (by decide)
  have last := Machine.property_of_throughout throughout rfl
  rcases last.recovers ⟨[], .start, [.connected], rfl, .inl rfl, by decide⟩ rfl with kept | armed
  · exact Bool.noConfusion kept.2
  · exact Nat.noConfusion armed

end SupremeOs.Knx
