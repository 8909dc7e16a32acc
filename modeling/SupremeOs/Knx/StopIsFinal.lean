import SupremeOs.Knx.Supervision

/-!
# Stopping is final

Once supervision has been stopped and nothing is in flight, the manager should
be disconnected with no timer armed, and every connection that its attempts
have established should have been followed by a disconnection.  At any time at
most one reconnect timer should be armed and one attempt be under way.

The manager looks at its `stopped` flag before it waits and, after an attempt
that succeeds, when it goes on.  It then leaves the new connection as it is.
An attempt that fails and a failed health check change the state of a stopped
manager, and a disconnection that ends late sets the state of one that has been
started again.
-/

namespace SupremeOs.Knx

open Support List Option

def Followed (history : List SupervisionEvent) : Prop :=
  ∀ earlier later, history = earlier ++ .connected :: later → .disconnect ∈ later

def SupervisionEvent.opens : SupervisionEvent → Option Bool
  | .connected => some true
  | .disconnect => some false
  | .start | .stop | .markConnected => none

/-- Whether the last connection of an attempt has not been followed by a disconnection. -/
def leftOpen (history : List SupervisionEvent) : Bool :=
  latest SupervisionEvent.opens history

theorem followed_of_not_leftOpen {history : List SupervisionEvent}
    (closed : leftOpen history = false) : Followed history := by
  intro earlier later split
  by_contra missing
  have opened : leftOpen history = true := by
    refine latest_iff.mpr ⟨earlier, .connected, later, split, rfl, ?_⟩
    intro other member ends
    cases other with
    | disconnect => exact missing member
    | start | stop | markConnected | connected => simp [SupervisionEvent.opens] at ends
  rw [closed] at opened
  exact Bool.false_ne_true opened

def SupervisionCall.isConnecting : SupervisionCall → Bool
  | .connecting => true
  | _ => false

/-- The manager is at rest. -/
structure AtRest (connection : SupervisedConnection) : Prop where
  disconnected : connection.state = .disconnected
  noReconnect : connection.timeouts.armed = []
  noHeartbeat : connection.intervals.armed = []
  followed : Followed connection.history

structure StopsFinally (config : Config SupervisedConnection SupervisionCall) : Prop where
  oneTimer : config.shared.timeouts.armed.length ≤ 1
  oneAttempt : config.pending.countP SupervisionCall.isConnecting ≤ 1
  rests : SwitchedOff config.shared.history → config.pending = [] → AtRest config.shared

/-- What must not happen when a call goes on. -/
def endsInTime (config : Config SupervisedConnection SupervisionCall) (fulfilled : Bool) :
    SupervisionCall → Prop
  | .connectResolved _ =>
    config.shared.stopped = true → leftOpen config.shared.history = false
  | .connectRejected => config.shared.stopped = true → .stopping ∈ config.pending
  | .checking _ =>
    fulfilled = false → config.shared.stopped = true → .stopping ∈ config.pending
  | .stopping => config.shared.stopped = true
  | .connecting | .recovering => True

/--
No connection is marked while an attempt is under way, and no waiting ends too
late: no successful attempt goes on when supervision is stopped and nothing has
been disconnected since, no failed attempt and no failed health check when it is
stopped and no stop is waiting, and no stop when supervision is on again.
-/
def stopGuard (config : Config SupervisedConnection SupervisionCall) :
    Schedule SupervisionRequest Bool → Prop
  | .call .markConnected => ∀ call ∈ config.pending, call.isAttempt = false
  | .call _ => True
  | .resume index fulfilled =>
    ∀ call ∈ config.pending[index]?, endsInTime config fulfilled call

instance (config : Config SupervisedConnection SupervisionCall) (fulfilled : Bool) :
    ∀ call, Decidable (endsInTime config fulfilled call)
  | .connectResolved _ | .connectRejected => inferInstanceAs (Decidable (_ → _))
  | .checking _ => inferInstanceAs (Decidable (_ → _ → _))
  | .stopping => inferInstanceAs (Decidable (_ = _))
  | .connecting | .recovering => isTrue trivial

instance (config : Config SupervisedConnection SupervisionCall) :
    ∀ label, Decidable (stopGuard config label)
  | .call .markConnected =>
    inferInstanceAs (Decidable (∀ call ∈ config.pending, call.isAttempt = false))
  | .call .start | .call .stop | .call (.reportDisconnected _) | .call (.reconnectTimer _)
  | .call (.heartbeatTimer _) => isTrue trivial
  | .resume index fulfilled => inferInstanceAs
    (Decidable (∀ call ∈ config.pending[index]?, endsInTime config fulfilled call))

/-- What is kept as long as no waiting ends too late. -/
structure StopSound (config : Config SupervisedConnection SupervisionCall) : Prop where
  timers : config.shared.TimersKept
  switched : config.shared.Switched
  /-- A stopped manager is disconnected, or a stop is still waiting. -/
  settles : config.shared.stopped = true →
    config.shared.state = .disconnected ∨ .stopping ∈ config.pending
  /-- The flag says whether an attempt is under way. -/
  alone : config.pending.countP SupervisionCall.isAttempt =
    if config.shared.connecting then 1 else 0
  /-- An open connection will be disconnected, or the manager is still to take note of it. -/
  closes : leftOpen config.shared.history = true →
    config.shared.stopped = false ∧ config.shared.state ≠ .disconnected ∨
      ∃ number, .connectResolved number ∈ config.pending

theorem StopSound.stopsFinally {config : Config SupervisedConnection SupervisionCall}
    (sound : StopSound config) : StopsFinally config := by
  refine ⟨sound.timers.timeouts.length_le_one, ?_, ?_⟩
  · have fewer : config.pending.countP SupervisionCall.isConnecting ≤
        config.pending.countP SupervisionCall.isAttempt :=
      countP_mono_left fun call _ isConnecting => by
        cases call <;> simp_all [SupervisionCall.isConnecting, SupervisionCall.isAttempt]
    refine Nat.le_trans fewer ?_
    rw [sound.alone]
    split <;> simp
  · intro off idle
    have stopped : config.shared.stopped = true := by
      rw [sound.switched, latest_of_switchedOff off]
      rfl
    have noTimer := sound.timers.off stopped
    refine ⟨?_, sound.timers.timeouts.armed_eq_nil_iff.mpr noTimer.1,
      sound.timers.intervals.armed_eq_nil_iff.mpr noTimer.2, followed_of_not_leftOpen ?_⟩
    · rcases sound.settles stopped with disconnected | waiting
      · exact disconnected
      · simp [idle] at waiting
    · by_contra opened
      rcases sound.closes (eq_true_of_ne_false opened) with on | ⟨number, waiting⟩
      · rw [stopped] at on
        exact Bool.noConfusion on.1
      · simp [idle] at waiting

theorem stopSound_initial (isHealthy : Bool) :
    StopSound (Program.idle (SupervisedConnection.initial isHealthy)) where
  timers := SupervisedConnection.timersKept_initial isHealthy
  switched := rfl
  settles := fun _ => .inl rfl
  alone := rfl
  closes := fun opened => Bool.noConfusion opened

section Requests

variable {connection : SupervisedConnection} {pending : List SupervisionCall}

section

variable (sound : StopSound ⟨connection, pending⟩)

include sound

theorem StopSound.attempt :
    StopSound ⟨connection.attemptConnect.1, pending ++ connection.attemptConnect.2⟩ := by
  rcases SupervisedConnection.attemptConnect_spec sound.timers with
    ⟨timers, ⟨same, _⟩ | ⟨state, notDisconnected, _, on, begun⟩⟩
  · rw [same, append_nil]
    exact sound
  · have idle : connection.connecting = false := by
      by_contra busy
      simp [SupervisedConnection.attemptConnect, eq_true_of_ne_false busy] at begun
    have alone := sound.alone
    rw [begun] at timers ⊢
    refine ⟨timers, sound.switched, ?_, ?_, ?_⟩
    · intro stopped
      exact absurd (on.symm.trans stopped) Bool.false_ne_true
    · simp only [idle, Bool.false_eq_true, if_false] at alone
      simp [countP_append, alone, SupervisionCall.isAttempt]
    · intro _
      exact .inl ⟨on, notDisconnected⟩

theorem StopSound.start :
    StopSound ⟨connection.start.1, pending ++ connection.start.2⟩ := by
  have switched : latest SupervisionEvent.switches (connection.history ++ [.start]) = true :=
    latest_concat _
  have same : leftOpen (connection.history ++ [.start]) = leftOpen connection.history :=
    latest_concat_of_none rfl
  rw [SupervisedConnection.start_eq]
  split
  · rename_i off
    apply StopSound.attempt
    refine ⟨⟨sound.timers.timeouts, sound.timers.intervals, ?_⟩, ?_, ?_, sound.alone, ?_⟩
    · simp
    · simp [SupervisedConnection.Switched, switched]
    · simp
    · intro opened
      rcases sound.closes (same ▸ opened) with ⟨on, _⟩ | waiting
      · exact absurd (on.symm.trans off) Bool.false_ne_true
      · exact .inr waiting
  · rename_i on
    rw [append_nil]
    refine ⟨⟨sound.timers.timeouts, sound.timers.intervals, sound.timers.off⟩, ?_, sound.settles,
      sound.alone, ?_⟩
    · simpa [SupervisedConnection.Switched, switched] using on
    · intro opened
      exact sound.closes (same ▸ opened)

theorem StopSound.stop :
    StopSound ⟨connection.stop.1, pending ++ connection.stop.2⟩ := by
  rcases SupervisedConnection.stop_spec sound.timers with
    ⟨timeouts, intervals, noTimeout, noInterval, ⟨disconnected, stops⟩ | ⟨_, stops⟩⟩
  · rw [stops, append_nil]
    refine ⟨⟨noTimeout, noInterval, fun _ => ⟨rfl, rfl⟩⟩, ?_, fun _ => .inl disconnected,
      sound.alone, ?_⟩
    · simp [SupervisedConnection.Switched, SupervisionEvent.switches]
    · intro opened
      have before : leftOpen connection.history = true := by
        simpa [leftOpen, SupervisionEvent.opens] using opened
      rcases sound.closes before with ⟨_, other⟩ | waiting
      · exact absurd disconnected other
      · exact .inr waiting
  · rw [stops]
    refine ⟨⟨noTimeout, noInterval, fun _ => ⟨rfl, rfl⟩⟩, ?_, fun _ => .inr (by simp), ?_, ?_⟩
    · simp only [SupervisedConnection.Switched, latest_concat, SupervisionEvent.switches,
        Option.getD_none, Option.getD_some, Bool.not_false]
    · simpa [countP_append, SupervisionCall.isAttempt] using sound.alone
    · intro opened
      simp only [leftOpen, latest_concat, SupervisionEvent.opens, Option.getD_some,
        Bool.false_eq_true] at opened

theorem StopSound.markConnected (alone : ∀ call ∈ pending, call.isAttempt = false) :
    StopSound ⟨connection.markConnected, pending⟩ := by
  rcases SupervisedConnection.markConnected_spec sound.timers with
    ⟨timer, intervals, tracks, marked⟩
  rw [marked]
  refine ⟨⟨sound.timers.timeouts, tracks, by simp⟩, ?_, by simp, ?_, ?_⟩
  · simp [SupervisedConnection.Switched, SupervisionEvent.switches]
  · simpa [countP_eq_zero] using alone
  · intro _
    exact .inl ⟨rfl, by simp⟩

theorem StopSound.reportDisconnected (lost : Nat) :
    StopSound ⟨connection.reportDisconnected lost, pending⟩ := by
  rcases SupervisedConnection.reportDisconnected_spec sound.timers lost with
    ⟨_, ignored⟩ | ⟨on, _, handle, timeouts, intervals, armed, none, told⟩
  · rw [ignored]
    exact ⟨⟨sound.timers.timeouts, sound.timers.intervals, sound.timers.off⟩, sound.switched,
      sound.settles, sound.alone, sound.closes⟩
  · rw [told]
    refine ⟨⟨armed, none, ?_⟩, sound.switched, ?_, sound.alone, fun _ => .inl ⟨on, by simp⟩⟩
    all_goals
      intro stopped
      exact absurd (on.symm.trans stopped) Bool.false_ne_true

end

theorem stopSound_call {config : Config SupervisedConnection SupervisionCall}
    {request : SupervisionRequest} (sound : StopSound config)
    (met : stopGuard config (.call request)) :
    StopSound ⟨(supervision.start config.shared request).1,
      config.pending ++ (supervision.start config.shared request).2⟩ := by
  cases request with
  | start => exact sound.start
  | stop => exact sound.stop
  | markConnected =>
    simpa only [supervision, append_nil] using sound.markConnected met
  | reportDisconnected lost =>
    simpa only [supervision, append_nil] using sound.reportDisconnected lost
  | reconnectTimer handle =>
    simp only [supervision]
    split
    · rename_i armed
      apply StopSound.attempt
      exact ⟨⟨sound.timers.timeouts.fired armed, sound.timers.intervals,
        fun off => ⟨rfl, (sound.timers.off off).2⟩⟩, sound.switched, sound.settles,
        sound.alone, sound.closes⟩
    · simpa only [append_nil] using sound
  | heartbeatTimer handle =>
    simp only [supervision]
    split
    · unfold SupervisedConnection.runHeartbeat
      split
      · simpa only [append_nil] using sound
      · refine ⟨sound.timers, sound.switched, ?_, ?_, ?_⟩
        · intro stopped
          exact (sound.settles stopped).imp_right (mem_append_left _)
        · simpa [countP_append, SupervisionCall.isAttempt] using sound.alone
        · intro opened
          exact (sound.closes opened).imp_right fun ⟨number, waiting⟩ =>
            ⟨number, mem_append_left _ waiting⟩
    · simpa only [append_nil] using sound

end Requests

section Resumes

variable {connection : SupervisedConnection} {before after : List SupervisionCall}

variable {more : List SupervisionCall} {call : SupervisionCall} {next : SupervisedConnection}

theorem StopSound.alone_resumed
    (sound : StopSound ⟨connection, before ++ call :: after⟩) (isAttempt : call.isAttempt = true)
    (ends : more.countP SupervisionCall.isAttempt = 0) :
    (before ++ more ++ after).countP SupervisionCall.isAttempt = 0 := by
  have counted := Program.countP_pending SupervisionCall.isAttempt before after more call
  have alone : (before ++ call :: after).countP SupervisionCall.isAttempt ≤ 1 := by
    rw [sound.alone]
    split <;> simp
  rw [isAttempt, if_pos rfl] at counted
  omega

theorem StopSound.settles_resumed
    (sound : StopSound ⟨connection, before ++ call :: after⟩) (other : .stopping ≠ call)
    (stopped : connection.stopped = true) :
    connection.state = .disconnected ∨ .stopping ∈ before ++ more ++ after :=
  (sound.settles stopped).imp_right fun waiting => Program.mem_of_mem_pending waiting other

theorem StopSound.closes_resumed (sound : StopSound ⟨connection, before ++ call :: after⟩)
    (other : ∀ number, .connectResolved number ≠ call)
    (opened : leftOpen connection.history = true) :
    connection.stopped = false ∧ connection.state ≠ .disconnected ∨
      ∃ number, .connectResolved number ∈ before ++ more ++ after :=
  (sound.closes opened).imp_right fun ⟨number, waiting⟩ =>
    ⟨number, Program.mem_of_mem_pending waiting (other number)⟩

theorem StopSound.connecting (sound : StopSound ⟨connection, before ++ .connecting :: after⟩)
    (fulfilled : Bool)
    (resumed : supervision.resume connection .connecting fulfilled = some (next, more)) :
    StopSound ⟨next, before ++ more ++ after⟩ := by
  have counted := Program.countP_pending SupervisionCall.isAttempt before after more .connecting
  have alone := sound.alone
  cases fulfilled with
  | true =>
    simp only [supervision, if_true, some.injEq, Prod.mk.injEq] at resumed
    rcases resumed with ⟨rfl, rfl⟩
    refine ⟨⟨sound.timers.timeouts, sound.timers.intervals, sound.timers.off⟩, ?_, ?_, ?_, ?_⟩
    · exact sound.switched.trans (congrArg not (latest_concat_of_none rfl).symm)
    · exact sound.settles_resumed (by simp)
    · simp only [SupervisionCall.isAttempt, countP_cons, countP_nil] at counted
      exact (Nat.add_right_cancel counted).trans alone
    · intro _
      exact .inr ⟨connection.established, by simp⟩
  | false =>
    simp only [supervision, Bool.false_eq_true, if_false, some.injEq,
      Prod.mk.injEq] at resumed
    rcases resumed with ⟨rfl, rfl⟩
    refine ⟨sound.timers, sound.switched, ?_, ?_, ?_⟩
    · exact sound.settles_resumed (by simp)
    · simp only [SupervisionCall.isAttempt, countP_cons, countP_nil] at counted
      exact (Nat.add_right_cancel counted).trans alone
    · exact sound.closes_resumed (by simp)

theorem StopSound.connectResolved {number : Nat}
    (sound : StopSound ⟨connection, before ++ .connectResolved number :: after⟩)
    (closed : connection.stopped = true → leftOpen connection.history = false) :
    StopSound ⟨connection.connectResolved, before ++ [] ++ after⟩ := by
  have alone : (before ++ [] ++ after).countP SupervisionCall.isAttempt = 0 :=
    sound.alone_resumed rfl rfl
  rcases SupervisedConnection.connectResolved_spec sound.timers with
    ⟨off, resolved⟩ | ⟨on, timer, intervals, tracks, resolved⟩
  · rw [resolved]
    refine ⟨⟨sound.timers.timeouts, sound.timers.intervals, sound.timers.off⟩, sound.switched,
      ?_, alone, ?_⟩
    · exact sound.settles_resumed (by simp)
    · intro opened
      exact absurd ((closed off).symm.trans opened) Bool.false_ne_true
  · rw [resolved]
    refine ⟨⟨sound.timers.timeouts, tracks, ?_⟩, sound.switched, ?_, alone, ?_⟩
    · intro stopped
      exact absurd (on.symm.trans stopped) Bool.false_ne_true
    · intro stopped
      exact absurd (on.symm.trans stopped) Bool.false_ne_true
    · intro _
      exact .inl ⟨on, by simp⟩

theorem StopSound.connectRejected
    (sound : StopSound ⟨connection, before ++ .connectRejected :: after⟩)
    (waits : connection.stopped = true → .stopping ∈ before ++ .connectRejected :: after) :
    StopSound ⟨connection.connectRejected, before ++ [] ++ after⟩ := by
  rcases SupervisedConnection.connectRejected_spec sound.timers with
    ⟨timer, timeouts, tracks, armed, rejected⟩
  rw [rejected]
  refine ⟨⟨tracks, sound.timers.intervals, ?_⟩, sound.switched, ?_, sound.alone_resumed rfl rfl, ?_⟩
  · intro stopped
    refine ⟨?_, (sound.timers.off stopped).2⟩
    have stopped : connection.stopped = true := stopped
    simpa [stopped] using armed
  · intro stopped
    exact .inr (Program.mem_of_mem_pending (waits stopped) (by simp))
  · intro opened
    by_cases off : connection.stopped = true
    · rcases sound.closes_resumed (by simp) opened with ⟨on, _⟩ | waiting
      · exact absurd (on.symm.trans off) Bool.false_ne_true
      · exact .inr waiting
    · exact .inl ⟨eq_false_of_ne_true off, by simp⟩

theorem StopSound.stopping (sound : StopSound ⟨connection, before ++ .stopping :: after⟩)
    (stopped : connection.stopped = true) :
    StopSound ⟨{ connection with state := .disconnected }, before ++ [] ++ after⟩ := by
  have counted := Program.countP_pending SupervisionCall.isAttempt before after [] .stopping
  refine ⟨⟨sound.timers.timeouts, sound.timers.intervals, sound.timers.off⟩, sound.switched,
    fun _ => .inl rfl, counted.trans sound.alone, ?_⟩
  intro opened
  rcases sound.closes_resumed (by simp) opened with ⟨on, _⟩ | waiting
  · exact absurd (on.symm.trans stopped) Bool.false_ne_true
  · exact .inr waiting

theorem StopSound.degrade {since : Nat}
    (sound : StopSound ⟨connection, before ++ .checking since :: after⟩)
    (waits : connection.stopped = true → .stopping ∈ before ++ .checking since :: after) :
    StopSound ⟨connection.degrade since, before ++ [.recovering] ++ after⟩ := by
  have counted := Program.countP_pending SupervisionCall.isAttempt before after [.recovering]
    (.checking since)
  rcases SupervisedConnection.degrade_spec sound.timers since with ⟨intervals, tracks, degraded⟩
  rw [degraded]
  refine ⟨⟨sound.timers.timeouts, tracks, ?_⟩, ?_, ?_, counted.trans sound.alone, ?_⟩
  · intro stopped
    exact ⟨(sound.timers.off stopped).1, rfl⟩
  · exact sound.switched.trans (congrArg not (latest_concat_of_none rfl).symm)
  · intro stopped
    exact .inr (Program.mem_of_mem_pending (waits stopped) (by simp))
  · intro opened
    simp only [leftOpen, latest_concat, SupervisionEvent.opens, Option.getD_some,
      Bool.false_eq_true] at opened

theorem StopSound.recover (sound : StopSound ⟨connection, before ++ .recovering :: after⟩) :
    StopSound ⟨connection.recover, before ++ [] ++ after⟩ := by
  have counted := Program.countP_pending SupervisionCall.isAttempt before after [] .recovering
  rcases SupervisedConnection.recover_spec sound.timers with
    ⟨timer, timeouts, tracks, armed, recovered⟩
  rw [recovered]
  refine ⟨⟨tracks, sound.timers.intervals, ?_⟩, sound.switched, ?_, counted.trans sound.alone, ?_⟩
  · intro stopped
    refine ⟨?_, (sound.timers.off stopped).2⟩
    have stopped : connection.stopped = true := stopped
    simpa [stopped] using armed
  · exact sound.settles_resumed (by simp)
  · exact sound.closes_resumed (by simp)

theorem StopSound.healthy {since : Nat}
    (sound : StopSound ⟨connection, before ++ .checking since :: after⟩) :
    StopSound ⟨connection, before ++ [] ++ after⟩ := by
  have counted := Program.countP_pending SupervisionCall.isAttempt before after []
    (.checking since)
  refine ⟨sound.timers, sound.switched, ?_, counted.trans sound.alone, ?_⟩
  · exact sound.settles_resumed (by simp)
  · exact sound.closes_resumed (by simp)

theorem stopSound_resume {fulfilled : Bool}
    (sound : StopSound ⟨connection, before ++ call :: after⟩)
    (met : endsInTime ⟨connection, before ++ call :: after⟩ fulfilled call)
    (resumed : supervision.resume connection call fulfilled = some (next, more)) :
    StopSound ⟨next, before ++ more ++ after⟩ := by
  cases call with
  | connecting => exact sound.connecting fulfilled resumed
  | connectResolved number =>
    simp only [supervision, some.injEq, Prod.mk.injEq] at resumed
    rcases resumed with ⟨rfl, rfl⟩
    exact sound.connectResolved met
  | connectRejected =>
    simp only [supervision, some.injEq, Prod.mk.injEq] at resumed
    rcases resumed with ⟨rfl, rfl⟩
    exact sound.connectRejected met
  | stopping =>
    simp only [supervision, some.injEq, Prod.mk.injEq] at resumed
    rcases resumed with ⟨rfl, rfl⟩
    exact sound.stopping met
  | checking since =>
    cases fulfilled with
    | true =>
      simp only [supervision, if_true, some.injEq, Prod.mk.injEq] at resumed
      rcases resumed with ⟨rfl, rfl⟩
      exact sound.healthy
    | false =>
      simp only [supervision, Bool.false_eq_true, if_false, some.injEq,
        Prod.mk.injEq] at resumed
      rcases resumed with ⟨rfl, rfl⟩
      exact sound.degrade (met rfl)
  | recovering =>
    simp only [supervision, some.injEq, Prod.mk.injEq] at resumed
    rcases resumed with ⟨rfl, rfl⟩
    exact sound.recover

end Resumes

theorem stopSound_step (config : Config SupervisedConnection SupervisionCall)
    (label : Schedule SupervisionRequest Bool)
    (next : Config SupervisedConnection SupervisionCall) (sound : StopSound config)
    (met : stopGuard config label) (step : supervision.machine.step config label = some next) :
    StopSound next := by
  cases label with
  | call request =>
    obtain rfl := Program.step_call_eq_some.mp step
    exact stopSound_call sound met
  | resume index fulfilled =>
    rcases Program.step_resume_eq_some.mp step with
      ⟨before, call, after, shared, more, split, rfl, resumed, rfl⟩
    rcases config with ⟨connection, pending⟩
    obtain rfl : pending = before ++ call :: after := split
    exact stopSound_resume sound (met call (by simp)) resumed

/-- If no waiting ends too late, stopping is final. -/
theorem stop_is_final (isHealthy : Bool) (labels : List (Schedule SupervisionRequest Bool))
    (inTime : supervision.machine.Guarded stopGuard
      (Program.idle (SupervisedConnection.initial isHealthy)) labels) :
    supervision.machine.Throughout StopsFinally
      (Program.idle (SupervisedConnection.initial isHealthy)) labels :=
  (Machine.throughout_of_guarded stopSound_step (stopSound_initial isHealthy) inTime).mono
    fun _ sound => sound.stopsFinally

/-- A manager that is started, loses its connection, connects again and is stopped. -/
theorem stopped_after_reconnecting : supervision.machine.Throughout StopsFinally
      (Program.idle (SupervisedConnection.initial true))
      [.call .start, .resume 0 true, .resume 0 true, .call (.reportDisconnected 0),
        .call (.reconnectTimer 0), .resume 0 true, .resume 0 true, .call (.heartbeatTimer 1),
        .call .stop, .resume 0 true, .resume 0 true] :=
  stop_is_final true _ (by decide)

/-- The transport connects while it is being disconnected and stays connected. -/
theorem connection_outlives_stop :
    ¬ ∀ (isHealthy : Bool) (labels : List (Schedule SupervisionRequest Bool)),
      supervision.machine.Throughout StopsFinally
        (Program.idle (SupervisedConnection.initial isHealthy)) labels := by
  intro final
  have throughout := final false
    [.call .start, .call .stop, .resume 1 true, .resume 0 true, .resume 0 true]
  have stops := Machine.property_of_throughout throughout rfl
  have rests := stops.rests ⟨[.start], [.disconnect, .connected], rfl, by decide, by decide⟩ rfl
  have disconnected := rests.followed [.start, .stop, .disconnect] [] rfl
  simp at disconnected

end SupremeOs.Knx
