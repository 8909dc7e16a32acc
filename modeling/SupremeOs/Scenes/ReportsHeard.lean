import SupremeOs.Scenes.StepChanges
import SupremeOs.Scenes.RunVerdicts
import SupremeOs.Support.Updates

/-!
# A scene run hears every report

A device that reports what a step asks for, once the command is out and before
the deadline has passed, should confirm the step.

The listener is there only when the command and a read of the device have been
awaited.  A report that comes earlier counts only through the state that is
read, so every such step is confirmed as long as this state is still, or
already, the one that was asked for.
-/

namespace SupremeOs.Scenes

open Support DomainModel Option

namespace SceneRunStep

/-- What proves that the command took effect. -/
def expectation (step : SceneRunStep) : Option StateExpectation :=
  step.command.bind (expectationOf step.capability)

/-- A report says what the command asks for, while the call is under way. -/
def concernedBy (deviceId capability : String) (fields : StateFields)
    (step : SceneRunStep) : Bool :=
  step.awaits && decide (step.key = (deviceId, capability)) &&
    step.expectation.any (·.accepts fields)

end SceneRunStep

/-- What has been reported, and which steps it was about. -/
structure Hearing where
  /-- All reports, the oldest one first. -/
  reports : List (String × String × StateFields)
  /-- How many reports there were when the device of a step began to be read. -/
  readFrom : Nat → Nat → Nat
  heard : Nat → Nat → Bool

namespace Hearing

def silence : Hearing := ⟨[], fun _ _ => 0, fun _ _ => false⟩

def note (runner : SceneRunner) (label : RunnerLabel) (_ : SceneRunner) (hearing : Hearing) :
    Hearing :=
  match label with
  | .commandSettled run place _ =>
    { hearing with
      readFrom := fun other position =>
        if other = run ∧ position = place then hearing.reports.length
        else hearing.readFrom other position }
  | .report deviceId capability fields =>
    { hearing with
      reports := hearing.reports ++ [(deviceId, capability, fields)]
      heard := fun run place => hearing.heard run place ||
        (runner.stepAt run place).any (·.concernedBy deviceId capability fields) }
  | .start _ _ | .roomOf _ _ | .getDevice _ _ | .deviceRead _ _ _ | .timer _ _ | .nextPhase _
  | .finish _ | .tick _ => hearing

def stateAfter (initial : String → String → Option StateFields) (hearing : Hearing)
    (count : Nat) (deviceId capability : String) : Option StateFields :=
  lastSet (fun report => if report.1 = deviceId ∧ report.2.1 = capability then
    some (some report.2.2) else none) (initial deviceId capability) (hearing.reports.take count)

end Hearing

def hearingMachine (deadlines : List (String × Nat)) :
    Machine (SceneRunner × Hearing) RunnerLabel :=
  (runnerMachine deadlines).recording Hearing.note

/-- A read of a device returns a state that it had at some time since the read began. -/
def ReadsState (initial : String → String → Option StateFields)
    (config : SceneRunner × Hearing) : RunnerLabel → Prop
  | .deviceRead run place outcome =>
    ∀ step, config.1.stepAt run place = some step → ∃ device count, outcome = .ok (some device) ∧
        config.2.readFrom run place ≤ count ∧ count ≤ config.2.reports.length ∧
        device.state.lookup step.capability =
          config.2.stateAfter initial count step.deviceId step.capability
  | _ => True

namespace SceneRunStep

/-- Confirmed, or superseded, or the command was rejected. -/
def EndsConfirmed (step : SceneRunStep) : Prop :=
  step.state = .confirmed ∨ step.IsSuperseded ∨ step.state = .failed

end SceneRunStep

/-- A step that was reported waits for no further report, and is confirmed in the end. -/
def ReportsHeard (config : SceneRunner × Hearing) : Prop :=
  ∀ run place step, config.1.stepAt run place = some step → config.2.heard run place = true →
    (∀ expectation due, step.task ≠ .waiting expectation due) ∧
      (step.task = .returned → step.EndsConfirmed)

def SceneRunStep.confirmedBy (outcome : Outcome (Option DeviceSnapshot))
    (step : SceneRunStep) : Bool :=
  match outcome with
  | .ok (some device) =>
    (device.state.lookup step.capability).any fun fields =>
      step.expectation.any (·.accepts fields)
  | .ok none | .error _ => false

/-- A device whose report came before there was a listener is read in the state it reported. -/
def ReadsReported (config : SceneRunner × Hearing) : RunnerLabel → Prop
  | .deviceRead run place outcome => config.2.heard run place = true →
      (config.1.stepAt run place).any (·.confirmedBy outcome) = true
  | _ => True

instance (config : SceneRunner × Hearing) : ∀ label, Decidable (ReadsReported config label)
  | .deviceRead .. => inferInstanceAs (Decidable (_ → _))
  | .start _ _ | .roomOf _ _ | .getDevice _ _ | .commandSettled _ _ _ | .report _ _ _
  | .timer _ _ | .nextPhase _ | .finish _ | .tick _ => isTrue trivial

namespace SceneRunStep

/-- The state of a step whose call is under way. -/
def Fitting (step : SceneRunStep) : Prop :=
  match step.task with
  | .commanding => step.state = .queued ∨ step.IsSuperseded
  | .checking expectation | .waiting expectation _ =>
    step.state = .sent ∧ step.expectation = some expectation
  | .ready | .returned | .rejected => True

/-- What is kept of a step that was reported, or was not. -/
structure Attends (step : SceneRunStep) (heard : Bool) : Prop where
  fitting : step.Fitting
  expects : heard = true → step.expectation.isSome = true
  begun : heard = true → step.task ≠ .ready
  prompt : heard = true → ∀ expectation due, step.task ≠ .waiting expectation due
  ends : heard = true → step.task = .returned → step.EndsConfirmed

variable {step next : SceneRunStep} {heard : Bool} {now : Nat} {deadlines : List (String × Nat)}

theorem attends_of_unheard (unheard : heard = true → False) (fitting : step.Fitting) :
    step.Attends heard :=
  ⟨fitting, fun isHeard => (unheard isHeard).elim, fun isHeard => (unheard isHeard).elim,
    fun isHeard => (unheard isHeard).elim, fun isHeard => (unheard isHeard).elim⟩

theorem attends_of_isNew (isNew : step.IsNew) : step.Attends false :=
  attends_of_unheard (by simp) (by simp [Fitting, isNew.ready])

@[simp]
theorem task_conclude (state : StepState) (reason : Option String) :
    (step.conclude state reason).task = .returned := by
  unfold conclude
  split <;> rfl

theorem fitting_of_returned (ended : step.task = .returned) : step.Fitting := by
  simp [Fitting, ended]

theorem attends_confirmed (sent : step.state = .sent) (expects : step.expectation.isSome = true) :
    (step.conclude .confirmed none).Attends heard := by
  rw [conclude, if_pos sent]
  exact ⟨trivial, fun _ => expects, fun _ => by simp [returns], fun _ => by simp [returns],
    fun _ _ => .inl rfl⟩

namespace Attends

section

variable (attends : step.Attends heard)

include attends

theorem returned (same : next.expectation = step.expectation)
    (ended : next.task = .returned) (ends : heard = true → next.EndsConfirmed) :
    next.Attends heard where
  fitting := fitting_of_returned ended
  expects isHeard := by
    rw [same]
    exact attends.expects isHeard
  begun _ := by simp [ended]
  prompt _ := by simp [ended]
  ends isHeard _ := ends isHeard

theorem runStep : step.runStep.Attends heard := by
  unfold SceneRunStep.runStep
  split
  · rename_i queued
    exact ⟨.inl queued.1, attends.expects, fun _ => by simp, fun _ => by simp, fun _ => by simp⟩
  · split
    · rename_i ready
      exact attends_of_unheard (fun isHeard => attends.begun isHeard ready)
        (fitting_of_returned rfl)
    · exact attends

theorem superseded : step.superseded.Attends heard := by
  unfold SceneRunStep.superseded
  split
  · rename_i expectation due waiting
    exact attends_of_unheard (fun isHeard => attends.prompt isHeard expectation due waiting)
      (fitting_of_returned (task_conclude _ _))
  · split
    · rename_i queued
      refine ⟨?_, attends.expects, attends.begun, attends.prompt,
        fun _ _ => .inr (.inl ⟨rfl, rfl⟩)⟩
      have fitting := attends.fitting
      unfold Fitting at fitting ⊢
      simp only [set]
      cases task : step.task <;> simp_all [IsSuperseded]
    · exact attends

theorem sent : step.sent.Attends heard := by
  unfold SceneRunStep.sent
  split
  · rename_i none
    refine attends_of_unheard (fun isHeard => ?_) (fitting_of_returned rfl)
    have expects := attends.expects isHeard
    simp [expectation, none] at expects
  · rename_i expectation found
    exact ⟨⟨rfl, found⟩, attends.expects, fun _ => by simp, fun _ => by simp, fun _ => by simp⟩

theorem commandSettled {outcome : Outcome Unit}
    (taken : step.commandSettled outcome = some next) : next.Attends heard := by
  unfold SceneRunStep.commandSettled at taken
  split at taken
  · rename_i commanding
    split at taken
    · cases outcome with
      | error message =>
        cases taken
        exact attends.returned rfl rfl fun _ => .inr (.inr rfl)
      | ok _ =>
        cases taken
        exact attends.sent
    · rename_i moved
      cases taken
      have fitting := attends.fitting
      rw [Fitting, commanding] at fitting
      exact attends.returned rfl rfl fun _ => .inr (.inl (fitting.resolve_left moved))
  · simp at taken

theorem deviceRead {outcome : Outcome (Option DeviceSnapshot)}
    (found : heard = true → step.confirmedBy outcome = true)
    (taken : step.deviceRead now deadlines outcome = some next) : next.Attends heard := by
  unfold SceneRunStep.deviceRead at taken
  split at taken
  · rename_i asked checking
    have fitting := attends.fitting
    rw [Fitting, checking] at fitting
    split at taken
    · cases taken
      exact attends_of_unheard (fun isHeard => by simp [confirmedBy] at found; simp_all)
        (by simp [Fitting])
    · rename_i device
      have waits (missed : heard = true → False) :
          (step.wait now deadlines asked).Attends heard :=
        attends_of_unheard missed fitting
      split at taken
      · rename_i fields known
        split at taken
        · cases taken
          exact attends_confirmed fitting.1 (by simp [fitting.2])
        · rename_i refused
          cases taken
          refine waits fun isHeard => ?_
          have confirmed := found isHeard
          rcases bind_eq_some_iff.mp known with ⟨snapshot, rfl, stored⟩
          simp [confirmedBy, stored, fitting.2, refused] at confirmed
      · rename_i unknown
        cases taken
        refine waits fun isHeard => ?_
        have confirmed := found isHeard
        cases device with
        | none => simp [confirmedBy] at confirmed
        | some snapshot =>
          simp only [bind_some] at unknown
          simp [confirmedBy, unknown] at confirmed
  · simp at taken

theorem timedOut (taken : step.timedOut now = some next) :
    next.Attends heard := by
  unfold SceneRunStep.timedOut at taken
  split at taken
  · rename_i expectation due waiting
    split at taken
    · cases taken
      exact attends_of_unheard (fun isHeard => attends.prompt isHeard expectation due waiting)
        (fitting_of_returned (task_conclude _ _))
    · simp at taken
  · simp at taken

theorem reported (deviceId capability : String) (fields : StateFields) :
    (step.reported now deadlines deviceId capability fields).Attends
      (heard || step.concernedBy deviceId capability fields) := by
  unfold SceneRunStep.reported
  split
  · rename_i asked due waiting
    have fitting := attends.fitting
    rw [Fitting, waiting] at fitting
    have unheard : heard = false :=
      Bool.eq_false_iff.mpr fun isHeard => attends.prompt isHeard asked due waiting
    have unconcerned
        (missed : ¬((step.deviceId = deviceId ∧ step.capability = capability) ∧
          asked.accepts fields = true)) :
        (heard || step.concernedBy deviceId capability fields) = true → False := by
      simpa [unheard, concernedBy, awaits, waiting, key, fitting.2] using missed
    split
    · rename_i addressed
      split
      · exact attends_confirmed fitting.1 (by simp [fitting.2])
      · rename_i refused
        split
        · exact attends_of_unheard (unconcerned fun both => refused both.2) fitting
        · exact attends_of_unheard (unconcerned fun both => refused both.2) attends.fitting
    · rename_i elsewhere
      exact attends_of_unheard (unconcerned fun both => elsewhere both.1) attends.fitting
  · rename_i other
    have about (concerned : step.concernedBy deviceId capability fields = true) :
        step.awaits = true ∧ step.expectation.isSome = true := by
      simp only [concernedBy, Bool.and_eq_true] at concerned
      exact ⟨concerned.1.1, isSome_of_any concerned.2⟩
    refine ⟨attends.fitting, ?_, ?_, fun _ => other, ?_⟩
    · intro isHeard
      rcases (Bool.or_eq_true _ _).mp isHeard with before | now
      · exact attends.expects before
      · exact (about now).2
    · intro isHeard ready
      rcases (Bool.or_eq_true _ _).mp isHeard with before | now
      · exact attends.begun before ready
      · simpa [awaits, ready] using (about now).1
    · intro isHeard ended
      rcases (Bool.or_eq_true _ _).mp isHeard with before | now
      · exact attends.ends before ended
      · simpa [awaits, ended] using (about now).1

end

end Attends

end SceneRunStep

/-- What is kept of the runner and of what was reported to it. -/
structure HearingSound (runner : SceneRunner) (hearing : Hearing) : Prop where
  steps : ∀ run place step, runner.stepAt run place = some step →
    step.Attends (hearing.heard run place)
  known : ∀ run place, hearing.heard run place = true → run < runner.runs.length
  starts : runner.Starts AllNew

theorem hearingSound_initial : HearingSound SceneRunner.initial Hearing.silence :=
  ⟨by simp [SceneRunner.initial, SceneRunner.stepAt], by simp [Hearing.silence],
    by simp [SceneRunner.initial, SceneRunner.Starts]⟩

section Steps

variable {deadlines : List (String × Nat)} {runner next : SceneRunner} {hearing : Hearing}
variable {label : RunnerLabel}

theorem heard_note (silent : label.isReport = false) :
    (hearing.note runner label next).heard = hearing.heard := by
  cases label with
  | report deviceId capability fields => simp [RunnerLabel.isReport] at silent
  | start _ _ | roomOf _ _ | getDevice _ _ | commandSettled _ _ _ | deviceRead _ _ _
  | timer _ _ | nextPhase _ | finish _ | tick _ => rfl

theorem HearingSound.lt_of_heard (sound : HearingSound runner hearing) {run place : Nat}
    (isHeard : (hearing.note runner label next).heard run place = true) :
    run < runner.runs.length := by
  cases reports : label.isReport with
  | false =>
    rw [heard_note reports] at isHeard
    exact sound.known run place isHeard
  | true =>
    cases label with
    | report deviceId capability fields =>
      rcases (Bool.or_eq_true _ _).mp isHeard with before | now
      · exact sound.known run place before
      · rcases isSome_iff_exists.mp (isSome_of_any now) with ⟨step, found⟩
        exact SceneRunner.lt_of_stepAt found
    | start _ _ | roomOf _ _ | getDevice _ _ | commandSettled _ _ _ | deviceRead _ _ _
    | timer _ _ | nextPhase _ | finish _ | tick _ => simp [RunnerLabel.isReport] at reports

theorem SceneRunStep.Attends.change {run place : Nat} {step after : SceneRunStep}
    (attends : step.Attends (hearing.heard run place))
    (found : runner.stepAt run place = some step) (met : ReadsReported (runner, hearing) label)
    (change : StepChange deadlines runner.now run place label step after) :
    after.Attends ((hearing.note runner label next).heard run place) := by
  cases change with
  | same step silent =>
    rw [heard_note silent]
    exact attends
  | called step silent =>
    rw [heard_note silent]
    exact attends.runStep
  | superseded step silent =>
    rw [heard_note silent]
    exact attends.superseded
  | commandSettled taken => exact attends.commandSettled taken
  | deviceRead taken =>
    refine attends.deviceRead (fun isHeard => ?_) taken
    simpa [found] using met isHeard
  | reported deviceId capability fields step =>
    have kept : (step.reported runner.now deadlines deviceId capability fields).Attends _ :=
      attends.reported deviceId capability fields
    simpa [Hearing.note, found] using kept
  | timedOut taken => exact attends.timedOut taken

theorem hearingSound_step (sound : HearingSound runner hearing)
    (met : ReadsReported (runner, hearing) label)
    (taken : runner.step deadlines label = some next) :
    HearingSound next (hearing.note runner label next) where
  steps := by
    intro run place after found
    rcases Nat.lt_or_ge run runner.runs.length with old | begun
    · rcases stepAt_change taken found old with ⟨step, before, change⟩
      exact (sound.steps run place step before).change before met change
    · have unheard : (hearing.note runner label next).heard run place = false :=
        Bool.eq_false_iff.mpr fun isHeard => Nat.not_lt_of_le begun (sound.lt_of_heard isHeard)
      rw [unheard]
      exact stepAt_new taken sound.starts (fun _ attends => attends.runStep)
        (fun _ => SceneRunStep.attends_of_isNew) found begun
  known run place isHeard := Nat.lt_of_lt_of_le (sound.lt_of_heard isHeard) (length_runs_le taken)
  starts := (stepsMove taken sound.starts).2

end Steps

/--
A step that was reported ends confirmed, unless it is superseded or its command
is rejected, as long as every device whose report came before there was a
listener is then read in the state that it had reported.
-/
theorem reports_heard (deadlines : List (String × Nat)) (labels : List RunnerLabel)
    (guarded : (hearingMachine deadlines).Guarded ReadsReported
      (SceneRunner.initial, Hearing.silence) labels) :
    (hearingMachine deadlines).Throughout ReportsHeard
      (SceneRunner.initial, Hearing.silence) labels := by
  have throughout : (hearingMachine deadlines).Throughout
      (fun config => HearingSound config.1 config.2) (SceneRunner.initial, Hearing.silence)
      labels := Machine.recording_throughout_of_guarded
    (fun runner hearing label next sound met taken => hearingSound_step sound met taken)
    hearingSound_initial guarded
  refine throughout.mono fun config sound run place step found isHeard => ?_
  have attends := sound.steps run place step found
  exact ⟨attends.prompt isHeard, attends.ends isHeard⟩

/-- A lamp that reports while its command is being sent. -/
def quickReport : List RunnerLabel := [
  .start (sampleScene [sampleStep "hall"] []) [],
  .roomOf 0 (.ok none), .getDevice 0 (.ok (some (onlineDevice false))),
  .report "hall" "onoff" [("on", .boolean true)],
  .commandSettled 0 0 (.ok ()), .deviceRead 0 0 (.ok (some (onlineDevice true)))]

theorem quick_report_confirms :
    (((runnerMachine []).run SceneRunner.initial quickReport).bind fun runner =>
        (runner.stepAt 0 0).map SceneRunStep.state) = some .confirmed ∧
      (hearingMachine []).Throughout ReportsHeard
        (SceneRunner.initial, Hearing.silence) quickReport :=
  ⟨by decide +kernel, reports_heard [] quickReport (by decide +kernel)⟩

def reportDuringRead : List RunnerLabel := [
  .start (sampleScene [sampleStep "hall"] []) [],
  .roomOf 0 (.ok none), .getDevice 0 (.ok (some (onlineDevice false))),
  .commandSettled 0 0 (.ok ()), .report "hall" "onoff" [("on", .boolean true)]]

/-- What is read is its state before, and no other report comes. -/
def staleRead : List RunnerLabel :=
  [.deviceRead 0 0 (.ok (some (onlineDevice false))), .tick 10000, .timer 0 0]

def lampOff (_ _ : String) : Option StateFields := some [("on", .boolean false)]

/-- The step times out, although the lamp has reported what it was asked for. -/
theorem report_during_read_is_missed :
    ¬∀ (initial : String → String → Option StateFields) (labels : List RunnerLabel),
      (hearingMachine []).Guarded (ReadsState initial)
        (SceneRunner.initial, Hearing.silence) labels → (hearingMachine []).Throughout ReportsHeard
        (SceneRunner.initial, Hearing.silence) labels := by
  intro heard
  have reading : ∃ config, (hearingMachine []).run (SceneRunner.initial, Hearing.silence)
      reportDuringRead = some config ∧ config.2.readFrom 0 0 = 0 ∧
      (config.1.stepAt 0 0).all (fun step => step.capability = "onoff") = true :=
    ⟨_, rfl, by decide +kernel, by decide +kernel⟩
  rcases reading with ⟨config, reached, began, lamp⟩
  have reads : (hearingMachine []).Guarded (ReadsState lampOff)
      (SceneRunner.initial, Hearing.silence) (reportDuringRead ++ staleRead) := by
    refine (Machine.guarded_append reached).mpr ⟨?_, ?_⟩
    · refine Machine.guarded_of_forall_mem ?_
      simp [reportDuringRead, ReadsState]
    · rw [staleRead, Machine.Guarded]
      split
      · refine ⟨fun step found =>
          ⟨onlineDevice false, 0, rfl, Nat.le_of_eq began, Nat.zero_le _, ?_⟩,
          Machine.guarded_of_forall_mem (by simp [ReadsState])⟩
        rw [found, all_some, decide_eq_true_eq] at lamp
        rw [lamp]
        rfl
      · trivial
  have last := Machine.property_of_throughout (heard lampOff _ reads) rfl
  rcases (last 0 0 _ rfl (by decide +kernel)).2 (by decide +kernel) with
    confirmed | superseded | failed
  · exact absurd confirmed (by decide +kernel)
  · exact absurd superseded.1 (by decide +kernel)
  · exact absurd failed (by decide +kernel)

end SupremeOs.Scenes
