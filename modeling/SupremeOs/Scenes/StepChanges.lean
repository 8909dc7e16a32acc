import SupremeOs.Scenes.RunnerSteps

/-!
# What becomes of one scene step

A step keeps its place in its run, and its run the place among all runs.  What
a step of the runner does to the step at one place is one of a few changes, and
a step at a new place is new.
-/

namespace SupremeOs.Scenes

open Support DomainModel List Option

def SceneRunner.stepAt (runner : SceneRunner) (run place : Nat) : Option SceneRunStep :=
  runner.runs[run]?.bind fun run => run.steps[place]?

namespace SceneRunStep

/-- Something that the call of `runStep` awaits has not settled. -/
def awaits (step : SceneRunStep) : Bool :=
  match step.task with
  | .commanding | .checking _ | .waiting _ _ => true
  | .ready | .returned | .rejected => false

def IsSuperseded (step : SceneRunStep) : Prop :=
  step.state = .skipped ∧ step.reason = some "superseded"

end SceneRunStep

def RunnerLabel.isReport : RunnerLabel → Bool
  | .report _ _ _ => true
  | .start _ _ | .roomOf _ _ | .getDevice _ _ | .commandSettled _ _ _ | .deviceRead _ _ _
  | .timer _ _ | .nextPhase _ | .finish _ | .tick _ => false

inductive StepChange (deadlines : List (String × Nat)) (now run place : Nat) :
    RunnerLabel → SceneRunStep → SceneRunStep → Prop where
  | same {label : RunnerLabel} (step : SceneRunStep) (silent : label.isReport = false) :
      StepChange deadlines now run place label step step
  | called {label : RunnerLabel} (step : SceneRunStep) (silent : label.isReport = false) :
      StepChange deadlines now run place label step step.runStep
  | superseded {label : RunnerLabel} (step : SceneRunStep) (silent : label.isReport = false) :
      StepChange deadlines now run place label step step.superseded
  | commandSettled {outcome : Outcome Unit} {step next : SceneRunStep}
      (taken : step.commandSettled outcome = some next) :
      StepChange deadlines now run place (.commandSettled run place outcome) step next
  | deviceRead {outcome : Outcome (Option DeviceSnapshot)} {step next : SceneRunStep}
      (taken : step.deviceRead now deadlines outcome = some next) :
      StepChange deadlines now run place (.deviceRead run place outcome) step next
  | reported (deviceId capability : String) (fields : StateFields) (step : SceneRunStep) :
      StepChange deadlines now run place (.report deviceId capability fields) step
        (step.reported now deadlines deviceId capability fields)
  | timedOut {step next : SceneRunStep} (taken : step.timedOut now = some next) :
      StepChange deadlines now run place (.timer run place) step next

section Places

variable {runner next : SceneRunner} {deadlines : List (String × Nat)} {label : RunnerLabel}
variable {run place : Nat} {step after : SceneRunStep}

theorem SceneRunner.stepAt_eq_some : runner.stepAt run place = some step ↔
      ∃ owner, runner.runs[run]? = some owner ∧ owner.steps[place]? = some step :=
  bind_eq_some_iff

theorem SceneRunner.lt_of_stepAt (found : runner.stepAt run place = some step) :
    run < runner.runs.length := by
  rcases stepAt_eq_some.mp found with ⟨owner, present, _⟩
  exact (List.getElem?_eq_some_iff.mp present).1

theorem stepAt_updateRun {changed : Nat} {change : SceneRun → Option SceneRun}
    (taken : runner.updateRun changed change = some next)
    (found : next.stepAt run place = some after) :
    runner.stepAt run place = some after ∨
      ∃ owner result, run = changed ∧ runner.runs[changed]? = some owner ∧
        change owner = some result ∧ result.steps[place]? = some after := by
  simp only [SceneRunner.updateRun, bind_eq_some_iff, map_eq_some_iff] at taken
  rcases taken with ⟨owner, present, result, applied, rfl⟩
  by_cases here : run = changed
  · subst here
    have bound := (List.getElem?_eq_some_iff.mp present).1
    simp only [SceneRunner.stepAt, getElem?_set_self bound, bind_some] at found
    exact .inr ⟨owner, result, rfl, present, applied, found⟩
  · simp only [SceneRunner.stepAt, getElem?_set_ne (Ne.symm here)] at found
    exact .inl found

theorem stepAt_updateStep {changed position : Nat} {change : SceneRunStep → Option SceneRunStep}
    (taken : runner.updateRun changed (·.updateStep position change) = some next)
    (found : next.stepAt run place = some after) :
    runner.stepAt run place = some after ∨
      ∃ step, run = changed ∧ place = position ∧ runner.stepAt run place = some step ∧
        change step = some after := by
  rcases stepAt_updateRun taken found with old | ⟨owner, result, rfl, present, applied, inside⟩
  · exact .inl old
  rcases SceneRun.updateStep_eq_some.mp applied with ⟨step, image, stored, stepped, rfl⟩
  by_cases here : place = position
  · subst here
    have bound := (List.getElem?_eq_some_iff.mp stored).1
    simp only [getElem?_set_self bound, some.injEq] at inside
    subst inside
    exact .inr ⟨step, rfl, rfl, SceneRunner.stepAt_eq_some.mpr ⟨owner, present, stored⟩, stepped⟩
  · simp only [getElem?_set_ne (Ne.symm here)] at inside
    exact .inl (SceneRunner.stepAt_eq_some.mpr ⟨owner, present, inside⟩)

variable {owner : SceneRun}

theorem getElem?_runSteps {ids : List Nat}
    (found : (owner.runSteps ids).steps[place]? = some after) :
    ∃ step, owner.steps[place]? = some step ∧ (after = step ∨ after = step.runStep) := by
  simp only [SceneRun.runSteps, SceneRun.mapSteps, getElem?_map, map_eq_some_iff] at found
  rcases found with ⟨step, present, rfl⟩
  refine ⟨step, present, ?_⟩
  split
  · exact .inr rfl
  · exact .inl rfl

theorem getElem?_turn (found : owner.turn.steps[place]? = some after) :
    ∃ step, owner.steps[place]? = some step ∧ (after = step ∨ after = step.runStep) := by
  unfold SceneRun.turn at found
  split at found
  · have begun := getElem?_runSteps found
    exact begun
  · exact ⟨after, found, .inl rfl⟩

theorem getElem?_supersede {mine : List (String × String)} {runId : Nat}
    (found : (owner.supersede mine runId).steps[place]? = some after) :
    ∃ step, owner.steps[place]? = some step ∧ (after = step ∨ after = step.superseded) := by
  unfold SceneRun.supersede at found
  split at found
  · simp only [getElem?_map, map_eq_some_iff] at found
    rcases found with ⟨step, present, rfl⟩
    refine ⟨step, present, ?_⟩
    split
    · exact .inr rfl
    · exact .inl rfl
  · exact ⟨after, found, .inl rfl⟩

theorem stepAt_launch {call : Starting} (found : (runner.launch call).stepAt run place = some after)
    (old : run < runner.runs.length) :
    ∃ step, runner.stepAt run place = some step ∧ (after = step ∨ after = step.superseded) := by
  rcases SceneRunner.stepAt_eq_some.mp found with ⟨owner, present, inside⟩
  simp only [SceneRunner.launch] at present
  rw [getElem?_append_left (by simpa using old), getElem?_mapIdx] at present
  rcases map_eq_some_iff.mp present with ⟨before, stored, rfl⟩
  split at inside
  · rcases getElem?_supersede inside with ⟨step, position, change⟩
    exact ⟨step, SceneRunner.stepAt_eq_some.mpr ⟨before, stored, position⟩, change⟩
  · exact ⟨after, SceneRunner.stepAt_eq_some.mpr ⟨before, stored, inside⟩, .inl rfl⟩

/-- A call of `start` looks up one step more, or its run begins. -/
theorem proceed_cases {call : Starting} :
    (runner.proceed call).runs = runner.runs ∨ runner.proceed call = runner.launch call := by
  unfold SceneRunner.proceed
  split
  · exact .inl rfl
  · exact .inr rfl

theorem resumeStart_cases {position : Nat}
    {change : Starting → SceneStep → Option (Option Starting)}
    (taken : runner.resumeStart position change = some next) :
    next.runs = runner.runs ∨ ∃ starting call, next =
      SceneRunner.launch { runner with starting := starting } call := by
  simp only [SceneRunner.resumeStart, bind_eq_some_iff, map_eq_some_iff] at taken
  rcases taken with ⟨_, _, _, _, result, _, rfl⟩
  cases result with
  | none => exact .inl rfl
  | some call =>
    refine proceed_cases.imp_right ?_
    intro launched
    exact ⟨_, call, launched⟩

section

variable (taken : runner.step deadlines label = some next)

include taken

theorem launch_or_same_length :
    (∃ starting call, next = SceneRunner.launch { runner with starting := starting } call) ∨
      next.runs.length = runner.runs.length := by
  have changed {position : Nat} {change : SceneRun → Option SceneRun}
      (updated : runner.updateRun position change = some next) :
      next.runs.length = runner.runs.length := by
    simp only [SceneRunner.updateRun, bind_eq_some_iff, map_eq_some_iff] at updated
    rcases updated with ⟨_, _, _, _, rfl⟩
    simp
  cases label with
  | start scene spaceIds =>
    cases taken
    rcases proceed_cases with same | launched
    · exact .inr (congrArg List.length same)
    · exact .inl ⟨_, _, launched⟩
  | roomOf call outcome | getDevice call outcome =>
    exact (resumeStart_cases taken).symm.imp_right (congrArg List.length)
  | commandSettled position step outcome | deviceRead position step outcome
  | timer position step | nextPhase position | finish position => exact .inr (changed taken)
  | report deviceId capability fields =>
    cases taken
    exact .inr (by simp)
  | tick milliseconds =>
    cases taken
    exact .inr rfl

theorem length_runs_le :
    runner.runs.length ≤ next.runs.length := by
  rcases launch_or_same_length taken with ⟨starting, call, rfl⟩ | same
  · simp [SceneRunner.launch]
  · exact Nat.le_of_eq same.symm

theorem stepAt_change
    (found : next.stepAt run place = some after) (old : run < runner.runs.length) :
    ∃ step, runner.stepAt run place = some step ∧
      StepChange deadlines runner.now run place label step after := by
  have launched (starting : List Starting) {call : Starting} (silent : label.isReport = false)
      (begins : next = SceneRunner.launch { runner with starting := starting } call) :
      ∃ step, runner.stepAt run place = some step ∧
        StepChange deadlines runner.now run place label step after := by
    subst begins
    rcases stepAt_launch found old with ⟨step, before, rfl | rfl⟩
    · exact ⟨after, before, .same after silent⟩
    · exact ⟨step, before, .superseded step silent⟩
  have unchanged (silent : label.isReport = false) (same : next.runs = runner.runs) :
      ∃ step, runner.stepAt run place = some step ∧
        StepChange deadlines runner.now run place label step after := by
    refine ⟨after, ?_, .same after silent⟩
    rwa [SceneRunner.stepAt, ← same]
  cases label with
  | start scene spaceIds =>
    cases taken
    rcases proceed_cases with same | begins
    · exact unchanged rfl same
    · exact launched runner.starting rfl begins
  | roomOf call outcome | getDevice call outcome =>
    rcases resumeStart_cases taken with same | ⟨starting, call, begins⟩
    · exact unchanged rfl same
    · exact launched starting rfl begins
  | commandSettled position index outcome =>
    rcases stepAt_updateStep taken found with same | ⟨step, rfl, rfl, before, changed⟩
    · exact ⟨after, same, .same after rfl⟩
    · exact ⟨step, before, .commandSettled changed⟩
  | deviceRead position index outcome =>
    rcases stepAt_updateStep taken found with same | ⟨step, rfl, rfl, before, changed⟩
    · exact ⟨after, same, .same after rfl⟩
    · exact ⟨step, before, .deviceRead changed⟩
  | timer position index =>
    rcases stepAt_updateStep taken found with same | ⟨step, rfl, rfl, before, changed⟩
    · exact ⟨after, same, .same after rfl⟩
    · exact ⟨step, before, .timedOut changed⟩
  | report deviceId capability fields =>
    cases taken
    rcases SceneRunner.stepAt_eq_some.mp found with ⟨owner, present, inside⟩
    simp only [getElem?_map, map_eq_some_iff] at present
    rcases present with ⟨before, stored, rfl⟩
    simp only [SceneRun.mapSteps, getElem?_map, map_eq_some_iff] at inside
    rcases inside with ⟨step, position, rfl⟩
    exact ⟨step, SceneRunner.stepAt_eq_some.mpr ⟨before, stored, position⟩,
      .reported deviceId capability fields step⟩
  | nextPhase position =>
    rcases stepAt_updateRun taken found with same | ⟨owner, result, rfl, stored, changed, inside⟩
    · exact ⟨after, same, .same after rfl⟩
    simp only [SceneRun.nextPhase] at changed
    split at changed
    · simp at changed
    · split at changed
      · split at changed
        · cases changed
          rcases getElem?_turn inside with ⟨step, before, rfl | rfl⟩
          · exact ⟨after, SceneRunner.stepAt_eq_some.mpr ⟨owner, stored, before⟩,
              .same after rfl⟩
          · exact ⟨step, SceneRunner.stepAt_eq_some.mpr ⟨owner, stored, before⟩,
              .called step rfl⟩
        · simp at changed
      · simp at changed
  | finish position =>
    rcases stepAt_updateRun taken found with same | ⟨owner, result, rfl, stored, changed, inside⟩
    · exact ⟨after, same, .same after rfl⟩
    simp only [SceneRun.finish] at changed
    split at changed
    · cases changed
      exact ⟨after, SceneRunner.stepAt_eq_some.mpr ⟨owner, stored, inside⟩, .same after rfl⟩
    · simp at changed
  | tick milliseconds =>
    cases taken
    exact unchanged rfl rfl

theorem stepAt_new {property : SceneRunStep → Prop} (before : runner.Starts AllNew)
    (keeps : ∀ step, property step → property step.runStep)
    (new : ∀ step : SceneRunStep, step.IsNew → property step)
    (found : next.stepAt run place = some after) (begun : runner.runs.length ≤ run) :
    property after := by
  have rule : Grows (fun _ _ => True) (fun owner : SceneRun => ∀ step ∈ owner.steps, property step)
      runner.runs next.runs ∧ next.Starts AllNew := by
    refine step_rule taken (fun _ _ => trivial) (fun _ _ _ => trivial) (fun _ _ _ _ => trivial)
      ?_ before ?_ ?_
    · intro scene spaceIds now steps allNew
      exact SceneRun.forall_mem_started keeps fun step member => new step (allNew step member)
    · intro scene spaceIds _ step member
      simp at member
    · exact fun _ _ index roomId device _ _ allNew => allNew.concat index roomId device
  rcases SceneRunner.stepAt_eq_some.mp found with ⟨owner, present, inside⟩
  exact rule.1.fresh run owner begun present after (mem_of_getElem? inside)

end

end Places

end SupremeOs.Scenes
