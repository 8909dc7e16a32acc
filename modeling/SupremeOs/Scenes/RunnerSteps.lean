import SupremeOs.Scenes.SceneRunner
import SupremeOs.Support.Growing

/-!
# What a step of the scene runner does

A step changes one run as its label says, or all of them by a report; a call of
`start` looks up one step more, or its run begins and the older ones are
superseded.  `step_rule` takes what is true of these changes to the whole step.
-/

namespace SupremeOs.Scenes

open Support DomainModel List Option

inductive RunChange (deadlines : List (String × Nat)) (now : Nat) :
    RunnerLabel → SceneRun → SceneRun → Prop where
  | commandSettled {place step : Nat} {outcome : Outcome Unit} {run after : SceneRun}
      (taken : run.updateStep step (·.commandSettled outcome) = some after) :
      RunChange deadlines now (.commandSettled place step outcome) run after
  | deviceRead {place step : Nat} {outcome : Outcome (Option DeviceSnapshot)}
      {run after : SceneRun}
      (taken : run.updateStep step (·.deviceRead now deadlines outcome) = some after) :
      RunChange deadlines now (.deviceRead place step outcome) run after
  | reported (deviceId capability : String) (fields : StateFields) (run : SceneRun) :
      RunChange deadlines now (.report deviceId capability fields) run
        (run.mapSteps (·.reported now deadlines deviceId capability fields))
  | timedOut {place step : Nat} {run after : SceneRun}
      (taken : run.updateStep step (·.timedOut now) = some after) :
      RunChange deadlines now (.timer place step) run after
  | nextPhase {place : Nat} {run after : SceneRun} (taken : run.nextPhase = some after) :
      RunChange deadlines now (.nextPhase place) run after
  | finish {place : Nat} {run after : SceneRun} (taken : run.finish now = some after) :
      RunChange deadlines now (.finish place) run after

section Rule

variable {related : SceneRun → SceneRun → Prop} {new : SceneRun → Prop}
variable {ready : Scene → List SceneRunStep → Prop}
variable {runner next : SceneRunner} {label : RunnerLabel} {deadlines : List (String × Nat)}

/-- All calls of `start` have looked up steps that are as they should be. -/
def SceneRunner.Starts (ready : Scene → List SceneRunStep → Prop) (runner : SceneRunner) : Prop :=
  ∀ call ∈ runner.starting, ready call.scene call.steps

theorem grows_updateRun {place : Nat} {change : SceneRun → Option SceneRun}
    (taken : runner.updateRun place change = some next)
    (stays : ∀ run ∈ runner.runs, related run run)
    (changes : ∀ run after, change run = some after → related run after) :
    Grows related new runner.runs next.runs ∧ next.starting = runner.starting := by
  simp only [SceneRunner.updateRun, bind_eq_some_iff, map_eq_some_iff] at taken
  rcases taken with ⟨run, found, after, changed, rfl⟩
  exact ⟨.set found (changes run after changed) stays, rfl⟩

theorem proceed_rule {call : Starting} (before : runner.Starts ready)
    (stays : ∀ run ∈ runner.runs, related run run)
    (supersedes : ∀ mine runId, ∀ run ∈ runner.runs, related run (run.supersede mine runId))
    (launches : ∀ scene spaceIds now steps, ready scene steps →
      new (SceneRun.queued scene spaceIds now steps).started)
    (isReady : ready call.scene call.steps) :
    Grows related new runner.runs (runner.proceed call).runs ∧
      (runner.proceed call).Starts ready := by
  unfold SceneRunner.proceed
  split
  · refine ⟨.same stays, ?_⟩
    intro other member
    rcases mem_append.mp member with old | fresh
    · exact before other old
    · obtain rfl := mem_singleton.mp fresh
      exact isReady
  · refine ⟨.append ?_ (launches _ _ _ _ isReady), before⟩
    intro place run member
    split
    · exact supersedes _ _ run member
    · exact stays run member

theorem resumeStart_rule {place : Nat} {change : Starting → SceneStep → Option (Option Starting)}
    (taken : runner.resumeStart place change = some next) (before : runner.Starts ready)
    (stays : ∀ run ∈ runner.runs, related run run)
    (supersedes : ∀ mine runId, ∀ run ∈ runner.runs, related run (run.supersede mine runId))
    (launches : ∀ scene spaceIds now steps, ready scene steps →
      new (SceneRun.queued scene spaceIds now steps).started)
    (looks : ∀ call step after, step ∈ call.scene.steps → ready call.scene call.steps →
      change call step = some (some after) → ready after.scene after.steps) :
    Grows related new runner.runs next.runs ∧ next.Starts ready := by
  simp only [SceneRunner.resumeStart, bind_eq_some_iff, map_eq_some_iff] at taken
  rcases taken with ⟨call, found, step, present, result, changed, rfl⟩
  have rest : SceneRunner.Starts ready
      { runner with starting := runner.starting.eraseIdx place } :=
    fun other member => before other (mem_of_mem_eraseIdx member)
  cases result with
  | none => exact ⟨.same stays, rest⟩
  | some after =>
    exact proceed_rule rest stays supersedes launches
      (looks call step after (mem_of_getElem? present)
        (before call (mem_of_getElem? found)) changed)

theorem step_rule (taken : runner.step deadlines label = some next)
    (stays : ∀ run ∈ runner.runs, related run run)
    (changes : ∀ run after, RunChange deadlines runner.now label run after → related run after)
    (supersedes : ∀ mine runId, ∀ run ∈ runner.runs, related run (run.supersede mine runId))
    (launches : ∀ scene spaceIds now steps, ready scene steps →
      new (SceneRun.queued scene spaceIds now steps).started)
    (before : runner.Starts ready)
    (starts : ∀ scene spaceIds, label = .start scene spaceIds → ready scene [])
    (looks : ∀ scene steps index roomId device, ∀ step ∈ scene.steps, ready scene steps →
      ready scene (steps ++ [step.queuedAs index roomId device])) :
    Grows related new runner.runs next.runs ∧ next.Starts ready := by
  have unchanged {changed : SceneRunner}
      (outcome : Grows related new runner.runs changed.runs ∧ changed.starting = runner.starting) :
      Grows related new runner.runs changed.runs ∧ changed.Starts ready := by
    refine ⟨outcome.1, ?_⟩
    rw [SceneRunner.Starts, outcome.2]
    exact before
  cases label with
  | start scene spaceIds =>
    cases taken
    exact proceed_rule before stays supersedes launches (starts scene spaceIds rfl)
  | roomOf call outcome =>
    refine resumeStart_rule taken before stays supersedes launches ?_
    intro call step after _ isReady changed
    unfold SceneRunner.roomFound at changed
    split at changed
    · simp at changed
    · simp at changed
    · split at changed <;> obtain rfl := some.inj (some.inj changed) <;>
        exact isReady
  | getDevice call outcome =>
    refine resumeStart_rule taken before stays supersedes launches ?_
    intro call step after member isReady changed
    unfold SceneRunner.deviceFound at changed
    split at changed
    · simp at changed
    · simp at changed
    · cases some.inj changed
      exact looks _ _ _ _ _ step member isReady
  | commandSettled place step outcome =>
    exact unchanged (grows_updateRun taken stays fun run after changed =>
      changes run after (.commandSettled changed))
  | deviceRead place step outcome =>
    exact unchanged (grows_updateRun taken stays fun run after changed =>
      changes run after (.deviceRead changed))
  | report deviceId capability fields =>
    cases taken
    exact ⟨.map fun run _ => changes run _ (.reported deviceId capability fields run), before⟩
  | timer place step =>
    exact unchanged (grows_updateRun taken stays fun run after changed =>
      changes run after (.timedOut changed))
  | nextPhase place =>
    exact unchanged (grows_updateRun taken stays fun run after changed =>
      changes run after (.nextPhase changed))
  | finish place =>
    exact unchanged (grows_updateRun taken stays fun run after changed =>
      changes run after (.finish changed))
  | tick milliseconds =>
    cases taken
    exact ⟨.same stays, before⟩

end Rule

structure SceneRunStep.IsNew (step : SceneRunStep) : Prop where
  ready : step.task = .ready
  uncommanded : step.commanded = false
  state : step.state = .queued ∨ step.state = .skipped
  command : step.state = .queued → step.command.isSome = true

theorem SceneStep.isNew_queuedAs (step : SceneStep) (index : Nat) (roomId : Option String)
    (device : Option DeviceSnapshot) : (step.queuedAs index roomId device).IsNew := by
  refine ⟨rfl, rfl, (ite_eq_or_eq _ _ _).symm, ?_⟩
  simp only [queuedAs]
  cases safeParse step.rawCommand with
  | none => simp
  | some command => split <;> simp_all

/-- The steps that have been looked up are new. -/
def AllNew (_ : Scene) (steps : List SceneRunStep) : Prop := ∀ step ∈ steps, step.IsNew

theorem AllNew.concat {scene : Scene} {steps : List SceneRunStep} (allNew : AllNew scene steps)
    {step : SceneStep} (index : Nat) (roomId : Option String) (device : Option DeviceSnapshot) :
    AllNew scene (steps ++ [step.queuedAs index roomId device]) := by
  intro other member
  rcases mem_append.mp member with old | fresh
  · exact allNew other old
  · obtain rfl := mem_singleton.mp fresh
    exact step.isNew_queuedAs index roomId device

namespace SceneRun

variable {run after : SceneRun}

theorem updateStep_eq_some {place : Nat} {change : SceneRunStep → Option SceneRunStep} :
    run.updateStep place change = some after ↔
      ∃ step next, run.steps[place]? = some step ∧ change step = some next ∧
        { run with steps := run.steps.set place next } = after := by
  simp only [updateStep, bind_eq_some_iff, map_eq_some_iff]
  constructor
  · rintro ⟨step, found, next, changed, same⟩
    exact ⟨step, next, found, changed, same⟩
  · rintro ⟨step, next, found, changed, same⟩
    exact ⟨step, found, next, changed, same⟩

variable {property : SceneRunStep → Prop}

theorem forall_mem_runSteps {ids : List Nat} (keeps : ∀ step, property step → property step.runStep)
    (before : ∀ step ∈ run.steps, property step) :
    ∀ step ∈ (run.runSteps ids).steps, property step := by
  simp only [runSteps, mapSteps, List.mem_map, forall_exists_index, and_imp,
    forall_apply_eq_imp_iff₂]
  intro step member
  split
  · exact keeps step (before step member)
  · exact before step member

theorem forall_mem_turn (keeps : ∀ step, property step → property step.runStep)
    (before : ∀ step ∈ run.steps, property step) :
    ∀ step ∈ run.turn.steps, property step := by
  unfold turn
  split
  · exact forall_mem_runSteps keeps before
  · exact before

theorem forall_mem_started (keeps : ∀ step, property step → property step.runStep)
    (before : ∀ step ∈ run.steps, property step) :
    ∀ step ∈ run.started.steps, property step :=
  forall_mem_turn keeps (forall_mem_runSteps keeps before)

end SceneRun

end SupremeOs.Scenes
