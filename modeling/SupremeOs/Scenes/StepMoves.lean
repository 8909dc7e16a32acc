import SupremeOs.Scenes.RunnerSteps

/-!
# The moves of scene steps

A step goes from queued over sent to its verdict, or from queued to failed or
skipped, and never back.  This holds in every run of the scene runner.
-/

namespace SupremeOs.Scenes

open Support DomainModel

inductive Moves : StepState → StepState → Prop where
  | stays (state : StepState) : Moves state state
  | sent : Moves .queued .sent
  | failed : Moves .queued .failed
  | skipped : Moves .queued .skipped
  | confirmed : Moves .sent .confirmed
  | timeout : Moves .sent .timeout
  | superseded : Moves .sent .skipped

structure SceneRunStep.MovesTo (step next : SceneRunStep) : Prop where
  index : next.index = step.index
  state : Moves step.state next.state

def StepsMove (runner : SceneRunner) (_ : RunnerLabel) (next : SceneRunner) : Prop :=
  Grows (fun run after => List.Forall₂ SceneRunStep.MovesTo run.steps after.steps)
    (fun run => ∀ step ∈ run.steps, step.state = .queued ∨ step.state = .skipped)
    runner.runs next.runs

namespace SceneRunStep

variable {step next : SceneRunStep} {now : Nat} {deadlines : List (String × Nat)}

theorem MovesTo.refl (step : SceneRunStep) : step.MovesTo step := ⟨rfl, .stays _⟩

theorem movesTo_runStep (step : SceneRunStep) : step.MovesTo step.runStep := by
  unfold runStep
  split
  · exact ⟨rfl, .stays _⟩
  · split <;> exact ⟨rfl, .stays _⟩

theorem movesTo_conclude {state : StepState} (move : Moves .sent state) (reason : Option String) :
    step.MovesTo (step.conclude state reason) := by
  unfold conclude
  split
  · rename_i sent
    exact ⟨rfl, sent ▸ move⟩
  · exact ⟨rfl, .stays _⟩

theorem movesTo_sent (queued : step.state = .queued) : step.MovesTo step.sent := by
  unfold sent
  split <;> exact ⟨rfl, queued ▸ .sent⟩

theorem movesTo_commandSettled {outcome : Outcome Unit}
    (taken : step.commandSettled outcome = some next) : step.MovesTo next := by
  unfold commandSettled at taken
  split at taken
  · split at taken
    · rename_i queued
      cases outcome with
      | error message =>
        cases taken
        exact ⟨rfl, queued ▸ .failed⟩
      | ok _ =>
        cases taken
        exact movesTo_sent queued
    · cases taken
      exact ⟨rfl, .stays _⟩
  · simp at taken

theorem movesTo_deviceRead {outcome : Outcome (Option DeviceSnapshot)}
    (taken : step.deviceRead now deadlines outcome = some next) : step.MovesTo next := by
  unfold deviceRead at taken
  split at taken
  · split at taken
    · cases taken
      exact ⟨rfl, .stays _⟩
    · split at taken
      · split at taken
        · cases taken
          exact movesTo_conclude .confirmed none
        · cases taken
          exact ⟨rfl, .stays _⟩
      · cases taken
        exact ⟨rfl, .stays _⟩
  · simp at taken

theorem movesTo_reported (step : SceneRunStep) (deviceId capability : String)
    (fields : StateFields) :
    step.MovesTo (step.reported now deadlines deviceId capability fields) := by
  unfold reported
  split
  · split
    · split
      · exact movesTo_conclude .confirmed none
      · split <;> exact ⟨rfl, .stays _⟩
    · exact .refl step
  · exact .refl step

theorem movesTo_timedOut (taken : step.timedOut now = some next) : step.MovesTo next := by
  unfold timedOut at taken
  split at taken
  · split at taken
    · cases taken
      exact movesTo_conclude .timeout _
    · simp at taken
  · simp at taken

theorem movesTo_superseded (step : SceneRunStep) : step.MovesTo step.superseded := by
  unfold superseded
  split
  · exact movesTo_conclude .superseded _
  · split
    · rename_i queued
      exact ⟨rfl, queued ▸ .skipped⟩
    · exact .refl step

end SceneRunStep

namespace SceneRun

variable {run after : SceneRun}

theorem moves_runSteps (run : SceneRun) (ids : List Nat) :
    List.Forall₂ SceneRunStep.MovesTo run.steps (run.runSteps ids).steps := by
  refine forall₂_map ?_
  intro step _
  split
  · exact step.movesTo_runStep
  · exact .refl step

theorem moves_turn (run : SceneRun) :
    List.Forall₂ SceneRunStep.MovesTo run.steps run.turn.steps := by
  unfold turn
  split
  · rename_i ids _
    exact moves_runSteps { run with phase := run.phase + 1 } ids
  · exact List.forall₂_same.mpr fun step _ => .refl step

theorem moves_updateStep {place : Nat} {change : SceneRunStep → Option SceneRunStep}
    (moves : ∀ step next, change step = some next → step.MovesTo next)
    (taken : run.updateStep place change = some after) :
    List.Forall₂ SceneRunStep.MovesTo run.steps after.steps := by
  rcases updateStep_eq_some.mp taken with ⟨step, next, found, changed, rfl⟩
  exact forall₂_set found (moves step next changed) fun step _ => .refl step

theorem moves_supersede (run : SceneRun) (mine : List (String × String)) (runId : Nat) :
    List.Forall₂ SceneRunStep.MovesTo run.steps (run.supersede mine runId).steps := by
  unfold supersede
  split
  · refine forall₂_map ?_
    intro step _
    split
    · exact step.movesTo_superseded
    · exact .refl step
  · exact List.forall₂_same.mpr fun step _ => .refl step

theorem moves_change {deadlines : List (String × Nat)} {now : Nat} {label : RunnerLabel}
    (change : RunChange deadlines now label run after) :
    List.Forall₂ SceneRunStep.MovesTo run.steps after.steps := by
  cases change with
  | commandSettled taken =>
    exact moves_updateStep (fun _ _ => SceneRunStep.movesTo_commandSettled) taken
  | deviceRead taken =>
    exact moves_updateStep (fun _ _ => SceneRunStep.movesTo_deviceRead) taken
  | reported deviceId capability fields =>
    exact forall₂_map fun step _ => step.movesTo_reported deviceId capability fields
  | timedOut taken => exact moves_updateStep (fun _ _ => SceneRunStep.movesTo_timedOut) taken
  | nextPhase taken =>
    unfold nextPhase at taken
    split at taken
    · simp at taken
    · split at taken
      · split at taken
        · cases taken
          exact run.moves_turn
        · simp at taken
      · simp at taken
  | finish taken =>
    unfold finish at taken
    split at taken
    · cases taken
      exact List.forall₂_same.mpr fun step _ => .refl step
    · simp at taken

end SceneRun

theorem SceneRunStep.state_runStep (step : SceneRunStep) : step.runStep.state = step.state := by
  unfold runStep
  split
  · rfl
  · split <;> rfl

theorem stepsMove {runner next : SceneRunner} {label : RunnerLabel}
    {deadlines : List (String × Nat)} (taken : runner.step deadlines label = some next)
    (before : runner.Starts AllNew) :
    StepsMove runner label next ∧ next.Starts AllNew := by
  refine step_rule taken ?_ ?_ ?_ ?_ before ?_ ?_
  · exact fun run _ => List.forall₂_same.mpr fun step _ => .refl step
  · exact fun run after => SceneRun.moves_change
  · exact fun mine runId run _ => run.moves_supersede mine runId
  · intro scene spaceIds now steps allNew
    refine SceneRun.forall_mem_started ?_ fun step member => (allNew step member).state
    intro step state
    rw [step.state_runStep]
    exact state
  · intro scene spaceIds _ step member
    simp at member
  · exact fun _ _ index roomId device _ _ allNew => allNew.concat index roomId device

end SupremeOs.Scenes
