import SupremeOs.Scenes.ReportsHeard

/-!
# A newer scene run replaces the older one

A run that begins should take over from the older runs whatever they have not
finished of the same capabilities: such a step should end as superseded, its
command should not be sent any more, and no other step should be touched.

A step whose device is being read has been sent and has no listener that could
be cancelled, and a run that has left the table is not looked at.  Everything
else is replaced.
-/

namespace SupremeOs.Scenes

open Support DomainModel List

namespace SceneRunStep

/-- The step has neither a verdict nor an end without one. -/
def unfinished (step : SceneRunStep) : Bool :=
  step.state = .queued || (step.state = .sent && step.task ≠ .returned)

def isWaiting (step : SceneRunStep) : Bool :=
  match step.task with
  | .waiting _ _ => true
  | .ready | .commanding | .checking _ | .returned | .rejected => false

end SceneRunStep

namespace SceneRun

def queuedKeys (run : SceneRun) : List (String × String) :=
  (run.steps.filter fun step => step.state = .queued).map SceneRunStep.key

def replaces (newer older : SceneRun) (step : SceneRunStep) : Bool :=
  older.status = .running && step.unfinished && newer.queuedKeys.contains step.key

end SceneRun

/-- For the steps that a newer run replaced, whether their command had been sent by then. -/
abbrev Replacements := Nat → Nat → Option Bool

namespace Replacements

def none : Replacements := fun _ _ => .none

def note (runner : SceneRunner) (_ : RunnerLabel) (next : SceneRunner)
    (replaced : Replacements) : Replacements := fun run place =>
  (replaced run place).or do
    let newer ← next.runs[runner.runs.length]?
    let older ← runner.runs[run]?
    let step ← older.steps[place]?
    if newer.replaces older step then some step.commanded else .none

end Replacements

def replacingMachine (deadlines : List (String × Nat)) :
    Machine (SceneRunner × Replacements) RunnerLabel :=
  (runnerMachine deadlines).recording Replacements.note

/-- What was replaced is never confirmed nor timed out, ends superseded, and is not sent. -/
def ReplacesOlder (config : SceneRunner × Replacements) : Prop :=
  ∀ run place step commanded, config.1.stepAt run place = some step →
    config.2 run place = some commanded → step.state ≠ .confirmed ∧ step.state ≠ .timeout ∧
      (step.awaits = false → step.IsSuperseded) ∧ (commanded = false → step.commanded = false)

/-- A run that begins leaves alone what it is not about. -/
def OthersStay (runner : SceneRunner) (_ : RunnerLabel) (next : SceneRunner) : Prop :=
  ∀ newer run place step, next.runs[runner.runs.length]? = some newer →
    runner.stepAt run place = some step → step.key ∉ newer.queuedKeys →
    next.stepAt run place = some step

/-- What is replaced is in a run of the table, and is queued or waits for a report. -/
def CanReplace (deadlines : List (String × Nat)) (config : SceneRunner × Replacements)
    (label : RunnerLabel) : Prop :=
  ∀ next ∈ config.1.step deadlines label, ∀ newer ∈ next.runs[config.1.runs.length]?,
    ∀ older ∈ config.1.runs.zipIdx, ∀ step ∈ older.1.steps, newer.replaces older.1 step = true →
      config.1.runs.length ≤ older.2 + MAX_RUNS ∧ (step.state = .queued ∨ step.isWaiting = true)

instance (deadlines : List (String × Nat)) (config : SceneRunner × Replacements)
    (label : RunnerLabel) : Decidable (CanReplace deadlines config label) :=
  inferInstanceAs (Decidable (∀ next ∈ config.1.step deadlines label, _))

section Launch

variable {runner : SceneRunner} {call : Starting} {run place : Nat} {step after : SceneRunStep}

theorem SceneRunStep.key_runStep (step : SceneRunStep) : step.runStep.key = step.key := by
  unfold runStep
  split
  · rfl
  · split <;> rfl

theorem queuedKeys_mapSteps {owner : SceneRun} {change : SceneRunStep → SceneRunStep}
    (state : ∀ step, (change step).state = step.state)
    (key : ∀ step, (change step).key = step.key) :
    (owner.mapSteps change).queuedKeys = owner.queuedKeys := by
  simp only [SceneRun.queuedKeys, SceneRun.mapSteps, filter_map, map_map]
  have sameKeys : SceneRunStep.key ∘ change = SceneRunStep.key := funext key
  have sameTest : ((fun step : SceneRunStep => decide (step.state = .queued)) ∘ change) =
      fun step => decide (step.state = .queued) := by
    funext step
    simp [state]
  rw [sameKeys, sameTest]

theorem queuedKeys_runSteps (owner : SceneRun) (ids : List Nat) :
    (owner.runSteps ids).queuedKeys = owner.queuedKeys := by
  refine queuedKeys_mapSteps ?_ ?_ <;> intro step <;> split
  · exact step.state_runStep
  · rfl
  · exact step.key_runStep
  · rfl

theorem queuedKeys_started (owner : SceneRun) : owner.started.queuedKeys = owner.queuedKeys := by
  rw [← queuedKeys_runSteps owner owner.free, SceneRun.started]
  unfold SceneRun.turn
  split
  · exact queuedKeys_runSteps { owner.runSteps owner.free with
      phase := (owner.runSteps owner.free).phase + 1 } _
  · rfl

variable {newer older : SceneRun}

theorem newest_launch (found : (runner.launch call).runs[runner.runs.length]? = some newer) :
    newer.queuedKeys =
      (call.steps.filter fun step => step.state = .queued).map SceneRunStep.key := by
  have last : (SceneRun.queued call.scene call.spaceIds runner.now call.steps).started = newer := by
    simpa [SceneRunner.launch] using found
  rw [← last, queuedKeys_started]
  rfl

theorem older_launch (found : (runner.launch call).runs[runner.runs.length]? = some newer)
    (stored : runner.runs[run]? = some older) :
    (runner.launch call).runs[run]? = some
      (if runner.runs.length ≤ run + MAX_RUNS then
        older.supersede newer.queuedKeys runner.runs.length else older) := by
  have old := (List.getElem?_eq_some_iff.mp stored).1
  rw [newest_launch found]
  simp only [SceneRunner.launch]
  rw [getElem?_append_left (by simpa using old), getElem?_mapIdx, stored]
  rfl

theorem getElem?_supersede_of_unhit {mine : List (String × String)}
    {runId : Nat} (stored : older.steps[place]? = some step) (other : step.key ∉ mine) :
    (older.supersede mine runId).steps[place]? = some step := by
  unfold SceneRun.supersede
  split
  · simp [stored, SceneRunStep.hit, other]
  · exact stored

theorem getElem?_supersede_of_replaces {runId : Nat}
    (stored : older.steps[place]? = some step) (replaces : newer.replaces older step = true) :
    (older.supersede newer.queuedKeys runId).steps[place]? = some step.superseded := by
  simp only [SceneRun.replaces, Bool.and_eq_true, decide_eq_true_eq, contains_iff_mem] at replaces
  rcases replaces with ⟨⟨running, unfinished⟩, about⟩
  have hit : step.hit newer.queuedKeys = true := by
    simp only [SceneRunStep.hit, Bool.and_eq_true, decide_eq_true_eq]
    refine ⟨?_, about⟩
    simp only [SceneRunStep.unfinished, Bool.or_eq_true, Bool.and_eq_true] at unfinished ⊢
    exact unfinished.imp_right And.left
  have some_hit : older.steps.any (SceneRunStep.hit newer.queuedKeys) = true :=
    any_eq_true.mpr ⟨step, mem_of_getElem? stored, hit⟩
  rw [SceneRun.supersede, if_pos ⟨running, some_hit⟩]
  simp [stored, hit]

theorem othersStay {next : SceneRunner} {deadlines : List (String × Nat)} {label : RunnerLabel}
    (taken : runner.step deadlines label = some next) : OthersStay runner label next := by
  intro newer run place step found stored other
  rcases launch_or_same_length taken with ⟨starting, call, rfl⟩ | same
  · rcases SceneRunner.stepAt_eq_some.mp stored with ⟨older, present, inside⟩
    refine SceneRunner.stepAt_eq_some.mpr ⟨_, older_launch found present, ?_⟩
    split
    · exact getElem?_supersede_of_unhit inside other
    · exact inside
  · rw [← same, getElem?_eq_none (Nat.le_refl _)] at found
    cases found

end Launch

namespace SceneRunStep

variable {step next : SceneRunStep} {deadlines : List (String × Nat)} {now run place : Nat}
variable {label : RunnerLabel}

theorem IsSuperseded.conclude (old : step.IsSuperseded) (state : StepState)
    (reason : Option String) : step.conclude state reason = step.returns := by
  rw [SceneRunStep.conclude, if_neg (by simp [old.1])]

theorem IsSuperseded.change (old : step.IsSuperseded)
    (change : StepChange deadlines now run place label step next) :
    next.IsSuperseded ∧ next.commanded = step.commanded := by
  cases change with
  | same => exact ⟨old, rfl⟩
  | called =>
    unfold runStep
    split
    · rename_i queued
      simp [old.1] at queued
    · split <;> exact ⟨old, rfl⟩
  | superseded =>
    unfold superseded
    split
    · rw [old.conclude]
      exact ⟨old, rfl⟩
    · rw [if_neg (by simp [old.1])]
      exact ⟨old, rfl⟩
  | commandSettled taken =>
    unfold commandSettled at taken
    split at taken
    · rw [if_neg (by simp [old.1])] at taken
      cases taken
      exact ⟨old, rfl⟩
    · simp at taken
  | deviceRead taken =>
    simp only [deviceRead, old.conclude] at taken
    split at taken
    · split at taken
      · cases taken
        exact ⟨old, rfl⟩
      · split at taken
        · split at taken <;> obtain rfl := Option.some.inj taken <;> exact ⟨old, rfl⟩
        · cases taken
          exact ⟨old, rfl⟩
    · simp at taken
  | reported deviceId capability fields =>
    simp only [reported, old.conclude]
    split
    · split
      · split
        · exact ⟨old, rfl⟩
        · split <;> exact ⟨old, rfl⟩
      · exact ⟨old, rfl⟩
    · exact ⟨old, rfl⟩
  | timedOut taken =>
    simp only [timedOut, old.conclude] at taken
    split at taken
    · split at taken
      · cases taken
        exact ⟨old, rfl⟩
      · simp at taken
    · simp at taken

theorem isSuperseded_superseded (fitting : step.Fitting)
    (ready : step.state = .queued ∨ step.isWaiting = true) :
    step.superseded.IsSuperseded ∧ step.superseded.commanded = step.commanded := by
  unfold superseded
  split
  · rename_i expectation due waiting
    rw [Fitting, waiting] at fitting
    rw [SceneRunStep.conclude, if_pos fitting.1]
    exact ⟨⟨rfl, rfl⟩, rfl⟩
  · rename_i other
    have queued : step.state = .queued := by
      refine ready.resolve_right fun waiting => ?_
      unfold isWaiting at waiting
      split at waiting
      · rename_i expectation due found
        exact other expectation due found
      all_goals cases waiting
    rw [if_pos queued]
    exact ⟨⟨rfl, rfl⟩, rfl⟩

theorem Fitting.change (fitting : step.Fitting)
    (change : StepChange deadlines now run place label step next) : next.Fitting := by
  have attends : step.Attends false := attends_of_unheard (by simp) fitting
  cases change with
  | same => exact fitting
  | called => exact attends.runStep.fitting
  | superseded => exact attends.superseded.fitting
  | commandSettled taken => exact (attends.commandSettled taken).fitting
  | deviceRead taken => exact (attends.deviceRead (by simp) taken).fitting
  | reported deviceId capability fields =>
    exact (attends.reported deviceId capability fields).fitting
  | timedOut taken => exact (attends.timedOut taken).fitting

end SceneRunStep

structure ReplacedSound (runner : SceneRunner) (replaced : Replacements) : Prop where
  steps : ∀ run place step commanded, runner.stepAt run place = some step →
    replaced run place = some commanded →
    step.IsSuperseded ∧ (commanded = false → step.commanded = false)
  fitting : ∀ run place step, runner.stepAt run place = some step → step.Fitting
  known : ∀ run place commanded, replaced run place = some commanded → run < runner.runs.length
  starts : runner.Starts AllNew

theorem replacedSound_initial : ReplacedSound SceneRunner.initial Replacements.none :=
  ⟨by simp [Replacements.none], by simp [SceneRunner.initial, SceneRunner.stepAt],
    by simp [Replacements.none], by simp [SceneRunner.initial, SceneRunner.Starts]⟩

section Steps

variable {runner next : SceneRunner} {replaced : Replacements} {deadlines : List (String × Nat)}
variable {label : RunnerLabel} {run place : Nat} {commanded : Bool}

theorem note_eq_some (noted : replaced.note runner label next run place = some commanded) :
    replaced run place = some commanded ∨
      ∃ newer older step, next.runs[runner.runs.length]? = some newer ∧
        runner.runs[run]? = some older ∧ older.steps[place]? = some step ∧
        newer.replaces older step = true ∧ step.commanded = commanded := by
  rcases Option.or_eq_some_iff.mp noted with before | ⟨_, now⟩
  · exact .inl before
  · simp only [Option.bind_eq_bind, Option.bind_eq_some_iff] at now
    rcases now with ⟨newer, begins, older, stored, step, inside, replaces⟩
    split at replaces
    · rename_i about
      exact .inr ⟨newer, older, step, begins, stored, inside, about, Option.some.inj replaces⟩
    · cases replaces

theorem replacedSound_step (sound : ReplacedSound runner replaced)
    (met : CanReplace deadlines (runner, replaced) label)
    (taken : runner.step deadlines label = some next) :
    ReplacedSound next (replaced.note runner label next) where
  steps := by
    intro run place after commanded found noted
    rcases note_eq_some noted with before |
        ⟨newer, older, step, begins, stored, inside, about, rfl⟩
    · rcases stepAt_change taken found (sound.known run place commanded before) with
        ⟨step, stored, change⟩
      rcases sound.steps run place step commanded stored before with ⟨old, unsent⟩
      rcases old.change change with ⟨stays, same⟩
      exact ⟨stays, fun never => same.trans (unsent never)⟩
    · have listed : (older, run) ∈ runner.runs.zipIdx := mem_zipIdx_iff_getElem?.mpr stored
      rcases met next taken newer begins _ listed step (mem_of_getElem? inside) about with
        ⟨kept, ready⟩
      rcases launch_or_same_length taken with ⟨starting, call, rfl⟩ | same
      · rcases SceneRunner.stepAt_eq_some.mp found with ⟨owner, present, position⟩
        rw [older_launch begins stored, if_pos kept] at present
        cases present
        rw [getElem?_supersede_of_replaces inside about] at position
        cases position
        have fitting := sound.fitting run place step
          (SceneRunner.stepAt_eq_some.mpr ⟨older, stored, inside⟩)
        rcases SceneRunStep.isSuperseded_superseded fitting ready with ⟨superseded, unchanged⟩
        exact ⟨superseded, fun never => unchanged.trans never⟩
      · rw [← same, getElem?_eq_none (Nat.le_refl _)] at begins
        cases begins
  fitting := by
    intro run place after found
    rcases Nat.lt_or_ge run runner.runs.length with old | begun
    · rcases stepAt_change taken found old with ⟨step, before, change⟩
      exact (sound.fitting run place step before).change change
    · refine stepAt_new taken sound.starts ?_ ?_ found begun
      · intro step fitting
        have unheard : step.Attends false := SceneRunStep.attends_of_unheard (by simp) fitting
        exact unheard.runStep.fitting
      · exact fun step isNew => (SceneRunStep.attends_of_isNew isNew).fitting
  known := by
    intro run place commanded noted
    refine Nat.lt_of_lt_of_le ?_ (length_runs_le taken)
    rcases note_eq_some noted with before | ⟨newer, older, step, _, stored, _⟩
    · exact sound.known run place commanded before
    · exact (List.getElem?_eq_some_iff.mp stored).1
  starts := (stepsMove taken sound.starts).2

end Steps

/--
A run that begins leaves all other steps alone, and what it replaces stays
superseded, as long as every step that it should replace is in a run of the
table and is not between its command and its listener.
-/
theorem newer_run_replaces (deadlines : List (String × Nat)) (labels : List RunnerLabel) :
    (runnerMachine deadlines).EachStep OthersStay SceneRunner.initial labels ∧
      ((replacingMachine deadlines).Guarded (CanReplace deadlines)
          (SceneRunner.initial, Replacements.none) labels →
        (replacingMachine deadlines).Throughout ReplacesOlder
          (SceneRunner.initial, Replacements.none) labels) := by
  constructor
  · exact @Machine.eachStep_of_step _ _ _ (fun _ => True) _ (fun _ _ _ _ _ => trivial)
      (fun _ _ _ _ taken => othersStay taken) _ _ trivial
  · intro guarded
    have throughout : (replacingMachine deadlines).Throughout
        (fun config => ReplacedSound config.1 config.2)
        (SceneRunner.initial, Replacements.none) labels :=
      Machine.recording_throughout_of_guarded
        (fun runner replaced label next sound met taken => replacedSound_step sound met taken)
        replacedSound_initial guarded
    refine throughout.mono fun config sound run place step commanded found was => ?_
    rcases sound.steps run place step commanded found was with ⟨superseded, unsent⟩
    exact ⟨by simp [superseded.1], by simp [superseded.1], fun _ => superseded, unsent⟩

/-- `start` looks up the one step of its scene. -/
def startLamp : List RunnerLabel := [
  .start (sampleScene [sampleStep "hall"] []) [],
  .roomOf 0 (.ok none), .getDevice 0 (.ok (some (onlineDevice false)))]

/-- The second run begins while the first one waits for a report. -/
def replacedWaiting : List RunnerLabel :=
  startLamp ++ [.commandSettled 0 0 (.ok ()), .deviceRead 0 0 (.ok (some (onlineDevice false)))] ++
    startLamp ++ [.report "hall" "onoff" [("on", .boolean true)]]

theorem waiting_step_is_replaced :
    (((replacingMachine []).run (SceneRunner.initial, Replacements.none) replacedWaiting).map
        fun config => (config.2 0 0, (config.1.stepAt 0 0).map SceneRunStep.state)) =
      some (some true, some .skipped) ∧ (replacingMachine []).Throughout ReplacesOlder
      (SceneRunner.initial, Replacements.none) replacedWaiting :=
  ⟨by decide +kernel, (newer_run_replaces [] replacedWaiting).2 (by decide +kernel)⟩

/-- The second run begins while the device of the first one is being read. -/
def replacedReading : List RunnerLabel :=
  startLamp ++ [.commandSettled 0 0 (.ok ())] ++ startLamp ++
    [.deviceRead 0 0 (.ok (some (onlineDevice true)))]

/-- The step of the older run is confirmed all the same. -/
theorem reading_step_is_not_replaced : ¬∀ labels, (replacingMachine []).Throughout ReplacesOlder
      (SceneRunner.initial, Replacements.none) labels := by
  intro throughout
  have last := Machine.property_of_throughout (throughout replacedReading) rfl
  exact (last 0 0 _ true rfl (by decide +kernel)).1 (by decide +kernel)

end SupremeOs.Scenes
