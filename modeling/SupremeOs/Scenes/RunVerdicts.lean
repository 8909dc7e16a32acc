import SupremeOs.Scenes.StepMoves

/-!
# Every scene run comes to its verdict

No command of a phase is sent before the steps of all earlier phases have
concluded, and a run of which nothing is awaited any more is finished with the
status that the verdicts of its steps give.

This holds as long as no read of a device fails after its command was sent, and
no step is taken for verifiable whose command, once parsed, has nothing to
verify.
-/

namespace SupremeOs.Scenes

open Support DomainModel List Option

/-- The step has its verdict, or there is none to wait for. -/
def SceneRunStep.Concluded (step : SceneRunStep) : Prop :=
  step.state ≠ .queued ∧ (step.state = .sent → step.verifiable = false)

def SceneRunStep.Succeeded (step : SceneRunStep) : Prop :=
  step.state = .confirmed ∨ step.state = .sent

namespace SceneRun

def PhasesInOrder (run : SceneRun) : Prop :=
  ∀ earlier ids later, run.groups = earlier ++ ids :: later →
    ∀ step ∈ run.steps, step.commanded = true → step.index ∈ ids →
      (∀ others ∈ earlier, step.index ∉ others) →
      ∀ others ∈ earlier, ∀ other ∈ run.steps, other.index ∈ others → other.Concluded

/-- Nothing is awaited, no timer is armed, and no continuation is left to run. -/
structure Settled (run : SceneRun) : Prop where
  steps : ∀ step ∈ run.steps, step.task = .ready ∨ step.task = .returned ∨ step.task = .rejected
  phases : run.nextPhase = none
  ends : ∀ now, run.finish now = none

structure HasVerdict (run : SceneRun) : Prop where
  finished : run.finishedAt.isSome = true
  concluded : ∀ step ∈ run.steps, step.Concluded
  completed : run.status = .completed ↔ ∀ step ∈ run.steps, step.Succeeded
  failed : run.status = .failed ↔
    (∃ step ∈ run.steps, ¬step.Succeeded) ∧ ∀ step ∈ run.steps, ¬step.Succeeded
  partially : run.status = .partially ↔
    (∃ step ∈ run.steps, step.Succeeded) ∧ ∃ step ∈ run.steps, ¬step.Succeeded

end SceneRun

def RunsConclude (runner : SceneRunner) : Prop :=
  ∀ run ∈ runner.runs, run.PhasesInOrder ∧ (run.Settled → run.HasVerdict)

/-- If the fields of the step can be verified, then so can the command that is sent. -/
def SceneStep.agrees (step : SceneStep) : Bool :=
  (safeParse step.rawCommand).all fun command =>
    !(expectationOf step.capability step.rawCommand).isSome ||
      (expectationOf step.capability command).isSome

def RunnerGuard (_ : SceneRunner) : RunnerLabel → Prop
  | .start scene _ => scene.steps.all SceneStep.agrees = true
  | .deviceRead _ _ outcome => outcome.isOk = true
  | _ => True

instance (runner : SceneRunner) (label : RunnerLabel) : Decidable (RunnerGuard runner label) := by
  unfold RunnerGuard
  split <;> infer_instance

-- The command that is sent is one for the temperature and has no action.
example : (SceneStep.agrees ⟨"hall", "onoff", [("capability", .text "temperature"),
    ("action", .text "on"), ("targetC", .number (.nonzero false ⟨2, by decide⟩ 2))]⟩) = false := by
  decide +kernel

namespace SceneRunStep

/-- The state of a step, by how far its call has come. -/
def Fits (step : SceneRunStep) : Prop :=
  match step.task with
  | .ready | .commanding => step.state = .queued ∨ step.state = .skipped
  | .checking _ | .waiting _ _ => step.state = .sent
  | .returned => step.Concluded
  | .rejected => False

structure Sound (step : SceneRunStep) : Prop where
  fits : step.Fits
  command : step.state = .queued → step.command.isSome = true
  expects : step.verifiable = true → ∀ command, step.command = some command →
    (expectationOf step.capability command).isSome = true
  commanded : step.commanded = true → step.task ≠ .ready

/-- The call for the step is under way. -/
def Called (step : SceneRunStep) : Prop := step.task ≠ .ready ∧ step.task ≠ .returned

/-- A step later in its run, when no more calls have been made for it. -/
structure Advances (step next : SceneRunStep) : Prop where
  sound : next.Sound
  index : next.index = step.index
  ready : next.task = .ready ↔ step.task = .ready
  returned : step.task = .returned → next.task = .returned ∧ next.state = step.state
  commanded : next.commanded = step.commanded

variable {step next : SceneRunStep} {now : Nat} {deadlines : List (String × Nat)}

theorem concluded_of_final {state : StepState} (same : step.state = state)
    (final : state ≠ .queued ∧ state ≠ .sent) : step.Concluded :=
  ⟨same ▸ final.1, fun sent => absurd (same.symm.trans sent) final.2⟩

namespace Sound

section

variable (sound : step.Sound)

include sound

theorem concluded (returned : step.task = .returned) : step.Concluded := by
  have fits := sound.fits
  rwa [Fits, returned] at fits

theorem advances : step.Advances step :=
  ⟨sound, rfl, Iff.rfl, fun returned => ⟨returned, rfl⟩, rfl⟩

theorem advances_to
    (same : { step with state := next.state, reason := next.reason, task := next.task } = next)
    (unreturned : step.task ≠ .returned) (ready : next.task = .ready ↔ step.task = .ready)
    (fits : next.Fits) (queued : next.state = .queued → step.state = .queued) :
    step.Advances next where
  sound := by
    refine ⟨fits, fun still => ?_, ?_, fun commanded => ?_⟩
    · rw [← same]
      exact sound.command (queued still)
    · intro verifiable command known
      rw [← same] at verifiable known ⊢
      exact sound.expects verifiable command known
    · rw [← same] at commanded
      exact fun unbegun => sound.commanded commanded (ready.mp unbegun)
  index := (congrArg SceneRunStep.index same).symm
  ready := ready
  returned returned := absurd returned unreturned
  commanded := (congrArg SceneRunStep.commanded same).symm

theorem advances_returns (called : step.Called) {state : StepState} (reason : Option String)
    (concluded : (step.set state reason).returns.Concluded) :
    step.Advances (step.set state reason).returns :=
  sound.advances_to rfl called.2 (by simp [returns, called.1]) concluded
    fun queued => absurd queued concluded.1

theorem advances_conclude (sent : step.state = .sent)
    (called : step.Called) {state : StepState} (final : state ≠ .queued ∧ state ≠ .sent)
    (reason : Option String) : step.Advances (step.conclude state reason) := by
  rw [conclude, if_pos sent]
  exact sound.advances_returns called reason (concluded_of_final rfl final)

theorem advances_wait (sent : step.state = .sent)
    (called : step.Called) (expectation : StateExpectation) :
    step.Advances (step.wait now deadlines expectation) :=
  sound.advances_to rfl called.2 (by simp [wait, called.1]) sent id

theorem advances_sent (called : step.Called)
    (queued : step.state = .queued) : step.Advances step.sent := by
  rcases isSome_iff_exists.mp (sound.command queued) with ⟨command, known⟩
  unfold SceneRunStep.sent
  split
  · rename_i nothing
    refine sound.advances_returns called none ⟨by simp [returns, set], fun _ => ?_⟩
    cases verifiable : step.verifiable with
    | false => exact verifiable
    | true =>
      have expects := sound.expects verifiable command known
      simp only [known, bind_some] at nothing
      simp [nothing] at expects
  · exact sound.advances_to rfl called.2 (by simp [called.1]) rfl (by simp [set])

theorem advances_commandSettled {outcome : Outcome Unit}
    (taken : step.commandSettled outcome = some next) : step.Advances next := by
  unfold commandSettled at taken
  split at taken
  · rename_i commanding
    have called : step.Called := by simp [Called, commanding]
    split at taken
    · rename_i queued
      cases outcome with
      | error message =>
        cases taken
        exact sound.advances_returns called _ ⟨by simp [returns, set], by simp [returns, set]⟩
      | ok _ =>
        cases taken
        exact sound.advances_sent called queued
    · rename_i moved
      cases taken
      have fits := sound.fits
      rw [Fits, commanding] at fits
      have skipped : step.state = .skipped := fits.resolve_left moved
      exact sound.advances_to rfl called.2 (by simp [returns, called.1])
        (concluded_of_final skipped (by decide)) id
  · simp at taken

theorem advances_deviceRead {outcome : Outcome (Option DeviceSnapshot)}
    (answered : outcome.isOk = true)
    (taken : step.deviceRead now deadlines outcome = some next) : step.Advances next := by
  unfold deviceRead at taken
  split at taken
  · rename_i expectation checking
    have called : step.Called := by simp [Called, checking]
    have sent : step.state = .sent := by simpa [Fits, checking] using sound.fits
    split at taken
    · simp [Except.isOk, Except.toBool] at answered
    · split at taken
      · split at taken
        · cases taken
          exact sound.advances_conclude sent called (by decide) none
        · cases taken
          exact sound.advances_wait sent called expectation
      · cases taken
        exact sound.advances_wait sent called expectation
  · simp at taken

theorem advances_reported (deviceId capability : String) (fields : StateFields) :
    step.Advances (step.reported now deadlines deviceId capability fields) := by
  unfold reported
  split
  · rename_i expectation due waiting
    have called : step.Called := by simp [Called, waiting]
    have sent : step.state = .sent := by simpa [Fits, waiting] using sound.fits
    split
    · split
      · exact sound.advances_conclude sent called (by decide) none
      · split
        · exact sound.advances_wait sent called expectation
        · exact sound.advances
    · exact sound.advances
  · exact sound.advances

theorem advances_timedOut (taken : step.timedOut now = some next) :
    step.Advances next := by
  unfold timedOut at taken
  split at taken
  · rename_i expectation due waiting
    split at taken
    · cases taken
      exact sound.advances_conclude (by simpa [Fits, waiting] using sound.fits)
        (by simp [Called, waiting]) (by decide) _
    · simp at taken
  · simp at taken

theorem advances_superseded : step.Advances step.superseded := by
  unfold superseded
  split
  · rename_i expectation due waiting
    exact sound.advances_conclude (by simpa [Fits, waiting] using sound.fits)
      (by simp [Called, waiting]) (by decide) _
  · split
    · rename_i queued
      have unreturned : step.task ≠ .returned :=
        fun returned => (sound.concluded returned).1 queued
      refine sound.advances_to rfl unreturned Iff.rfl ?_ (by simp [set])
      have fits := sound.fits
      unfold Fits at fits ⊢
      simp only [set]
      cases task : step.task <;> simp_all
    · exact sound.advances

theorem runStep (uncalled : ¬step.Called) :
    step.runStep.Sound ∧ step.runStep.task ≠ .ready ∧
      (step.task = .returned → step.runStep.task = .returned) := by
  have calm : step.task = .ready ∨ step.task = .returned := by
    simpa [Called, Classical.or_iff_not_imp_left] using uncalled
  rcases calm with ready | returned
  · have fits := sound.fits
    rw [Fits, ready] at fits
    unfold SceneRunStep.runStep
    split
    · exact ⟨⟨fits, sound.command, sound.expects, by simp⟩, by simp, by simp [ready]⟩
    · rename_i held
      have skipped : step.state = .skipped :=
        fits.resolve_left fun queued => held ⟨queued, sound.command queued⟩
      rw [ready]
      exact ⟨⟨concluded_of_final skipped (by decide), sound.command, sound.expects,
        by simp [returns]⟩, by simp [returns], by simp [returns]⟩
  · have moved : ¬(step.state = .queued ∧ step.command.isSome = true) :=
      fun queued => (sound.concluded returned).1 queued.1
    simp only [SceneRunStep.runStep, if_neg moved, returned]
    exact ⟨sound, by simp, by simp⟩

end

end Sound

end SceneRunStep

/-! ## What is kept of a run -/

@[simp]
theorem SceneRunStep.index_runStep (step : SceneRunStep) : step.runStep.index = step.index :=
  step.movesTo_runStep.index

namespace SceneRun

/-- The call for the step has been made. -/
def Begun (run : SceneRun) (index : Nat) : Prop :=
  index ∈ run.free ∨ ∃ ids ∈ run.groups.take run.phase, index ∈ ids

structure Consistent (run : SceneRun) : Prop where
  steps : ∀ step ∈ run.steps, step.Sound
  placed : ∀ step ∈ run.steps, step.index ∈ run.free ∨ ∃ ids ∈ run.groups, step.index ∈ ids
  apart : ∀ index ∈ run.free, ∀ ids ∈ run.groups, index ∉ ids
  begun : ∀ step ∈ run.steps, step.task ≠ .ready ↔ run.Begun step.index

def past (run : SceneRun) : List (List Nat) :=
  if run.phasesDone then run.groups else run.groups.take (run.phase - 1)

structure Sound (run : SceneRun) : Prop extends run.Consistent where
  earlier : ∀ ids ∈ run.past, ∀ step ∈ run.steps, step.index ∈ ids → step.task = .returned
  going : run.phasesDone = false → 0 < run.phase ∧ run.phase ≤ run.groups.length
  ended : run.phasesDone = true → run.groups.length ≤ run.phase
  finished : run.finishedAt.isSome = true → run.phasesDone = true ∧
    (∀ step ∈ run.steps, step.task = .returned) ∧ run.status = verdict run.steps

variable {run next : SceneRun} {ids : List Nat}

theorem allReturned_iff : run.allReturned ids = true ↔
    ∀ step ∈ run.steps, step.index ∈ ids → step.task = .returned := by
  simp only [allReturned, List.all_eq_true, decide_eq_true_eq]

variable {steps : List SceneRunStep}

theorem verdict_congr {others : List SceneRunStep}
    (same : others.map SceneRunStep.state = steps.map SceneRunStep.state) :
    verdict others = verdict steps := by
  have count (kind : StepState → Bool) :
      others.countP (fun step => kind step.state) = steps.countP fun step => kind step.state := by
    have counts := congrArg (List.countP kind) same
    rwa [countP_map, countP_map] at counts
  have bads : others.countP bad = steps.countP bad :=
    count fun state => state = .failed || state = .timeout || state = .skipped
  have goods : others.countP good = steps.countP good :=
    count fun state => state = .confirmed || state = .sent
  rw [verdict, verdict, bads, goods]

theorem states_of_returned {others : List SceneRunStep}
    (advance : List.Forall₂ SceneRunStep.Advances steps others)
    (returned : ∀ step ∈ steps, step.task = .returned) :
    others.map SceneRunStep.state = steps.map SceneRunStep.state := by
  induction advance with
  | nil => rfl
  | cons first _ ih =>
    rw [map_cons, map_cons, (first.returned (returned _ (.head _))).2,
      ih fun step member => returned step (.tail _ member)]

theorem Sound.advance (sound : run.Sound)
    (same : { run with steps := next.steps, supersededBy := next.supersededBy } = next)
    (advance : List.Forall₂ SceneRunStep.Advances run.steps next.steps) : next.Sound := by
  have kept {property : SceneRunStep → Prop}
      (keeps : ∀ step ∈ run.steps, ∀ after, step.Advances after → property after) :=
    forall_mem_of_forall₂ advance keeps
  rw [← same]
  refine ⟨⟨?_, ?_, ?_, ?_⟩, ?_, ?_, ?_, ?_⟩
  · exact kept fun _ _ _ advances => advances.sound
  · refine kept fun step member after advances => ?_
    rw [advances.index]
    exact sound.placed step member
  · exact sound.apart
  · refine kept fun step member after advances => ?_
    rw [advances.index, Ne, advances.ready]
    exact sound.begun step member
  · intro ids listed
    refine kept fun step member after advances inside => ?_
    rw [advances.index] at inside
    exact (advances.returned (sound.earlier ids listed step member inside)).1
  · exact sound.going
  · exact sound.ended
  · intro finished
    rcases sound.finished finished with ⟨phasesDone, returned, status⟩
    refine ⟨phasesDone, kept fun step member after advances =>
      (advances.returned (returned step member)).1, ?_⟩
    rw [verdict_congr (states_of_returned advance returned)]
    exact status

theorem Sound.updateStep {place : Nat} {change : SceneRunStep → Option SceneRunStep}
    (sound : run.Sound)
    (advances : ∀ step next, step.Sound → change step = some next → step.Advances next)
    (taken : run.updateStep place change = some next) : next.Sound := by
  rcases updateStep_eq_some.mp taken with ⟨step, after, found, changed, rfl⟩
  refine sound.advance rfl (forall₂_set found ?_ fun other member =>
    (sound.steps other member).advances)
  exact advances step after (sound.steps step (mem_of_getElem? found)) changed

theorem Sound.supersede (sound : run.Sound) (mine : List (String × String)) (runId : Nat) :
    (run.supersede mine runId).Sound := by
  unfold SceneRun.supersede
  split
  · refine sound.advance rfl (forall₂_map fun step member => ?_)
    split
    · exact (sound.steps step member).advances_superseded
    · exact (sound.steps step member).advances
  · exact sound

theorem Consistent.not_called (consistent : run.Consistent)
    (returned : ∀ ids ∈ run.groups.take run.phase, ∀ step ∈ run.steps, step.index ∈ ids →
      step.task = .returned)
    (member : ids ∈ run.groups) {step : SceneRunStep} (present : step ∈ run.steps)
    (inside : step.index ∈ ids) : ¬step.Called := by
  rintro ⟨begun, unreturned⟩
  rcases (consistent.begun step present).mp begun with free | ⟨others, listed, among⟩
  · exact consistent.apart _ free ids member inside
  · exact unreturned (returned others listed step present among)

theorem Consistent.turn (consistent : run.Consistent) (going : run.phasesDone = false)
    (unfinished : run.finishedAt = none)
    (returned : ∀ ids ∈ run.groups.take run.phase, ∀ step ∈ run.steps, step.index ∈ ids →
      step.task = .returned) : run.turn.Sound := by
  unfold SceneRun.turn
  split
  · rename_i ids found
    have member : ids ∈ run.groups := mem_of_getElem? found
    have bound : run.phase < run.groups.length := (List.getElem?_eq_some_iff.mp found).1
    have reached : run.groups.take (run.phase + 1) = run.groups.take run.phase ++ [ids] := by
      rw [take_add_one, found]
      rfl
    have calm (step : SceneRunStep) (present : step ∈ run.steps) (inside : step.index ∈ ids) :
        ¬step.Called :=
      consistent.not_called returned member present inside
    simp only [runSteps, mapSteps]
    refine ⟨⟨?_, ?_, ?_, ?_⟩, ?_, ?_, ?_, ?_⟩
    · simp only [List.mem_map, forall_exists_index, and_imp, forall_apply_eq_imp_iff₂]
      intro step present
      split
      · rename_i inside
        exact ((consistent.steps step present).runStep (calm step present inside)).1
      · exact consistent.steps step present
    · simp only [List.mem_map, forall_exists_index, and_imp, forall_apply_eq_imp_iff₂]
      intro step present
      have placed := consistent.placed step present
      split <;> simpa using placed
    · exact consistent.apart
    · simp only [List.mem_map, forall_exists_index, and_imp, forall_apply_eq_imp_iff₂, Begun,
        reached]
      intro step present
      have begun := consistent.begun step present
      split
      · rename_i inside
        have called := ((consistent.steps step present).runStep (calm step present inside)).2.1
        simp [called, inside]
      · rename_i outside
        simp [begun, Begun, outside]
    · simp only [List.mem_map, forall_exists_index, and_imp, forall_apply_eq_imp_iff₂, past, going]
      intro others listed step present
      have before := returned others listed step present
      split
      · rename_i inside
        have again := ((consistent.steps step present).runStep (calm step present inside)).2.2
        simpa using fun among => again (before among)
      · exact before
    · exact fun _ => ⟨Nat.succ_pos _, bound⟩
    · exact fun done => absurd (going.symm.trans done) (by simp)
    · exact fun finished => by simp [unfinished] at finished
  · rename_i none
    have bound : run.groups.length ≤ run.phase := List.getElem?_eq_none_iff.mp none
    refine ⟨⟨consistent.steps, consistent.placed, consistent.apart, consistent.begun⟩,
      ?_, ?_, ?_, ?_⟩
    · intro ids member
      simp only [past, if_true] at member
      exact returned ids (by rwa [take_of_length_le bound])
    · simp
    · exact fun _ => bound
    · exact fun finished => by simp [unfinished] at finished

theorem Sound.nextPhase (sound : run.Sound) (taken : run.nextPhase = some next) : next.Sound := by
  unfold SceneRun.nextPhase at taken
  split at taken
  · simp at taken
  · rename_i going
    split at taken
    · rename_i ids found
      split at taken
      · rename_i returned
        cases taken
        simp only [Bool.not_eq_true] at going
        have positive := (sound.going going).1
        have reached : run.groups.take run.phase = run.groups.take (run.phase - 1) ++ [ids] := by
          have step := take_add_one (l := run.groups) (i := run.phase - 1)
          rwa [Nat.sub_add_cancel positive, found] at step
        have unfinished : run.finishedAt = none := by
          rw [← not_isSome_iff_eq_none]
          intro finished
          exact absurd (going.symm.trans (sound.finished finished).1) (by simp)
        refine sound.toConsistent.turn going unfinished ?_
        intro others listed
        rw [reached, mem_append, mem_singleton] at listed
        rcases listed with before | rfl
        · exact sound.earlier others (by rwa [past, going])
        · exact allReturned_iff.mp returned
      · simp at taken
    · simp at taken

theorem Sound.all_returned (sound : run.Sound) (phasesDone : run.phasesDone = true)
    (free : run.allReturned run.free = true) :
    ∀ step ∈ run.steps, step.task = .returned := by
  intro step member
  rcases sound.placed step member with inFree | ⟨ids, isPhase, inside⟩
  · exact allReturned_iff.mp free step member inFree
  · exact sound.earlier ids (by rwa [past, phasesDone]) step member inside

theorem Sound.finish {now : Nat} (sound : run.Sound) (taken : run.finish now = some next) :
    next.Sound := by
  unfold SceneRun.finish at taken
  split at taken
  · rename_i enabled
    simp only [Bool.and_eq_true] at enabled
    cases taken
    exact ⟨⟨sound.steps, sound.placed, sound.apart, sound.begun⟩, sound.earlier, sound.going,
      sound.ended, fun _ => ⟨enabled.1.2, sound.all_returned enabled.1.2 enabled.2, rfl⟩⟩
  · simp at taken

theorem Sound.change {deadlines : List (String × Nat)} {now : Nat} {label : RunnerLabel}
    {runner : SceneRunner} (sound : run.Sound) (met : RunnerGuard runner label)
    (change : RunChange deadlines now label run next) : next.Sound := by
  cases change with
  | commandSettled taken =>
    exact sound.updateStep (fun _ _ fine => fine.advances_commandSettled) taken
  | deviceRead taken =>
    exact sound.updateStep (fun _ _ fine => fine.advances_deviceRead met) taken
  | reported deviceId capability fields =>
    exact sound.advance rfl (forall₂_map fun step member =>
      (sound.steps step member).advances_reported deviceId capability fields)
  | timedOut taken => exact sound.updateStep (fun _ _ fine => fine.advances_timedOut) taken
  | nextPhase taken => exact sound.nextPhase taken
  | finish taken => exact sound.finish taken

theorem consistent_queued (scene : Scene) (spaceIds : List String) (now : Nat)
    (allNew : AllNew scene steps) (sound : ∀ step ∈ steps, step.Sound) :
    ((queued scene spaceIds now steps).runSteps
      (queued scene spaceIds now steps).free).Consistent := by
  have apart : ∀ index ∈ (queued scene spaceIds now steps).free,
      ∀ ids ∈ (queued scene spaceIds now steps).groups, index ∉ ids := by
    intro index free ids member inside
    simp only [queued, List.mem_map, mem_filter, List.all_eq_true, decide_eq_true_eq] at free
    simp only [queued, mem_filter, List.mem_map] at member
    rcases free with ⟨step, ⟨_, outside⟩, rfl⟩
    rcases member with ⟨⟨phase, listed, rfl⟩, _⟩
    simp only [List.mem_map, mem_filter, decide_eq_true_eq] at inside
    rcases inside with ⟨other, ⟨_, among⟩, same⟩
    exact outside phase listed (same ▸ among)
  have placed : ∀ step ∈ steps, step.index ∈ (queued scene spaceIds now steps).free ∨
      ∃ ids ∈ (queued scene spaceIds now steps).groups, step.index ∈ ids := by
    intro step member
    by_cases free : ∀ phase ∈ scene.phases, step.index ∉ phase
    · exact .inl (mem_map_of_mem (mem_filter.mpr ⟨member, by simpa using free⟩))
    · simp only [not_forall, not_not] at free
      rcases free with ⟨phase, listed, among⟩
      have inside : step.index ∈ (steps.filter fun step => decide (step.index ∈ phase)).map
          SceneRunStep.index :=
        mem_map_of_mem (mem_filter.mpr ⟨member, by simpa using among⟩)
      refine .inr ⟨_, mem_filter.mpr ⟨mem_map_of_mem listed, ?_⟩, inside⟩
      simpa using ne_nil_of_mem inside
  have uncalled (step : SceneRunStep) (member : step ∈ steps) : ¬step.Called :=
    fun called => called.1 (allNew step member).ready
  simp only [runSteps, mapSteps]
  refine ⟨?_, ?_, apart, ?_⟩
  · simp only [List.mem_map, forall_exists_index, and_imp, forall_apply_eq_imp_iff₂]
    intro step member
    split
    · exact ((sound step member).runStep (uncalled step member)).1
    · exact sound step member
  · simp only [List.mem_map, forall_exists_index, and_imp, forall_apply_eq_imp_iff₂]
    intro step member
    have place := placed step member
    split <;> simpa using place
  · simp only [List.mem_map, forall_exists_index, and_imp, forall_apply_eq_imp_iff₂, Begun]
    intro step member
    split
    · rename_i free
      have called := ((sound step member).runStep (uncalled step member)).2.1
      simp [called, free]
    · rename_i held
      refine iff_of_false (fun begun => begun (allNew step member).ready) ?_
      rintro (free | ⟨ids, listed, _⟩)
      · exact held free
      · simp [queued] at listed

theorem sound_started (scene : Scene) (spaceIds : List String) (now : Nat)
    (allNew : AllNew scene steps)
    (sound : ∀ step ∈ steps, step.Sound) : (queued scene spaceIds now steps).started.Sound := by
  refine (consistent_queued scene spaceIds now allNew sound).turn rfl rfl ?_
  intro ids member
  simp [runSteps, mapSteps, queued] at member

theorem Sound.phasesInOrder (sound : run.Sound) : run.PhasesInOrder := by
  intro earlier ids later groups step member commanded inside first others before other present
    among
  have begun := (sound.begun step member).mp ((sound.steps step member).commanded commanded)
  rcases begun with free | ⟨reached, listed, inReached⟩
  · exact absurd inside (sound.apart _ free ids (by simp [groups]))
  · have beyond : earlier.length < run.phase := by
      by_contra within
      rw [groups, take_append_of_le_length (Nat.le_of_not_lt within)] at listed
      exact first reached (mem_of_mem_take listed) inReached
    have isPast : others ∈ run.past := by
      unfold past
      split
      · simp [groups, before]
      · rw [groups, take_append, take_of_length_le (by omega)]
        exact mem_append_left _ before
    exact (sound.steps other present).concluded (sound.earlier others isPast other present among)

theorem Sound.returned_of_begun (sound : run.Sound) (settled : run.Settled)
    {step : SceneRunStep} (member : step ∈ run.steps) (begun : run.Begun step.index) :
    step.task = .returned := by
  rcases settled.steps step member with ready | returned | rejected
  · exact absurd ready ((sound.begun step member).mpr begun)
  · exact returned
  · have fits := (sound.steps step member).fits
    simp [SceneRunStep.Fits, rejected] at fits

theorem Sound.phasesDone_of_settled (sound : run.Sound) (settled : run.Settled) :
    run.phasesDone = true := by
  by_contra unfinished
  have going : run.phasesDone = false := by simpa using unfinished
  rcases sound.going going with ⟨positive, bound⟩
  have inside : run.phase - 1 < run.groups.length := by omega
  have returned : run.allReturned run.groups[run.phase - 1] = true := by
    refine allReturned_iff.mpr fun step member among =>
      sound.returned_of_begun settled member (.inr ⟨_, ?_, among⟩)
    exact mem_take_iff_getElem.mpr ⟨run.phase - 1, by omega, rfl⟩
  have next := settled.phases
  simp [SceneRun.nextPhase, going, getElem?_eq_getElem inside, returned] at next

theorem Sound.finished_of_settled (sound : run.Sound) (settled : run.Settled) :
    run.finishedAt.isSome = true := by
  by_contra unfinished
  have returned : run.allReturned run.free = true :=
    allReturned_iff.mpr fun step member free =>
      sound.returned_of_begun settled member (.inl free)
  have never := settled.ends 0
  simp [SceneRun.finish, sound.phasesDone_of_settled settled, returned] at never
  exact unfinished (by simp [isSome_iff_ne_none, never])

theorem countP_bad (concluded : ∀ step ∈ steps, step.Concluded) :
    steps.countP bad = 0 ↔ ∀ step ∈ steps, step.Succeeded := by
  simp only [countP_eq_zero]
  refine forall₂_congr fun step member => ?_
  have state := concluded step member
  cases known : step.state <;>
    simp_all [bad, SceneRunStep.Succeeded, SceneRunStep.Concluded]

theorem countP_good (steps : List SceneRunStep) :
    steps.countP good = 0 ↔ ∀ step ∈ steps, ¬step.Succeeded := by
  simp [good, SceneRunStep.Succeeded]

theorem Sound.hasVerdict (sound : run.Sound) (settled : run.Settled) : run.HasVerdict := by
  have finished := sound.finished_of_settled settled
  rcases sound.finished finished with ⟨_, returned, status⟩
  have concluded : ∀ step ∈ run.steps, step.Concluded :=
    fun step member => (sound.steps step member).concluded (returned step member)
  by_cases all : ∀ step ∈ run.steps, step.Succeeded
  · have value : run.status = .completed := by
      rw [status, verdict, if_pos ((countP_bad concluded).mpr all)]
    refine ⟨finished, concluded, iff_of_true value all, ?_, ?_⟩
    · exact iff_of_false (by simp [value]) fun ⟨⟨step, member, lost⟩, _⟩ => lost (all step member)
    · exact iff_of_false (by simp [value]) fun ⟨_, step, member, lost⟩ => lost (all step member)
  have some_lost : ∃ step ∈ run.steps, ¬step.Succeeded := by simpa using all
  have not_completed := mt (countP_bad concluded).mp all
  by_cases none : ∀ step ∈ run.steps, ¬step.Succeeded
  · have value : run.status = .failed := by
      rw [status, verdict, if_neg not_completed, if_pos ((countP_good _).mpr none)]
    refine ⟨finished, concluded, iff_of_false (by simp [value]) all,
      iff_of_true value ⟨some_lost, none⟩, ?_⟩
    exact iff_of_false (by simp [value]) fun ⟨⟨step, member, won⟩, _⟩ => none step member won
  · have value : run.status = .partially := by
      rw [status, verdict, if_neg not_completed, if_neg (mt (countP_good _).mp none)]
    have some_won : ∃ step ∈ run.steps, step.Succeeded := by simpa using none
    exact ⟨finished, concluded, iff_of_false (by simp [value]) all,
      iff_of_false (by simp [value]) fun failed => none failed.2,
      iff_of_true value ⟨some_won, some_lost⟩⟩

end SceneRun

/-- The steps that have been looked up are new and sound, and so will be the ones to come. -/
structure SoundStart (scene : Scene) (steps : List SceneRunStep) : Prop where
  agrees : scene.steps.all SceneStep.agrees = true
  isNew : AllNew scene steps
  sound : ∀ step ∈ steps, step.Sound

theorem SceneStep.sound_queuedAs {step : SceneStep} (agrees : step.agrees = true) (index : Nat)
    (roomId : Option String) (device : Option DeviceSnapshot) :
    (step.queuedAs index roomId device).Sound := by
  have isNew := step.isNew_queuedAs index roomId device
  refine ⟨?_, isNew.command, ?_, fun commanded => ?_⟩
  · rw [SceneRunStep.Fits, isNew.ready]
    exact isNew.state
  · intro verifiable command known
    simp only [queuedAs] at known
    have parsed : safeParse step.rawCommand = some command :=
      (ite_none_left_eq_some.mp known).2
    simp only [queuedAs, Bool.and_eq_true] at verifiable
    have expects : (expectationOf step.capability command).isSome = true := by
      simpa [SceneStep.agrees, parsed, verifiable.2] using agrees
    exact expects
  · simp [isNew.uncommanded] at commanded

structure SceneRunner.Sound (runner : SceneRunner) : Prop where
  runs : ∀ run ∈ runner.runs, run.Sound
  starts : runner.Starts SoundStart

theorem SceneRunner.sound_initial : SceneRunner.initial.Sound :=
  ⟨by simp [initial], by simp [initial, Starts]⟩

theorem sound_step {runner next : SceneRunner} {label : RunnerLabel}
    {deadlines : List (String × Nat)} (sound : runner.Sound) (met : RunnerGuard runner label)
    (taken : runner.step deadlines label = some next) : next.Sound := by
  have rule : Grows (fun run after : SceneRun => run.Sound → after.Sound) SceneRun.Sound
      runner.runs next.runs ∧ next.Starts SoundStart := by
    refine step_rule taken ?_ ?_ ?_ ?_ sound.starts ?_ ?_
    · exact fun _ _ => id
    · exact fun run after change fine => fine.change met change
    · exact fun mine runId run _ fine => fine.supersede mine runId
    · exact fun scene spaceIds now steps start =>
        SceneRun.sound_started scene spaceIds now start.isNew start.sound
    · rintro scene spaceIds rfl
      exact ⟨met, by simp [AllNew], by simp⟩
    · intro scene steps index roomId device step member start
      refine ⟨start.agrees, start.isNew.concat index roomId device, ?_⟩
      intro other among
      rcases mem_append.mp among with old | fresh
      · exact start.sound other old
      · obtain rfl := mem_singleton.mp fresh
        exact SceneStep.sound_queuedAs (List.all_eq_true.mp start.agrees step member) _ _ _
  exact ⟨rule.1.forall_mem (fun _ _ keeps => keeps) (fun _ => id) sound.runs, rule.2⟩

/--
The steps move as they should in every run.  Phases are in order and every run
comes to its verdict, as long as no read of a device fails once its command is
sent and the steps that count as verifiable have commands that can be verified.
-/
theorem run_verdicts_hold (deadlines : List (String × Nat)) (labels : List RunnerLabel) :
    (runnerMachine deadlines).EachStep StepsMove SceneRunner.initial labels ∧
      ((runnerMachine deadlines).Guarded RunnerGuard SceneRunner.initial labels →
        (runnerMachine deadlines).Throughout RunsConclude SceneRunner.initial labels) := by
  constructor
  · exact Machine.eachStep_of_step
      (fun runner label next before taken => (stepsMove taken before).2)
      (fun runner label next before taken => (stepsMove taken before).1)
      (by simp [SceneRunner.initial, SceneRunner.Starts])
  · intro guarded
    have throughout : (runnerMachine deadlines).Throughout SceneRunner.Sound
        SceneRunner.initial labels := Machine.throughout_of_guarded
      (fun runner label next sound met taken => sound_step sound met taken)
      SceneRunner.sound_initial guarded
    refine throughout.mono fun runner sound run member => ?_
    have fine := sound.runs run member
    exact ⟨fine.phasesInOrder, fine.hasVerdict⟩

def sampleStep (deviceId : String) : SceneStep := ⟨deviceId, "onoff", [("action", .text "on")]⟩

def sampleScene (steps : List SceneStep) (phases : List (List Nat)) : Scene where
  id := "scene"
  homeId := "home"
  name := "Relax"
  scope := .home
  roomId := none
  ownerUserId := none
  icon := none
  aiGenerated := false
  steps := steps
  description := none
  phases := phases
  sourceDriverId := none
  sourceSceneId := none
  imported := false
  syncStatus := none

def onlineDevice (on : Bool) : DeviceSnapshot := ⟨"online", [("onoff", [("on", .boolean on)])]⟩

/-- Two phases: one lamp is on as soon as it is asked, the other one reports it. -/
def twoPhases : List RunnerLabel := [
  .start (sampleScene [sampleStep "hall", sampleStep "desk"] [[0], [1]]) [],
  .roomOf 0 (.ok none), .getDevice 0 (.ok (some (onlineDevice false))),
  .roomOf 0 (.ok none), .getDevice 0 (.ok (some (onlineDevice false))),
  .commandSettled 0 0 (.ok ()), .deviceRead 0 0 (.ok (some (onlineDevice true))),
  .nextPhase 0,
  .commandSettled 0 1 (.ok ()), .deviceRead 0 1 (.ok (some (onlineDevice false))),
  .tick 5000, .report "desk" "onoff" [("on", .boolean true)],
  .nextPhase 0, .finish 0]

theorem two_phases_conclude :
    (((runnerMachine []).run SceneRunner.initial twoPhases).map fun runner =>
        runner.runs.map SceneRun.status) = some [.completed] ∧
      (runnerMachine []).Throughout RunsConclude SceneRunner.initial twoPhases :=
  ⟨by decide +kernel, (run_verdicts_hold [] twoPhases).2 (by decide +kernel)⟩

/-- The command is taken, but reading the device afterwards fails. -/
def failedRead : List RunnerLabel := [
  .start (sampleScene [sampleStep "hall"] []) [],
  .roomOf 0 (.ok none), .getDevice 0 (.ok (some (onlineDevice false))),
  .commandSettled 0 0 (.ok ()), .deviceRead 0 0 (.error (some "database locked"))]

/-- The run is neither finished nor can it go on. -/
theorem failed_read_leaves_run :
    ¬∀ labels, (runnerMachine []).Throughout RunsConclude SceneRunner.initial labels := by
  intro throughout
  have conclude := Machine.property_of_throughout (throughout failedRead) rfl
  have verdict := (conclude _ (.head _)).2
    ⟨by decide +kernel, rfl, fun _ => rfl⟩
  exact absurd verdict.finished (by decide)

end SupremeOs.Scenes
