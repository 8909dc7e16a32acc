import SupremeOs.Automations.EngineRecords

/-!
# Dry runs and health

A dry run evaluates the conditions of an automation and is recorded without
performing its actions.  Health is read off the last few runs of an automation
that are retained, less the dry runs among them.

Dry runs take up room in the history.  So health keeps its value over them as
long as the runs that decide it are not pushed out of sight.
-/

namespace SupremeOs.Automations

open Support DomainModel List

universe u

variable {World : Type u}

/-- Whether `recentRuns` lists a run for an id; the empty id stands for all of them. -/
def isRunOf (automationId : String) (run : AutomationRun) : Bool :=
  automationId.isEmpty || decide (run.automationId = automationId)

/-- Recent runs, the newest one first; no limit is one of zero. -/
def AutomationEngine.recentRuns (engine : AutomationEngine) (automationId : String)
    (limit : Nat) : List AutomationRun :=
  let all := engine.runs.filter (isRunOf automationId)
  (if limit = 0 then all else all.drop (all.length - limit)).reverse

def dryRun (options : EngineOptions World) (automation : Automation)
    (state : EngineState World) : EngineState World × Except String AutomationRun :=
  let started := options.newDate state.world
  match evaluateConditions options started automation.conditions state.world with
  | (after, .error message) => ({ state with world := after }, .error message)
  | (after, .ok checked) =>
    let wouldRun : AutomationAction → AutomationRunAction := fun action =>
      { type := action.type, ok := true, error := none, durationMs := 0
        summary := "Would run: " ++ describeAutomationAction action }
    let run : AutomationRun :=
      { id := "dryrun-" ++ toString started.time ++ "-" ++ toString state.engine.runSeq
        automationId := automation.id
        startedAt := started
        trigger := "dry_run"
        conditionsPassed := checked.passed
        failedCondition := checked.failed
        actions := if checked.passed then automation.actions.map wouldRun else []
        durationMs := options.now after - options.now state.world
        ok := checked.passed
        error := none }
    let runs := state.engine.runs ++ [run]
    ({ engine := { state.engine with
        runs := if options.historyLimit < runs.length then runs.drop 1 else runs
        runSeq := state.engine.runSeq + 1 }
       world := after
       recorded := state.recorded ++ [run] }, .ok run)

def dryRuns (options : EngineOptions World) : List Automation → EngineState World →
    EngineState World
  | [], state => state
  | automation :: rest, state => dryRuns options rest (dryRun options automation state).1

/-- The automations whose dry run is recorded: a state that cannot be read rejects it. -/
def completed (options : EngineOptions World) : List Automation → EngineState World →
    List Automation
  | [], _ => []
  | automation :: rest, state =>
    let later := completed options rest (dryRun options automation state).1
    match (dryRun options automation state).2 with
    | .error _ => later
    | .ok _ => automation :: later

inductive HealthStatus where
  | disabled
  | waiting
  | healthy
  | warning
  | broken
deriving DecidableEq

structure Health where
  status : HealthStatus
  reason : String
deriving DecidableEq

def AutomationRun.isDryRun (run : AutomationRun) : Bool := decide (run.trigger = "dry_run")

/-- The conditions held and an action failed. -/
def AutomationRun.failed (run : AutomationRun) : Bool := run.conditionsPassed && !run.ok

/-- The health that the last runs show, the newest one first. -/
def healthOf (runs : List AutomationRun) : Health :=
  match runs with
  | [] => ⟨.waiting, "Enabled — hasn't triggered yet."⟩
  | last :: _ =>
    if last.failed then
      let recentFailures := (runs.filter AutomationRun.failed).length
      let error := last.error.getD "an action failed"
      if runs.length ≤ recentFailures then
        ⟨.broken, "Last " ++ toString recentFailures ++ " run(s) failed: " ++ error ++ "."⟩
      else ⟨.warning, "Last run failed: " ++ error ++ "."⟩
    else
      ⟨.healthy, if last.conditionsPassed then "Last run completed successfully."
        else "Waiting — conditions weren't met last time."⟩

def AutomationEngine.healthRuns (engine : AutomationEngine) (automationId : String) :
    List AutomationRun :=
  ((engine.recentRuns automationId 20).filter fun run => !run.isDryRun).take 5

def AutomationEngine.health (engine : AutomationEngine) (automation : Automation) : Health :=
  if automation.enabled = false then ⟨.disabled, "Automation is turned off."⟩
  else if automation.engine = .ha then
    ⟨.broken, "This automation targets Home Assistant execution, which is not supported on this " ++
      "hub — it will never run. Recreate it using the native engine."⟩
  else healthOf (engine.healthRuns automation.id)

/--
The engines that executions and dry runs lead to.  An execution whose actions
take their time records its run at its end, whatever has happened meanwhile.
-/
inductive Reachable (options : EngineOptions World) : EngineState World → Prop
  | constructed {state : EngineState World} (empty : state.engine.runs = []) :
      Reachable options state
  | executed {state : EngineState World} (run : AutomationRun) :
      Reachable options state → Reachable options (record options run state)
  | dryRan {state : EngineState World} (automation : Automation) :
      Reachable options state → Reachable options (dryRun options automation state).1
  /-- Triggers fire, automations are set and the world changes. -/
  | elsewhere {state next : EngineState World} :
      Reachable options state → next.engine.runs = state.engine.runs → Reachable options next

variable {state : EngineState World}

theorem execute_reachable (options : EngineOptions World) (automation : Automation)
    (trigger : String) (skipConditions : Bool) (reachable : Reachable options state) :
    Reachable options (execute options automation trigger skipConditions state).1 := by
  simp only [execute]
  split
  · exact .elsewhere reachable rfl
  · exact .executed _ (.elsewhere reachable rfl)

/-- A dry run is rejected and leaves the history, or is recorded in it. -/
theorem dryRun_cases (options : EngineOptions World) (automation : Automation)
    (state : EngineState World) :
    (∃ message, (dryRun options automation state).2 = .error message ∧
      (dryRun options automation state).1.engine.runs = state.engine.runs) ∨
    ∃ run, (dryRun options automation state).2 = .ok run ∧
      run.automationId = automation.id ∧ run.isDryRun = true ∧
      (dryRun options automation state).1.engine.runs =
        if options.historyLimit < (state.engine.runs ++ [run]).length then
          (state.engine.runs ++ [run]).drop 1
        else state.engine.runs ++ [run] := by
  rw [dryRun]
  split
  · exact .inl ⟨_, rfl, rfl⟩
  · exact .inr ⟨_, rfl, rfl, rfl, rfl⟩

theorem reverse_retained {limit : Nat} {runs : List AutomationRun} (run : AutomationRun)
    (within : runs.length ≤ limit) :
    (if limit < (runs ++ [run]).length then (runs ++ [run]).drop 1 else runs ++ [run]).reverse =
      (run :: runs.reverse).take limit := by
  rw [length_append, length_singleton]
  split
  · rename_i full
    have exact_length : limit = (runs ++ [run]).length - 1 := by
      rw [length_append, length_singleton]
      omega
    rw [reverse_drop, ← exact_length, reverse_append, reverse_singleton, singleton_append]
  · rename_i room
    rw [reverse_append, reverse_singleton, singleton_append]
    rw [take_of_length_le]
    rw [length_cons, length_reverse]
    omega

theorem Reachable.within {options : EngineOptions World} {state : EngineState World}
    (reachable : Reachable options state) :
    state.engine.runs.length ≤ options.historyLimit := by
  have pushed {runs : List AutomationRun} (run : AutomationRun)
      (within : runs.length ≤ options.historyLimit) :
      (if options.historyLimit < (runs ++ [run]).length then (runs ++ [run]).drop 1
        else runs ++ [run]).length ≤ options.historyLimit := by
    rw [← length_reverse, reverse_retained run within]
    exact length_take_le _ _
  induction reachable with
  | constructed empty => simp [empty]
  | executed run _ ih => exact pushed run ih
  | dryRan automation _ ih =>
    rcases dryRun_cases options automation _ with ⟨-, -, same⟩ | ⟨run, -, -, -, runs⟩
    · rw [same]
      exact ih
    · rw [runs]
      exact pushed run ih
  | elsewhere _ same ih => exact same ▸ ih

theorem dryRuns_retained (options : EngineOptions World) (dry : List Automation)
    (reachable : Reachable options state) :
    ∃ made : List AutomationRun, (∀ run ∈ made, run.isDryRun = true) ∧
      made.map AutomationRun.automationId =
        ((completed options dry state).map Automation.id).reverse ∧
      (dryRuns options dry state).engine.runs.reverse =
        (made ++ state.engine.runs.reverse).take options.historyLimit := by
  induction dry generalizing state with
  | nil =>
    refine ⟨[], by simp, rfl, ?_⟩
    rw [nil_append, take_of_length_le]
    · rfl
    · rw [length_reverse]
      exact reachable.within
  | cons automation rest ih =>
    rcases ih (.dryRan automation reachable) with ⟨made, synthetic, ids, after⟩
    rw [dryRuns, completed, after]
    rcases dryRun_cases options automation state with
      ⟨message, refused, same⟩ | ⟨run, recorded, own, isDry, runs⟩
    · rw [refused, same]
      exact ⟨made, synthetic, ids, rfl⟩
    · rw [recorded, runs, reverse_retained run reachable.within]
      refine ⟨made ++ [run], ?_, ?_, ?_⟩
      · intro other member
        rcases mem_append.mp member with earlier | newest
        · exact synthetic other earlier
        · exact mem_singleton.mp newest ▸ isDry
      · rw [map_append, ids, map_singleton, own]
        exact reverse_cons.symm
      · rw [append_assoc, singleton_append, take_append, take_append, take_take]
        congr 2
        omega

/-- The runs of an automation that are not dry runs, among its last ones. -/
def realRuns (automationId : String) (window : Nat) (newestFirst : List AutomationRun) :
    List AutomationRun :=
  (((newestFirst.filter (isRunOf automationId)).take window).filter fun run =>
    !run.isDryRun).take 5

/-- The runs that health looks at and that dry runs leave in sight. -/
def AutomationEngine.runsInSight (engine : AutomationEngine) (historyLimit : Nat)
    (automationId : String) (dry : List Automation) : List AutomationRun :=
  let own := dry.countP fun automation =>
    automationId.isEmpty || decide (automation.id = automationId)
  realRuns automationId (20 - own) (engine.runs.reverse.take (historyLimit - dry.length))

theorem healthRuns_eq (engine : AutomationEngine) (automationId : String) :
    engine.healthRuns automationId = realRuns automationId 20 engine.runs.reverse := by
  rw [AutomationEngine.healthRuns, AutomationEngine.recentRuns, realRuns, if_neg (by decide),
    ← take_reverse, filter_reverse]

theorem realRuns_append {made older : List AutomationRun} {automationId : String}
    (synthetic : ∀ run ∈ made, run.isDryRun = true) (window : Nat) :
    realRuns automationId window (made ++ older) =
      realRuns automationId (window - (made.filter (isRunOf automationId)).length) older := by
  have none : ((made.filter (isRunOf automationId)).take window).filter
      (fun run => !run.isDryRun) = [] := by
    refine filter_eq_nil_iff.mpr fun run member => ?_
    simp [synthetic run (mem_of_mem_filter (mem_of_mem_take member))]
  rw [realRuns, filter_append, take_append, filter_append, none, nil_append]
  rfl

theorem healthRuns_dryRuns (options : EngineOptions World) (dry : List Automation)
    (reachable : Reachable options state) (automationId : String) :
    (dryRuns options dry state).engine.healthRuns automationId =
      state.engine.runsInSight options.historyLimit automationId
        (completed options dry state) := by
  rcases dryRuns_retained options dry reachable with ⟨made, synthetic, ids, after⟩
  have count : made.length = (completed options dry state).length := by
    have lengths := congrArg List.length ids
    simpa only [length_map, length_reverse] using lengths
  have own : (made.filter (isRunOf automationId)).length =
      (completed options dry state).countP fun automation =>
        automationId.isEmpty || decide (automation.id = automationId) := by
    have counts := congrArg (List.countP fun id => automationId.isEmpty ||
      decide (id = automationId)) ids
    rw [countP_map, countP_reverse, countP_map] at counts
    rw [← countP_eq_length_filter]
    exact counts
  rw [healthRuns_eq, after, take_append, realRuns_append, AutomationEngine.runsInSight,
    ← count, ← own]
  · by_cases room : made.length ≤ options.historyLimit
    · rw [take_of_length_le room]
    · have none : options.historyLimit - made.length = 0 := by omega
      simp [realRuns, none]
  · intro run member
    exact synthetic run (mem_of_mem_take member)

theorem runsInSight_isPrefix (engine : AutomationEngine) (historyLimit : Nat)
    (automationId : String) (dry : List Automation) :
    engine.runsInSight historyLimit automationId dry <+: engine.healthRuns automationId := by
  rw [healthRuns_eq, AutomationEngine.runsInSight, realRuns, realRuns]
  have cut {shorter longer : List AutomationRun} (within : shorter <+: longer) (count : Nat) :
      shorter.take count <+: longer.take count := by
    rcases within with ⟨rest, rfl⟩
    rw [take_append]
    exact prefix_append _ _
  refine cut (List.IsPrefix.filter _ ?_) 5
  refine List.IsPrefix.trans (take_prefix_take_left ?_) (cut ?_ 20)
  · omega
  · exact (List.take_prefix _ _).filter _

/--
How many of the runs that health looks at decide it, the newest ones: the last
run, and if that one failed also those before it up to one that did not.
-/
def deciding (runs : List AutomationRun) : Nat :=
  match runs with
  | [] => 0
  | last :: _ =>
    if last.failed then min runs.length ((runs.takeWhile AutomationRun.failed).length + 1)
    else 1

theorem length_filter_take_le_iff (runs : List AutomationRun) (count : Nat) :
    (runs.take count).length ≤ ((runs.take count).filter AutomationRun.failed).length ↔
      min count runs.length ≤ (runs.takeWhile AutomationRun.failed).length := by
  induction runs generalizing count with
  | nil => simp
  | cons run rest ih =>
    cases count with
    | zero => simp
    | succ count =>
      cases failed : run.failed with
      | true =>
        have onward := ih count
        simp only [take_succ_cons, length_cons, filter_cons, failed, if_true,
          takeWhile_cons] at onward ⊢
        omega
      | false =>
        have bound := length_filter_le AutomationRun.failed (rest.take count)
        simp [failed] at bound ⊢
        omega

theorem toString_injective {left right : Nat} (same : toString left = toString right) :
    left = right := by
  have digits := congrArg (fun text => Nat.ofDigitChars 10 (String.toList text) 0) same
  simpa using digits

theorem healthOf_take_failed {last : AutomationRun} {rest : List AutomationRun}
    (failed : last.failed = true) (count : Nat) :
    healthOf ((last :: rest).take (count + 1)) = if min (count + 1) (last :: rest).length ≤
          ((last :: rest).takeWhile AutomationRun.failed).length then
        ⟨.broken, "Last " ++ toString (min (count + 1) (last :: rest).length) ++
          " run(s) failed: " ++ last.error.getD "an action failed" ++ "."⟩
      else ⟨.warning, "Last run failed: " ++ last.error.getD "an action failed" ++ "."⟩ := by
  have taken := length_filter_take_le_iff (last :: rest) (count + 1)
  have bound := length_filter_le AutomationRun.failed ((last :: rest).take (count + 1))
  rw [length_take] at taken bound
  simp only [take_succ_cons] at taken bound ⊢
  simp only [healthOf, failed, if_true, ← taken]
  have length : (last :: rest.take count).length = min (count + 1) (last :: rest).length := by
    rw [← take_succ_cons, length_take]
  rw [length]
  split
  · rename_i all
    rw [Nat.le_antisymm bound all]
  · rfl

/-- Health keeps its value on the newest runs if the deciding ones are among them. -/
theorem healthOf_take_iff (runs : List AutomationRun) (count : Nat) :
    healthOf (runs.take count) = healthOf runs ↔ deciding runs ≤ count := by
  cases runs with
  | nil => simp [deciding]
  | cons last rest =>
    cases failed : last.failed with
    | false => cases count <;> simp [healthOf, deciding, failed]
    | true =>
      have whole := @healthOf_take_failed last rest failed rest.length
      rw [take_of_length_le (by rw [length_cons]), ← length_cons, Nat.min_self] at whole
      rw [whole]
      simp only [deciding, failed, if_true]
      cases count with
      | zero =>
        rw [take_zero, healthOf]
        split <;> simp
      | succ count =>
        rw [healthOf_take_failed failed]
        split
        · rename_i allTaken
          split
          · rename_i all
            constructor
            · intro same
              have counts : toString (min (count + 1) (last :: rest).length) =
                  toString (last :: rest).length := by
                simpa using congrArg Health.reason same
              have equal := toString_injective counts
              omega
            · intro decided
              have equal : min (count + 1) (last :: rest).length = (last :: rest).length := by omega
              rw [equal]
          · refine iff_of_false (fun same => ?_) (by omega)
            exact HealthStatus.noConfusion (congrArg Health.status same)
        · split
          · omega
          · exact iff_of_true rfl (by omega)

/-- Dry runs keep health exactly if the runs that decide it stay in sight. -/
theorem health_dryRuns_iff (options : EngineOptions World) {state : EngineState World}
    (reachable : Reachable options state) (automation : Automation)
    (enabled : automation.enabled = true) (dry : List Automation) :
    (dryRuns options dry state).engine.health automation = state.engine.health automation ↔
      automation.engine = .ha ∨ deciding (state.engine.healthRuns automation.id) ≤
        (state.engine.runsInSight options.historyLimit automation.id
          (completed options dry state)).length := by
  simp only [AutomationEngine.health, enabled, Bool.true_eq_false, if_false]
  by_cases legacy : automation.engine = .ha
  · simp [legacy]
  · have sight := prefix_iff_eq_take.mp (runsInSight_isPrefix state.engine
      options.historyLimit automation.id (completed options dry state))
    rw [if_neg legacy, if_neg legacy, or_iff_right legacy, ← healthOf_take_iff, ← sight,
      healthRuns_dryRuns options dry reachable]

namespace DryRuns

/-- An executor set whose commands are rejected. -/
def options : EngineOptions Unit where
  executors :=
    { command := fun _ _ world => (world, .error "bus offline")
      activateScene := fun _ world => (world, .error "bus offline")
      notify := fun _ _ _ _ world => (world, .ok ())
      getState := fun _ _ world => (world, .ok none)
      runIntent := none }
  sleep := fun _ world => (world, .ok ())
  onRun := none
  historyLimit := 100
  now := fun _ => 0
  newDate := fun _ => ⟨27000000, 4, 7, 30⟩

def wake : Automation where
  id := "wake"
  homeId := "home"
  name := "wake"
  enabled := true
  triggers := []
  conditions := []
  actions := [.sceneActivate "wake"]
  engine := .supreme
  externalRef := none
  aiGenerated := false
  tags := []

def constructed : EngineState Unit where
  engine := ⟨[], nodup_nil, OrderedMap.empty, [], 0⟩
  world := ()
  recorded := []

def failedOnce : EngineState Unit := (run options wake constructed).1

theorem failedOnce_reachable : Reachable options failedOnce :=
  execute_reachable options wake "manual" true (.constructed rfl)

end DryRuns

theorem health_dryRuns_nineteen : (dryRuns DryRuns.options (List.replicate 19 DryRuns.wake)
      DryRuns.failedOnce).engine.health DryRuns.wake =
    DryRuns.failedOnce.engine.health DryRuns.wake :=
  (health_dryRuns_iff DryRuns.options DryRuns.failedOnce_reachable DryRuns.wake rfl
    (List.replicate 19 DryRuns.wake)).mpr (.inr (by decide +kernel))

/-- Twenty dry runs push a failed run out of sight. -/
theorem dryRuns_hide_failure :
    ¬∀ (options : EngineOptions Unit) (state : EngineState Unit), Reachable options state →
      ∀ automation : Automation, automation.enabled = true → ∀ dry : List Automation,
        (dryRuns options dry state).engine.health automation = state.engine.health automation := by
  intro unchanged
  have same := unchanged DryRuns.options DryRuns.failedOnce DryRuns.failedOnce_reachable
    DryRuns.wake rfl (List.replicate 20 DryRuns.wake)
  revert same
  decide +kernel

end SupremeOs.Automations
