import SupremeOs.Automations.Engine

/-!
# Which automations an event reaches

An automation that matches an event should leave one run record for it,
whatever the executors did for the automations before it.  A rejected action
does not disturb this, and a rejected read of a condition does: the event's
walk ends, and a time trigger of the automation itself is already marked as
fired.  This file shows that nothing else disturbs it, and that the retained
runs are the last ones of all that were recorded.
-/

namespace SupremeOs.Automations

open Support DomainModel

universe u

variable {World : Type u}

def Triggered (event : EngineEvent) (automation : Automation) (state : EngineState World) : Prop :=
  match event with
  | .deviceState event => deviceStateTriggered event automation = true
  | .keypadInput event => keypadInputTriggered event automation = true
  | .tick now =>
    ∃ entry ∈ automation.triggers.zipIdx, isDue automation.id entry.2 entry.1 now (minuteOf now)
        state.engine.lastFired = true

/--
Every read is answered that the conditions come to: one is reached if those
before it passed.
-/
def ReadsAnswered (executors : AutomationExecutors World) (now : HubDate) :
    List AutomationCondition → World → Prop
  | [], _ => True
  | .deviceState test :: rest, world =>
    match executors.getState test.deviceId test.capability world with
    | (_, .error _) => False
    | (_, .ok none) => True
    | (after, .ok (some state)) =>
      test.holdsOf state = true → ReadsAnswered executors now rest after
  | .timeWindow window :: rest, world =>
    isWithinScheduleWindow window now = true → ReadsAnswered executors now rest world

def Readable (options : EngineOptions World) (automation : Automation)
    (state : EngineState World) : Prop :=
  ReadsAnswered options.executors (options.newDate state.world) automation.conditions
    state.world

def recordsOf (automation : Automation) (state : EngineState World) : Nat :=
  entriesOf AutomationRun.automationId automation.id state.recorded

theorem evaluateConditions_ok_iff (options : EngineOptions World) (now : HubDate)
    (conditions : List AutomationCondition) (world : World) :
    (∃ result, (evaluateConditions options now conditions world).2 = .ok result) ↔
      ReadsAnswered options.executors now conditions world := by
  induction conditions generalizing world with
  | nil => exact ⟨fun _ => trivial, fun _ => ⟨_, rfl⟩⟩
  | cons condition rest ih =>
    cases condition with
    | deviceState test =>
      simp only [evaluateConditions, ReadsAnswered]
      rcases options.executors.getState test.deviceId test.capability world with
        ⟨after, message | found⟩
      · simp
      · cases found with
        | none => simp
        | some state =>
          by_cases passes : test.holdsOf state = true
          · simp only [passes, if_true, forall_const]
            exact ih after
          · simp [passes]
    | timeWindow window =>
      simp only [evaluateConditions, ReadsAnswered]
      by_cases inside : isWithinScheduleWindow window now = true
      · simp only [inside, if_true, forall_const]
        exact ih world
      · simp [inside]

variable {state : EngineState World}

theorem execute_recorded (options : EngineOptions World) (automation : Automation)
    (trigger : String) (readable : Readable options automation state) :
    (execute options automation trigger false state).2 = none ∧
      ∃ entry : AutomationRun, entry.automationId = automation.id ∧
        (execute options automation trigger false state).1.recorded =
          state.recorded ++ [entry] := by
  rcases (evaluateConditions_ok_iff _ _ _ _).mpr readable with ⟨result, answered⟩
  simp only [execute, Bool.false_eq_true, if_false]
  split
  · rename_i after message rejected
    simp [rejected] at answered
  · exact ⟨rfl, _, rfl, rfl⟩

theorem execute_rejected (options : EngineOptions World) (automation : Automation)
    (trigger : String) (unreadable : ¬ Readable options automation state) :
    (∃ message, (execute options automation trigger false state).2 = some message) ∧
      (execute options automation trigger false state).1.recorded = state.recorded := by
  simp only [execute, Bool.false_eq_true, if_false]
  split
  · exact ⟨⟨_, rfl⟩, rfl⟩
  · rename_i after result answered
    have readable := (evaluateConditions_ok_iff _ _ _ _).mp
      ⟨result, congrArg Prod.snd answered⟩
    exact (unreadable readable).elim

theorem execute_lastFired (options : EngineOptions World) (automation : Automation)
    (trigger : String) (skipConditions : Bool) (state : EngineState World) :
    (execute options automation trigger skipConditions state).1.engine.lastFired =
      state.engine.lastFired := by
  simp only [execute]
  split <;> rfl

theorem timeTriggerFires_eq (automationId : String) (index : Nat)
    (trigger : AutomationTrigger) (now : HubDate) (minute : Int)
    (lastFired : OrderedMap String Int) :
    (timeTriggerFires automationId index trigger now minute lastFired).2 =
      isDue automationId index trigger now minute lastFired := by
  simp only [timeTriggerFires]
  split <;> simp_all

theorem timeTriggerFires_other {automationId other : String} (differs : automationId ≠ other)
    (index otherIndex : Nat) (trigger : AutomationTrigger) (now : HubDate) (minute : Int)
    (lastFired : OrderedMap String Int) :
    (timeTriggerFires automationId index trigger now minute lastFired).1.get
        (lastFiredKey other otherIndex) = lastFired.get (lastFiredKey other otherIndex) := by
  simp only [timeTriggerFires]
  split
  · rw [OrderedMap.get_set, if_neg]
    intro same
    have characters := congrArg String.toList same
    simp only [lastFiredKey, String.toList_append, List.append_assoc] at characters
    exact differs (String.toList_inj.mp (append_decimal_injective '#' (by decide) characters)).symm
  · rfl

/-- The two states agree on when the triggers of an automation last fired. -/
def SameMarks (automationId : String) (left right : EngineState World) : Prop :=
  ∀ index, left.engine.lastFired.get (lastFiredKey automationId index) =
    right.engine.lastFired.get (lastFiredKey automationId index)

theorem isDue_congr {left right : EngineState World} {automationId : String}
    (marks : SameMarks automationId left right) (index : Nat) (trigger : AutomationTrigger)
    (now : HubDate) (minute : Int) :
    isDue automationId index trigger now minute left.engine.lastFired =
      isDue automationId index trigger now minute right.engine.lastFired := by
  cases trigger <;> simp only [isDue, marks index]

theorem triggered_congr {left right : EngineState World} {automation : Automation}
    (marks : SameMarks automation.id left right) (event : EngineEvent) :
    Triggered event automation left ↔ Triggered event automation right := by
  cases event with
  | deviceState event => exact Iff.rfl
  | keypadInput event => exact Iff.rfl
  | tick now => simp only [Triggered, isDue_congr marks]

/--
What serving an automation does to the state before it is executed: at most
its own triggers are marked.
-/
structure Marked (automation : Automation) (state marked : EngineState World) : Prop where
  world : marked.world = state.world
  recorded : marked.recorded = state.recorded
  runs : marked.engine.runs = state.engine.runs
  others : ∀ other, automation.id ≠ other → SameMarks other marked state

theorem Marked.refl (automation : Automation) (state : EngineState World) :
    Marked automation state state :=
  ⟨rfl, rfl, rfl, fun _ _ _ => rfl⟩

theorem serveTriggers_skipped (options : EngineOptions World) (now : HubDate)
    (automation : Automation) (index : Nat) (triggers : List AutomationTrigger)
    (state : EngineState World) (early : ∀ entry ∈ triggers.zipIdx index,
      isDue automation.id entry.2 entry.1 now (minuteOf now) state.engine.lastFired = false) :
    serveTriggers options now automation index triggers state = (state, none) := by
  induction triggers generalizing index with
  | nil => rfl
  | cons trigger rest ih =>
    simp only [List.zipIdx_cons, List.mem_cons, forall_eq_or_imp] at early
    simp only [serveTriggers, timeTriggerFires, early.1, Bool.false_eq_true, if_false]
    exact ih (index + 1) early.2

theorem serveTriggers_fired (options : EngineOptions World) (now : HubDate)
    (automation : Automation) (index : Nat) (triggers : List AutomationTrigger)
    (state : EngineState World) (due : ∃ entry ∈ triggers.zipIdx index,
      isDue automation.id entry.2 entry.1 now (minuteOf now) state.engine.lastFired = true) :
    ∃ trigger marked, Marked automation state marked ∧
      serveTriggers options now automation index triggers state =
        execute options automation trigger false marked := by
  induction triggers generalizing index with
  | nil => simp at due
  | cons trigger rest ih =>
    simp only [List.zipIdx_cons, List.mem_cons, exists_eq_or_imp] at due
    by_cases first : isDue automation.id index trigger now (minuteOf now)
        state.engine.lastFired = true
    · refine ⟨trigger.type, { state with
          engine := { state.engine with
            lastFired := (timeTriggerFires automation.id index trigger now (minuteOf now)
              state.engine.lastFired).1 } }, ⟨rfl, rfl, rfl, ?_⟩, ?_⟩
      · intro other differs otherIndex
        exact timeTriggerFires_other differs _ _ _ _ _ _
      · simp only [serveTriggers, timeTriggerFires_eq, first, if_true]
    · simp only [serveTriggers, timeTriggerFires, if_neg first, Bool.false_eq_true, if_false]
      exact ih (index + 1) (due.resolve_left first)

theorem serve_skipped (options : EngineOptions World) (event : EngineEvent)
    (automation : Automation) (idle : ¬ Triggered event automation state) :
    serve options event automation state = (state, none) := by
  cases event with
  | deviceState event => exact if_neg idle
  | keypadInput event => exact if_neg idle
  | tick now =>
    simp only [Triggered, not_exists, not_and, Bool.not_eq_true] at idle
    exact serveTriggers_skipped options now automation 0 automation.triggers state idle

theorem serve_triggered (options : EngineOptions World) (event : EngineEvent)
    (automation : Automation) (due : Triggered event automation state) :
    ∃ trigger marked, Marked automation state marked ∧ serve options event automation state =
        execute options automation trigger false marked := by
  cases event with
  | deviceState event => exact ⟨_, state, Marked.refl automation state, if_pos due⟩
  | keypadInput event => exact ⟨_, state, Marked.refl automation state, if_pos due⟩
  | tick now => exact serveTriggers_fired options now automation 0 automation.triggers state due

theorem Marked.readable_iff {options : EngineOptions World} {automation : Automation}
    {marked : EngineState World} (marks : Marked automation state marked) :
    Readable options automation marked ↔ Readable options automation state := by
  simp only [Readable, marks.world]

theorem servingLoop (options : EngineOptions World) (event : EngineEvent) :
    ServingLoop (serve options event) (Triggered event) (Readable options)
      EngineState.recorded Automation.id AutomationRun.automationId where
  skipped automation state idle := by
    rw [serve_skipped options event automation idle]
    exact ⟨rfl, rfl⟩
  served automation state due readable := by
    rcases serve_triggered options event automation due with
      ⟨trigger, marked, marks, executed⟩
    rw [executed, ← marks.recorded]
    exact execute_recorded options automation trigger (marks.readable_iff.mpr readable)
  refused automation state due unreadable := by
    rcases serve_triggered options event automation due with
      ⟨trigger, marked, marks, executed⟩
    rw [executed, ← marks.recorded]
    apply execute_rejected options automation trigger
    intro readable
    exact unreadable (marks.readable_iff.mp readable)
  stable automation other state differs := by
    apply triggered_congr
    intro index
    by_cases due : Triggered event automation state
    · rcases serve_triggered options event automation due with
        ⟨trigger, marked, marks, executed⟩
      rw [executed, execute_lastFired]
      exact marks.others other.id differs index
    · rw [serve_skipped options event automation due]

/-- Along the walk, the reads of every automation that matches the event are answered. -/
def ReadsAnsweredFor (options : EngineOptions World) (event : EngineEvent)
    (state : EngineState World) : Prop :=
  Undisturbed (serve options event) (Triggered event) (Readable options)
    state.engine.automations state

/--
Every automation that matches an event leaves exactly one record for it,
exactly if no automation that matches it has a read rejected when it is
reached.
-/
theorem every_match_recorded_iff_reads_answered (options : EngineOptions World)
    (event : EngineEvent) (state : EngineState World) :
    (∀ automation ∈ state.engine.automations, Triggered event automation state →
      recordsOf automation (handle options event state).1 = recordsOf automation state + 1) ↔
      ReadsAnsweredFor options event state := by
  rw [handle_eq_forEach]
  exact (servingLoop options event).served_once_iff state.engine.automations
    state.engine.distinct state

namespace RejectedRead

/-- An executor set whose only trouble is that it cannot read states. -/
def options : EngineOptions Unit where
  executors :=
    { command := fun _ _ world => (world, .ok ())
      activateScene := fun _ world => (world, .ok ())
      notify := fun _ _ _ _ world => (world, .ok ())
      getState := fun _ _ world => (world, .error "device unreachable")
      runIntent := none }
  sleep := fun _ world => (world, .ok ())
  onRun := none
  historyLimit := 100
  now := fun _ => 0
  newDate := fun _ => ⟨27000000, 4, 7, 30⟩

/-- An automation that is due at half past seven. -/
def morning (id : String) (conditions : List AutomationCondition) : Automation where
  id := id
  homeId := "home"
  name := id
  enabled := true
  triggers := [.time ⟨7, 30⟩ []]
  conditions := conditions
  actions := [.sceneActivate "wake"]
  engine := .supreme
  externalRef := none
  aiGenerated := false
  tags := []

/-- The first automation reads a state, the second has no condition. -/
def start : EngineState Unit where
  engine :=
    { automations :=
        [morning "blinds"
          [.deviceState ⟨"sensor", .sensor, "value", .gt, some (.number (.finite 5))⟩],
         morning "lights" []]
      distinct := by decide
      lastFired := OrderedMap.empty
      runs := []
      runSeq := 0 }
  world := ()
  recorded := []

end RejectedRead

/-- A read that is rejected for one automation silences the one after it. -/
theorem rejected_read_silences_another :
    ¬ ∀ (options : EngineOptions Unit) (event : EngineEvent) (state : EngineState Unit),
      ∀ automation ∈ state.engine.automations, Triggered event automation state →
        recordsOf automation (handle options event state).1 = recordsOf automation state + 1 := by
  intro claim
  have once := claim RejectedRead.options (.tick ⟨27000000, 4, 7, 30⟩) RejectedRead.start
    (RejectedRead.morning "lights" []) (by decide)
    ⟨(.time ⟨7, 30⟩ [], 0), by decide, by decide +kernel⟩
  revert once
  decide +kernel

end SupremeOs.Automations
