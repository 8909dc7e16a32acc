import SupremeOs.Automations.EngineRecords
import SupremeOs.Support.Alarms

/-!
# Clock triggers

The engine is told the time once in a minute.  An automation's time and interval
triggers are alarms, of which at most one sets it off, and a trigger that does is
marked with the minute.  Over consecutive minutes every interval is kept and no
matching time is missed.

A minute may be told again.  Its mark keeps a time trigger from setting off the
automation again, but not another trigger that matches the same minute, nor the
trigger itself if it has fired in a later minute since.
-/

namespace SupremeOs.Automations

open Support DomainModel List Nat

universe u

variable {World : Type u}

structure LocalMinute where
  day : Nat
  hours : Nat
  minutes : Nat
deriving DecidableEq

def localMinute (now : HubDate) : LocalMinute := ⟨now.day, now.hours, now.minutes⟩

def timeMatches (trigger : AutomationTrigger) (here : LocalMinute) : Bool :=
  match trigger with
  | .time clock days =>
    decide (twoDigits here.hours ++ ":" ++ twoDigits here.minutes = clock.text) &&
      (days.isEmpty || days.contains here.day)
  | _ => false

def alarmOf (homeClock : Int → LocalMinute) (trigger : AutomationTrigger) : Alarm :=
  match trigger with
  | .time clock days => .clock fun minute => timeMatches (.time clock days) (homeClock minute)
  | .interval everyMinutes => .every everyMinutes
  | _ => .silent

def alarmsOf (homeClock : Int → LocalMinute) (automation : Automation) : List Alarm :=
  automation.triggers.map (alarmOf homeClock)

def memoryOf (automationId : String) (state : EngineState World) : AlarmMemory :=
  fun index => state.engine.lastFired.get (lastFiredKey automationId index)

section Serving

variable {homeClock : Int → LocalMinute} {now : HubDate} {automation : Automation}
variable {options : EngineOptions World} {state : EngineState World}

theorem isDue_eq (onClock : localMinute now = homeClock (minuteOf now)) (automationId : String)
    (index : Nat) (trigger : AutomationTrigger) (lastFired : OrderedMap String Int) :
    isDue automationId index trigger now (minuteOf now) lastFired =
      (alarmOf homeClock trigger).due (lastFired.get (lastFiredKey automationId index))
        (minuteOf now) := by
  cases trigger with
  | time clock days => simp only [isDue, alarmOf, Alarm.due, timeMatches, ← onClock, localMinute]
  | interval everyMinutes =>
    simp only [isDue, alarmOf]
    cases lastFired.get (lastFiredKey automationId index) <;> rfl
  | _ => rfl

theorem isDue_alarms_iff (onClock : localMinute now = homeClock (minuteOf now)) (index : Nat) :
    IsDue (alarmsOf homeClock automation) (memoryOf automation.id state) (minuteOf now) index ↔
      ∃ trigger, automation.triggers[index]? = some trigger ∧
        isDue automation.id index trigger now (minuteOf now) state.engine.lastFired = true := by
  simp only [IsDue, alarmsOf, getElem?_map, Option.map_eq_some_iff, isDue_eq onClock, memoryOf]
  constructor
  · rintro ⟨alarm, ⟨trigger, found, rfl⟩, due⟩
    exact ⟨trigger, found, due⟩
  · rintro ⟨trigger, found, due⟩
    exact ⟨_, ⟨trigger, found, rfl⟩, due⟩

def marked (automationId : String) (index : Nat) (minute : Int) (state : EngineState World) :
    EngineState World :=
  { state with
    engine := { state.engine with
      lastFired := state.engine.lastFired.set (lastFiredKey automationId index) minute } }

theorem serveTriggers_first (options : EngineOptions World) (now : HubDate)
    {triggers : List AutomationTrigger} {trigger : AutomationTrigger} {index offset : Nat}
    (found : triggers[index]? = some trigger)
    (due : isDue automation.id (offset + index) trigger now (minuteOf now)
      state.engine.lastFired = true)
    (first : ∀ earlier < index, ∀ other, triggers[earlier]? = some other →
      isDue automation.id (offset + earlier) other now (minuteOf now)
        state.engine.lastFired = false) :
    serveTriggers options now automation offset triggers state =
      execute options automation trigger.type false
        (marked automation.id (offset + index) (minuteOf now) state) := by
  induction triggers generalizing index offset with
  | nil => cases found
  | cons head rest ih =>
    cases index with
    | zero =>
      cases found
      rw [Nat.add_zero] at due ⊢
      simp only [serveTriggers, timeTriggerFires, due, if_true]
      rfl
    | succ index =>
      have early := first 0 (succ_pos index) head rfl
      rw [Nat.add_zero] at early
      simp only [serveTriggers, timeTriggerFires, early, Bool.false_eq_true, if_false]
      have next := @ih index (offset + 1) found
      rw [Nat.add_right_comm, Nat.add_assoc] at next
      refine next due fun earlier less other same => ?_
      have idle := first (earlier + 1) (succ_lt_succ less) other same
      rw [Nat.add_right_comm, Nat.add_assoc]
      exact idle

theorem execute_completed {trigger : String}
    (completes : (execute options automation trigger false state).2 = none) :
    ∃ entry : AutomationRun, entry.automationId = automation.id ∧
      (execute options automation trigger false state).1.recorded = state.recorded ++ [entry] := by
  apply (execute_recorded options automation trigger ?_).2
  by_contra unreadable
  obtain ⟨message, rejected⟩ := (execute_rejected options automation trigger unreadable).1
  rw [completes] at rejected
  cases rejected

theorem lastFiredKey_inj {automationId : String} {index other : Nat}
    (same : lastFiredKey automationId index = lastFiredKey automationId other) : index = other := by
  have characters := congrArg String.toList same
  simp only [lastFiredKey, String.toList_append] at characters
  have digits := append_cancel_left characters
  rw [toString_eq_repr, toString_eq_repr, toList_repr, toList_repr] at digits
  have numbers := congrArg (fun characters => Nat.ofDigitChars 10 characters 0) digits
  simpa only [ofDigitChars_ten_toDigits] using numbers

/-- The marks and the number of records of an automation. -/
def served (automationId : String) (state : EngineState World) : AlarmMemory × Nat :=
  (memoryOf automationId state, entriesOf AutomationRun.automationId automationId state.recorded)

/-- One round: the first alarm that is due rings, and leaves a record. -/
def roundOf (alarms : List Alarm) (minute : Int) (before : AlarmMemory × Nat) : AlarmMemory × Nat :=
  (ring alarms minute before.1, before.2 + if firstDue alarms before.1 minute = none then 0 else 1)

theorem memoryOf_marked (automationId : String) (index : Nat) (minute : Int)
    (state : EngineState World) : memoryOf automationId (marked automationId index minute state) =
      Function.update (memoryOf automationId state) index (some minute) := by
  funext other
  rw [memoryOf, marked, OrderedMap.get_set, Function.update_apply]
  by_cases same : other = index
  · rw [if_pos (congrArg (lastFiredKey automationId) same), if_pos same]
  · rw [if_neg fun equal => same (lastFiredKey_inj equal), if_neg same, memoryOf]

theorem served_execute {trigger : String}
    (completes : (execute options automation trigger false state).2 = none) :
    served automation.id (execute options automation trigger false state).1 =
      (memoryOf automation.id state,
        entriesOf AutomationRun.automationId automation.id state.recorded + 1) := by
  obtain ⟨entry, owner, recorded⟩ := execute_completed completes
  refine Prod.ext ?_ ?_
  · funext index
    show OrderedMap.get _ _ = _
    rw [execute_lastFired]
    rfl
  · show entriesOf _ _ _ = _
    rw [recorded, entriesOf_append, entriesOf_singleton, if_pos owner]

theorem served_serveTick (onClock : localMinute now = homeClock (minuteOf now))
    (completes : (serveTick options now automation state).2 = none) :
    served automation.id (serveTick options now automation state).1 =
      roundOf (alarmsOf homeClock automation) (minuteOf now) (served automation.id state) := by
  rw [serveTick] at completes ⊢
  cases first : firstDue (alarmsOf homeClock automation) (memoryOf automation.id state)
      (minuteOf now) with
  | none =>
    rw [serveTriggers_skipped]
    · rw [roundOf, served, ring]
      dsimp only
      rw [first, if_pos rfl]
      rfl
    · rintro ⟨trigger, index⟩ member
      have found : automation.triggers[index]? = some trigger :=
        mem_zipIdx_iff_getElem?.mp member
      have idle := firstDue_eq_none.mp first index
      rw [isDue_alarms_iff onClock] at idle
      rw [← Bool.not_eq_true]
      exact fun due => idle ⟨trigger, found, due⟩
  | some index =>
    obtain ⟨due, earliest⟩ := firstDue_eq_some.mp first
    obtain ⟨trigger, found, isDue⟩ := (isDue_alarms_iff onClock index).mp due
    have executed : serveTriggers options now automation 0 automation.triggers state =
        execute options automation trigger.type false
          (marked automation.id (0 + index) (minuteOf now) state) := by
      refine serveTriggers_first options now found (by rw [Nat.zero_add]; exact isDue) ?_
      intro earlier less other same
      rw [Nat.zero_add, ← Bool.not_eq_true]
      exact fun early =>
        earliest earlier less ((isDue_alarms_iff onClock earlier).mpr ⟨other, same, early⟩)
    rw [Nat.zero_add] at executed
    rw [executed] at completes ⊢
    rw [served_execute completes, memoryOf_marked, roundOf, served, ring]
    dsimp only
    rw [first, if_neg nofun]
    rfl

theorem served_serveTick_other (options : EngineOptions World) (now : HubDate)
    (automation : Automation) (state : EngineState World) {other : String}
    (differs : automation.id ≠ other) :
    served other (serveTick options now automation state).1 = served other state := by
  refine Prod.ext ?_ ?_
  · funext index
    by_cases due : Triggered (.tick now) automation state
    · obtain ⟨trigger, next, marks, executed⟩ := serve_triggered options (.tick now) automation due
      have kept := marks.others other differs index
      show OrderedMap.get (serve options (.tick now) automation state).1.engine.lastFired _ = _
      rw [executed, execute_lastFired, kept]
      rfl
    · show OrderedMap.get (serve options (.tick now) automation state).1.engine.lastFired _ = _
      rw [serve_skipped options (.tick now) automation due]
      rfl
  · exact (servingLoop options (.tick now)).entriesOf_body automation state differs

theorem served_tick (onClock : localMinute now = homeClock (minuteOf now))
    (completes : (tick options now state).2 = none) (member : automation ∈
      state.engine.automations) :
    served automation.id (tick options now state).1 =
      roundOf (alarmsOf homeClock automation) (minuteOf now) (served automation.id state) :=
  (forEach_view Automation.id served
    (fun automation => roundOf (alarmsOf homeClock automation) (minuteOf now))
    (fun _ _ => served_serveTick onClock)
    (fun automation state _ => served_serveTick_other options now automation state)
    state.engine.distinct completes).1 automation member

theorem serveTriggers_automations (options : EngineOptions World) (now : HubDate)
    (automation : Automation) (index : Nat) (triggers : List AutomationTrigger)
    (state : EngineState World) :
    (serveTriggers options now automation index triggers state).1.engine.automations =
      state.engine.automations := by
  induction triggers generalizing index state with
  | nil => rfl
  | cons trigger rest ih =>
    simp only [serveTriggers]
    split
    · simp only [execute]
      split <;> rfl
    · exact ih (index + 1) _

theorem tick_automations (options : EngineOptions World) (now : HubDate)
    (state : EngineState World) :
    (tick options now state).1.engine.automations = state.engine.automations := by
  have kept : ∀ automation (before : EngineState World),
      before.engine.automations = state.engine.automations →
        (serveTick options now automation before).1.engine.automations =
          state.engine.automations := by
    intro automation before same
    rw [serveTick, serveTriggers_automations, same]
  exact forEach_invariant kept state.engine.automations rfl

end Serving

structure Ticked (World : Type u) where
  now : HubDate
  before : EngineState World
  after : EngineState World

def Ticked.minute (ticked : Ticked World) : Int := minuteOf ticked.now

def seen (ticks : List (Ticked World)) : List Int := ticks.map Ticked.minute

/--
Ticks that complete one after the other, each in the next minute or in one that was
told before; the local time depends on the minute only.
-/
inductive TickRun (options : EngineOptions World) (homeClock : Int → LocalMinute)
    (start : EngineState World) : List (Ticked World) → EngineState World → Prop
  | start : TickRun options homeClock start [] start
  | tick {ticks : List (Ticked World)} {state : EngineState World}
      (run : TickRun options homeClock start ticks state) (now : HubDate)
      (onClock : localMinute now = homeClock (minuteOf now))
      (turn : Turn (seen ticks) (minuteOf now)) (completes : (tick options now state).2 = none) :
      TickRun options homeClock start (ticks ++ [⟨now, state, (tick options now state).1⟩])
        (tick options now state).1

def loaded (automations : List Automation) (distinct : (automations.map Automation.id).Nodup) :
    AutomationEngine :=
  AutomationEngine.setAutomations ⟨[], nodup_nil, OrderedMap.empty, [], 0⟩ automations distinct

def started (automations : List Automation) (distinct : (automations.map Automation.id).Nodup)
    (world : World) : EngineState World :=
  ⟨loaded automations distinct, world, []⟩

def Runs (automation : Automation) (ticked : Ticked World) : Prop :=
  recordsOf automation ticked.after = recordsOf automation ticked.before + 1

/-- The tick marks a trigger of the automation as fired. -/
def Fires (automation : Automation) (index : Nat) (ticked : Ticked World) : Prop :=
  memoryOf automation.id ticked.after index = some ticked.minute ∧
    memoryOf automation.id ticked.before index ≠ some ticked.minute

def OnlyTimes (automation : Automation) : Prop :=
  ∀ trigger ∈ automation.triggers, ∃ clock days, trigger = .time clock days

structure TicksExact (automations : List Automation) (ticks : List (Ticked World)) : Prop where
  /-- An interval alone: at the first new minute, and then at every so many ones. -/
  everyInterval : ∀ automation ∈ automations, ∀ everyMinutes,
    automation.triggers = [.interval everyMinutes] → EachTurn (fun before ticked =>
      Runs automation ticked ↔
        ticked.minute ∉ seen before ∧ everyMinutes ∣ (seen before).toFinset.card) ticks
  once : ∀ automation ∈ automations, ∀ ticked ∈ ticks,
    recordsOf automation ticked.after ≤ recordsOf automation ticked.before + 1
  spaced : ∀ automation ∈ automations, ∀ index, ∀ everyMinutes : Nat,
    automation.triggers[index]? = some (.interval everyMinutes) → EachTurn (fun before ticked =>
      Fires automation index ticked → ∀ earlier ∈ before, Fires automation index earlier →
        earlier.minute + everyMinutes ≤ ticked.minute) ticks
  matching : ∀ automation ∈ automations, ∀ trigger ∈ automation.triggers,
    EachTurn (fun before ticked => ticked.minute ∉ seen before →
      timeMatches trigger (localMinute ticked.now) = true → Runs automation ticked) ticks
  /-- A minute that is told again runs nothing again. -/
  notAgain : ∀ automation ∈ automations, OnlyTimes automation →
    EachTurn (fun before ticked => ticked.minute ∈ seen before →
      recordsOf automation ticked.after = recordsOf automation ticked.before) ticks

/--
Every minute that is told again matches at most one trigger of an automation that
has only time triggers, and that one has not been the first to match since.
-/
def RepeatsSettled (homeClock : Int → LocalMinute) (automations : List Automation)
    (minutes : List Int) : Prop :=
  ∀ automation ∈ automations, OnlyTimes automation → EachTurn (fun before minute =>
    minute ∈ before → Settled (alarmsOf homeClock automation) before minute) minutes

/-- What one tick does, after those before it. -/
structure RoundAfter (homeClock : Int → LocalMinute) (automations : List Automation)
    (before : List (Ticked World)) (ticked : Ticked World) : Prop where
  onClock : localMinute ticked.now = homeClock ticked.minute
  turn : Turn (seen before) ticked.minute
  remembers : ∀ automation ∈ automations,
    memoryOf automation.id ticked.before = memoryAfter (alarmsOf homeClock automation) (seen before)
  marks : ∀ automation ∈ automations, memoryOf automation.id ticked.after =
    ring (alarmsOf homeClock automation) ticked.minute (memoryOf automation.id ticked.before)
  records : ∀ automation ∈ automations, recordsOf automation ticked.after =
    recordsOf automation ticked.before + if firstDue (alarmsOf homeClock automation)
        (memoryAfter (alarmsOf homeClock automation) (seen before)) ticked.minute =
          none then 0 else 1

section Runs

variable {options : EngineOptions World} {homeClock : Int → LocalMinute}
variable {automations : List Automation} {distinct : (automations.map Automation.id).Nodup}
variable {world : World} {ticks before : List (Ticked World)} {ticked : Ticked World}
variable {state : EngineState World} {automation : Automation}

theorem seen_concat : seen (ticks ++ [ticked]) = seen ticks ++ [ticked.minute] := by
  rw [seen, map_append, map_singleton]
  rfl

theorem TickRun.rounds
    (run : TickRun options homeClock (started automations distinct world) ticks state) :
    EachTurn (RoundAfter homeClock (automations.filter isActive)) ticks ∧
      state.engine.automations = automations.filter isActive ∧
      ∀ automation ∈ automations.filter isActive, memoryOf automation.id state =
        memoryAfter (alarmsOf homeClock automation) (seen ticks) := by
  induction run with
  | start => exact ⟨eachTurn_nil, rfl, fun _ _ => funext fun _ => OrderedMap.get_empty _⟩
  | tick run now onClock turn completes ih =>
    obtain ⟨each, same, remembers⟩ := ih
    have round := fun automation (member : automation ∈ automations.filter isActive) =>
      served_tick onClock completes (same ▸ member)
    refine ⟨eachTurn_concat.mpr ⟨each, onClock, turn, remembers, ?_, ?_⟩, ?_, ?_⟩
    · intro automation member
      exact congrArg Prod.fst (round automation member)
    · intro automation member
      have records := congrArg Prod.snd (round automation member)
      rw [← remembers automation member]
      exact records
    · rw [tick_automations, same]
    · intro automation member
      rw [seen_concat, memoryAfter_concat, ← remembers automation member]
      exact congrArg Prod.fst (round automation member)

theorem eachTurn_seen {holds : List Int → Int → Prop} :
    EachTurn (fun before ticked => holds (seen before) ticked.minute) ticks ↔
      EachTurn holds (seen ticks) := by
  induction ticks using List.reverseRecOn with
  | nil => exact iff_of_true eachTurn_nil eachTurn_nil
  | append_singleton ticks ticked ih =>
    rw [eachTurn_concat, seen_concat, eachTurn_concat, ih]

theorem RoundAfter.runs_iff (round : RoundAfter homeClock automations before ticked)
    (member : automation ∈ automations) : Runs automation ticked ↔
      firstDue (alarmsOf homeClock automation)
        (memoryAfter (alarmsOf homeClock automation) (seen before)) ticked.minute ≠ none := by
  rw [Runs, round.records automation member]
  split <;> simp_all

theorem RoundAfter.idle_iff (round : RoundAfter homeClock automations before ticked)
    (member : automation ∈ automations) :
    recordsOf automation ticked.after = recordsOf automation ticked.before ↔
      firstDue (alarmsOf homeClock automation)
        (memoryAfter (alarmsOf homeClock automation) (seen before)) ticked.minute = none := by
  rw [round.records automation member]
  split <;> simp_all

theorem RoundAfter.firstDue_of_fires {index : Nat}
    (round : RoundAfter homeClock automations before ticked) (member : automation ∈ automations)
    (fires : Fires automation index ticked) : firstDue (alarmsOf homeClock automation)
      (memoryAfter (alarmsOf homeClock automation) (seen before)) ticked.minute = some index := by
  obtain ⟨after, earlier⟩ := fires
  rw [round.marks automation member, ring_apply, round.remembers automation member] at after
  rw [round.remembers automation member] at earlier
  by_contra other
  rw [if_neg other] at after
  exact earlier after

section

variable (each : EachTurn (RoundAfter homeClock automations) ticks)

include each

theorem everyInterval_exact
    (member : automation ∈ automations) {everyMinutes : Nat} (positive : 0 < everyMinutes)
    (only : automation.triggers = [.interval everyMinutes]) : EachTurn (fun before ticked =>
      Runs automation ticked ↔
        ticked.minute ∉ seen before ∧ everyMinutes ∣ (seen before).toFinset.card) ticks := by
  intro before ticked after split
  have round := each before ticked after split
  have steady : Steady (seen before) := by
    refine eachTurn_seen.mp fun earlier other between same => ?_
    refine (each earlier other (between ++ ticked :: after) ?_).turn
    rw [split, same, append_assoc, cons_append]
  rw [round.runs_iff member, alarmsOf, only]
  exact every_rings_iff positive steady round.turn

theorem spaced_exact (member : automation ∈ automations) {index everyMinutes : Nat}
    (found : automation.triggers[index]? = some (.interval everyMinutes)) :
    EachTurn (fun before ticked => Fires automation index ticked → ∀ earlier ∈ before,
      Fires automation index earlier → earlier.minute + everyMinutes ≤ ticked.minute) ticks := by
  intro before ticked after split fires earlier earlierMember earlierFires
  have alarm : (alarmsOf homeClock automation)[index]? = some (.every everyMinutes) := by
    rw [alarmsOf, getElem?_map, found]
    rfl
  obtain ⟨first, between, rfl⟩ := append_of_mem earlierMember
  have round := each _ ticked after split
  have earlierRound := each first earlier (between ++ ticked :: after)
    (by rw [split, append_assoc, cons_append])
  have remembered : memoryAfter (alarmsOf homeClock automation)
      (seen first ++ [earlier.minute]) index = some earlier.minute := by
    rw [memoryAfter_concat, ← earlierRound.remembers automation member,
      ← earlierRound.marks automation member]
    exact earlierFires.1
  obtain ⟨last, remembers, order⟩ := every_remembers_run alarm remembered (seen between)
  have whole : seen (first ++ earlier :: between) =
      seen first ++ [earlier.minute] ++ seen between := by
    simp [seen]
  have rings := round.firstDue_of_fires member fires
  rw [whole] at rings
  have apart := le_of_firstDue_every alarm remembers rings
  omega

theorem matching_exact (member : automation ∈ automations) {trigger : AutomationTrigger}
    (triggerMember : trigger ∈ automation.triggers) :
    EachTurn (fun before ticked => ticked.minute ∉ seen before →
      timeMatches trigger (localMinute ticked.now) = true → Runs automation ticked) ticks := by
  intro before ticked after split fresh now
  have round := each before ticked after split
  rw [round.onClock] at now
  cases trigger with
  | time clock days =>
    obtain ⟨index, found⟩ := getElem?_of_mem triggerMember
    have alarm : (alarmsOf homeClock automation)[index]? =
        some (.clock fun minute => timeMatches (.time clock days) (homeClock minute)) := by
      rw [alarmsOf, getElem?_map, found]
      rfl
    rw [round.runs_iff member, Ne, firstDue_eq_none, not_forall]
    exact ⟨index, not_not.mpr (isDue_clock alarm now fresh)⟩
  | _ => cases now

theorem notAgain_iff (member : automation ∈ automations) (only : OnlyTimes automation) :
    EachTurn (fun before ticked => ticked.minute ∈ seen before →
        recordsOf automation ticked.after = recordsOf automation ticked.before) ticks ↔
      EachTurn (fun before minute =>
        minute ∈ before → Settled (alarmsOf homeClock automation) before minute) (seen ticks) := by
  have clocks : OnlyClocks (alarmsOf homeClock automation) := by
    intro alarm present
    obtain ⟨trigger, triggerMember, rfl⟩ := mem_map.mp present
    obtain ⟨clock, days, rfl⟩ := only trigger triggerMember
    exact ⟨_, rfl⟩
  have steady : Steady (seen ticks) := eachTurn_seen.mp (each.imp fun _ _ round => round.turn)
  rw [← silent_iff_settled clocks steady, ← eachTurn_seen]
  constructor
  · intro idle before ticked after split again
    exact ((each before ticked after split).idle_iff member).mp
      (idle before ticked after split again)
  · intro silent before ticked after split again
    exact ((each before ticked after split).idle_iff member).mpr
      (silent before ticked after split again)

end

end Runs

/--
Over all runs of ticks, every interval is kept, no matching time is missed, and
nothing runs again in a minute that is told again, exactly if the minutes that are
told again are settled.
-/
theorem ticksExact_iff (options : EngineOptions World) (homeClock : Int → LocalMinute)
    (automations : List Automation) (distinct : (automations.map Automation.id).Nodup)
    (positive : ∀ automation ∈ automations, ∀ everyMinutes,
      .interval everyMinutes ∈ automation.triggers → 0 < everyMinutes)
    (world : World) (ticks : List (Ticked World)) (state : EngineState World)
    (run : TickRun options homeClock (started automations distinct world) ticks state) :
    TicksExact (automations.filter isActive) ticks ↔
      RepeatsSettled homeClock (automations.filter isActive) (seen ticks) := by
  obtain ⟨each, _, _⟩ := run.rounds
  constructor
  · intro holds automation member only
    exact (notAgain_iff each member only).mp (holds.notAgain automation member only)
  · intro settled
    refine ⟨?_, ?_, ?_, ?_, ?_⟩
    · intro automation member everyMinutes only
      refine everyInterval_exact each member ?_ only
      refine positive automation (mem_filter.mp member).1 everyMinutes ?_
      rw [only]
      exact mem_singleton_self _
    · intro automation member ticked present
      obtain ⟨before, after, split⟩ := append_of_mem present
      rw [(each before ticked after split).records automation member]
      split <;> omega
    · exact fun automation member index everyMinutes found => spaced_exact each member found
    · exact fun automation member trigger present => matching_exact each member present
    · intro automation member only
      exact (notAgain_iff each member only).mpr (settled automation member only)

namespace TwiceAMinute

/-- The local time of a home in the zone of the epoch, which began on a Thursday. -/
def homeClock (minute : Int) : LocalMinute :=
  ⟨((minute / 1440 + 4) % 7).toNat, (minute / 60 % 24).toNat, (minute % 60).toNat⟩

/-- Half past seven. -/
def now : HubDate := ⟨27000000, 4, 7, 30⟩

def automation (triggers : List AutomationTrigger) : Automation :=
  { RejectedRead.morning "lights" [] with triggers := triggers }

def start (triggers : List AutomationTrigger) : EngineState Unit :=
  started [automation triggers] (by simp [automation, RejectedRead.morning]) ()

def next (state : EngineState Unit) : EngineState Unit := (tick RejectedRead.options now state).1

/-- Two ticks in the same minute. -/
def ticks (triggers : List AutomationTrigger) : List (Ticked Unit) :=
  [⟨now, start triggers, next (start triggers)⟩,
    ⟨now, next (start triggers), next (next (start triggers))⟩]

theorem run (triggers : List AutomationTrigger)
    (first : (tick RejectedRead.options now (start triggers)).2 = none)
    (second : (tick RejectedRead.options now (next (start triggers))).2 = none) :
    TickRun RejectedRead.options homeClock (start triggers) (ticks triggers)
      (next (next (start triggers))) :=
  .tick (.tick .start now (by decide) (.inl rfl) first) now (by decide)
    (.inr (.inl (mem_singleton_self _))) second

end TwiceAMinute

/-- A trigger for half past seven runs its automation once in that minute. -/
theorem ticksExact_singleTrigger : TicksExact
    ([TwiceAMinute.automation [.time ⟨7, 30⟩ []]].filter isActive)
    (TwiceAMinute.ticks [.time ⟨7, 30⟩ []]) := by
  refine (ticksExact_iff RejectedRead.options TwiceAMinute.homeClock
    [TwiceAMinute.automation [.time ⟨7, 30⟩ []]] (by simp [TwiceAMinute.automation]) ?_ () _ _
    (TwiceAMinute.run [.time ⟨7, 30⟩ []] (by decide +kernel) (by decide +kernel))).mpr ?_
  · intro automation member everyMinutes present
    rw [mem_singleton.mp member] at present
    cases mem_singleton.mp present
  · intro automation member _
    have minutes : seen (TwiceAMinute.ticks [.time ⟨7, 30⟩ []]) = [] ++ [450] ++ [450] := rfl
    rw [minutes, eachTurn_concat, eachTurn_concat]
    refine ⟨⟨eachTurn_nil, nofun⟩, fun _ index rings => ?_⟩
    rw [mem_singleton.mp (mem_filter.mp member).1] at rings ⊢
    have first : index = 0 := by
      obtain ⟨_, found, _⟩ := rings
      have below := (List.getElem?_eq_some_iff.mp found).1
      exact lt_one_iff.mp below
    subst first
    refine ⟨⟨rings, fun other less => absurd less (Nat.not_lt_zero other)⟩, ?_⟩
    intro later told after
    rw [mem_singleton.mp told] at after
    exact absurd after (lt_irrefl _)

/-- Two triggers match half past seven on a Thursday, and the automation runs twice. -/
theorem ticks_run_twice : ¬ ∀ (options : EngineOptions Unit) (homeClock : Int → LocalMinute)
    (automations : List Automation) (distinct : (automations.map Automation.id).Nodup),
    (∀ automation ∈ automations, ∀ everyMinutes,
      .interval everyMinutes ∈ automation.triggers → 0 < everyMinutes) →
    ∀ ticks state, TickRun options homeClock (started automations distinct ()) ticks state →
      TicksExact (automations.filter isActive) ticks := by
  intro claim
  have holds := claim RejectedRead.options TwiceAMinute.homeClock
    [TwiceAMinute.automation [.time ⟨7, 30⟩ [], .time ⟨7, 30⟩ [4]]]
    (by simp [TwiceAMinute.automation])
    (by simp [TwiceAMinute.automation]) _ _
    (TwiceAMinute.run [.time ⟨7, 30⟩ [], .time ⟨7, 30⟩ [4]] (by decide +kernel) (by decide +kernel))
  have idle := holds.notAgain (TwiceAMinute.automation [.time ⟨7, 30⟩ [], .time ⟨7, 30⟩ [4]])
    (mem_singleton_self _) (by
      intro trigger present
      rcases mem_pair.mp present with rfl | rfl <;> exact ⟨_, _, rfl⟩) [_] _ [] rfl
    (mem_singleton_self _)
  revert idle
  decide +kernel

end SupremeOs.Automations
