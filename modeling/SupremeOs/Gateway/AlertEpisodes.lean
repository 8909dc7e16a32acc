import Mathlib.Data.List.Induction
import SupremeOs.Gateway.AlertRunner

/-!
# One alert for each episode

While no call fails that would end the loop before it comes to a rule, the
runner watches the condition of the rule at every tick and notifies once in
each episode, whatever the other rules and calls do.
-/

namespace SupremeOs.Gateway

open DomainModel Support List

/-- The rule's condition did not hold at the last of the ticks, if there is one. -/
def AlertRule.EndsClear (rule : AlertRule) (ticks : List AlertTick) : Prop :=
  Episode.EndsOff (AlertTick.met rule) ticks

def AlertRule.AttemptsOnce (rule : AlertRule) (first : AlertTick) (run : List AlertTick)
    (before after : List AlertAttempt) : Prop :=
  ∃ early tick late, run = early ++ tick :: late ∧ rule.reached first.now tick.now = true ∧
    (∀ other ∈ early, rule.reached first.now other.now = false) ∧
    after = before ++ [rule.attempt tick]

/--
Of the ticks of a run at which the condition holds, after one at which it does
not, the first one that is late enough brings an attempt, if the last one is
late enough, and no other tick of the run does.  No tick outside such a run
brings one.
-/
structure FiresOncePerEpisode (rule : AlertRule)
    (attempts : List AlertTick → List AlertAttempt) (ticks : List AlertTick) : Prop where
  lasting : ∀ before first run after, ticks = before ++ (first :: run) ++ after →
    rule.EndsClear before → (∀ tick ∈ first :: run, tick.met rule = true) →
    rule.reached first.now ((first :: run).getLast (cons_ne_nil _ _)).now = true →
    rule.AttemptsOnce first (first :: run) (attempts before) (attempts (before ++ first :: run))
  short : ∀ before first run after, ticks = before ++ (first :: run) ++ after →
    rule.EndsClear before → (∀ tick ∈ first :: run, tick.met rule = true) →
    rule.reached first.now ((first :: run).getLast (cons_ne_nil _ _)).now = false →
    attempts (before ++ first :: run) = attempts before
  clear : ∀ before tick after, ticks = before ++ tick :: after → tick.met rule = false →
    attempts (before ++ [tick]) = attempts before

/--
At the tick no call of `getDevice` for the rules rejects, and no notification is
rejected in a way that the runner fails to log.
-/
def AlertTick.Spares (logged : Bool) (rules : List AlertRule) (tick : AlertTick) : Prop :=
  ∀ rule ∈ rules, tick.unreadable rule.id = false ∧
    (logged = true → tick.notify rule.id ≠ .rejectedWithNothing)

namespace AlertRuleRunner

variable {logged : Bool} {rule other : AlertRule} {tick : AlertTick} {runner : AlertRuleRunner}
variable {id : String}

def view (id : String) (runner : AlertRuleRunner) : Episode ℚ × List AlertAttempt :=
  ((runner.episodes.get id).getD Episode.cleared,
    runner.attempts.filter fun attempt => attempt.ruleId = id)

def advance (rule : AlertRule) (episode : Episode ℚ) (tick : AlertTick) : Episode ℚ × Bool :=
  Episode.advance AlertTick.now (AlertTick.met rule) rule.reached episode tick

/-- What a tick makes of the view of a rule. -/
def watch (rule : AlertRule) (tick : AlertTick) (seen : Episode ℚ × List AlertAttempt) :
    Episode ℚ × List AlertAttempt :=
  ((advance rule seen.1 tick).1,
    seen.2 ++ if (advance rule seen.1 tick).2 = true then [rule.attempt tick] else [])

theorem serveRule_of_spared (readable : tick.unreadable rule.id = false)
    (loggable : logged = true → tick.notify rule.id ≠ .rejectedWithNothing) :
    serveRule logged tick rule runner = (⟨runner.episodes.set rule.id
          (advance rule ((runner.episodes.get rule.id).getD Episode.cleared) tick).1,
        runner.attempts ++
          if (advance rule ((runner.episodes.get rule.id).getD Episode.cleared) tick).2 = true then
            [rule.attempt tick] else []⟩, none) := by
  generalize episode : (runner.episodes.get rule.id).getD Episode.cleared = before
  have episode : (runner.episodes.get rule.id).getD ⟨none, false⟩ = before := episode
  rw [serveRule, readable, if_neg Bool.false_ne_true, episode]
  dsimp only
  by_cases met : tick.met rule = true
  · have stepped : advance rule before tick = (⟨some (before.since.getD tick.now),
            before.fired || (!before.fired && rule.reached (before.since.getD tick.now) tick.now)⟩,
          !before.fired && rule.reached (before.since.getD tick.now) tick.now) := by
      rw [advance, Episode.advance, if_pos met]
    rw [if_pos met]
    by_cases fires : (!before.fired && rule.reached (before.since.getD tick.now) tick.now) = true
    · rw [fires, Bool.or_true] at stepped
      rw [if_pos fires, stepped, if_pos rfl]
      cases outcome : tick.notify rule.id with
      | resolved => rfl
      | rejected message => rfl
      | rejectedWithNothing =>
        have unlogged : ¬logged = true := fun log => loggable log outcome
        dsimp only
        rw [if_neg unlogged]
    · rw [Bool.eq_false_iff.mpr fires, Bool.or_false] at stepped
      rw [if_neg fires, stepped, if_neg Bool.false_ne_true, append_nil]
  · have stepped : advance rule before tick = (Episode.cleared, false) :=
      Episode.advance_of_off (Bool.eq_false_iff.mpr met)
    rw [if_neg met, stepped, if_neg Bool.false_ne_true, append_nil]
    rfl

theorem view_serveRule (readable : tick.unreadable rule.id = false)
    (loggable : logged = true → tick.notify rule.id ≠ .rejectedWithNothing) :
    view rule.id (serveRule logged tick rule runner).1 = watch rule tick (view rule.id runner) := by
  rw [serveRule_of_spared readable loggable, watch, view, view]
  refine Prod.ext ?_ ?_
  · rw [OrderedMap.get_set, if_pos rfl]
    rfl
  · dsimp only
    rw [filter_append]
    congr 1
    split
    · exact filter_cons_of_pos (decide_eq_true rfl)
    · rfl

theorem filter_attempts_other (differs : rule.id ≠ id) :
    (runner.attempts ++ [rule.attempt tick]).filter (fun attempt => attempt.ruleId = id) =
      runner.attempts.filter fun attempt => attempt.ruleId = id := by
  have unlike : ¬decide ((rule.attempt tick).ruleId = id) = true := by
    rw [decide_eq_true_eq]
    exact differs
  rw [filter_append, filter_cons_of_neg
    (p := fun attempt : AlertAttempt => decide (attempt.ruleId = id)) unlike, filter_nil,
    append_nil]

variable {episodes : OrderedMap String (Episode ℚ)}

theorem get_set_other {episode : Episode ℚ}
    (differs : rule.id ≠ id) : (episodes.set rule.id episode).get id = episodes.get id := by
  rw [OrderedMap.get_set, if_neg differs.symm]

theorem get_mutate_other {episode : Episode ℚ}
    (differs : rule.id ≠ id) : (mutate rule.id episode episodes).get id = episodes.get id := by
  unfold mutate
  split
  · exact get_set_other differs
  · rfl

theorem view_serveRule_other (differs : rule.id ≠ id) :
    view id (serveRule logged tick rule runner).1 = view id runner := by
  unfold serveRule
  split
  · rfl
  · dsimp only
    split
    · split
      · split
        · rw [view, get_set_other differs, filter_attempts_other differs, view]
        · rw [view, get_set_other differs, filter_attempts_other differs, view]
        · split
          · rw [view, get_mutate_other differs, filter_attempts_other differs, view]
          · rw [view, get_set_other differs, filter_attempts_other differs, view]
      · rw [view, get_set_other differs, view]
    · rw [view, get_set_other differs, view]

section Ticks

variable {rules earlier later : List AlertRule} {ticks : List AlertTick}

theorem view_dropDead (member : rule ∈ rules) : view rule.id (runner.dropDead rules) =
    view rule.id runner := by
  have live : (rules.map AlertRule.id).contains rule.id = true :=
    contains_iff_mem.mpr (mem_map_of_mem member)
  rw [view, view, dropDead, OrderedMap.get_filter]
  dsimp only
  rw [live]
  cases runner.episodes.get rule.id <;> rfl

theorem view_tick (distinct : ((earlier ++ rule :: later).map AlertRule.id).Nodup)
    (spared : tick.Spares logged (earlier ++ [rule])) :
    view rule.id (runner.tick (earlier ++ rule :: later) logged tick).1 =
      watch rule tick (view rule.id runner) := by
  have own := spared rule (mem_append_right _ (.head _))
  have goOn : ∀ other ∈ earlier, ∀ runner, (serveRule logged tick other runner).2 = none := by
    intro other member runner
    have passed := spared other (mem_append_left _ member)
    rw [serveRule_of_spared passed.1 passed.2]
  have others : ∀ (item : AlertRule) (runner : AlertRuleRunner) (id : String), item.id ≠ id →
      view id (serveRule logged tick item runner).1 = view id runner :=
    fun _ _ _ differs => view_serveRule_other differs
  have served : ∀ runner, view rule.id (serveRule logged tick rule runner).1 =
      watch rule tick (view rule.id runner) :=
    fun _ => view_serveRule own.1 own.2
  rw [AlertRuleRunner.tick, forEach_view_reached others distinct goOn served,
    view_dropDead (mem_append_right _ (.head _))]

theorem view_afterTicks (distinct : ((earlier ++ rule :: later).map AlertRule.id).Nodup)
    (spared : ∀ tick ∈ ticks, tick.Spares logged (earlier ++ [rule])) :
    view rule.id (afterTicks (earlier ++ rule :: later) logged ticks) =
      (Episode.after AlertTick.now (AlertTick.met rule) rule.reached Episode.cleared ticks,
        (Episode.firings AlertTick.now (AlertTick.met rule) rule.reached Episode.cleared
          ticks).map rule.attempt) := by
  induction ticks using List.reverseRecOn with
  | nil => rfl
  | append_singleton ticks tick ih =>
    have before := ih fun other member => spared other (mem_append_left _ member)
    rw [afterTicks, foldl_append, ← afterTicks, foldl_cons, foldl_nil,
      view_tick distinct (spared tick (mem_append_right _ (.head _))), before,
      watch, Episode.after_concat, Episode.firings_concat, map_append]
    refine Prod.ext rfl ?_
    dsimp only
    rw [advance]
    split <;> rfl

end Ticks

theorem lessOrEqual_finite_mono {number : JsNumber} {low high : ℚ} (below : low ≤ high)
    (met : number.lessOrEqual (.finite low) = true) :
    number.lessOrEqual (.finite high) = true := by
  cases number with
  | notANumber => exact met
  | negativeInfinity => rfl
  | positiveInfinity => exact met
  | finite value =>
    simp only [JsNumber.lessOrEqual, JsNumber.less, JsNumber.strictEquals, Bool.or_eq_true,
      decide_eq_true_eq, JsNumber.finite.injEq, ne_eq, reduceCtorEq, not_false_eq_true,
      true_and] at met ⊢
    exact lt_or_eq_of_le (le_trans (le_of_lt_or_eq met) below)

theorem reached_mono {since early late : ℚ} (later : early ≤ late)
    (reached : rule.reached since early = true) : rule.reached since late = true :=
  lessOrEqual_finite_mono (sub_le_sub_right later since) reached

section Runs

variable {rules earlier later : List AlertRule} {ticks : List AlertTick}

theorem attemptsFor_afterTicks (distinct : ((earlier ++ rule :: later).map AlertRule.id).Nodup)
    (spared : ∀ tick ∈ ticks, tick.Spares logged (earlier ++ [rule])) :
    (afterTicks (earlier ++ rule :: later) logged ticks).attemptsFor rule =
      (Episode.firings AlertTick.now (AlertTick.met rule) rule.reached Episode.cleared
        ticks).map rule.attempt :=
  congrArg Prod.snd (view_afterTicks distinct spared)

/-- In every run of ticks that spare a rule it is notified of once in each episode. -/
theorem firesOncePerEpisode (logged : Bool) (earlier later : List AlertRule) (rule : AlertRule)
    (ticks : List AlertTick) (distinct : ((earlier ++ rule :: later).map AlertRule.id).Nodup)
    (ascending : ticks.Pairwise fun first second => first.now < second.now)
    (spared : ∀ tick ∈ ticks, tick.Spares logged (earlier ++ [rule])) :
    FiresOncePerEpisode rule
      (fun ticks => (afterTicks (earlier ++ rule :: later) logged ticks).attemptsFor
        rule) ticks := by
  have attempts : ∀ {front}, front <+: ticks →
      (afterTicks (earlier ++ rule :: later) logged front).attemptsFor rule =
        (Episode.firings AlertTick.now (AlertTick.met rule) rule.reached Episode.cleared
          front).map rule.attempt :=
    fun initial => attemptsFor_afterTicks distinct fun tick member =>
      spared tick (initial.subset member)
  have episode : ∀ before first run after, ticks = before ++ (first :: run) ++ after →
      rule.EndsClear before → (∀ tick ∈ first :: run, tick.met rule = true) →
      (afterTicks (earlier ++ rule :: later) logged (before ++ first :: run)).attemptsFor rule =
        (afterTicks (earlier ++ rule :: later) logged before).attemptsFor rule ++
          (((first :: run).find? fun tick =>
            rule.reached first.now tick.now).toList.map rule.attempt) := by
    intro before first run after split ends holds
    rw [attempts ⟨after, split.symm⟩, attempts ⟨first :: run ++ after, by rw [split,
      append_assoc]⟩, Episode.firings_episode ends holds, map_append]
  have lateIff : ∀ before first run after, ticks = before ++ (first :: run) ++ after →
      (((first :: run).find? fun tick => rule.reached first.now tick.now).isSome = true ↔
        rule.reached first.now ((first :: run).getLast (cons_ne_nil _ _)).now = true) := by
    intro before first run after split
    rw [split] at ascending
    have within := (pairwise_append.mp (pairwise_append.mp ascending).1).2.1
    exact Episode.find?_isSome_iff_getLast within (fun _ _ => reached_mono) _
  constructor
  · intro before first run after split ends holds lasts
    have some := (lateIff before first run after split).mpr lasts
    obtain ⟨tick, found⟩ := Option.isSome_iff_exists.mp some
    obtain ⟨reached, early, late, parts, none⟩ := find?_eq_some_iff_append.mp found
    refine ⟨early, tick, late, parts, reached, ?_, ?_⟩
    · intro other member
      simpa using none other member
    · rw [episode before first run after split ends holds, found]
      rfl
  · intro before first run after split ends holds short
    have none : ((first :: run).find? fun tick => rule.reached first.now tick.now) = none := by
      rw [← Option.not_isSome_iff_eq_none, lateIff before first run after split, short]
      exact Bool.false_ne_true
    rw [episode before first run after split ends holds, none]
    exact append_nil _
  · intro before tick after split off
    have front : before ++ [tick] <+: ticks := ⟨after, by rw [split]; simp⟩
    rw [attempts front, attempts ((prefix_append before [tick]).trans front),
      Episode.firings_concat_of_off off]

end Runs

def doorRecord : UnknownRecord :=
  ((OrderedMap.empty.set "deviceId" (.primitive (.text "door"))).set "type"
    (.primitive (.text "left_open"))).set "durationMinutes" (.primitive (.number (.finite 1)))

def lampRecord : UnknownRecord :=
  ((OrderedMap.empty.set "deviceId" (.primitive (.text "lamp"))).set "type"
    (.primitive (.text "left_on"))).set "durationMinutes" (.primitive (.number (.finite 1)))

def doorRule : AlertRule := ⟨"alert_door_left_open", "door", .leftOpen, .finite 1, none⟩

def lampRule : AlertRule := ⟨"alert_lamp_left_on", "lamp", .leftOn, .finite 1, none⟩

def lampOn (doorReadable : Bool) (now : ℚ) : AlertTick where
  now := now
  device id := if id = "alert_lamp_left_on" then
      some ⟨"Lamp", some (OrderedMap.empty.set "onoff"
        (OrderedMap.empty.set "on" (.primitive (.boolean true))))⟩
    else none
  unreadable id := !doorReadable && id = "alert_door_left_open"
  notify _ := .resolved

theorem lampOn_firesOnce : FiresOncePerEpisode lampRule
    (fun ticks => (afterTicks [doorRule, lampRule] true ticks).attemptsFor lampRule)
    [lampOn true 0, lampOn true 60000] := by
  refine firesOncePerEpisode true [doorRule] [] lampRule _ (by decide) ?_ ?_
  · rw [pairwise_pair]
    exact (by norm_num : (0 : ℚ) < 60000)
  · intro tick member rule _
    rcases mem_cons.mp member with rfl | member
    · exact ⟨rfl, fun _ same => by cases same⟩
    · obtain rfl := mem_singleton.mp member
      exact ⟨rfl, fun _ same => by cases same⟩

/-- While the door cannot be read, the lamp is left on without a notification. -/
theorem unreadableDoor_suppresses_lamp :
    validateAlertRule doorRecord = .ok doorRule ∧ validateAlertRule lampRecord = .ok lampRule ∧
      ¬FiresOncePerEpisode lampRule
        (fun ticks => (afterTicks [doorRule, lampRule] true ticks).attemptsFor lampRule)
        [lampOn false 0, lampOn false 60000] := by
  refine ⟨by decide +kernel, by decide +kernel, fun fires => ?_⟩
  have none : (afterTicks [doorRule, lampRule] true
      [lampOn false 0, lampOn false 60000]).attemptsFor lampRule = [] := by decide +kernel
  have holds : ∀ tick ∈ [lampOn false 0, lampOn false 60000], tick.met lampRule = true := by
    intro tick member
    rcases mem_cons.mp member with rfl | member
    · decide +kernel
    · obtain rfl := mem_singleton.mp member
      decide +kernel
  obtain ⟨_, _, _, _, _, _, made⟩ := fires.lasting [] (lampOn false 0) [lampOn false 60000] [] rfl
    (fun last found => by cases found) holds (by decide +kernel)
  rw [nil_append, none] at made
  exact absurd made.symm (append_ne_nil_of_right_ne_nil _ (cons_ne_nil _ _))

end AlertRuleRunner

end SupremeOs.Gateway
