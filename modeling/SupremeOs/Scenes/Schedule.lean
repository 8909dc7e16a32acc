import SupremeOs.DomainModel.JsValue

/-!
# Scene schedules

`validateSchedule` accepts a value of unknown type as a schedule, and
`dueScenes` compares the minute its trigger resolves to with the current one.
An accepted schedule without a day filter should fire at one minute of each
day.  The minute of a time trigger may be no integer, or not a number at all;
an offset from the sun is not looked at, and may lead to another day.
-/

namespace SupremeOs.Scenes

open DomainModel

/-- A value of unknown type; the objects are plain records. -/
inductive Unknown where
  | primitive (value : JsPrimitive)
  | array (items : List JsValue)
  | object (members : List (String × Unknown))

namespace Unknown

/-- `value.name`. -/
def member (name : String) : Unknown → Unknown
  | .object members =>
    ((members.find? fun entry => entry.1 = name).map Prod.snd).getD (.primitive .undefined)
  | .primitive _ | .array _ => .primitive .undefined

def truthy : Unknown → Bool
  | .primitive .undefined | .primitive .null => false
  | .primitive (.boolean value) => value
  | .primitive (.number value) => decide (value ≠ .notANumber ∧ value ≠ .finite 0)
  | .primitive (.text value) => decide (value ≠ "")
  | .array _ | .object _ => true

/-- The value if it is a text other than the empty one. -/
def nonemptyText : Unknown → Option String
  | .primitive (.text value) => if value = "" then none else some value
  | _ => none

/-- `value === text`. -/
def isText (text : String) : Unknown → Bool
  | .primitive (.text value) => decide (value = text)
  | _ => false

end Unknown

inductive SolarEvent where
  | sunrise
  | sunset

def SolarEvent.literal : SolarEvent → String
  | .sunrise => "sunrise"
  | .sunset => "sunset"

inductive ScheduleTrigger where
  | time (atMinutes : JsNumber)
  | solar (event : SolarEvent) (offsetMinutes : Unknown)

structure SceneSchedule where
  id : String
  sceneId : String
  trigger : ScheduleTrigger
  enabled : Unknown
  days : Option (List JsValue)

structure ScheduleContext where
  nowMinute : JsNumber
  dayOfWeek : JsNumber
  sunriseMinute : JsNumber
  sunsetMinute : JsNumber

/-- `base + (offsetMinutes ?? 0)`; `none` if the sum is a text. -/
def addOffset (base : JsNumber) : Unknown → Option JsNumber
  | .primitive .undefined | .primitive .null => some (base.add (.finite 0))
  | .primitive (.boolean value) => some (base.add (JsPrimitive.boolean value).toNumber)
  | .primitive (.number value) => some (base.add value)
  | .primitive (.text _) | .array _ | .object _ => none

def triggerMinute (sunriseMinute sunsetMinute : JsNumber) : ScheduleTrigger → Option JsNumber
  | .time atMinutes => some atMinutes
  | .solar .sunrise offsetMinutes => addOffset sunriseMinute offsetMinutes
  | .solar .sunset offsetMinutes => addOffset sunsetMinute offsetMinutes

/-- `enabled === false`. -/
def SceneSchedule.disabled (s : SceneSchedule) : Bool :=
  match s.enabled with
  | .primitive (.boolean false) => true
  | _ => false

def dueScenes (schedules : List SceneSchedule) (ctx : ScheduleContext) : List String :=
  schedules.flatMap fun s =>
    if s.disabled then []
    else if s.days.any fun days => !days.contains (.primitive (.number ctx.dayOfWeek)) then []
    else
      match triggerMinute ctx.sunriseMinute ctx.sunsetMinute s.trigger with
      | some minute => if minute.strictEquals ctx.nowMinute then [s.sceneId] else []
      | none => []

def readTrigger (t : Unknown) : Except String ScheduleTrigger :=
  if (t.member "type").isText "time" then
    match t.member "atMinutes" with
    | .primitive (.number atMinutes) =>
      if atMinutes.less (.finite 0) || (JsNumber.finite 1439).less atMinutes then
        .error "time trigger atMinutes must be 0..1439"
      else .ok (.time atMinutes)
    | _ => .error "time trigger atMinutes must be 0..1439"
  else if (t.member "type").isText "solar" then
    if (t.member "event").isText "sunrise" then .ok (.solar .sunrise (t.member "offsetMinutes"))
    else if (t.member "event").isText "sunset" then .ok (.solar .sunset (t.member "offsetMinutes"))
    else .error "solar trigger event must be sunrise or sunset"
  else .error "trigger type must be time or solar"

def readDays (days : Unknown) : Except String (Option (List JsValue)) :=
  if days.truthy then
    match days with
    | .array items =>
      if items.any fun day =>
          day.toNumber.less (.finite 0) || (JsNumber.finite 6).less day.toNumber then
        .error "days must be 0..6"
      else .ok (some items)
    | _ => .error "days must be 0..6"
  else .ok none

/-- The id that a schedule without one is given. -/
def generatedId (sceneId : String) : ScheduleTrigger → String
  | .time atMinutes => "sch_" ++ sceneId ++ "_" ++ atMinutes.toText
  | .solar event _ => "sch_" ++ sceneId ++ "_" ++ event.literal

def validateSchedule (s : Unknown) : Except String SceneSchedule :=
  match (s.member "sceneId").nonemptyText with
  | none => .error "schedule needs a sceneId"
  | some sceneId =>
    if (s.member "trigger").truthy then do
      let trigger ← readTrigger (s.member "trigger")
      let days ← readDays (s.member "days")
      return {
        id := (s.member "id").nonemptyText.getD (generatedId sceneId trigger)
        sceneId := sceneId
        trigger := trigger
        enabled := s.member "enabled"
        days := days }
    else .error "schedule needs a trigger"

variable {schedule : SceneSchedule} {dayOfWeek sunriseMinute sunsetMinute : JsNumber}

/-- The scene is due at the trigger minute modulo a day, and at no other minute of the day. -/
def FiresOnce (dayOfWeek sunriseMinute sunsetMinute : JsNumber) (schedule : SceneSchedule) :
    Prop :=
  ∃ minute : Nat, minute < 1440 ∧ (∃ days : ℤ,
      triggerMinute sunriseMinute sunsetMinute schedule.trigger =
        some (.finite (minute + 1440 * days))) ∧ ∀ nowMinute : Nat, nowMinute < 1440 →
      dueScenes [schedule] ⟨.finite nowMinute, dayOfWeek, sunriseMinute, sunsetMinute⟩ =
        if nowMinute = minute then [schedule.sceneId] else []

/-- The time is a whole minute, or the minute of the sun and the offset add up to one of the day. -/
def OnTheDay (sunriseMinute sunsetMinute : JsNumber) : ScheduleTrigger → Prop
  | .time atMinutes => ∃ minute : Nat, atMinutes = .finite minute
  | .solar .sunrise offsetMinutes =>
    ∃ minute < 1440, addOffset sunriseMinute offsetMinutes = some (.finite (minute : Nat))
  | .solar .sunset offsetMinutes =>
    ∃ minute < 1440, addOffset sunsetMinute offsetMinutes = some (.finite (minute : Nat))

theorem dueScenes_single (enabled : schedule.disabled = false) (everyDay : schedule.days = none)
    (nowMinute : Nat) :
    dueScenes [schedule] ⟨.finite nowMinute, dayOfWeek, sunriseMinute, sunsetMinute⟩ =
      if triggerMinute sunriseMinute sunsetMinute schedule.trigger = some (.finite nowMinute) then
        [schedule.sceneId]
      else [] := by
  cases resolved : triggerMinute sunriseMinute sunsetMinute schedule.trigger with
  | none => simp [dueScenes, resolved]
  | some minute =>
    by_cases same : minute = .finite nowMinute <;>
      simp [dueScenes, enabled, everyDay, resolved, same, JsNumber.strictEquals]

theorem triggerMinute_of_firesOnce (enabled : schedule.disabled = false)
    (everyDay : schedule.days = none)
    (fires : FiresOnce dayOfWeek sunriseMinute sunsetMinute schedule) :
    ∃ minute < 1440, triggerMinute sunriseMinute sunsetMinute schedule.trigger =
      some (.finite (minute : Nat)) := by
  rcases fires with ⟨minute, within, -, due⟩
  refine ⟨minute, within, ?_⟩
  have now := due minute within
  rw [dueScenes_single enabled everyDay, if_pos rfl] at now
  by_contra other
  rw [if_neg other] at now
  cases now

theorem atMinutes_le {s : Unknown} {atMinutes : JsNumber}
    (accepted : validateSchedule s = .ok schedule) (trigger : schedule.trigger = .time atMinutes) :
    (JsNumber.finite 1439).less atMinutes = false := by
  unfold validateSchedule at accepted
  split at accepted
  · cases accepted
  · split at accepted
    · cases read : readTrigger (s.member "trigger") with
      | error message =>
        rw [read] at accepted
        cases accepted
      | ok found =>
        cases days : readDays (s.member "days") with
        | error message =>
          rw [read, days] at accepted
          cases accepted
        | ok filter =>
          rw [read, days] at accepted
          cases accepted
          obtain rfl : found = .time atMinutes := trigger
          unfold readTrigger at read
          split at read
          · split at read
            · split at read
              · cases read
              · rename_i inside
                obtain rfl := ScheduleTrigger.time.inj (Except.ok.inj read)
                simp only [Bool.or_eq_true, not_or, Bool.not_eq_true] at inside
                exact inside.2
            · cases read
          · split at read
            · split at read
              · cases read
              · split at read <;> cases read
            · cases read
    · cases accepted

theorem firesOnce_of_resolved {minute : Nat} (enabled : schedule.disabled = false)
    (everyDay : schedule.days = none) (within : minute < 1440)
    (resolved : triggerMinute sunriseMinute sunsetMinute schedule.trigger = some (.finite minute)) :
    FiresOnce dayOfWeek sunriseMinute sunsetMinute schedule := by
  refine ⟨minute, within, ⟨0, by rw [resolved]; simp⟩, fun nowMinute _ => ?_⟩
  rw [dueScenes_single enabled everyDay, resolved]
  simp [eq_comm]

/-- An accepted schedule fires once a day exactly if its trigger is a minute of the day. -/
theorem firesOnce_iff {s : Unknown} (accepted : validateSchedule s = .ok schedule)
    (enabled : schedule.disabled = false) (everyDay : schedule.days = none) :
    FiresOnce dayOfWeek sunriseMinute sunsetMinute schedule ↔
      OnTheDay sunriseMinute sunsetMinute schedule.trigger := by
  constructor
  · intro fires
    rcases triggerMinute_of_firesOnce enabled everyDay fires with ⟨minute, within, resolved⟩
    cases trigger : schedule.trigger with
    | time atMinutes =>
      rw [trigger] at resolved
      exact ⟨minute, Option.some.inj resolved⟩
    | solar event offsetMinutes =>
      rw [trigger] at resolved
      cases event <;> exact ⟨minute, within, resolved⟩
  · intro onTheDay
    cases trigger : schedule.trigger with
    | time atMinutes =>
      rw [trigger] at onTheDay
      rcases onTheDay with ⟨minute, rfl⟩
      have within : minute < 1440 := by
        have below := atMinutes_le accepted trigger
        rw [JsNumber.less, decide_eq_false_iff_not, not_lt] at below
        exact Nat.lt_succ_of_le (by exact_mod_cast below)
      exact firesOnce_of_resolved enabled everyDay within (by rw [trigger]; rfl)
    | solar event offsetMinutes =>
      rw [trigger] at onTheDay
      cases event <;>
      · rcases onTheDay with ⟨minute, within, sum⟩
        exact firesOnce_of_resolved enabled everyDay within (by rw [trigger]; exact sum)

def solarSchedule (offsetMinutes : JsNumber) : Unknown :=
  .object [("sceneId", .primitive (.text "wake")), ("trigger", .object [
    ("type", .primitive (.text "solar")), ("event", .primitive (.text "sunrise")),
    ("offsetMinutes", .primitive (.number offsetMinutes))])]

def solarAccepted (offsetMinutes : JsNumber) : SceneSchedule :=
  ⟨"sch_wake_sunrise", "wake", .solar .sunrise (.primitive (.number offsetMinutes)),
    .primitive .undefined, none⟩

theorem add_minutes {left right sum : ℤ} (total : left + right = sum)
    (small : sum.natAbs < 2 ^ 53) :
    (JsNumber.finite left).add (.finite right) = .finite sum := by
  rw [JsNumber.add, ← total, ← Int.cast_add]
  exact roundToDouble_intCast (total ▸ small)

/-- Half an hour after a sunrise at six. -/
theorem afterSunrise_firesOnce :
    FiresOnce (.finite 1) (.finite (360 : ℤ)) (.finite (1080 : ℤ))
      (solarAccepted (.finite (30 : ℤ))) :=
  (@firesOnce_iff _ _ _ _ (solarSchedule (.finite (30 : ℤ))) rfl rfl rfl).mpr
    ⟨390, by decide, congrArg some (add_minutes rfl (by decide))⟩

/-- Half an hour before a sunrise at twenty past midnight. -/
theorem firesOnce_fails_beforeMidnight :
    ¬ ∀ (s : Unknown) (schedule : SceneSchedule), validateSchedule s = .ok schedule →
      schedule.disabled = false → schedule.days = none →
      ∀ dayOfWeek sunriseMinute sunsetMinute : Nat, sunriseMinute < 1440 → sunsetMinute < 1440 →
        FiresOnce (.finite dayOfWeek) (.finite sunriseMinute) (.finite sunsetMinute) schedule := by
  intro always
  have fires := always (solarSchedule (.finite (-30 : ℤ))) (solarAccepted (.finite (-30 : ℤ)))
    rfl rfl rfl 1 20 1080 (by decide) (by decide)
  rcases triggerMinute_of_firesOnce rfl rfl fires with ⟨minute, -, resolved⟩
  have sum : (JsNumber.finite ((20 : ℕ) : ℚ)).add (.finite ((-30 : ℤ) : ℚ)) =
      .finite ((-10 : ℤ) : ℚ) :=
    @add_minutes 20 (-30) (-10) rfl (by decide)
  have negative := JsNumber.finite.inj (sum.symm.trans (Option.some.inj resolved))
  have equal : (-10 : ℤ) = (minute : ℤ) := by exact_mod_cast negative
  omega

end SupremeOs.Scenes
