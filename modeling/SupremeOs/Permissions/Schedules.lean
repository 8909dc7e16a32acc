import SupremeOs.Permissions.PolicyEngine

/-!
# Weekly schedules

A window says on which weekdays something holds, from a start to an end.  If the
end is the earlier one, the window runs past midnight into the next day.

Neither the policy engine nor the conditions of automations do so: they compare
the time of day with both ends, on a listed day.  A window whose end is earlier
than its start never holds there, so a denial on such a schedule is ignored.
-/

namespace SupremeOs.Permissions

open DomainModel

def minutesPerDay : Nat := 24 * 60

def minutesPerWeek : Nat := 7 * minutesPerDay

def ClockText.IsTime (clock : ClockText) : Prop := clock.hour.val < 24 ∧ clock.minute.val < 60

instance (clock : ClockText) : Decidable (ClockText.IsTime clock) :=
  inferInstanceAs (Decidable (_ ∧ _))

/-- A window between two different times, on weekdays. -/
structure ValidWindow (window : ScheduleWindow) : Prop where
  start : ClockText.IsTime window.start
  finish : ClockText.IsTime window.finish
  differs : window.start ≠ window.finish
  days : ∀ day ∈ window.days, day < 7

structure ValidDate (now : HubDate) : Prop where
  day : now.day < 7
  hours : now.hours < 24
  minutes : now.minutes < 60

def duration (window : ScheduleWindow) : Nat :=
  if toMinutes window.start < toMinutes window.finish then
    toMinutes window.finish - toMinutes window.start
  else minutesPerDay - toMinutes window.start + toMinutes window.finish

def minuteOfWeek (now : HubDate) : Nat :=
  now.day * minutesPerDay + (now.hours * 60 + now.minutes)

/-- From the start on a listed day until the end, on that day or the next one. -/
def HoldsAt (window : ScheduleWindow) (now : HubDate) : Prop :=
  ∃ day ∈ window.days, ∃ passed < duration window,
    (day * minutesPerDay + toMinutes window.start + passed) % minutesPerWeek = minuteOfWeek now

/--
Both checks say of every instant whether a window holds, and a grant on its
schedule applies when it holds, if it otherwise applies.
-/
structure ScheduleExact (window : ScheduleWindow) : Prop where
  condition : ∀ now, ValidDate now → (isWithinScheduleWindow window now = true ↔ HoldsAt window now)
  policy : ∀ now, ValidDate now → (inSchedule [window] now = true ↔ HoldsAt window now)
  grants : ∀ (parse : String → Option Int) (grant : Grant) (request : AccessRequest) now,
    ValidDate now → matchesRequest parse { grant with schedule := none } request now = true →
      (matchesRequest parse { grant with schedule := some [window] } request now = true ↔
        HoldsAt window now)

variable {window : ScheduleWindow} {now : HubDate}

theorem inSchedule_single : inSchedule [window] now = isWithinScheduleWindow window now := by
  simp [inSchedule, inWindow, isWithinScheduleWindow, Bool.and_assoc]

theorem matchesRequest_scheduled {parse : String → Option Int} {grant : Grant}
    {request : AccessRequest}
    (otherwise : matchesRequest parse { grant with schedule := none } request now = true) :
    matchesRequest parse { grant with schedule := some [window] } request now =
      inSchedule [window] now := by
  simp only [matchesRequest, Option.all_none, Bool.and_true] at otherwise
  simp [matchesRequest, otherwise]

theorem toMinutes_lt {clock : ClockText} (time : ClockText.IsTime clock) :
    toMinutes clock < minutesPerDay := by
  have hour := time.1
  have minute := time.2
  simp only [toMinutes, minutesPerDay]
  omega

theorem isWithinScheduleWindow_iff :
    isWithinScheduleWindow window now = true ↔ now.day ∈ window.days ∧
      toMinutes window.start ≤ now.hours * 60 + now.minutes ∧
      now.hours * 60 + now.minutes < toMinutes window.finish := by
  simp [isWithinScheduleWindow, and_assoc]

theorem holdsAt_of_sameDay (valid : ValidWindow window) (date : ValidDate now)
    (sameDay : toMinutes window.start < toMinutes window.finish) :
    HoldsAt window now ↔ now.day ∈ window.days ∧
      toMinutes window.start ≤ now.hours * 60 + now.minutes ∧
      now.hours * 60 + now.minutes < toMinutes window.finish := by
  have finish := toMinutes_lt valid.finish
  obtain ⟨today, hours, minutes⟩ := date
  simp only [minutesPerDay] at finish
  constructor
  · rintro ⟨day, listed, passed, short, same⟩
    have weekday := valid.days day listed
    simp only [duration, if_pos sameDay] at short
    simp only [minutesPerWeek, minutesPerDay, minuteOfWeek] at same
    rw [Nat.mod_eq_of_lt (by omega)] at same
    have sameWeekday : day = now.day := by omega
    subst sameWeekday
    exact ⟨listed, by omega, by omega⟩
  · rintro ⟨listed, after, before⟩
    refine ⟨now.day, listed, now.hours * 60 + now.minutes - toMinutes window.start, ?_, ?_⟩
    · simp only [duration, if_pos sameDay]
      omega
    · simp only [minutesPerWeek, minutesPerDay, minuteOfWeek]
      rw [Nat.mod_eq_of_lt (by omega)]
      omega

theorem holdsAt_start (valid : ValidWindow window) {day : Nat} (listed : day ∈ window.days)
    (time : Int) :
    HoldsAt window ⟨time, day, window.start.hour, window.start.minute⟩ := by
  have start := toMinutes_lt valid.start
  have finish := toMinutes_lt valid.finish
  have weekday := valid.days day listed
  simp only [minutesPerDay] at start finish
  refine ⟨day, listed, 0, ?_, ?_⟩
  · unfold duration minutesPerDay
    split <;> omega
  · simp only [minutesPerWeek, minutesPerDay, minuteOfWeek, toMinutes] at start ⊢
    rw [Nat.mod_eq_of_lt (by omega), Nat.add_zero]

/--
The checks are exact for the windows that end on the day on which they start,
and for those that list no day.
-/
theorem scheduleExact_iff (window : ScheduleWindow) (valid : ValidWindow window) :
    ScheduleExact window ↔ toMinutes window.start < toMinutes window.finish ∨ window.days = [] := by
  constructor
  · intro exact
    by_contra neither
    rw [not_or] at neither
    obtain ⟨day, others, days⟩ := List.exists_cons_of_ne_nil neither.2
    have listed : day ∈ window.days := by rw [days]; exact .head _
    have date : ValidDate ⟨0, day, window.start.hour, window.start.minute⟩ :=
      ⟨valid.days day listed, valid.start.1, valid.start.2⟩
    have within := (exact.condition _ date).mpr (holdsAt_start valid listed 0)
    rw [isWithinScheduleWindow_iff] at within
    exact neither.1 (Nat.lt_of_le_of_lt within.2.1 within.2.2)
  · intro condition
    have exact : ∀ now, ValidDate now →
        (isWithinScheduleWindow window now = true ↔ HoldsAt window now) := by
      intro now date
      rw [isWithinScheduleWindow_iff]
      rcases condition with sameDay | empty
      · exact (holdsAt_of_sameDay valid date sameDay).symm
      · simp [HoldsAt, empty]
    refine ⟨exact, fun now date => ?_, fun parse grant request now date otherwise => ?_⟩
    · rw [inSchedule_single]
      exact exact now date
    · rw [matchesRequest_scheduled otherwise, inSchedule_single]
      exact exact now date

def officeHours : ScheduleWindow where
  days := [1, 2, 3, 4, 5]
  start := ⟨⟨8, by decide⟩, ⟨0, by decide⟩⟩
  finish := ⟨⟨17, by decide⟩, ⟨30, by decide⟩⟩

theorem scheduleExact_officeHours : ScheduleExact officeHours :=
  (scheduleExact_iff officeHours
    ⟨by decide, by decide, by decide, by decide⟩).mpr (.inl (by decide))

def nights : ScheduleWindow where
  days := [5]
  start := ⟨⟨22, by decide⟩, ⟨0, by decide⟩⟩
  finish := ⟨⟨7, by decide⟩, ⟨0, by decide⟩⟩

/-- A guest who may not open the door at night. -/
def nightlyDenial : Grant where
  id := "grant"
  userId := "guest"
  resourceType := .device
  resourceId := some "door"
  action := .control
  effect := .deny
  validFrom := none
  validUntil := none
  schedule := some [nights]

def fridayNight : HubDate := ⟨0, 5, 23, 30⟩

def doorRequest : AccessRequest where
  user := ⟨"guest", .guest, .active, none⟩
  resourceType := .device
  resourceId := some "door"
  action := .control
  now := some fridayNight

theorem scheduleExact_fails_overnight : ValidWindow nights ∧ HoldsAt nights fridayNight ∧
      isWithinScheduleWindow nights fridayNight = false ∧ inSchedule [nights] fridayNight = false ∧
      (decideOn (fun _ => none) fridayNight doorRequest [nightlyDenial]).allowed = true ∧
      ¬ScheduleExact nights := by
  have holds : HoldsAt nights fridayNight := ⟨5, by decide, 90, by decide, by decide⟩
  refine ⟨⟨by decide, by decide, by decide, by decide⟩, holds, by decide, by decide,
    by decide, fun exact => ?_⟩
  have within := (exact.condition fridayNight ⟨by decide, by decide, by decide⟩).mpr holds
  exact absurd within (by decide)

end SupremeOs.Permissions
