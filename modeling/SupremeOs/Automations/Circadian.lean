import SupremeOs.Support.Timeline

/-!
# Circadian lighting

A profile lists keyframes of a day.  Between the keyframe that came last and the
one that comes next, colour temperature and brightness are interpolated and
rounded; a profile of one keyframe holds it as it is.

All numbers are rational here.
-/

namespace SupremeOs.Automations

open SupremeOs.Support.Timeline List

structure CircadianKeyframe where
  /-- Minutes since local midnight. -/
  atMinutes : ℚ
  kelvin : ℚ
  brightness : ℚ

structure CircadianProfile where
  keyframes : List CircadianKeyframe

structure CircadianTarget where
  kelvin : ℚ
  brightness : ℚ
deriving DecidableEq

inductive CircadianError where
  | noKeyframe
  | atMinutes (value : ℚ)
  | kelvin (value : ℚ)
deriving DecidableEq

def CircadianError.message (text : ℚ → String) : CircadianError → String
  | .noKeyframe => "circadian profile needs at least one keyframe"
  | .atMinutes value => "keyframe atMinutes out of range: " ++ text value
  | .kelvin value => "keyframe kelvin out of range: " ++ text value

/-- The keyframes of the hours from midnight to the evening. -/
def defaultCircadianProfile : CircadianProfile where
  keyframes :=
    [⟨0, 2000, 1⟩, ⟨6 * 60, 2700, 20⟩, ⟨9 * 60, 4000, 70⟩, ⟨13 * 60, 6000, 100⟩,
      ⟨17 * 60, 4500, 80⟩, ⟨20 * 60, 3000, 50⟩, ⟨22 * 60, 2300, 20⟩]

def clamp (v low high : ℚ) : ℚ := max low (min high v)

/-- `Math.round`: the nearest integer, and the greater one of two. -/
def mathRound (value : ℚ) : ℚ := ⌊value + 1 / 2⌋

def keyframeError (k : CircadianKeyframe) : Option CircadianError :=
  if k.atMinutes < 0 ∨ 1439 < k.atMinutes then some (.atMinutes k.atMinutes)
  else if k.kelvin < 1000 ∨ 10000 < k.kelvin then some (.kelvin k.kelvin)
  else none

abbrev Frames := Ordered CircadianKeyframe

def normalizedKeyframes (profile : CircadianProfile) : Except CircadianError Frames :=
  checkedInOrder CircadianKeyframe.atMinutes keyframeError .noKeyframe profile.keyframes

/-- The loop of `circadianAt`: the index of the last keyframe up to a minute. -/
def lowerIndex (m : ℚ) : List CircadianKeyframe → Nat → Option Nat → Option Nat
  | [], _, lowerIdx => lowerIdx
  | frame :: rest, i, lowerIdx =>
    lowerIndex m rest (i + 1) (if frame.atMinutes ≤ m then some i else lowerIdx)

def frameAt (frames : Frames) (i : Nat) : CircadianKeyframe :=
  frames.val.getD i (frames.val.head frames.property)

/-- Two keyframes, the minutes from one to the other, and those that have passed. -/
structure Span where
  lower : CircadianKeyframe
  upper : CircadianKeyframe
  spanMinutes : ℚ
  intoSpan : ℚ

def surrounding (frames : Frames) (m : ℚ) : Span :=
  match lowerIndex m frames.val 0 none with
  | some lowerIdx =>
    let lower := frameAt frames lowerIdx
    let upper := frameAt frames ((lowerIdx + 1) % frames.val.length)
    { lower := lower
      upper := upper
      spanMinutes :=
        if lowerIdx + 1 < frames.val.length then upper.atMinutes - lower.atMinutes
        else 1440 - lower.atMinutes + upper.atMinutes
      intoSpan :=
        if lower.atMinutes ≤ m then m - lower.atMinutes else 1440 - lower.atMinutes + m }
  | none =>
    let lower := frameAt frames (frames.val.length - 1)
    let upper := frameAt frames 0
    { lower := lower
      upper := upper
      spanMinutes := 1440 - lower.atMinutes + upper.atMinutes
      intoSpan := 1440 - lower.atMinutes + m }

def Span.target (span : Span) : CircadianTarget :=
  let t := if span.spanMinutes = 0 then 0 else clamp (span.intoSpan / span.spanMinutes) 0 1
  { kelvin := mathRound (span.lower.kelvin + (span.upper.kelvin - span.lower.kelvin) * t)
    brightness := clamp (mathRound
      (span.lower.brightness + (span.upper.brightness - span.lower.brightness) * t)) 0 100 }

def circadianAt (profile : CircadianProfile) (minutesSinceMidnight : ℚ) :
    Except CircadianError CircadianTarget :=
  match normalizedKeyframes profile with
  | .error error => .error error
  | .ok frames =>
    let m := clamp (mathRound minutesSinceMidnight) 0 1439
    if frames.val.length = 1 then
      .ok ⟨(frameAt frames 0).kelvin, clamp (frameAt frames 0).brightness 0 100⟩
    else .ok (surrounding frames m).target

section Numbers

variable {value low high first second t : ℚ}

theorem clamp_of_mem (lower : low ≤ value) (upper : value ≤ high) : clamp value low
    high = value := by
  rw [clamp, min_eq_right upper, max_eq_right lower]

theorem clamp_le_clamp (le : first ≤ second) : clamp first low high ≤ clamp second low high :=
  max_le_max_left low (min_le_min_left high le)

theorem mathRound_le_mathRound (le : first ≤ second) : mathRound first ≤ mathRound second := by
  have floors : ⌊first + 1 / 2⌋ ≤ ⌊second + 1 / 2⌋ := Int.floor_le_floor (by linarith)
  simp only [mathRound]
  exact_mod_cast floors

@[simp]
theorem mathRound_intCast (value : ℤ) : mathRound value = value := by
  have floor : ⌊(value : ℚ) + 1 / 2⌋ = value := by
    rw [Int.floor_intCast_add]
    norm_num
  rw [mathRound, floor]

/-- The value between two others that has gone a part of the way. -/
def between (first second t : ℚ) : ℚ := first + (second - first) * t

theorem min_le_between (start : 0 ≤ t) (finish : t ≤ 1) :
    min first second ≤ between first second t := by
  rw [between]
  rcases le_total first second with le | le
  · rw [min_eq_left le]
    have gone : 0 ≤ (second - first) * t := mul_nonneg (sub_nonneg.mpr le) start
    linarith
  · rw [min_eq_right le]
    have left : 0 ≤ (first - second) * (1 - t) :=
      mul_nonneg (sub_nonneg.mpr le) (sub_nonneg.mpr finish)
    linarith

theorem between_le_max (start : 0 ≤ t) (finish : t ≤ 1) :
    between first second t ≤ max first second := by
  rw [between]
  rcases le_total first second with le | le
  · rw [max_eq_right le]
    have left : 0 ≤ (second - first) * (1 - t) :=
      mul_nonneg (sub_nonneg.mpr le) (sub_nonneg.mpr finish)
    linarith
  · rw [max_eq_left le]
    have gone : 0 ≤ (first - second) * t := mul_nonneg (sub_nonneg.mpr le) start
    linarith

theorem monotone_between {keeps : ℚ → ℚ} (monotone : Monotone keeps) (first second : ℚ)
    (start : 0 ≤ t) (finish : t ≤ 1) :
    min (keeps first) (keeps second) ≤ keeps (between first second t) ∧
      keeps (between first second t) ≤ max (keeps first) (keeps second) := by
  rw [← monotone.map_min, ← monotone.map_max]
  exact ⟨monotone (min_le_between start finish), monotone (between_le_max start finish)⟩

end Numbers

/-- Some keyframes, all of them in range. -/
structure ValidProfile (profile : CircadianProfile) : Prop where
  nonempty : profile.keyframes ≠ []
  inRange : ∀ k ∈ profile.keyframes,
    0 ≤ k.atMinutes ∧ k.atMinutes ≤ 1439 ∧ 1000 ≤ k.kelvin ∧ k.kelvin ≤ 10000

def everyDay (profile : CircadianProfile) (_ : ℤ) : List CircadianKeyframe := profile.keyframes

variable {profile : CircadianProfile} {frames : Frames} {k : CircadianKeyframe} {m : ℚ} {day : ℤ}
variable {span : Span} {lower upper : Occurrence CircadianKeyframe}
variable {lowKeyframe highKeyframe firstKeyframe finalKeyframe : CircadianKeyframe}

theorem keyframeError_eq_none : keyframeError k = none ↔
    0 ≤ k.atMinutes ∧ k.atMinutes ≤ 1439 ∧ 1000 ≤ k.kelvin ∧ k.kelvin ≤ 10000 := by
  rw [keyframeError, ite_outside_eq_none, ite_outside_eq_none, and_assoc, eq_self_iff_true,
    and_true]

theorem normalizedKeyframes_eq_ok : normalizedKeyframes profile = .ok frames ↔
    ValidProfile profile ∧
      frames.val = inOrder CircadianKeyframe.atMinutes profile.keyframes := by
  rw [normalizedKeyframes, checkedInOrder_eq_ok]
  simp only [keyframeError_eq_none]
  exact and_congr_left fun _ => ⟨fun checked => ⟨checked.1, checked.2⟩,
    fun valid => ⟨valid.nonempty, valid.inRange⟩⟩

theorem ValidProfile.inDays (valid : ValidProfile profile) :
    InDays CircadianKeyframe.atMinutes (everyDay profile) := by
  intro day k member
  have range := valid.inRange k member
  exact ⟨range.1, lt_of_le_of_lt range.2.1 (by norm_num)⟩

theorem lowerIndex_ahead {ahead : List CircadianKeyframe} {i : Nat} {lowerIdx : Option Nat}
    (all : ∀ k ∈ ahead, m < k.atMinutes) : lowerIndex m ahead i lowerIdx = lowerIdx := by
  induction ahead generalizing i with
  | nil => rfl
  | cons first rest ih =>
    rw [lowerIndex, if_neg (not_le.mpr (all first (.head _))),
      ih fun k member => all k (.tail _ member)]

theorem lowerIndex_append {past ahead : List CircadianKeyframe} {i : Nat}
    {lowerIdx : Option Nat} (early : ∀ k ∈ past, k.atMinutes ≤ m)
    (late : ∀ k ∈ ahead, m < k.atMinutes) :
    lowerIndex m (past ++ ahead) i lowerIdx =
      if past = [] then lowerIdx else some (i + past.length - 1) := by
  induction past generalizing i lowerIdx with
  | nil => exact lowerIndex_ahead late
  | cons first rest ih =>
    rw [cons_append, lowerIndex, if_pos (early first (.head _)),
      ih fun k member => early k (.tail _ member), if_neg (cons_ne_nil _ _)]
    cases rest with
    | nil => rfl
    | cons second others =>
      rw [if_neg (cons_ne_nil _ _)]
      simp only [length_cons, Option.some.injEq]
      omega

theorem frameAt_eq {i : Nat} (found : frames.val[i]? = some k) : frameAt frames i = k := by
  rw [frameAt, getD_eq_getElem?_getD, found]
  rfl

/-- A span between the keyframe that came last and the one that comes next. -/
structure Span.Surrounds (span : Span) (listed : ℤ → List CircadianKeyframe) (now : ℚ)
    (lower upper : Occurrence CircadianKeyframe) : Prop where
  last : IsLast CircadianKeyframe.atMinutes listed now lower
  next : IsNext CircadianKeyframe.atMinutes listed now upper
  lower_eq : span.lower = lower.entry
  upper_eq : span.upper = upper.entry
  spanMinutes : span.spanMinutes =
    upper.time CircadianKeyframe.atMinutes - lower.time CircadianKeyframe.atMinutes
  intoSpan : span.intoSpan = now - lower.time CircadianKeyframe.atMinutes

/-- The keyframes up to a minute, and those that are ahead of it. -/
def past (profile : CircadianProfile) (m : ℚ) : List CircadianKeyframe :=
  profile.keyframes.filter fun k => k.atMinutes ≤ m

def ahead (profile : CircadianProfile) (m : ℚ) : List CircadianKeyframe :=
  profile.keyframes.filter fun k => m < k.atMinutes

section Sorted

variable (sorted : frames.val = inOrder CircadianKeyframe.atMinutes profile.keyframes)
include sorted

theorem frames_eq_append : frames.val =
    inOrder CircadianKeyframe.atMinutes (past profile m) ++
      inOrder CircadianKeyframe.atMinutes (ahead profile m) := by
  rw [sorted, inOrder_eq_append m]
  rfl

theorem lowerIndex_frames : lowerIndex m frames.val 0 none =
    if past profile m = [] then none else some ((past profile m).length - 1) := by
  have early : ∀ k ∈ inOrder CircadianKeyframe.atMinutes (past profile m), k.atMinutes ≤ m := by
    intro k member
    rw [(perm_inOrder _).mem_iff, past, mem_filter] at member
    exact of_decide_eq_true member.2
  have late : ∀ k ∈ inOrder CircadianKeyframe.atMinutes (ahead profile m), m < k.atMinutes := by
    intro k member
    rw [(perm_inOrder _).mem_iff, ahead, mem_filter] at member
    exact of_decide_eq_true member.2
  rw [frames_eq_append sorted, lowerIndex_append early late, length_inOrder, Nat.zero_add]
  by_cases none : past profile m = []
  · rw [if_pos none, if_pos (by rw [none]; rfl)]
  · rw [if_neg none, if_neg (inOrder_ne_nil none)]

theorem length_frames (m : ℚ) : frames.val.length = (past profile m).length +
    (ahead profile m).length := by
  rw [frames_eq_append sorted, length_append, length_inOrder, length_inOrder]

theorem frameAt_past (found : latest CircadianKeyframe.atMinutes (past profile m) = some k) :
    frameAt frames ((past profile m).length - 1) = k := by
  apply frameAt_eq
  rw [← getLast?_inOrder, getLast?_eq_getElem?, length_inOrder] at found
  rw [frames_eq_append sorted, getElem?_append_left]
  · exact found
  · exact (List.getElem?_eq_some_iff.mp found).1

theorem frameAt_ahead (found : earliest CircadianKeyframe.atMinutes (ahead profile m) = some k) :
    frameAt frames (past profile m).length = k := by
  apply frameAt_eq
  rw [← head?_inOrder, head?_eq_getElem?] at found
  rw [frames_eq_append sorted, getElem?_append_right (by rw [length_inOrder]),
    length_inOrder, Nat.sub_self]
  exact found

theorem frameAt_first (found : earliest CircadianKeyframe.atMinutes profile.keyframes = some k) :
    frameAt frames 0 = k := by
  apply frameAt_eq
  rw [sorted, ← head?_eq_getElem?, head?_inOrder, found]

theorem frameAt_last (found : latest CircadianKeyframe.atMinutes profile.keyframes = some k) :
    frameAt frames (frames.val.length - 1) = k := by
  apply frameAt_eq
  rw [← getLast?_eq_getElem?, sorted, getLast?_inOrder, found]

variable (valid : ValidProfile profile) (midnight : 0 ≤ m) (before : m < 1440)
include valid midnight before

/-- Between two keyframes of the day. -/
theorem surrounding_today
    (low : latest CircadianKeyframe.atMinutes (past profile m) = some lowKeyframe)
    (high : earliest CircadianKeyframe.atMinutes (ahead profile m) = some highKeyframe) :
    ∃ lower upper,
      (surrounding frames m).Surrounds (everyDay profile) (day * 1440 + m) lower upper := by
  obtain ⟨place, last⟩ := exists_isLast_today valid.inDays before low
  obtain ⟨placeNext, next⟩ := exists_isNext_today valid.inDays midnight high
  obtain ⟨-, -, reached, -⟩ := latest_filter low
  have started : past profile m ≠ [] := by
    intro none
    rw [none] at low
    cases low
  have others : ahead profile m ≠ [] := by
    intro none
    rw [none] at high
    cases high
  have count : (past profile m).length - 1 + 1 = (past profile m).length :=
    Nat.sub_add_cancel (length_pos_iff.mpr started)
  have less : (past profile m).length < frames.val.length := by
    have further := length_pos_iff.mpr others
    have total := length_frames sorted m
    omega
  have known : surrounding frames m =
      { lower := lowKeyframe
        upper := highKeyframe
        spanMinutes := highKeyframe.atMinutes - lowKeyframe.atMinutes
        intoSpan := m - lowKeyframe.atMinutes } := by
    simp only [surrounding, lowerIndex_frames sorted, if_neg started, count,
      Nat.mod_eq_of_lt less, frameAt_past sorted low, frameAt_ahead sorted high, if_pos less,
      if_pos (of_decide_eq_true reached)]
  rw [known]
  refine ⟨_, _, last, next, rfl, rfl, ?_, ?_⟩
  · simp only [Occurrence.time]
    ring
  · simp only [Occurrence.time]
    ring

theorem surrounding_evening
    (low : latest CircadianKeyframe.atMinutes (past profile m) = some lowKeyframe)
    (none : ahead profile m = [])
    (first : earliest CircadianKeyframe.atMinutes profile.keyframes = some firstKeyframe) :
    ∃ lower upper,
      (surrounding frames m).Surrounds (everyDay profile) (day * 1440 + m) lower upper := by
  obtain ⟨place, last⟩ := exists_isLast_today valid.inDays before low
  obtain ⟨placeNext, next⟩ :=
    exists_isNext_tomorrow valid.inDays midnight before none first
  obtain ⟨-, -, reached, -⟩ := latest_filter low
  have started : past profile m ≠ [] := by
    intro none
    rw [none] at low
    cases low
  have count : (past profile m).length - 1 + 1 = (past profile m).length :=
    Nat.sub_add_cancel (length_pos_iff.mpr started)
  have total : frames.val.length = (past profile m).length := by
    rw [length_frames sorted m, none, length_nil, Nat.add_zero]
  have known : surrounding frames m =
      { lower := lowKeyframe
        upper := firstKeyframe
        spanMinutes := 1440 - lowKeyframe.atMinutes + firstKeyframe.atMinutes
        intoSpan := m - lowKeyframe.atMinutes } := by
    simp only [surrounding, lowerIndex_frames sorted, if_neg started, count, total,
      Nat.mod_self, frameAt_past sorted low, frameAt_first sorted first, lt_irrefl, if_false,
      if_pos (of_decide_eq_true reached)]
  rw [known]
  refine ⟨_, _, last, next, rfl, rfl, ?_, ?_⟩
  · simp only [Occurrence.time]
    push_cast
    ring
  · simp only [Occurrence.time]
    ring

theorem surrounding_morning (none : past profile m = [])
    (final : latest CircadianKeyframe.atMinutes profile.keyframes = some finalKeyframe)
    (high : earliest CircadianKeyframe.atMinutes (ahead profile m) = some highKeyframe) :
    ∃ lower upper,
      (surrounding frames m).Surrounds (everyDay profile) (day * 1440 + m) lower upper := by
  obtain ⟨place, last⟩ :=
    exists_isLast_yesterday valid.inDays midnight before none final
  obtain ⟨placeNext, next⟩ := exists_isNext_today valid.inDays midnight high
  have upper : frameAt frames 0 = highKeyframe := by
    have reached := frameAt_ahead sorted high
    rwa [none] at reached
  have known : surrounding frames m =
      { lower := finalKeyframe
        upper := highKeyframe
        spanMinutes := 1440 - finalKeyframe.atMinutes + highKeyframe.atMinutes
        intoSpan := 1440 - finalKeyframe.atMinutes + m } := by
    simp only [surrounding, lowerIndex_frames sorted, if_pos none, frameAt_last sorted final, upper]
  rw [known]
  refine ⟨_, _, last, next, rfl, rfl, ?_, ?_⟩
  · simp only [Occurrence.time]
    push_cast
    ring
  · simp only [Occurrence.time]
    push_cast
    ring

theorem surrounding_surrounds (day : ℤ) : ∃ lower upper,
    (surrounding frames m).Surrounds (everyDay profile) (day * 1440 + m) lower upper := by
  cases low : latest CircadianKeyframe.atMinutes (past profile m) with
  | none =>
    have none := latest_eq_none_iff.mp low
    cases final : latest CircadianKeyframe.atMinutes profile.keyframes with
    | none => exact absurd (latest_eq_none_iff.mp final) valid.nonempty
    | some finalKeyframe =>
      cases high : earliest CircadianKeyframe.atMinutes (ahead profile m) with
      | none =>
        have empty := length_frames sorted m
        rw [none, earliest_eq_none_iff.mp high] at empty
        exact absurd (length_eq_zero_iff.mp empty) frames.property
      | some highKeyframe =>
        exact surrounding_morning sorted valid midnight before none final high
  | some lowKeyframe =>
    cases high : earliest CircadianKeyframe.atMinutes (ahead profile m) with
    | some highKeyframe => exact surrounding_today sorted valid midnight before low high
    | none =>
      cases first : earliest CircadianKeyframe.atMinutes profile.keyframes with
      | none => exact absurd (earliest_eq_none_iff.mp first) valid.nonempty
      | some firstKeyframe =>
        exact surrounding_evening sorted valid midnight before low
          (earliest_eq_none_iff.mp high) first

end Sorted

/-- Which part of the time between two occurrences has passed. -/
def elapsed (lower upper : Occurrence CircadianKeyframe) (now : ℚ) : ℚ :=
  (now - lower.time CircadianKeyframe.atMinutes) /
    (upper.time CircadianKeyframe.atMinutes - lower.time CircadianKeyframe.atMinutes)

/--
A target at a minute of a day is interpolated between the keyframe that came last
and the one that comes next, and rounded.
-/
structure Interpolates (profile : CircadianProfile) (day : ℤ) (m : ℚ) (target : CircadianTarget)
    (lower upper : Occurrence CircadianKeyframe) : Prop where
  last : IsLast CircadianKeyframe.atMinutes (everyDay profile) (day * 1440 + m) lower
  next : IsNext CircadianKeyframe.atMinutes (everyDay profile) (day * 1440 + m) upper
  /-- It is divided by a positive number of minutes. -/
  apart : 0 < upper.time CircadianKeyframe.atMinutes - lower.time CircadianKeyframe.atMinutes
  kelvin : target.kelvin = mathRound
    (between lower.entry.kelvin upper.entry.kelvin (elapsed lower upper (day * 1440 + m)))
  brightness : target.brightness = clamp (mathRound (between lower.entry.brightness
    upper.entry.brightness (elapsed lower upper (day * 1440 + m)))) 0 100
  kelvin_between :
    min (mathRound lower.entry.kelvin) (mathRound upper.entry.kelvin) ≤ target.kelvin ∧
      target.kelvin ≤ max (mathRound lower.entry.kelvin) (mathRound upper.entry.kelvin)
  brightness_between :
    min (clamp (mathRound lower.entry.brightness) 0 100)
        (clamp (mathRound upper.entry.brightness) 0 100) ≤ target.brightness ∧
      target.brightness ≤ max (clamp (mathRound lower.entry.brightness) 0 100)
        (clamp (mathRound upper.entry.brightness) 0 100)
  /-- At the minute of keyframes, the last one of them is the target. -/
  exact : ∀ place k, profile.keyframes[place]? = some k → k.atMinutes = m →
    (∀ (other : Nat) that, profile.keyframes[other]? = some that → that.atMinutes = m →
      other ≤ place) →
    target = ⟨mathRound k.kelvin, clamp (mathRound k.brightness) 0 100⟩

variable {listed : ℤ → List CircadianKeyframe}

theorem Span.Surrounds.apart {now : ℚ}
    (surrounds : span.Surrounds listed now lower upper) : 0 < span.spanMinutes := by
  rw [surrounds.spanMinutes, sub_pos]
  exact surrounds.last.past.trans_lt surrounds.next.ahead

theorem Span.Surrounds.elapsed_mem {now : ℚ} (surrounds : span.Surrounds listed now lower upper) :
    0 ≤ elapsed lower upper now ∧ elapsed lower upper now ≤ 1 := by
  have past := surrounds.last.past
  have ahead := surrounds.next.ahead
  have apart := sub_pos.mpr (past.trans_lt ahead)
  exact ⟨div_nonneg (sub_nonneg.mpr past) apart.le, (div_le_one apart).mpr (by linarith)⟩

theorem Span.target_eq {now : ℚ} (surrounds : span.Surrounds listed now lower upper) : span.target =
      { kelvin := mathRound
          (between lower.entry.kelvin upper.entry.kelvin (elapsed lower upper now))
        brightness := clamp (mathRound
          (between lower.entry.brightness upper.entry.brightness (elapsed lower upper now)))
          0 100 } := by
  have part : clamp (span.intoSpan / span.spanMinutes) 0 1 = elapsed lower upper now := by
    rw [surrounds.spanMinutes, surrounds.intoSpan]
    exact clamp_of_mem surrounds.elapsed_mem.1 surrounds.elapsed_mem.2
  simp only [Span.target, if_neg surrounds.apart.ne', part, surrounds.lower_eq,
    surrounds.upper_eq, between]

theorem isLast_at (valid : ValidProfile profile) (before : m < 1440) {place : Nat}
    (stands : profile.keyframes[place]? = some k) (same : k.atMinutes = m)
    (final : ∀ (other : Nat) that, profile.keyframes[other]? = some that → that.atMinutes = m →
      other ≤ place) :
    IsLast CircadianKeyframe.atMinutes (everyDay profile) (day * 1440 + m) ⟨day, place, k⟩ := by
  have time : Occurrence.time CircadianKeyframe.atMinutes ⟨day, place, k⟩ = day * 1440 + m := by
    rw [Occurrence.time, same]
  refine ⟨stands, time.le, fun other occurs past => ?_⟩
  rcases past.lt_or_eq with early | sameTime
  · exact .inl (early.trans_eq time.symm)
  · have bounds := valid.inDays _ _ (mem_of_occurs occurs)
    have own := valid.inDays day k (mem_of_getElem? stands)
    have earlier : other.day ≤ day := day_le bounds.1 before sameTime.le
    have later : day ≤ other.day := by
      rw [← same] at sameTime
      exact day_le own.1 bounds.2 sameTime.ge
    have days := le_antisymm earlier later
    rw [Occurrence.time, days] at sameTime
    exact .inr ⟨by rw [time, Occurrence.time, days, sameTime],
      final other.place other.entry occurs (by linarith)⟩

theorem interpolates_target (valid : ValidProfile profile) (before : m < 1440)
    (surrounds : span.Surrounds (everyDay profile) (day * 1440 + m) lower upper) :
    Interpolates profile day m span.target lower upper := by
  obtain ⟨start, finish⟩ := surrounds.elapsed_mem
  rw [Span.target_eq surrounds]
  refine ⟨surrounds.last, surrounds.next, ?_, rfl, rfl, ?_, ?_, ?_⟩
  · rw [← surrounds.spanMinutes]
    exact surrounds.apart
  · have monotone : Monotone mathRound := fun _ _ => mathRound_le_mathRound
    exact monotone_between monotone _ _ start finish
  · have monotone : Monotone fun value => clamp (mathRound value) 0 100 :=
      fun _ _ le => clamp_le_clamp (mathRound_le_mathRound le)
    have lies := monotone_between monotone lower.entry.brightness upper.entry.brightness
      start finish
    dsimp only at lies ⊢
    exact lies
  · intro place k stands same final
    have last := surrounds.last.unique valid.inDays (isLast_at valid before stands same final)
    subst last
    have part : elapsed ⟨day, place, k⟩ upper (day * 1440 + m) = 0 := by
      rw [elapsed, Occurrence.time, same, sub_self, zero_div]
    simp only [part, between, mul_zero, add_zero]

/--
A profile of several keyframes is interpolated at every minute, and one of a
single keyframe holds it.
-/
theorem circadianAt_interpolates (profile : CircadianProfile) (valid : ValidProfile profile)
    (m : ℤ) (midnight : 0 ≤ m) (before : m ≤ 1439) (day : ℤ) :
    (∀ only, profile.keyframes = [only] →
      circadianAt profile m = .ok ⟨only.kelvin, clamp only.brightness 0 100⟩) ∧
    (1 < profile.keyframes.length → ∃ target lower upper, circadianAt profile m = .ok target ∧
      Interpolates profile day m target lower upper) ∧
    ∀ frames, normalizedKeyframes profile = .ok frames → 0 < (surrounding frames
      m).spanMinutes := by
  have start : (0 : ℚ) ≤ m := by exact_mod_cast midnight
  have finish : (m : ℚ) ≤ 1439 := by exact_mod_cast before
  have today : (m : ℚ) < 1440 := finish.trans_lt (by norm_num)
  have minute : clamp (mathRound m) 0 1439 = m := by
    rw [mathRound_intCast]
    exact clamp_of_mem start finish
  let frames : Frames :=
    ⟨inOrder CircadianKeyframe.atMinutes profile.keyframes, inOrder_ne_nil valid.nonempty⟩
  have ok : normalizedKeyframes profile = .ok frames := normalizedKeyframes_eq_ok.mpr ⟨valid, rfl⟩
  refine ⟨fun only single => ?_, fun several => ?_, fun others known => ?_⟩
  · have frame : frames.val = [only] := by
      change inOrder CircadianKeyframe.atMinutes profile.keyframes = [only]
      rw [single]
      rfl
    have first : frameAt frames 0 = only := frameAt_eq (by rw [frame]; rfl)
    simp only [circadianAt, ok, frame, length_singleton, if_true, first]
  · obtain ⟨lower, upper, surrounds⟩ :=
      surrounding_surrounds (normalizedKeyframes_eq_ok.mp ok).2 valid start today day
    have length : ¬frames.val.length = 1 := by
      rw [length_inOrder]
      exact several.ne'
    refine ⟨(surrounding frames m).target, lower, upper, ?_,
      interpolates_target valid today surrounds⟩
    simp only [circadianAt, ok, if_neg length, minute]
  · obtain ⟨lower, upper, surrounds⟩ :=
      surrounding_surrounds (normalizedKeyframes_eq_ok.mp known).2 valid start today day
    exact surrounds.apart

theorem defaultCircadianProfile_valid : ValidProfile defaultCircadianProfile :=
  ⟨by decide, by decide +kernel⟩

/-- At one minute to eleven in the evening, after the last keyframe. -/
theorem circadianAt_interpolates_default : ∃ target lower upper,
    circadianAt defaultCircadianProfile (1379 : ℤ) = .ok target ∧
      Interpolates defaultCircadianProfile 0 (1379 : ℤ) target lower upper :=
  (circadianAt_interpolates defaultCircadianProfile defaultCircadianProfile_valid 1379
    (by decide) (by decide) 0).2.1 (by decide)

/-- A temperature between two kelvins. -/
def halfKelvin : CircadianKeyframe := ⟨0, 5401 / 2, 50⟩

/--
A single keyframe is not rounded, and one of several is not returned as it is.
Between two keyframes of the same kelvins, a value is below both.
-/
theorem circadianAt_not_uniform : ValidProfile ⟨[halfKelvin]⟩ ∧
      circadianAt ⟨[halfKelvin]⟩ 0 = .ok ⟨5401 / 2, 50⟩ ∧ mathRound (5401 / 2) = 2701 ∧
      ValidProfile ⟨[halfKelvin, ⟨720, 4000, 60⟩]⟩ ∧
      circadianAt ⟨[halfKelvin, ⟨720, 4000, 60⟩]⟩ 0 = .ok ⟨2701, 50⟩ ∧
      ValidProfile ⟨[⟨0, 27001 / 10, 50⟩, ⟨720, 27001 / 10, 50⟩]⟩ ∧
      circadianAt ⟨[⟨0, 27001 / 10, 50⟩, ⟨720, 27001 / 10, 50⟩]⟩ 360 = .ok ⟨2700, 50⟩ := by
  refine ⟨⟨by decide, by decide +kernel⟩, by decide +kernel, by decide +kernel,
    ⟨by decide, by decide +kernel⟩, by decide +kernel, ⟨by decide, by decide +kernel⟩,
    by decide +kernel⟩

end SupremeOs.Automations
