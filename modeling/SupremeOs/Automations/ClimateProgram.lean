import SupremeOs.Support.Timeline

/-!
# Climate programs

A program lists blocks of target temperatures, one list for weekdays and one for
weekends.  The target at a minute is that of the last block at or before it.

On a running week, the blocks of each day are those of its own type.  Before the
first block of a day, the program holds the last block of that same type, and not
the one that the previous day ended with.  So on Mondays and Saturdays the target
before the first block can be another one than at midnight.

Temperatures and minutes are rational numbers here.
-/

namespace SupremeOs.Automations

open Support.Timeline List

inductive DayType where
  | weekday
  | weekend
deriving DecidableEq

structure ClimateBlock where
  /-- Minutes since local midnight. -/
  atMinutes : ℚ
  targetC : ℚ
deriving DecidableEq

structure ClimateProgram where
  weekday : List ClimateBlock
  weekend : List ClimateBlock
deriving DecidableEq

def ClimateProgram.blocks (program : ClimateProgram) : DayType → List ClimateBlock
  | .weekday => program.weekday
  | .weekend => program.weekend

inductive ClimateProgramError where
  | noBlock
  | atMinutes (value : ℚ)
  | targetC (value : ℚ)
  | noArrays
deriving DecidableEq

def ClimateProgramError.message (text : ℚ → String) : ClimateProgramError → String
  | .noBlock => "climate program needs at least one block"
  | .atMinutes value => "block atMinutes out of range: " ++ text value
  | .targetC value => "block targetC out of range (5..35): " ++ text value
  | .noArrays => "program needs weekday and weekend block arrays"

def blockError (b : ClimateBlock) : Option ClimateProgramError :=
  if b.atMinutes < 0 ∨ 1439 < b.atMinutes then some (.atMinutes b.atMinutes)
  else if b.targetC < 5 ∨ 35 < b.targetC then some (.targetC b.targetC)
  else none

abbrev DayBlocks := Ordered ClimateBlock

def normalize (blocks : List ClimateBlock) : Except ClimateProgramError DayBlocks :=
  checkedInOrder ClimateBlock.atMinutes blockError .noBlock blocks

/-- The loop of `climateSetpointAt`. -/
def holding (minuteOfDay : ℚ) : ClimateBlock → List ClimateBlock → ClimateBlock
  | current, [] => current
  | current, b :: rest =>
    if b.atMinutes ≤ minuteOfDay then holding minuteOfDay b rest else current

def climateSetpointAt (program : ClimateProgram) (dayType : DayType) (minuteOfDay : ℚ) :
    Except ClimateProgramError ℚ :=
  match normalize (program.blocks dayType) with
  | .error error => .error error
  | .ok blocks => .ok (holding minuteOfDay (blocks.val.getLast blocks.property) blocks.val).targetC

/-- The arrays of a stored program, absent where it has none. -/
def validateClimateProgram (weekday weekend : Option (List ClimateBlock)) :
    Except ClimateProgramError ClimateProgram :=
  match weekday, weekend with
  | some weekday, some weekend =>
    match normalize weekday, normalize weekend with
    | .error error, _ => .error error
    | .ok _, .error error => .error error
    | .ok _, .ok _ => .ok ⟨weekday, weekend⟩
  | _, _ => .error .noArrays

def defaultClimateProgram : ClimateProgram where
  weekday := [⟨6 * 60, 21⟩, ⟨8 * 60 + 30, 18⟩, ⟨17 * 60, 21⟩, ⟨22 * 60, 18⟩]
  weekend := [⟨7 * 60 + 30, 21⟩, ⟨23 * 60, 18⟩]

structure ValidBlocks (blocks : List ClimateBlock) : Prop where
  nonempty : blocks ≠ []
  inRange : ∀ b ∈ blocks, 0 ≤ b.atMinutes ∧ b.atMinutes ≤ 1439 ∧ 5 ≤ b.targetC ∧ b.targetC ≤ 35

def ValidProgram (program : ClimateProgram) : Prop :=
  ValidBlocks program.weekday ∧ ValidBlocks program.weekend

variable {blocks : List ClimateBlock} {program : ClimateProgram} {b block : ClimateBlock}
variable {dayType : DayType} {minute : ℚ} {day : ℤ}

theorem blockError_eq_none : blockError b = none ↔
    0 ≤ b.atMinutes ∧ b.atMinutes ≤ 1439 ∧ 5 ≤ b.targetC ∧ b.targetC ≤ 35 := by
  rw [blockError, ite_outside_eq_none, ite_outside_eq_none, and_assoc, eq_self_iff_true, and_true]

theorem normalize_eq_ok {sorted : DayBlocks} : normalize blocks = .ok sorted ↔
    ValidBlocks blocks ∧ sorted.val = inOrder ClimateBlock.atMinutes blocks := by
  rw [normalize, checkedInOrder_eq_ok]
  simp only [blockError_eq_none]
  exact and_congr_left fun _ => ⟨fun checked => ⟨checked.1, checked.2⟩,
    fun valid => ⟨valid.nonempty, valid.inRange⟩⟩

theorem validateClimateProgram_eq_ok :
    validateClimateProgram (some program.weekday) (some program.weekend) = .ok program ↔
      ValidProgram program := by
  have accepted : ∀ blocks, ValidBlocks blocks ↔ ∃ sorted, normalize blocks = .ok sorted := by
    intro blocks
    constructor
    · intro valid
      exact ⟨⟨_, inOrder_ne_nil valid.nonempty⟩, normalize_eq_ok.mpr ⟨valid, rfl⟩⟩
    · rintro ⟨sorted, ok⟩
      exact (normalize_eq_ok.mp ok).1
  rw [ValidProgram, accepted, accepted]
  simp only [validateClimateProgram]
  cases normalize program.weekday with
  | error error => simp
  | ok sorted => cases normalize program.weekend <;> simp

theorem ValidProgram.ofType (valid : ValidProgram program) (dayType : DayType) :
    ValidBlocks (program.blocks dayType) := by
  cases dayType with
  | weekday => exact valid.1
  | weekend => exact valid.2

theorem holding_eq {sorted : List ClimateBlock}
    (ordered : sorted.Pairwise fun left right => left.atMinutes ≤ right.atMinutes) :
    holding minute b sorted =
      ((sorted.filter fun block => block.atMinutes ≤ minute).getLast?).getD b := by
  induction sorted generalizing b with
  | nil => rfl
  | cons first rest ih =>
    rw [pairwise_cons] at ordered
    by_cases past : first.atMinutes ≤ minute
    · have kept : (first :: rest).filter (fun block => block.atMinutes ≤ minute) =
          first :: rest.filter fun block => block.atMinutes ≤ minute :=
        filter_cons_of_pos (decide_eq_true past)
      rw [holding, if_pos past, ih ordered.2, kept, getLast?_cons]
      rfl
    · have ahead : (first :: rest).filter (fun block => block.atMinutes ≤ minute) = [] := by
        rw [filter_eq_nil_iff]
        intro block member
        rw [decide_eq_true_eq]
        rcases mem_cons.mp member with rfl | inRest
        · exact past
        · exact fun early => past ((ordered.1 block inRest).trans early)
      rw [holding, if_neg past, ahead]
      rfl

theorem climateSetpointAt_eq (valid : ValidBlocks (program.blocks dayType))
    (last : latest ClimateBlock.atMinutes (program.blocks dayType) = some b) :
    climateSetpointAt program dayType minute =
      .ok ((latest ClimateBlock.atMinutes
        ((program.blocks dayType).filter fun block => block.atMinutes ≤ minute)).getD
          b).targetC := by
  have sorted : normalize (program.blocks dayType) =
      .ok ⟨inOrder ClimateBlock.atMinutes (program.blocks dayType),
        inOrder_ne_nil valid.nonempty⟩ :=
    normalize_eq_ok.mpr ⟨valid, rfl⟩
  have final : (inOrder ClimateBlock.atMinutes (program.blocks dayType)).getLast
      (inOrder_ne_nil valid.nonempty) = b := by
    rw [getLast_eq_iff_getLast?_eq_some, getLast?_inOrder, last]
  simp only [climateSetpointAt, sorted]
  rw [final, holding_eq (pairwise_inOrder _), filter_inOrder, getLast?_inOrder]

theorem climateSetpointAt_today (valid : ValidBlocks (program.blocks dayType))
    (found : latest ClimateBlock.atMinutes
      ((program.blocks dayType).filter fun block => block.atMinutes ≤ minute) = some block) :
    climateSetpointAt program dayType minute = .ok block.targetC := by
  cases last : latest ClimateBlock.atMinutes (program.blocks dayType) with
  | none => exact absurd (latest_eq_none_iff.mp last) valid.nonempty
  | some b => rw [climateSetpointAt_eq valid last, found, Option.getD_some]

theorem climateSetpointAt_wrapped (valid : ValidBlocks (program.blocks dayType))
    (none : (program.blocks dayType).filter (fun block => block.atMinutes ≤ minute) = [])
    (last : latest ClimateBlock.atMinutes (program.blocks dayType) = some block) :
    climateSetpointAt program dayType minute = .ok block.targetC := by
  rw [climateSetpointAt_eq valid last, none]
  rfl

/-- The type of a day, days being counted from a Sunday. -/
def dayTypeOf (day : ℤ) : DayType := if day % 7 = 0 ∨ day % 7 = 6 then .weekend else .weekday

def runningWeek (program : ClimateProgram) (day : ℤ) : List ClimateBlock :=
  program.blocks (dayTypeOf day)

theorem ValidProgram.inDays (valid : ValidProgram program) :
    InDays ClimateBlock.atMinutes (runningWeek program) := by
  intro day block member
  have range := (valid.ofType (dayTypeOf day)).inRange block member
  exact ⟨range.1, lt_of_le_of_lt range.2.1 (by norm_num)⟩

def HoldsMostRecent (program : ClimateProgram) (day : ℤ) (minute : ℚ) : Prop :=
  ∃ occurrence : Occurrence ClimateBlock,
    IsLast ClimateBlock.atMinutes (runningWeek program) (day * 1440 + minute) occurrence ∧
      climateSetpointAt program (dayTypeOf day) minute = .ok occurrence.entry.targetC

def finalTarget (program : ClimateProgram) (dayType : DayType) : Option ℚ :=
  (latest ClimateBlock.atMinutes (program.blocks dayType)).map ClimateBlock.targetC

theorem holdsMostRecent_early (valid : ValidProgram program) (midnight : 0 ≤ minute)
    (before : minute < 1440)
    (none : (runningWeek program day).filter (fun block => block.atMinutes ≤ minute) = []) :
    HoldsMostRecent program day minute ↔
      finalTarget program (dayTypeOf (day - 1)) = finalTarget program (dayTypeOf day) := by
  cases previous : latest ClimateBlock.atMinutes (runningWeek program (day - 1)) with
  | none => exact absurd (latest_eq_none_iff.mp previous) (valid.ofType _).nonempty
  | some block =>
    cases own : latest ClimateBlock.atMinutes (runningWeek program day) with
    | none => exact absurd (latest_eq_none_iff.mp own) (valid.ofType _).nonempty
    | some held =>
      have setpoint : climateSetpointAt program (dayTypeOf day) minute = .ok held.targetC :=
        climateSetpointAt_wrapped (valid.ofType _) none own
      obtain ⟨place, last⟩ :=
        exists_isLast_yesterday valid.inDays midnight before none previous
      rw [runningWeek] at previous own
      rw [finalTarget, finalTarget, previous, own, Option.map_some, Option.map_some,
        Option.some.injEq]
      constructor
      · rintro ⟨occurrence, isLast, holds⟩
        rw [isLast.unique valid.inDays last, setpoint] at holds
        exact (Except.ok.inj holds).symm
      · intro same
        exact ⟨_, last, by rw [setpoint, ← same]⟩

/--
The setpoint is the target of the block that came last, from the first block of a
day on, and before it exactly if the previous day ended with the target with which
days of the type of this one end.
-/
theorem climateSetpointAt_mostRecent_iff (program : ClimateProgram) (valid : ValidProgram program)
    (day : ℤ) (minute : ℚ) (midnight : 0 ≤ minute) (before : minute < 1440) :
    HoldsMostRecent program day minute ↔
      (∃ block ∈ program.blocks (dayTypeOf day), block.atMinutes ≤ minute) ∨
        finalTarget program (dayTypeOf (day - 1)) = finalTarget program (dayTypeOf day) := by
  cases found : latest ClimateBlock.atMinutes
      ((runningWeek program day).filter fun block => block.atMinutes ≤ minute) with
  | none =>
    have empty := latest_eq_none_iff.mp found
    rw [holdsMostRecent_early valid midnight before empty]
    refine ⟨.inr, ?_⟩
    rintro (⟨block, member, past⟩ | same)
    · exact absurd (decide_eq_true past) (filter_eq_nil_iff.mp empty block member)
    · exact same
  | some block =>
    obtain ⟨place, last⟩ := exists_isLast_today valid.inDays before found
    have holds := climateSetpointAt_today (valid.ofType (dayTypeOf day)) found
    obtain ⟨place, stands, past, -⟩ := latest_filter found
    refine ⟨fun _ => .inl ⟨block, mem_of_getElem? stands, of_decide_eq_true past⟩,
      fun _ => ⟨_, last, holds⟩⟩

theorem defaultClimateProgram_valid : ValidProgram defaultClimateProgram :=
  validateClimateProgram_eq_ok.mp (by decide +kernel)

/-- On Mondays before six, with a program that ends all days alike. -/
theorem climateSetpointAt_mostRecent_default : HoldsMostRecent defaultClimateProgram 1 180 :=
  (climateSetpointAt_mostRecent_iff defaultClimateProgram defaultClimateProgram_valid 1 180
    (by norm_num) (by norm_num)).mpr (.inr (by decide +kernel))

/-- Nights are at eighteen degrees on weekdays and at sixteen on weekends. -/
def coolWeekends : ClimateProgram where
  weekday := [⟨6 * 60, 21⟩, ⟨22 * 60, 18⟩]
  weekend := [⟨7 * 60 + 30, 22⟩, ⟨23 * 60, 16⟩]

/-- On Mondays at three, the block of Sunday evening came last. -/
theorem climateSetpointAt_not_mostRecent : ValidProgram coolWeekends ∧ dayTypeOf 1 = .weekday ∧
      climateSetpointAt coolWeekends .weekday 180 = .ok 18 ∧
      (∃ place, IsLast ClimateBlock.atMinutes (runningWeek coolWeekends)
        ((1 : ℤ) * 1440 + 180) ⟨0, place, ⟨23 * 60, 16⟩⟩) ∧
      ¬HoldsMostRecent coolWeekends 1 180 := by
  have valid : ValidProgram coolWeekends := validateClimateProgram_eq_ok.mp (by decide +kernel)
  have none : (runningWeek coolWeekends 1).filter (fun block => block.atMinutes ≤ 180) = [] := by
    decide +kernel
  refine ⟨valid, by decide, by decide +kernel, ?_, ?_⟩
  · exact exists_isLast_yesterday valid.inDays (by norm_num) (by norm_num) none
      (by decide +kernel)
  · rw [holdsMostRecent_early valid (by norm_num) (by norm_num) none]
    decide +kernel

end SupremeOs.Automations
