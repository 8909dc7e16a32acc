import Mathlib.Algebra.Order.Ring.Rat
import Mathlib.Tactic.Linarith
import SupremeOs.Intelligence.EnergyDecision

/-!
# Safe suggestions

The energy decision over exact rationals, for all options.  A device that is
suggested is on, free to be turned off, of a known wattage and idle, and one
more estimate of somebody in its room makes it no candidate.  That the owner
is in the room lowers the confidence, but it does not prevent the suggestion.
-/

namespace SupremeOs.Intelligence.Exact

open DomainModel

structure PresenceEstimate where
  userId : String
  present : Bool
  confidence : ℚ
  roomId : Option String

structure DeviceIntel where
  ownerUserId : Option String
  critical : Bool
  ignoreAutoPilot : Bool
  expectedAlwaysOn : Bool
  estimatedWatts : Option ℚ

structure EnergyDeviceInput where
  deviceId : DeviceId
  roomId : Option String
  zoneId : Option String
  on : Bool
  onSinceMs : Option ℚ
  watts : Option ℚ
  intel : Option DeviceIntel

structure EnergyIntelOptions where
  minIdleMinutes : ℚ := 15
  minWatts : ℚ := 5
  presentThreshold : ℚ := 6 / 10
  candidateVacancyFloor : ℚ := 1 / 2

structure EnergyIntelInput where
  now : ℚ
  devices : List EnergyDeviceInput
  presence : List PresenceEstimate
  zones : List ZoneOccupancy
  options : EnergyIntelOptions

def clamp01 (number : ℚ) : ℚ := min 1 (max 0 number)

structure Confidence where
  presence : ℚ
  roomVacancy : ℚ
  zoneVacancy : ℚ
  ownership : ℚ
  energy : ℚ
  decision : ℚ

def makeConfidence (presence roomVacancy zoneVacancy ownership energy : ℚ) : Confidence where
  presence := clamp01 presence
  roomVacancy := clamp01 roomVacancy
  zoneVacancy := clamp01 zoneVacancy
  ownership := clamp01 ownership
  energy := clamp01 energy
  decision := clamp01 (([roomVacancy, zoneVacancy, ownership, energy].map clamp01).foldl min
    (clamp01 presence))

section Devices

variable (presence : List PresenceEstimate)

def maxConfidence (counts : PresenceEstimate → Bool) : ℚ :=
  ((presence.filter counts).map PresenceEstimate.confidence).foldl max 0

def roomOccupancyConfidence (roomId : Option String) (threshold : ℚ) : ℚ :=
  match nonEmpty roomId with
  | none => 0
  | some room =>
    maxConfidence presence fun estimate => estimate.present &&
      decide (threshold ≤ estimate.confidence) && decide (estimate.roomId = some room)

def zoneOccupancyConfidence (zones : List ZoneOccupancy) (zoneId : Option String)
    (threshold : ℚ) : ℚ :=
  match (nonEmpty zoneId).bind fun id => zones.find? fun zone => zone.zoneId = id with
  | none => 0
  | some zone =>
    maxConfidence presence fun estimate => estimate.present &&
      decide (threshold ≤ estimate.confidence) && zone.occupants.contains estimate.userId

def houseVacancyConfidence : ℚ := clamp01 (1 - maxConfidence presence PresenceEstimate.present)

variable (device : EnergyDeviceInput) (input : EnergyIntelInput)

def owner : Option String := nonEmpty (device.intel.bind DeviceIntel.ownerUserId)

def onMinutes : ℚ :=
  if device.on then (device.onSinceMs.map fun since => max 0 ((input.now - since) / 60000)).getD 0
  else 0

def roomVacancy : ℚ :=
  clamp01 (1 - roomOccupancyConfidence input.presence device.roomId input.options.presentThreshold)

def zoneVacancy : ℚ :=
  clamp01 (1 - zoneOccupancyConfidence input.presence input.zones device.zoneId
    input.options.presentThreshold)

/-- How certain it is that the room, or else the zone or the house, is empty. -/
def areaVacancy : ℚ :=
  if (nonEmpty device.roomId).isSome then roomVacancy device input
  else if (nonEmpty device.zoneId).isSome then zoneVacancy device input
  else houseVacancyConfidence input.presence

def ownership : ℚ :=
  match (owner device).bind fun id => input.presence.find? fun estimate => estimate.userId = id with
  | none => houseVacancyConfidence input.presence
  | some estimate =>
    if estimate.present = false then clamp01 (1 - estimate.confidence)
    else if (nonEmpty device.roomId).isSome && decide (estimate.roomId = device.roomId) then 0
    else clamp01 (1 / 2 * (1 - estimate.confidence) + 1 / 2 * areaVacancy device input)

def watts : Option ℚ := (device.intel.bind DeviceIntel.estimatedWatts).or device.watts

def hasMaterialWatts : Bool :=
  (watts device).any fun value => decide (input.options.minWatts ≤ value)

def skipReason : Option String :=
  if device.on = false then some "not_on"
  else if device.intel.any DeviceIntel.critical then some "critical"
  else if device.intel.any DeviceIntel.ignoreAutoPilot then some "ignored"
  else if device.intel.any DeviceIntel.expectedAlwaysOn then some "expected_always_on"
  else if hasMaterialWatts device input = false then some "no_wattage"
  else if onMinutes device input < input.options.minIdleMinutes then some "recently_on"
  else if areaVacancy device input < input.options.candidateVacancyFloor then some "area_occupied"
  else none

structure DeviceEvaluation where
  candidate : Bool
  skipReason : Option String
  confidence : Confidence
  onMinutes : ℚ
  estimatedWatts : Option ℚ

def evaluateDevice : DeviceEvaluation where
  candidate := (skipReason device input).isNone
  skipReason := skipReason device input
  confidence := makeConfidence (areaVacancy device input) (roomVacancy device input)
    (zoneVacancy device input) (ownership device input)
    (if hasMaterialWatts device input then
      clamp01 (onMinutes device input / (input.options.minIdleMinutes * 2)) else 0)
  onMinutes := round (onMinutes device input)
  estimatedWatts := if hasMaterialWatts device input then watts device else none

structure Suggestion where
  deviceId : DeviceId
  roomId : Option String
  zoneId : Option String
  ownerUserId : Option String
  confidence : Confidence
  estimatedWatts : Option ℚ

def suggest : Option Suggestion :=
  let evaluation := evaluateDevice device input
  if evaluation.candidate then
    some
      { deviceId := device.deviceId, roomId := device.roomId, zoneId := device.zoneId
        ownerUserId := device.intel.bind DeviceIntel.ownerUserId
        confidence := evaluation.confidence, estimatedWatts := evaluation.estimatedWatts }
  else none

def evaluateEnergyIntelligence : List Suggestion :=
  input.devices.filterMap fun device => suggest device input

/-- The device is on, free to be turned off, of a known wattage and on for long enough. -/
structure Idle : Prop where
  on : device.on = true
  ordinary : device.intel.any DeviceIntel.critical = false
  watched : device.intel.any DeviceIntel.ignoreAutoPilot = false
  temporary : device.intel.any DeviceIntel.expectedAlwaysOn = false
  material : hasMaterialWatts device input = true
  long : input.options.minIdleMinutes ≤ onMinutes device input

def OwnerInRoom : Prop :=
  ∃ estimate ∈ input.presence, owner device = some estimate.userId ∧ estimate.present = true ∧
    (nonEmpty device.roomId).isSome = true ∧ estimate.roomId = device.roomId

structure SafeAndMonotone : Prop where
  idle : ∀ device ∈ input.devices, suggest device input ≠ none → Idle device input
  ownerAway : ∀ device ∈ input.devices, suggest device input ≠ none → ¬OwnerInRoom device input
  monotone : ∀ device ∈ input.devices, ∀ left right estimate, input.presence = left ++ right →
    estimate.present = true → input.options.presentThreshold ≤ estimate.confidence →
    estimate.roomId = device.roomId →
    let more := { input with presence := left ++ estimate :: right }
    (suggest device more ≠ none → suggest device input ≠ none) ∧
      areaVacancy device more ≤ areaVacancy device input
  bounded : ∀ device ∈ input.devices, let confidence := (evaluateDevice device input).confidence
    ∀ value ∈ [confidence.presence, confidence.roomVacancy, confidence.zoneVacancy,
      confidence.ownership, confidence.energy, confidence.decision], 0 ≤ value ∧ value ≤ 1

end Devices

variable {presence more : List PresenceEstimate} {counts : PresenceEstimate → Bool}
  {device : EnergyDeviceInput} {input : EnergyIntelInput}

theorem clamp01_nonneg (number : ℚ) : 0 ≤ clamp01 number :=
  le_min zero_le_one (le_max_left _ _)

theorem clamp01_le_one (number : ℚ) : clamp01 number ≤ 1 := min_le_left _ _

theorem clamp01_complement_anti {low high : ℚ} (le : low ≤ high) :
    clamp01 (1 - high) ≤ clamp01 (1 - low) :=
  min_le_min le_rfl (max_le_max le_rfl (sub_le_sub_left le 1))

theorem le_foldl_max (values : List ℚ) (start : ℚ) : start ≤ values.foldl max start ∧
    ∀ value ∈ values, value ≤ values.foldl max start := by
  induction values generalizing start with
  | nil => simp
  | cons first rest ih =>
    rcases ih (max start first) with ⟨least, others⟩
    refine ⟨(le_max_left _ _).trans least, ?_⟩
    intro value member
    rcases List.mem_cons.mp member with rfl | member
    · exact (le_max_right _ _).trans least
    · exact others value member

theorem foldl_max_mem (values : List ℚ) (start : ℚ) :
    values.foldl max start = start ∨ values.foldl max start ∈ values := by
  induction values generalizing start with
  | nil => exact .inl rfl
  | cons first rest ih =>
    rcases ih (max start first) with same | member
    · rw [List.foldl_cons, same]
      rcases max_choice start first with same | same <;> rw [same]
      · exact .inl rfl
      · exact .inr (.head _)
    · exact .inr (.tail _ member)

theorem maxConfidence_nonneg : 0 ≤ maxConfidence presence counts := (le_foldl_max _ _).1

theorem le_maxConfidence {estimate : PresenceEstimate} (member : estimate ∈ presence)
    (counted : counts estimate = true) : estimate.confidence ≤ maxConfidence presence counts :=
  (le_foldl_max _ _).2 _ (List.mem_map_of_mem (List.mem_filter.mpr ⟨member, counted⟩))

theorem maxConfidence_attained (presence : List PresenceEstimate)
    (counts : PresenceEstimate → Bool) : maxConfidence presence counts = 0 ∨ ∃ estimate ∈ presence,
    counts estimate = true ∧ maxConfidence presence counts = estimate.confidence := by
  refine (foldl_max_mem _ 0).imp_right fun member => ?_
  rcases List.mem_map.mp member with ⟨estimate, kept, same⟩
  rcases List.mem_filter.mp kept with ⟨member, counted⟩
  exact ⟨estimate, member, counted, same.symm⟩

theorem maxConfidence_mono (kept : presence ⊆ more) :
    maxConfidence presence counts ≤ maxConfidence more counts := by
  rcases maxConfidence_attained presence counts with none | found
  · rw [none]
    exact maxConfidence_nonneg
  · rcases found with ⟨estimate, member, counted, same⟩
    rw [same]
    exact le_maxConfidence (kept member) counted

/-- More estimates make no area emptier. -/
theorem areaVacancy_anti (kept : input.presence ⊆ more) :
    areaVacancy device { input with presence := more } ≤ areaVacancy device input := by
  rw [areaVacancy, areaVacancy]
  split_ifs
  · rw [roomVacancy, roomVacancy, roomOccupancyConfidence, roomOccupancyConfidence]
    refine clamp01_complement_anti ?_
    split
    · exact le_rfl
    · exact maxConfidence_mono kept
  · rw [zoneVacancy, zoneVacancy, zoneOccupancyConfidence, zoneOccupancyConfidence]
    refine clamp01_complement_anti ?_
    dsimp only
    split
    · exact le_rfl
    · exact maxConfidence_mono kept
  · exact clamp01_complement_anti (maxConfidence_mono kept)

/-- A device is suggested exactly if it is idle in an area that is empty enough. -/
theorem suggest_iff : suggest device input ≠ none ↔
    Idle device input ∧ input.options.candidateVacancyFloor ≤ areaVacancy device input := by
  have candidate : suggest device input ≠ none ↔ skipReason device input = none := by
    simp [suggest, evaluateDevice]
  rw [candidate, skipReason]
  split_ifs with off critical ignored always light early occupied
  case neg =>
    refine iff_of_true rfl ⟨?_, not_lt.mp occupied⟩
    exact ⟨Bool.not_eq_false _ ▸ off, Bool.not_eq_true _ ▸ critical, Bool.not_eq_true _ ▸ ignored,
      Bool.not_eq_true _ ▸ always, Bool.not_eq_false _ ▸ light, not_lt.mp early⟩
  all_goals
    refine iff_of_false nofun ?_
    rintro ⟨idle, empty⟩
    rcases idle with ⟨on, ordinary, watched, temporary, material, long⟩
    first
      | exact absurd early (not_lt.mpr long)
      | exact absurd occupied (not_lt.mpr empty)
      | simp_all

theorem OwnerInRoom.placed (inRoom : OwnerInRoom device input) :
    (nonEmpty device.roomId).isSome = true := by
  rcases inRoom with ⟨_, _, _, _, placed, _⟩
  exact placed

/-- A room is not empty enough exactly if one of the estimates alone says so. -/
theorem room_occupied_iff (placed : (nonEmpty device.roomId).isSome = true)
    (most : input.options.candidateVacancyFloor ≤ 1) :
    areaVacancy device input < input.options.candidateVacancyFloor ↔
      ∃ estimate ∈ input.presence, estimate.present = true ∧
        input.options.presentThreshold ≤ estimate.confidence ∧ estimate.roomId = device.roomId ∧
        clamp01 (1 - estimate.confidence) < input.options.candidateVacancyFloor := by
  rcases Option.isSome_iff_exists.mp placed with ⟨room, here⟩
  have same : device.roomId = some room := (Option.filter_eq_some_iff.mp here).1
  rw [areaVacancy, if_pos placed, roomVacancy, roomOccupancyConfidence, here, same]
  dsimp only
  constructor
  · intro below
    rcases maxConfidence_attained input.presence (fun estimate =>
      estimate.present && decide (input.options.presentThreshold ≤ estimate.confidence) &&
        decide (estimate.roomId = some room)) with none | found
    · rw [none] at below
      exact absurd (below.trans_le most) (by simp [clamp01])
    · rcases found with ⟨estimate, member, counted, same⟩
      rw [same] at below
      simp only [Bool.and_eq_true, decide_eq_true_eq] at counted
      exact ⟨estimate, member, counted.1.1, counted.1.2, counted.2, below⟩
  · rintro ⟨estimate, member, present, certain, located, below⟩
    exact (clamp01_complement_anti (le_maxConfidence member
      (by simp [present, certain, located]))).trans_lt below

/--
The suggestions are safe exactly if the room of every idle device whose owner
is there is occupied by some estimate that counts.
-/
theorem safeAndMonotone_iff (most : input.options.candidateVacancyFloor ≤ 1) :
    SafeAndMonotone input ↔ ∀ device ∈ input.devices, Idle device input →
      OwnerInRoom device input → ∃ estimate ∈ input.presence, estimate.present = true ∧
        input.options.presentThreshold ≤ estimate.confidence ∧ estimate.roomId = device.roomId ∧
        clamp01 (1 - estimate.confidence) < input.options.candidateVacancyFloor := by
  constructor
  · intro safe device member idle inRoom
    refine (room_occupied_iff inRoom.placed most).mp (not_le.mp fun empty => ?_)
    exact safe.ownerAway device member (suggest_iff.mpr ⟨idle, empty⟩) inRoom
  · intro occupied
    constructor
    · intro device _ suggested
      exact (suggest_iff.mp suggested).1
    · intro device member suggested inRoom
      rcases suggest_iff.mp suggested with ⟨idle, empty⟩
      have below := (room_occupied_iff inRoom.placed most).mpr (occupied device member idle inRoom)
      exact absurd empty (not_le.mpr below)
    · intro device _ left right estimate parts _ _ _
      have kept : input.presence ⊆ left ++ estimate :: right := by
        rw [parts]
        intro other member
        simp only [List.mem_append] at member ⊢
        tauto
      refine ⟨fun suggested => ?_, areaVacancy_anti kept⟩
      rcases suggest_iff.mp suggested with ⟨idle, empty⟩
      exact suggest_iff.mpr ⟨{ idle with }, empty.trans (areaVacancy_anti kept)⟩
    · intro device _ _ value member
      simp only [List.mem_cons, List.not_mem_nil, or_false] at member
      rcases member with rfl | rfl | rfl | rfl | rfl | rfl <;>
        exact ⟨clamp01_nonneg _, clamp01_le_one _⟩

/-- Ann's lamp in the study has been on for half an hour. -/
def lamp : EnergyDeviceInput :=
  { deviceId := "lamp", roomId := some "study", zoneId := none, on := true, onSinceMs := some 0
    watts := some 40, intel := some ⟨some "ann", false, false, false, none⟩ }

/-- What is known while Ann is thought to be in the study. -/
def withAnn (confidence : ℚ) : EnergyIntelInput :=
  ⟨1800000, [lamp], [⟨"ann", true, confidence, some "study"⟩], [], {}⟩

theorem safeAndMonotone_withAnn : SafeAndMonotone (withAnn (9 / 10)) :=
  (safeAndMonotone_iff (by decide +kernel)).mpr fun device member _ _ =>
    ⟨_, .head _, rfl, by decide +kernel, by cases member <;> [rfl; contradiction],
      by decide +kernel⟩

/-- If it is less certain that she is there, her lamp is suggested to be turned off. -/
theorem suggested_beside_owner :
    suggest lamp (withAnn (1 / 2)) ≠ none ∧ OwnerInRoom lamp (withAnn (1 / 2)) :=
  ⟨by decide +kernel, _, .head _, by decide, rfl, by decide, rfl⟩

end SupremeOs.Intelligence.Exact
