import Mathlib.Data.Finset.Card
import Mathlib.Tactic.Tauto
import SupremeOs.Intelligence.EnergyDecision

/-!
# Occupancy of zones

The tracker places the users that are present into zones and compares each
update with the one before it.  For each zone, and for the house, it remembers
since when nobody has been there.  What it says of an area should follow from
the history of updates: who is there, who came and went, and for how long the
area has been vacant.

A zone without an id has no occupants, whatever rooms it has.  The
names of the zones are left out.
-/

namespace SupremeOs.Intelligence

open Support DomainModel List OrderedMap

structure AreaOccupancy where
  occupants : Finset String
  occupied : Bool
  vacantForMs : ℚ
  arrived : Finset String
  departed : Finset String
deriving DecidableEq

structure HouseOccupancy where
  house : AreaOccupancy
  zones : List (String × AreaOccupancy)

structure ZoneOccupancyTracker where
  /-- By the ids of the zones; `none` while a zone is occupied. -/
  zoneVacantSince : OrderedMap String (Option ℚ)
  houseVacantSince : Option ℚ
  prevZoneOccupants : OrderedMap String (Finset String)
  prevHouseOccupants : Finset String
  started : Bool

/-- The arguments of a call of `update`, beside the zones. -/
structure Update where
  estimates : List PresenceEstimate
  now : ℚ

namespace ZoneOccupancyTracker

def constructed : ZoneOccupancyTracker := ⟨.empty, none, .empty, ∅, false⟩

def addOccupant (zones : List Zone) (zoneOccupants : OrderedMap String (Finset String))
    (e : PresenceEstimate) : OrderedMap String (Finset String) :=
  if e.present then
    match nonEmpty (zoneOfRoom zones e.roomId) with
    | some zid => zoneOccupants.set zid (insert e.userId ((zoneOccupants.get zid).getD ∅))
    | none => zoneOccupants
  else zoneOccupants

def zoneOccupants (zones : List Zone) (estimates : List PresenceEstimate) :
    OrderedMap String (Finset String) :=
  estimates.foldl (addOccupant zones) (zones.foldl (fun map zone => map.set zone.id ∅) .empty)

def housePresent (estimates : List PresenceEstimate) : Finset String :=
  ((estimates.filter PresenceEstimate.present).map PresenceEstimate.userId).toFinset

def areaOccupancy (occupants prev : Finset String) (since : Option ℚ) (now : ℚ) :
    AreaOccupancy where
  occupants := occupants
  occupied := decide (0 < occupants.card)
  vacantForMs :=
    match since with
    | none => 0
    | some since => if 0 < occupants.card then 0 else max 0 (now - since)
  arrived := occupants \ prev
  departed := prev \ occupants

/-- Clear when occupied; stamp when it first goes, or starts, vacant. -/
def updateZone (byZone : OrderedMap String (Finset String)) (now : ℚ) (zone : Zone)
    (tracker : ZoneOccupancyTracker) : (String × AreaOccupancy) × ZoneOccupancyTracker :=
  let occupants := (byZone.get zone.id).getD ∅
  let prev := (tracker.prevZoneOccupants.get zone.id).getD ∅
  let vacantSince :=
    if 0 < occupants.card then tracker.zoneVacantSince.set zone.id none
    else if (tracker.zoneVacantSince.get zone.id).join = none then
      tracker.zoneVacantSince.set zone.id (some now)
    else tracker.zoneVacantSince
  ((zone.id, areaOccupancy occupants prev (vacantSince.get zone.id).join now), { tracker with
      zoneVacantSince := vacantSince
      prevZoneOccupants := tracker.prevZoneOccupants.set zone.id occupants })

def updateZones (byZone : OrderedMap String (Finset String)) (now : ℚ) :
    List Zone → ZoneOccupancyTracker → List (String × AreaOccupancy) × ZoneOccupancyTracker
  | [], tracker => ([], tracker)
  | zone :: rest, tracker =>
    let first := updateZone byZone now zone tracker
    let others := updateZones byZone now rest first.2
    (first.1 :: others.1, others.2)

def update (zones : List Zone) (tracker : ZoneOccupancyTracker) (call : Update) :
    HouseOccupancy × ZoneOccupancyTracker :=
  let updated := updateZones (zoneOccupants zones call.estimates) call.now zones tracker
  let present := housePresent call.estimates
  let vacantSince :=
    if 0 < present.card then none else some (tracker.houseVacantSince.getD call.now)
  (⟨areaOccupancy present tracker.prevHouseOccupants vacantSince call.now, updated.1⟩,
    { updated.2 with
      houseVacantSince := vacantSince
      prevHouseOccupants := present
      started := true })

def after (zones : List Zone) (history : List Update) : ZoneOccupancyTracker :=
  history.foldl (fun tracker call => (update zones tracker call).2) constructed

/-- The first zone that lists the room is this one, and it has an id. -/
def Belongs (zones : List Zone) (zone : Zone) (roomId : Option String) : Prop :=
  zone.id ≠ "" ∧ ∃ room ∈ roomId, room ≠ "" ∧
    zones.find? (fun other => other.roomIds.contains room) = some zone

instance (zones : List Zone) (zone : Zone) (roomId : Option String) :
    Decidable (Belongs zones zone roomId) := inferInstanceAs (Decidable (_ ∧ _))

/-- The present users whose room belongs to the zone. -/
def presentIn (zones : List Zone) (zone : Zone) (estimates : List PresenceEstimate) :
    Finset String :=
  housePresent (estimates.filter fun e => Belongs zones zone e.roomId)

variable (inside : List PresenceEstimate → Finset String)

/-- The current run of updates with nobody inside began at that time. -/
def VacantSince (history : List Update) (since : ℚ) : Prop :=
  ∃ before first rest, history = before ++ first :: rest ∧ first.now = since ∧
    (∀ call ∈ first :: rest, inside call.estimates = ∅) ∧
    ∀ call ∈ before.getLast?, inside call.estimates ≠ ∅

def lastInside (history : List Update) : Finset String :=
  (history.getLast?.map fun call => inside call.estimates).getD ∅

structure AreaRight (history : List Update) (call : Update) (area : AreaOccupancy) : Prop where
  occupants : area.occupants = inside call.estimates
  occupied : area.occupied = true ↔ inside call.estimates ≠ ∅
  noAge : area.occupied = true → area.vacantForMs = 0
  age : area.occupied = false → ∃ since, VacantSince inside (history ++ [call]) since ∧
    area.vacantForMs = call.now - since
  moved : area.occupants = (lastInside inside history ∪ area.arrived) \ area.departed
  apart : Disjoint area.arrived area.departed

/-- What is remembered of an area after some updates. -/
def sinceAfter (history : List Update) : Option ℚ :=
  history.foldl (fun since call =>
    if 0 < (inside call.estimates).card then none else some (since.getD call.now)) none

variable {inside} {history : List Update} {call : Update} {zones : List Zone} {zone : Zone}

theorem sinceAfter_concat : sinceAfter inside (history ++ [call]) =
    if 0 < (inside call.estimates).card then none
    else some ((sinceAfter inside history).getD call.now) := by
  rw [sinceAfter, foldl_append]
  rfl

theorem sinceAfter_spec (history : List Update) :
    (sinceAfter inside history = none ∧ ∀ call ∈ history.getLast?, inside call.estimates ≠ ∅) ∨
      ∃ since, sinceAfter inside history = some since ∧ VacantSince inside history since := by
  induction history using List.reverseRecOn with
  | nil => exact .inl ⟨rfl, by simp⟩
  | append_singleton history call ih =>
    rw [sinceAfter_concat]
    by_cases someone : 0 < (inside call.estimates).card
    · rw [if_pos someone]
      simpa using Finset.nonempty_iff_ne_empty.mp (Finset.card_pos.mp someone)
    · have nobody : inside call.estimates = ∅ := by
        rwa [Finset.card_pos, Finset.not_nonempty_iff_eq_empty] at someone
      rw [if_neg someone]
      right
      rcases ih with ⟨never, ends⟩ | ⟨since, remembered, before, first, rest, rfl, began, vacant, ends⟩
      · exact ⟨call.now, by rw [never]; rfl, history, call, [], rfl, rfl, by simpa, ends⟩
      · refine ⟨since, by rw [remembered]; rfl, before, first, rest ++ [call], by simp, began, ?_, ends⟩
        intro other member
        rcases mem_append.mp (cons_append ▸ member) with old | new
        · exact vacant other old
        · rwa [mem_singleton.mp new]

theorem areaRight
    (ordered : (history ++ [call]).Pairwise fun first second => first.now ≤ second.now) :
    AreaRight inside history call (areaOccupancy (inside call.estimates) (lastInside inside history)
      (sinceAfter inside (history ++ [call])) call.now) := by
  have occupied : decide (0 < (inside call.estimates).card) = true ↔ inside call.estimates ≠ ∅ := by
    rw [decide_eq_true_iff, Finset.card_pos, Finset.nonempty_iff_ne_empty]
  refine ⟨rfl, occupied, fun someone => ?_, fun nobody => ?_, ?_, ?_⟩
  · simp only [areaOccupancy, sinceAfter_concat, if_pos (of_decide_eq_true someone)]
  · have vacant := of_decide_eq_false nobody
    rcases sinceAfter_spec (history ++ [call]) with ⟨never, -⟩ | ⟨since, remembered, began⟩
    · rw [sinceAfter_concat, if_neg vacant] at never
      cases never
    · refine ⟨since, began, ?_⟩
      rcases began with ⟨before, first, rest, split, rfl, -, -⟩
      have later : first.now ≤ call.now := by
        rw [split] at ordered
        have last := congrArg List.getLast? split
        rw [getLast?_append_cons, getLast?_append_cons] at last
        rcases mem_cons.mp (mem_of_mem_getLast? last.symm) with rfl | member
        · exact le_refl _
        · exact (pairwise_cons.mp (pairwise_append.mp ordered).2.1).1 call member
      simp only [areaOccupancy, remembered, if_neg vacant]
      exact max_eq_right (sub_nonneg.mpr later)
  · ext user
    simp only [areaOccupancy, Finset.mem_sdiff, Finset.mem_union]
    tauto
  · rw [Finset.disjoint_left]
    intro user came left
    exact (Finset.mem_sdiff.mp came).2 (Finset.mem_sdiff.mp left).1

theorem nonEmpty_eq_some {text : Option String} {value : String} :
    nonEmpty text = some value ↔ text = some value ∧ value ≠ "" := by
  simp [nonEmpty]

theorem belongs_iff (distinct : (zones.map Zone.id).Nodup) (mine : zone ∈ zones)
    (roomId : Option String) :
    nonEmpty (zoneOfRoom zones roomId) = some zone.id ↔ Belongs zones zone roomId := by
  simp only [nonEmpty_eq_some, zoneOfRoom, Option.bind_eq_some_iff, Option.map_eq_some_iff]
  constructor
  · rintro ⟨⟨room, ⟨of, named⟩, found, first, same⟩, id⟩
    obtain rfl := inj_on_of_nodup_map distinct (mem_of_find?_eq_some first) mine same
    exact ⟨id, room, of, named, first⟩
  · rintro ⟨id, room, of, named, first⟩
    exact ⟨⟨room, ⟨of, named⟩, zone, first, rfl⟩, id⟩

theorem get_zoneOccupants (distinct : (zones.map Zone.id).Nodup) (mine : zone ∈ zones)
    (estimates : List PresenceEstimate) :
    ((zoneOccupants zones estimates).get zone.id).getD ∅ = presentIn zones zone estimates := by
  have started : ((zones.foldl (fun map zone => map.set zone.id ∅)
      (.empty : OrderedMap String (Finset String))).get zone.id).getD ∅ = ∅ := by
    generalize (zones : List Zone) = others
    induction others using List.reverseRecOn with
    | nil => rw [foldl_nil, OrderedMap.get_empty]; rfl
    | append_singleton others other ih =>
      rw [foldl_append, foldl_cons, foldl_nil, get_set]
      split
      · rfl
      · exact ih
  induction estimates using List.reverseRecOn with
  | nil => exact started
  | append_singleton estimates e ih =>
    have onward : presentIn zones zone (estimates ++ [e]) = presentIn zones zone estimates ∪
        if e.present = true ∧ Belongs zones zone e.roomId then {e.userId} else ∅ := by
      by_cases belongs : Belongs zones zone e.roomId <;> by_cases present : e.present = true <;>
        simp [presentIn, housePresent, belongs, present]
    rw [onward, ← ih, zoneOccupants, foldl_append, foldl_cons, foldl_nil, addOccupant]
    by_cases present : e.present = true
    · rw [if_pos present]
      by_cases belongs : Belongs zones zone e.roomId
      · rw [(belongs_iff distinct mine _).mpr belongs, if_pos ⟨present, belongs⟩]
        rw [get_set, if_pos rfl, Option.getD_some, Finset.insert_eq, Finset.union_comm]
        rfl
      · rw [if_neg fun both => belongs both.2, Finset.union_empty]
        split
        · rename_i zid found
          rw [get_set, if_neg]
          · rfl
          · rintro rfl
            exact belongs ((belongs_iff distinct mine _).mp found)
        · rfl
    · rw [if_neg present, if_neg fun both => present both.1, Finset.union_empty]
      rfl

/-- What the tracker remembers of a zone follows from the history. -/
structure Remembers (inside : List PresenceEstimate → Finset String) (history : List Update)
    (id : String) (tracker : ZoneOccupancyTracker) : Prop where
  since : (tracker.zoneVacantSince.get id).join = sinceAfter inside history
  prev : (tracker.prevZoneOccupants.get id).getD ∅ = lastInside inside history

variable {tracker : ZoneOccupancyTracker} {byZone : OrderedMap String (Finset String)} {id : String}

theorem lastInside_concat : lastInside inside (history ++ [call]) = inside call.estimates := by
  simp [lastInside]

theorem Remembers.updateZone_same (remembers : Remembers inside history zone.id tracker)
    (occupants : (byZone.get zone.id).getD ∅ = inside call.estimates) :
    Remembers inside (history ++ [call]) zone.id (updateZone byZone call.now zone tracker).2 ∧
      (updateZone byZone call.now zone tracker).1 =
        (zone.id, areaOccupancy (inside call.estimates) (lastInside inside history)
          (sinceAfter inside (history ++ [call])) call.now) := by
  have since : ((if 0 < (inside call.estimates).card then
        tracker.zoneVacantSince.set zone.id none
      else if (tracker.zoneVacantSince.get zone.id).join = none then
        tracker.zoneVacantSince.set zone.id (some call.now)
      else tracker.zoneVacantSince).get zone.id).join = sinceAfter inside (history ++ [call]) := by
    rw [sinceAfter_concat, ← remembers.since]
    split
    · rw [get_set, if_pos rfl]
      rfl
    · cases old : (tracker.zoneVacantSince.get zone.id).join with
      | none => rw [if_pos rfl, get_set, if_pos rfl]; rfl
      | some time => rw [if_neg nofun, old]; rfl
  rw [updateZone, occupants]
  refine ⟨⟨since, ?_⟩, ?_⟩
  · rw [lastInside_concat, get_set, if_pos rfl]
    rfl
  · rw [since, remembers.prev]

theorem Remembers.updateZone_other (remembers : Remembers inside history id tracker) {now : ℚ}
    (other : id ≠ zone.id) :
    Remembers inside history id (updateZone byZone now zone tracker).2 := by
  refine ⟨Eq.trans (congrArg Option.join ?_) remembers.since,
    Eq.trans (congrArg (Option.getD · ∅) ?_) remembers.prev⟩
  · rw [updateZone]
    split
    · rw [get_set, if_neg other]
    · split
      · rw [get_set, if_neg other]
      · rfl
  · exact (get_set _ _ _ _).trans (if_neg other)

theorem updateZones_other {now : ℚ} {rest : List Zone}
    (remembers : Remembers inside history id tracker) (other : id ∉ rest.map Zone.id) :
    Remembers inside history id (updateZones byZone now rest tracker).2 := by
  induction rest generalizing tracker with
  | nil => exact remembers
  | cons first rest ih =>
    rw [map_cons, mem_cons, not_or] at other
    exact ih (remembers.updateZone_other other.1) other.2

theorem updateZones_right {rest : List Zone} {inZone : Zone → List PresenceEstimate → Finset String}
    (distinct : (rest.map Zone.id).Nodup)
    (occupants : ∀ zone ∈ rest, (byZone.get zone.id).getD ∅ = inZone zone call.estimates)
    (remembers : ∀ zone ∈ rest, Remembers (inZone zone) history zone.id tracker) :
    (∀ zone ∈ rest, Remembers (inZone zone) (history ++ [call]) zone.id
        (updateZones byZone call.now rest tracker).2) ∧
      (updateZones byZone call.now rest tracker).1 = rest.map fun zone =>
        (zone.id, areaOccupancy (inZone zone call.estimates) (lastInside (inZone zone) history)
          (sinceAfter (inZone zone) (history ++ [call])) call.now) := by
  induction rest generalizing tracker with
  | nil => exact ⟨nofun, rfl⟩
  | cons first rest ih =>
    rw [map_cons, nodup_cons] at distinct
    rcases (remembers first (.head _)).updateZone_same
      (occupants first (.head _)) with ⟨own, area⟩
    rcases @ih (updateZone byZone call.now first tracker).2 distinct.2
      (fun zone member => occupants zone (.tail _ member))
      (fun zone member => (remembers zone (.tail _ member)).updateZone_other
        fun same => distinct.1 (same ▸ mem_map_of_mem member)) with ⟨others, areas⟩
    refine ⟨fun zone member => ?_, by rw [updateZones, area, areas, map_cons]⟩
    rcases mem_cons.mp member with rfl | later
    · exact (updateZones_other own distinct.1 :)
    · exact others zone later

structure Follows (zones : List Zone) (history : List Update) (tracker : ZoneOccupancyTracker) :
    Prop where
  zones : ∀ zone ∈ zones, Remembers (presentIn zones zone) history zone.id tracker
  since : tracker.houseVacantSince = sinceAfter housePresent history
  prev : tracker.prevHouseOccupants = lastInside housePresent history

theorem Follows.updateZones (follows : Follows zones history tracker)
    (distinct : (zones.map Zone.id).Nodup) (call : Update) :
    (∀ zone ∈ zones, Remembers (presentIn zones zone) (history ++ [call]) zone.id
          (update zones tracker call).2) ∧
      (update zones tracker call).1.zones = zones.map fun zone =>
        (zone.id, areaOccupancy (presentIn zones zone call.estimates)
          (lastInside (presentIn zones zone) history)
          (sinceAfter (presentIn zones zone) (history ++ [call])) call.now) := by
  have updated := updateZones_right distinct
    (fun _ mine => get_zoneOccupants distinct mine call.estimates) follows.zones
  exact ⟨fun zone mine => ⟨(updated.1 zone mine).since, (updated.1 zone mine).prev⟩, updated.2⟩

theorem follows_after (distinct : (zones.map Zone.id).Nodup) (history : List Update) :
    Follows zones history (after zones history) := by
  induction history using List.reverseRecOn with
  | nil =>
    refine ⟨fun _ _ => ⟨?_, ?_⟩, rfl, rfl⟩
    · simp [after, constructed, sinceAfter]
    · simp [after, constructed, lastInside]
  | append_singleton history call ih =>
    rw [after, foldl_append]
    refine ⟨(ih.updateZones distinct call).1, ?_,
      (@lastInside_concat housePresent history call).symm⟩
    rw [sinceAfter_concat, ← ih.since]
    rfl

/-- What the tracker says of the house and the zones follows from the updates. -/
theorem update_right (distinct : (zones.map Zone.id).Nodup)
    (ordered : (history ++ [call]).Pairwise fun first second => first.now ≤ second.now) :
    AreaRight housePresent history call (update zones (after zones history) call).1.house ∧
      List.Forall₂ (fun zone entry => entry.1 = zone.id ∧
          AreaRight (presentIn zones zone) history call entry.2)
        zones (update zones (after zones history) call).1.zones := by
  have follows := follows_after distinct history
  constructor
  · have right := @areaRight housePresent _ _ ordered
    rw [sinceAfter_concat, ← follows.since, ← follows.prev] at right
    exact right
  · rw [(follows.updateZones distinct call).2, forall₂_map_right_iff]
    exact forall₂_same.mpr fun zone _ => ⟨rfl, areaRight ordered⟩

theorem update_right_upstairs :
    let zones : List Zone := [⟨"ground", ["hall"]⟩, ⟨"upstairs", ["hall", "bath"]⟩]
    let anna : PresenceEstimate := ⟨"anna", true, .finite 1, some "bath"⟩
    AreaRight (presentIn zones ⟨"upstairs", ["hall", "bath"]⟩) [⟨[anna], 0⟩] ⟨[], 60000⟩
      ⟨∅, false, 0, ∅, {"anna"}⟩ := by
  have right := (@update_right [⟨[⟨"anna", true, .finite 1, some "bath"⟩], 0⟩] ⟨[], 60000⟩
    [⟨"ground", ["hall"]⟩, ⟨"upstairs", ["hall", "bath"]⟩] (by decide) (by simp)).2
  rcases right with _ | ⟨-, _ | ⟨⟨-, upstairs⟩, -⟩⟩
  convert upstairs using 1
  decide +kernel

/-- In a zone without an id nobody is found. -/
theorem occupants_missed_unnamed :
    let zone : Zone := ⟨"", ["hall"]⟩
    let anna : PresenceEstimate := ⟨"anna", true, .finite 1, some "hall"⟩
    anna.present = true ∧ [zone].find? (fun other => other.roomIds.contains "hall") = some zone ∧
      (update [zone] constructed ⟨[anna], 0⟩).1.zones.map (fun entry => entry.2.occupants) =
        [∅] := by
  decide +kernel

end ZoneOccupancyTracker

end SupremeOs.Intelligence
