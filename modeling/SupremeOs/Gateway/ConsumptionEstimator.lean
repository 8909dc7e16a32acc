import Mathlib.Data.Rat.Floor
import Mathlib.Tactic.Linarith
import SupremeOs.Support.Machine
import SupremeOs.Support.OrderedMap

/-!
# Estimated consumption

Each minute a device is seen on it accrues the energy of its rated wattage, and
a flush records what has accrued, rounded to thousandths of a kilowatt hour,
and clears it.  What is recorded and what is still accrued should make up what
was consumed.  A flush drops the remainders of the rounding and the amounts
whose recording was rejected, and these add up over the flushes.

Energies are exact rationals.  Beside the estimator its environment is kept:
what was consumed, what has been recorded, and what has been dropped.
-/

namespace SupremeOs.Gateway

open Support OrderedMap Option

structure ConsumptionEstimator where
  /-- Kilowatt hours accrued since the last flush. -/
  acc : OrderedMap String ℚ
  ticks : Nat
  flushEvery : ℚ

/-- The estimator, and amounts of energy in the order in which they occurred. -/
structure Metering extends ConsumptionEstimator where
  consumed : List (String × ℚ)
  recorded : List (String × ℚ)
  dropped : List (String × ℚ)

namespace Metering

def constructed (flushEveryTicks : Option ℚ) : Metering :=
  ⟨⟨.empty, 0, flushEveryTicks.getD 60⟩, [], [], []⟩

def addMinute (id : String) (watts : ℚ) (metering : Metering) : Metering :=
  { metering with
    acc := metering.acc.set id ((metering.acc.get id).getD 0 + watts / 1000 / 60)
    consumed := metering.consumed ++ [(id, watts / 60000)] }

/-- The loop over the devices, and whether it ends; a rejection of `isOn` leaves it. -/
def accrue (isOn : String → Option Bool) : List (String × ℚ) → Metering → Metering × Bool
  | [], metering => (metering, true)
  | (id, watts) :: rest, metering =>
    if 0 < watts then
      match isOn id with
      | none => (metering, false)
      | some true => accrue isOn rest (metering.addMinute id watts)
      | some false => accrue isOn rest metering
    else accrue isOn rest metering

/-- `Math.round(kwh * 1000) / 1000`. -/
def rounded (kwh : ℚ) : ℚ := ⌊kwh * 1000 + 1 / 2⌋ / 1000

def recordedOf (fulfilled : String → Bool) (entry : String × ℚ) : List (String × ℚ) :=
  if entry.2 ≤ 0 then []
  else if fulfilled entry.1 then [(entry.1, rounded entry.2)]
  else []

/-- What is lost of an accrued amount when it is cleared. -/
def droppedOf (fulfilled : String → Bool) (entry : String × ℚ) : ℚ :=
  if fulfilled entry.1 then entry.2 - rounded entry.2 else entry.2

/-- The recordings of the devices for which `fulfilled` fails are rejected. -/
def flush (fulfilled : String → Bool) (metering : Metering) : Metering :=
  { metering with
    acc := .empty
    recorded := metering.recorded ++ metering.acc.entries.flatMap (recordedOf fulfilled)
    dropped := metering.dropped ++
      metering.acc.entries.map fun entry => (entry.1, droppedOf fulfilled entry) }

inductive Label where
  | tick (watts : OrderedMap String ℚ) (isOn : String → Option Bool) (fulfilled : String → Bool)
  | flush (fulfilled : String → Bool)

/-- The minute is accrued, and whether the accrued energy is then flushed. -/
def minute (watts : OrderedMap String ℚ) (isOn : String → Option Bool) (metering : Metering) :
    Metering × Bool :=
  if watts.entries.isEmpty then (metering, false)
  else
    match accrue isOn watts.entries metering with
    | (accrued, false) => (accrued, false)
    | (accrued, true) =>
      ({ accrued with ticks := accrued.ticks + 1 },
        decide (accrued.flushEvery ≤ ((accrued.ticks + 1 : Nat) : ℚ)))

def perform (metering : Metering) : Label → Metering
  | .tick watts isOn fulfilled =>
    match metering.minute watts isOn with
    | (accrued, false) => accrued
    | (accrued, true) => { accrued.flush fulfilled with ticks := 0 }
  | .flush fulfilled => metering.flush fulfilled

def machine : Machine Metering Label where
  step metering label := some (metering.perform label)

def total (id : String) (amounts : List (String × ℚ)) : ℚ :=
  ((amounts.filter fun amount => amount.1 = id).map Prod.snd).sum

def accrued (metering : Metering) (id : String) : ℚ := (metering.acc.get id).getD 0

/-- What has been recorded and what is accrued of a device are what it consumed. -/
def Conserved (metering : Metering) : Prop :=
  ∀ id, |total id metering.recorded + metering.accrued id - total id metering.consumed| ≤ 1 / 2000

/-- With this flush, what flushes have dropped of each device is still within bounds. -/
def FlushDropsLittle (fulfilled : String → Bool) (metering : Metering) : Prop :=
  ∀ entry ∈ metering.acc.entries,
    |total entry.1 metering.dropped + droppedOf fulfilled entry| ≤ 1 / 2000

def DropsLittle (metering : Metering) : Label → Prop
  | .tick watts isOn fulfilled =>
    (metering.minute watts isOn).2 = true →
      (metering.minute watts isOn).1.FlushDropsLittle fulfilled
  | .flush fulfilled => metering.FlushDropsLittle fulfilled

/-- Nothing is lost but what is dropped, and the accrued amounts are positive. -/
structure Balanced (metering : Metering) : Prop where
  balance : ∀ id, total id metering.recorded + metering.accrued id + total id metering.dropped =
    total id metering.consumed
  positive : ∀ id kwh, metering.acc.get id = some kwh → 0 < kwh

variable {metering next : Metering} {id : String} {fulfilled : String → Bool}

@[simp]
theorem total_append (left right : List (String × ℚ)) :
    total id (left ++ right) = total id left + total id right := by
  simp [total]

@[simp]
theorem total_singleton (other : String) (amount : ℚ) :
    total id [(other, amount)] = if other = id then amount else 0 := by
  by_cases same : other = id <;> simp [total, same]

theorem total_flatMap (map : OrderedMap String ℚ) (amounts : String × ℚ → List (String × ℚ))
    (own : ∀ entry, ∀ amount ∈ amounts entry, amount.1 = entry.1) :
    total id (map.entries.flatMap amounts) =
      (map.get id).elim 0 fun value => total id (amounts (id, value)) := by
  have others : ∀ entry ∈ map.entries, entry.1 ≠ id →
      ((amounts entry).filter fun amount => decide (amount.1 = id)) = [] := by
    intro entry _ different
    refine List.filter_eq_nil_iff.mpr fun amount member same => different ?_
    rw [← own entry amount member, of_decide_eq_true same]
  rw [total, List.filter_flatMap, flatMap_entries id _ others]
  cases map.get id <;> rfl

theorem total_recorded (balanced : metering.Balanced) :
    total id (metering.flush fulfilled).recorded = total id metering.recorded +
      (metering.acc.get id).elim 0 fun kwh => if fulfilled id then rounded kwh else 0 := by
  have own (entry : String × ℚ) : ∀ amount ∈ recordedOf fulfilled entry, amount.1 = entry.1 := by
    intro amount member
    unfold recordedOf at member
    split at member
    · cases member
    · split at member
      · rw [List.mem_singleton.mp member]
      · cases member
  rw [flush, total_append, total_flatMap _ _ own]
  cases found : metering.acc.get id with
  | none => rfl
  | some kwh =>
    have some_kwh := not_le.mpr (balanced.positive id kwh found)
    simp only [elim_some, recordedOf, if_neg some_kwh]
    split <;> simp [total]

theorem total_dropped :
    total id (metering.flush fulfilled).dropped = total id metering.dropped +
      (metering.acc.get id).elim 0 fun kwh => droppedOf fulfilled (id, kwh) := by
  have each : (metering.acc.entries.map fun entry => (entry.1, droppedOf fulfilled entry)) =
      metering.acc.entries.flatMap fun entry => [(entry.1, droppedOf fulfilled entry)] :=
    List.map_eq_flatMap
  rw [flush, total_append, each, total_flatMap]
  · simp
  · intro entry amount member
    rw [List.mem_singleton.mp member]

section

variable (balanced : metering.Balanced)

include balanced

theorem Balanced.addMinute {watts : ℚ} (on : 0 < watts) :
    (metering.addMinute id watts).Balanced := by
  have energy : watts / 1000 / 60 = watts / 60000 := by rw [div_div]; norm_num
  have more : 0 < watts / 60000 := by positivity
  constructor
  · intro other
    have before := balanced.balance other
    simp only [Metering.addMinute, accrued, get_set, total_append, total_singleton] at before ⊢
    by_cases same : other = id
    · subst same
      simp only [if_true, getD_some]
      linarith
    · simp only [if_neg same, if_neg (Ne.symm same)]
      linarith
  · intro other kwh found
    rw [Metering.addMinute, get_set, energy] at found
    split at found
    · cases found
      cases old : metering.acc.get id with
      | none => simpa using more
      | some kwh =>
        have already := balanced.positive id kwh old
        simp only [getD_some]
        linarith
    · exact balanced.positive other kwh found

theorem Balanced.accrue (isOn : String → Option Bool) (watts : List (String × ℚ)) :
    (accrue isOn watts metering).1.Balanced ∧
      (accrue isOn watts metering).1.dropped = metering.dropped := by
  induction watts generalizing metering with
  | nil => exact ⟨balanced, rfl⟩
  | cons entry rest ih =>
    rw [Metering.accrue]
    split
    · rename_i on
      split
      · exact ⟨balanced, rfl⟩
      · exact ih (balanced.addMinute on)
      · exact ih balanced
    · exact ih balanced

theorem Balanced.minute (watts : OrderedMap String ℚ) (isOn : String → Option Bool) :
    (metering.minute watts isOn).1.Balanced ∧
      (metering.minute watts isOn).1.dropped = metering.dropped := by
  have accrued := balanced.accrue isOn watts.entries
  unfold Metering.minute
  split
  · exact ⟨balanced, rfl⟩
  · split
    · rename_i same
      rwa [same] at accrued
    · rename_i same
      rw [same] at accrued
      exact ⟨⟨accrued.1.balance, accrued.1.positive⟩, accrued.2⟩

theorem Balanced.flush : (metering.flush fulfilled).Balanced := by
  constructor
  · intro id
    have before := balanced.balance id
    rw [total_recorded balanced, total_dropped]
    simp only [accrued, Metering.flush, OrderedMap.get_empty, getD_none] at before ⊢
    cases found : metering.acc.get id with
    | none =>
      rw [found] at before
      simpa using before
    | some kwh =>
      rw [found] at before
      simp only [getD_some, elim_some, droppedOf] at before ⊢
      split <;> linarith
  · intro id kwh found
    cases (OrderedMap.get_empty id).symm.trans found

theorem Balanced.conserved_iff_dropped :
    metering.Conserved ↔ ∀ id, |total id metering.dropped| ≤ 1 / 2000 := by
  refine forall_congr' fun id => ?_
  have deviation : total id metering.recorded + metering.accrued id - total id metering.consumed =
      -total id metering.dropped := by
    rw [← balanced.balance id]
    ring
  rw [deviation, abs_neg]

theorem Balanced.flush_conserved_iff (conserved : metering.Conserved) :
    (metering.flush fulfilled).Conserved ↔ metering.FlushDropsLittle fulfilled := by
  rw [balanced.conserved_iff_dropped] at conserved
  rw [balanced.flush.conserved_iff_dropped]
  constructor
  · intro little entry member
    have bound := little entry.1
    rwa [total_dropped, get_eq_some_iff.mpr member, elim_some] at bound
  · intro little id
    rw [total_dropped]
    cases found : metering.acc.get id with
    | none => simpa using conserved id
    | some kwh => exact little (id, kwh) (get_eq_some_iff.mp found)

theorem Balanced.perform (label : Label) :
    (metering.perform label).Balanced := by
  cases label with
  | flush fulfilled => exact balanced.flush
  | tick watts isOn fulfilled =>
    have accrued := (balanced.minute watts isOn).1
    simp only [Metering.perform]
    split
    · rename_i same
      rwa [same] at accrued
    · rename_i same
      rw [same] at accrued
      have flushed : (Metering.flush fulfilled _).Balanced := accrued.flush
      exact ⟨flushed.balance, flushed.positive⟩

theorem Balanced.perform_conserved_iff (conserved : metering.Conserved) (label : Label) :
    (metering.perform label).Conserved ↔ metering.DropsLittle label := by
  cases label with
  | flush fulfilled => exact balanced.flush_conserved_iff conserved
  | tick watts isOn fulfilled =>
    rcases balanced.minute watts isOn with ⟨accrued, dropped⟩
    have still : (metering.minute watts isOn).1.Conserved := by
      rw [accrued.conserved_iff_dropped, dropped]
      exact balanced.conserved_iff_dropped.mp conserved
    simp only [Metering.perform, DropsLittle]
    split
    · rename_i same
      rw [same] at still ⊢
      exact iff_of_true still nofun
    · rename_i same
      rw [same] at accrued still ⊢
      rw [forall_prop_of_true rfl]
      exact accrued.flush_conserved_iff still

end

theorem balanced_constructed (flushEveryTicks : Option ℚ) :
    (constructed flushEveryTicks).Balanced :=
  ⟨fun _ => by simp [constructed, accrued, total, OrderedMap.get_empty],
    fun id _ found => by cases (OrderedMap.get_empty id).symm.trans found⟩

end Metering

end SupremeOs.Gateway
