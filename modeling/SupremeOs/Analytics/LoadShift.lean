import SupremeOs.DomainModel.JsValue

/-!
# Load shifting

A tariff has a rate for each hour of a kind of day.  Loads may run while the
rate is at most a ceiling or, without a ceiling, while it is below the highest
rate of the tariff.
-/

namespace SupremeOs.Analytics

open DomainModel

inductive DayType where
  | weekday
  | weekend
deriving DecidableEq

structure TariffPeriod where
  name : String
  ratePerKwh : JsNumber
  hours : List JsNumber
  dayTypes : Option (List DayType)

structure Tariff where
  currency : String
  periods : List TariffPeriod

def rateAt (tariff : Tariff) (minuteOfDay : Nat) (weekend : Bool) : Option (String × JsNumber) :=
  let hour : JsNumber := .finite (minuteOfDay / 60 : Nat)
  let dayType : DayType := if weekend then .weekend else .weekday
  (tariff.periods.find? fun period => period.hours.contains hour &&
    (period.dayTypes.getD [.weekday, .weekend]).contains dayType).map fun period =>
      (period.name, period.ratePerKwh)

def peakRate (tariff : Tariff) : JsNumber :=
  tariff.periods.foldl (fun peak period => peak.max period.ratePerKwh) (.finite 0)

structure LoadShiftDecision where
  allowRun : Bool
  period : Option String
  currentRate : Option JsNumber
  peakRate : JsNumber

def loadShiftDecision (tariff : Tariff) (minuteOfDay : Nat) (weekend : Bool)
    (maxRunRatePerKwh : Option JsNumber) : LoadShiftDecision :=
  let peak := peakRate tariff
  match rateAt tariff minuteOfDay weekend with
  | none => ⟨true, none, none, peak⟩
  | some (name, rate) =>
    { allowRun :=
        match maxRunRatePerKwh with
        | some ceiling => rate.lessOrEqual ceiling
        | none => rate.less peak
      period := some name
      currentRate := some rate
      peakRate := peak }

end SupremeOs.Analytics
