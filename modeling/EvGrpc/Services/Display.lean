import EvGrpc.Db.Report
import EvGrpc.Services.Charging
import Mathlib.Tactic.IntervalCases

/-!
# `DisplayService`

`services/display_service.cc`.  The statements are those of `Db.Report`.  An aggregate
without `GROUP BY` always gives a row, so the handlers' branches for a result without
one are left out.  `util/last_day_of_month.cc` is here too, with its agreement with the
calendar.
-/

namespace EvGrpc

open Lib

/-! ## The last day of a month -/

/-- `kDays` -/
def kDays : List ℕ := [31, 28, 31, 30, 31, 30, 31, 31, 30, 31, 30, 31]

/-- `LastDayOfMonth` -/
def lastDayOfMonth (year month : ℤ) : ℕ :=
  let days := kDays.getD (month - 1).toNat 0
  if month = 2 then
    let leap := (year % 4 = 0 ∧ year % 100 ≠ 0) ∨ year % 400 = 0
    if leap then 29 else days
  else days

/-- The table and the leap-year rule give the length of the month. -/
theorem lastDayOfMonth_eq (year : ℤ) (m : ℕ) (h₁ : 1 ≤ m) (h₂ : m ≤ 12) :
    lastDayOfMonth year m = daysInMonth year m := by
  have hm : ((m : ℤ) - 1).toNat = m - 1 := by omega
  unfold lastDayOfMonth daysInMonth isLeap
  rw [hm]
  by_cases hleap : (year % 4 = 0 ∧ year % 100 ≠ 0) ∨ year % 400 = 0
  · interval_cases m <;> simp [kDays, monthLengths]
  · interval_cases m <;> simp [kDays, monthLengths]

/-! ## Shared pieces -/

def noAggregateRow : Status := ⟨.INVALID_ARGUMENT, "no aggregate row"⟩

/-- Refuse with a message. -/
def invalidArgument (message : String) : Status := ⟨.INVALID_ARGUMENT, message⟩

/-- The gate in front of three of the reports: go on only if the statement found a
charging. -/
def ifExists {ρ : Type} (q : Database → Except Exn Bool) (body : Rpc (Reply ρ)) :
    Rpc (Reply ρ) := do
  let hasData ← exec q
  if !hasData then fail noAggregateRow else body

/-- A total as a `double`. -/
def kmToDouble (n : ℤ) : Double := .fin n

/-- A gated report: the totals, and the response made from them. -/
def gatedReport {α ρ : Type} (e : Database → Except Exn Bool) (q : Database → Except Exn α)
    (f : α → ρ) : Rpc (Reply ρ) :=
  withConn <| ifExists e do
    let row ← exec q
    let resp ← convert (.ok (f row))
    return (.OK, some resp)

/-! ## Summary and period reports -/

/-- The response from the totals of a vehicle. -/
def vehicleCostSummaryOf (vehicleId : String) (row : Totals) : VehicleCostSummary :=
  let totalCost := row.cost.toDouble
  let totalKwh := row.kwh.toDouble
  { vehicleId
    totalCost
    totalKwh
    avgYuanPerKwh := Double.ratio totalCost totalKwh
    avgYuanPerKm := Double.ratio totalCost (kmToDouble row.km) }

/-- `GetVehicleCostSummary` -/
def getVehicleCostSummary (md : Metadata) (req : WindowRequest) :
    Prog Op (Reply VehicleCostSummary) :=
  authenticated md "/evgrpc.DisplayService/GetVehicleCostSummary" <|
    validated (if req.vehicleId = "" then invalidArgument "vehicle_id is required" else .OK) <|
    catching <|
      gatedReport (costSummaryExists req) (costSummary req) (vehicleCostSummaryOf req.vehicleId)

/-- The response from the totals of a period. -/
def periodReportOf (year month : Int32) (vehicleId : String) (row : Totals) : PeriodReport where
  year := year
  month := month
  totalCost := row.cost.toDouble
  totalKwh := row.kwh.toDouble
  totalKm := kmToDouble row.km
  vehicleId := vehicleId

/-- A period report. -/
def periodReport (year month : Int32) (period : Instant → Bool) (vehicleId : String) :
    Rpc (Reply PeriodReport) :=
  gatedReport (periodExists period vehicleId) (periodTotals period vehicleId)
    (periodReportOf year month vehicleId)

/-- The checks of `GetMonthlyReport`, made in one. -/
def validateMonth (req : GetMonthlyReportRequest) : Status :=
  if req.year.toInt < 1900 ∨ req.month.toInt < 1 ∨ 12 < req.month.toInt then
    invalidArgument "year must be >= 1900 and month must be 1..12"
  else .OK

/-- `GetMonthlyReport` -/
def getMonthlyReport (md : Metadata) (req : GetMonthlyReportRequest) :
    Prog Op (Reply PeriodReport) :=
  authenticated md "/evgrpc.DisplayService/GetMonthlyReport" <|
    validated (validateMonth req) <| catching <|
      periodReport req.year req.month (monthPeriod req.year req.month) req.vehicleId

/-- The check of a year. -/
def validateYear (year : Int32) : Status :=
  if year.toInt < 1900 then invalidArgument "year must be >= 1900" else .OK

/-- `GetAnnualReport`: month 0 stands for the whole year. -/
def getAnnualReport (md : Metadata) (req : GetAnnualReportRequest) :
    Prog Op (Reply PeriodReport) :=
  authenticated md "/evgrpc.DisplayService/GetAnnualReport" <|
    validated (validateYear req.year) <| catching <|
      periodReport req.year 0 (inYear req.year) req.vehicleId

/-! ## Breakdowns -/

/-- A breakdown from its row. -/
def chargerTypeBreakdownOf (row : ChargerTypeEnum × Numeric × Numeric) : ChargerTypeBreakdown where
  chargerType := chargerTypeFromLabel row.1.label
  totalCost := row.2.1.toDouble
  totalKwh := row.2.2.toDouble
  avgYuanPerKwh := Double.ratio row.2.1.toDouble row.2.2.toDouble

/-- `GetCostByChargerType` -/
def getCostByChargerType (md : Metadata) (req : WindowRequest) :
    Prog Op (Reply (List ChargerTypeBreakdown)) :=
  authenticated md "/evgrpc.DisplayService/GetCostByChargerType" <| catching <|
    readAll (costByChargerType req) fun result => .ok (result.map chargerTypeBreakdownOf)

/-- A breakdown from its row. -/
def sourceCategoryBreakdownOf (row : (Uuid × String) × Numeric × Numeric) :
    SourceCategoryBreakdown where
  sourceCategoryId := uuidOut row.1.1
  sourceCategoryName := row.1.2
  totalCost := row.2.1.toDouble
  totalKwh := row.2.2.toDouble
  avgYuanPerKwh := Double.ratio row.2.1.toDouble row.2.2.toDouble

/-- `GetCostBySourceCategory` -/
def getCostBySourceCategory (md : Metadata) (req : WindowRequest) :
    Prog Op (Reply (List SourceCategoryBreakdown)) :=
  authenticated md "/evgrpc.DisplayService/GetCostBySourceCategory" <| catching <|
    readAll (costBySourceCategory req) fun result => .ok (result.map sourceCategoryBreakdownOf)

/-! ## Reports per vehicle -/

/-- `kwh_by_vehicle`: the first entry for a vehicle stays. -/
def kwhByVehicle (rows : List (Uuid × Numeric)) (vid : String) : Double :=
  match rows.find? fun row => decide (uuidOut row.1 = vid) with
  | some row => row.2.toDouble
  | none => 0

/-- The entry of a vehicle, from its distance and the energy of all vehicles. -/
def consumptionEfficiencyOf (kwhRows : List (Uuid × Numeric)) (row : Uuid × ℤ) :
    ConsumptionEfficiency :=
  let vid := uuidOut row.1
  let totalKm := kmToDouble row.2
  let totalKwh := kwhByVehicle kwhRows vid
  { vehicleId := vid
    kmPerKwh := Double.ratio totalKm totalKwh
    kwhPer100km := Double.scale 100 (Double.ratio totalKwh totalKm)
    totalKm
    totalKwh }

/-- `GetConsumptionEfficiency` -/
def getConsumptionEfficiency (md : Metadata) (req : WindowRequest) :
    Prog Op (Reply (List ConsumptionEfficiency)) :=
  authenticated md "/evgrpc.DisplayService/GetConsumptionEfficiency" <| catching <| withConn do
    let kmRows ← exec (efficiencyKm req)
    let kwhRows ← exec (efficiencyKwh req)
    let efficiencies ← convert (.ok (kmRows.map (consumptionEfficiencyOf kwhRows)))
    return (.OK, some efficiencies)

/-- The entry of a vehicle; a row without a vehicle is skipped. -/
def rangeAccuracyOf (row : Option Uuid × ℤ × ℤ) : Option RangeAccuracy :=
  let vid := (row.1.map uuidOut).getD ""
  if vid = "" then none
  else
    let dashboard := kmToDouble row.2.1
    let actual := kmToDouble row.2.2
    some { vehicleId := vid
           dashboardRangeTotalKm := dashboard
           actualMileageTotalKm := actual
           accuracyRatio := Double.ratio actual dashboard }

/-- `GetRangeAccuracy` -/
def getRangeAccuracy (md : Metadata) (req : WindowRequest) : Prog Op (Reply (List RangeAccuracy)) :=
  authenticated md "/evgrpc.DisplayService/GetRangeAccuracy" <| catching <|
    readAll (rangeAccuracy req) fun rows => .ok (rows.filterMap rangeAccuracyOf)

/-- Reading a `bigint` as an `int32_t`. -/
def asInt32 (n : ℕ) : Except Exn ℤ :=
  if (n : ℤ) ≤ 2147483647 then .ok n
  else .error ⟨.other, "Could not convert to int: Value out of range."⟩

/-- A bucket from its row. -/
def temperatureBucketOf (row : String × ℕ × ℤ × Numeric) : Except Exn TemperatureBucket := do
  let sampleCount ← asInt32 row.2.1
  let totalKm := kmToDouble row.2.2.1
  let totalKwh := row.2.2.2.toDouble
  return { label := row.1
           avgKwhPer100km := Double.scale 100 (Double.ratio totalKwh totalKm)
           sampleCount }

/-- `GetTemperatureConsumptionCorrelation` -/
def getTemperatureConsumptionCorrelation (md : Metadata) (req : WindowRequest) :
    Prog Op (Reply (List TemperatureBucket)) :=
  authenticated md "/evgrpc.DisplayService/GetTemperatureConsumptionCorrelation" <| catching <|
    readAll (temperatureBuckets req) fun rows => rows.mapM temperatureBucketOf

/-! ## Charging reports -/

/-- The response from the row of a charging report. -/
def chargingReportOf (year month day : Int32) (vehicleId : String) (row : Numeric × Numeric × ℤ) :
    ChargingReport where
  year := year
  month := month
  day := day
  totalCost := row.1.toDouble
  totalKwh := row.2.1.toDouble
  count := row.2.2
  vehicleId := vehicleId

/-- The body of a charging report. -/
def chargingReport (year month day : Int32) (vehicleId : String)
    (q : Database → Except Exn (Numeric × Numeric × ℤ)) : Rpc (Reply ChargingReport) :=
  readAll q fun row => .ok (chargingReportOf year month day vehicleId row)

/-- The checks of `GetDailyChargingReport`. -/
def validateDaily (req : GetDailyChargingReportRequest) : Status :=
  if req.year.toInt < 1900 then invalidArgument "year must be >= 1900"
  else if req.month.toInt < 1 ∨ 12 < req.month.toInt then invalidArgument "month must be 1..12"
  else if req.day.toInt < 1 ∨ (lastDayOfMonth req.year.toInt req.month.toInt : ℤ) < req.day.toInt then
    invalidArgument "day out of range for given year/month"
  else .OK

/-- `GetDailyChargingReport` -/
def getDailyChargingReport (md : Metadata) (req : GetDailyChargingReportRequest) :
    Prog Op (Reply ChargingReport) :=
  authenticated md "/evgrpc.DisplayService/GetDailyChargingReport" <|
    validated (validateDaily req) <| catching <|
      chargingReport req.year req.month req.day req.vehicleId (dailyCharging req)

/-- The checks of `GetMonthlyChargingReport`. -/
def validateMonthly (req : GetMonthlyChargingReportRequest) : Status :=
  if req.year.toInt < 1900 then invalidArgument "year must be >= 1900"
  else if req.month.toInt < 1 ∨ 12 < req.month.toInt then invalidArgument "month must be 1..12"
  else .OK

/-- `GetMonthlyChargingReport` -/
def getMonthlyChargingReport (md : Metadata) (req : GetMonthlyChargingReportRequest) :
    Prog Op (Reply ChargingReport) :=
  authenticated md "/evgrpc.DisplayService/GetMonthlyChargingReport" <|
    validated (validateMonthly req) <| catching <|
      chargingReport req.year req.month 0 req.vehicleId (monthlyCharging req)

/-- `GetAnnualChargingReport` -/
def getAnnualChargingReport (md : Metadata) (req : GetAnnualChargingReportRequest) :
    Prog Op (Reply ChargingReport) :=
  authenticated md "/evgrpc.DisplayService/GetAnnualChargingReport" <|
    validated (validateYear req.year) <| catching <|
      chargingReport req.year 0 0 req.vehicleId (annualCharging req)

end EvGrpc
