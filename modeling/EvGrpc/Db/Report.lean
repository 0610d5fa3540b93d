import EvGrpc.Db.Schema
import EvGrpc.Proto

/-!
# The statements of the reports

Every `SELECT` of `services/display_service.cc`, as a function of the tables.  Each of
them first coerces its parameters, so a malformed one is an error whatever the
tables hold.

The four ways a statement can filter by vehicle are kept apart: by the text of the
id unless an empty text arrived (`matchesVehicle`), by the text of the id unless `NULL` was
bound for an empty string (`matchesGiven`), by the text of the id always
(`hasVehicleText`), and by the id itself (`hasVehicle`).

Sums of `DECIMAL` columns and of integers are exact, and the cast of a total to
`DOUBLE PRECISION` keeps its value.  The difference of two `INT` columns is an `INT`
and is an error when it does not fit, and so is a `COUNT(*)::INT`.
-/

namespace EvGrpc

open Lib

/-! ## Integers -/

/-- SQLSTATE 22003 for `INT`. -/
def integerOutOfRange : Exn := dataException "integer out of range"

/-- A value of type `INT`. -/
def toInt4 (n : ℤ) : Except Exn ℤ :=
  if -2147483648 ≤ n ∧ n ≤ 2147483647 then .ok n else .error integerOutOfRange

/-- The range of `INT`. -/
def FitsInt4 (n : ℤ) : Prop := -2147483648 ≤ n ∧ n ≤ 2147483647

instance : DecidablePred FitsInt4 := fun _ => inferInstanceAs (Decidable (_ ∧ _))

theorem toInt4_eq_ok {n : ℤ} (h : FitsInt4 n) : toInt4 n = .ok n := if_pos h

/-- The distance of a trip, as a number. -/
def ConsumptionRow.km (r : ConsumptionRow) : ℤ := r.endMileage.toInt - r.beginMileage.toInt

/-- `EndMileage - BeginMileage` -/
def ConsumptionRow.mileage (r : ConsumptionRow) : Except Exn ℤ :=
  toInt4 (r.endMileage.toInt - r.beginMileage.toInt)

/-- `BeginRange - EndRange` -/
def ConsumptionRow.rangeDrop (r : ConsumptionRow) : Except Exn ℤ :=
  toInt4 (r.beginRange.toInt - r.endRange.toInt)

/-! ## Filters -/

/-- `MaybeTimestamp` as a parameter. -/
def maybeTimestamp : Option Timestamp → Param
  | none => .null
  | some t => .time t

/-- `($2::TIMESTAMPTZ IS NULL OR t >= $2) AND ($3::TIMESTAMPTZ IS NULL OR t <= $3)` -/
def inWindow (lo hi : Option Instant) (t : Instant) : Bool :=
  lo.all (fun l => decide (l ≤ t)) && hi.all fun h => decide (t ≤ h)

/-- The window of a request. -/
def WindowRequest.window (req : WindowRequest) : Except Exn (Option Instant × Option Instant) := do
  let lo ← (maybeTimestamp req.startTime).asInstant
  let hi ← (maybeTimestamp req.endTime).asInstant
  return (lo, hi)

/-- `VehicleId::text = $k` -/
def hasVehicleText (vehicleId : String) (v : Uuid) : Bool :=
  decide (uuidOut v = received vehicleId)

/-- `(length($k) = 0 OR VehicleId::text = $k)` -/
def matchesVehicle (vehicleId : String) (v : Uuid) : Bool :=
  decide (received vehicleId = "") || hasVehicleText vehicleId v

/-- `($k::TEXT IS NULL OR VehicleId::text = $k)`, with `NULL` bound for the empty string. -/
def matchesGiven (vehicleId : String) (v : Uuid) : Bool :=
  decide (vehicleId = "") || hasVehicleText vehicleId v

/-- No vehicle has the empty text for its id. -/
theorem hasVehicleText_of_received_empty {vehicleId : String} (h : received vehicleId = "")
    (v : Uuid) : hasVehicleText vehicleId v = false := by
  simp [hasVehicleText, h, uuidOut_ne_empty]

/-- ` AND VehicleId = $k`, a clause that is there only when a vehicle was given. -/
def hasVehicle (vehicleId : Option Uuid) (v : Uuid) : Bool := vehicleId.all (v = ·)

/-- The parameter of `hasVehicle`. -/
def vehicleOf (vehicleId : String) : Except Exn (Option Uuid) :=
  if vehicleId = "" then .ok none else (Param.text vehicleId).asUuid

/-- `EXTRACT(YEAR FROM t) = y` -/
def inYear (y : Int32) (t : Instant) : Bool := decide ((dateOf t).year = y.toInt)

/-- `EXTRACT(MONTH FROM t) = m` -/
def inMonth (m : Int32) (t : Instant) : Bool := decide (((dateOf t).month : ℤ) = m.toInt)

/-- The month of a monthly report. -/
def monthPeriod (y m : Int32) (t : Instant) : Bool := inYear y t && inMonth m t

/-- `make_date` -/
def makeDate (y m d : Int32) : Except Exn Date :=
  match if 1 ≤ y.toInt ∧ y.toInt ≤ maxYear then Date.make y.toInt m.toInt.toNat d.toInt.toNat
    else none with
  | some x => .ok x
  | none => .error (dataException "date field value out of range")

/-! ## Totals of one vehicle or one period -/

/-- A `SELECT` of cost, energy and distance. -/
structure Totals where
  cost : Numeric
  kwh : Numeric
  km : ℤ
  deriving DecidableEq

/-- The totals over some rows of the two tables. -/
def totals (charging : List ChargingRow) (consumption : List ConsumptionRow) :
    Except Exn Totals := do
  let km ← sumM ConsumptionRow.mileage consumption
  return ⟨(charging.map ChargingRow.cost).sum, (charging.map ChargingRow.kwhCharged).sum, km⟩

/-- Where no difference overflows, the totals are the sums. -/
theorem totals_eq_ok {charging : List ChargingRow} {consumption : List ConsumptionRow}
    (h : ∀ k ∈ consumption, FitsInt4 k.km) : totals charging consumption =
      .ok ⟨(charging.map ChargingRow.cost).sum, (charging.map ChargingRow.kwhCharged).sum,
        (consumption.map ConsumptionRow.km).sum⟩ := by
  have hkm := sumM_eq_ok (f := ConsumptionRow.mileage) (g := ConsumptionRow.km)
    fun k hk => toInt4_eq_ok (h k hk)
  unfold totals
  rw [hkm]
  rfl

/-- `GetVehicleCostSummary.exists` -/
def costSummaryExists (req : WindowRequest) (db : Database) : Except Exn Bool := do
  let (lo, hi) ← req.window
  return db.charging.any fun c =>
    matchesVehicle req.vehicleId c.vehicleId && inWindow lo hi c.startTime

/-- `GetVehicleCostSummary` -/
def costSummary (req : WindowRequest) (db : Database) : Except Exn Totals := do
  let (lo, hi) ← req.window
  totals
    (db.charging.filter fun c =>
      hasVehicleText req.vehicleId c.vehicleId && inWindow lo hi c.startTime)
    (db.consumption.filter fun k =>
      hasVehicleText req.vehicleId k.vehicleId && inWindow lo hi k.start)

/-- The `EXISTS` check of a period report: a charging that starts in the period. -/
def periodExists (period : Instant → Bool) (vehicleId : String) (db : Database) :
    Except Exn Bool :=
  .ok (db.charging.any fun c => period c.startTime && matchesVehicle vehicleId c.vehicleId)

/-- The totals of a period. -/
def periodTotals (period : Instant → Bool) (vehicleId : String) (db : Database) :
    Except Exn Totals := do
  let v ← vehicleOf vehicleId
  totals (db.charging.filter fun c => period c.startTime && hasVehicle v c.vehicleId)
    (db.consumption.filter fun k => period k.start && hasVehicle v k.vehicleId)

/-! ## Charging reports -/

/-- A `SELECT` of cost, energy and number, before the count is cast to `INT`. -/
@[ext] structure ChargingTotals where
  cost : Numeric
  kwh : Numeric
  count : ℕ
  deriving DecidableEq

/-- The totals over the charging rows that start in a period. -/
def chargingTotals (period : Instant → Bool) (vehicleId : String) (db : Database) :
    ChargingTotals :=
  let rows := db.charging.filter fun c => period c.startTime && matchesVehicle vehicleId c.vehicleId
  ⟨(rows.map ChargingRow.cost).sum, (rows.map ChargingRow.kwhCharged).sum, rows.length⟩

/-- The row of a charging report, with `COUNT(*)::INT`. -/
def ChargingTotals.row (x : ChargingTotals) : Except Exn (Numeric × Numeric × ℤ) := do
  return (x.cost, x.kwh, ← toInt4 x.count)

/-- The day of a daily report. -/
def onDay (d : Date) (t : Instant) : Bool := decide (dateOf t = d)

/-- `GetDailyChargingReport` -/
def dailyCharging (req : GetDailyChargingReportRequest) (db : Database) :
    Except Exn (Numeric × Numeric × ℤ) := do
  let d ← makeDate req.year req.month req.day
  (chargingTotals (onDay d) req.vehicleId db).row

/-- `GetMonthlyChargingReport` -/
def monthlyCharging (req : GetMonthlyChargingReportRequest) (db : Database) :
    Except Exn (Numeric × Numeric × ℤ) :=
  (chargingTotals (monthPeriod req.year req.month) req.vehicleId db).row

/-- `GetAnnualChargingReport` -/
def annualCharging (req : GetAnnualChargingReportRequest) (db : Database) :
    Except Exn (Numeric × Numeric × ℤ) :=
  (chargingTotals (inYear req.year) req.vehicleId db).row

/-! ## Breakdowns -/

/-- The charging rows a window request is about. -/
def chargingsIn (vehicleId : String) (lo hi : Option Instant) (db : Database) : List ChargingRow :=
  db.charging.filter fun c => matchesGiven vehicleId c.vehicleId && inWindow lo hi c.startTime

/-- The consumption rows a window request is about. -/
def consumptionsIn (vehicleId : String) (lo hi : Option Instant) (db : Database) :
    List ConsumptionRow :=
  db.consumption.filter fun k => matchesGiven vehicleId k.vehicleId && inWindow lo hi k.start

/-- The position of an enum value in `charger_type_enum`. -/
def ChargerTypeEnum.position : ChargerTypeEnum → ℕ
  | .fast => 0
  | .slow => 1

/-- `GetCostByChargerType` -/
def costByChargerType (req : WindowRequest) (db : Database) :
    Except Exn (List (ChargerTypeEnum × Numeric × Numeric)) := do
  let (lo, hi) ← req.window
  let groups := groupBy ChargingRow.chargerType (chargingsIn req.vehicleId lo hi db)
  return (groups.map fun g => (g.1, (g.2.map ChargingRow.cost).sum,
    (g.2.map ChargingRow.kwhCharged).sum)).mergeSort
      fun a b => decide (a.1.position ≤ b.1.position)

/-- `GetCostBySourceCategory` -/
def costBySourceCategory (req : WindowRequest) (db : Database) :
    Except Exn (List ((Uuid × String) × Numeric × Numeric)) := do
  let (lo, hi) ← req.window
  let joined := join ChargingRow.sourceCategoryId SourceCategoryRow.id
    (chargingsIn req.vehicleId lo hi db) db.sourceCategory
  let groups := groupBy (fun p => (p.1.sourceCategoryId, p.2.name)) joined
  return (groups.map fun g => (g.1, (g.2.map fun p => p.1.cost).sum,
    (g.2.map fun p => p.1.kwhCharged).sum)).mergeSort fun a b => Numeric.le b.2.1 a.2.1

/-! ## Reports per vehicle -/

/-- A sum of an integer expression for each vehicle. -/
def sumByVehicle (f : ConsumptionRow → Except Exn ℤ) (rows : List ConsumptionRow) :
    Except Exn (List (Uuid × ℤ)) :=
  (groupBy ConsumptionRow.vehicleId rows).mapM fun g => do return (g.1, ← sumM f g.2)

/-- The first statement of `GetConsumptionEfficiency` -/
def efficiencyKm (req : WindowRequest) (db : Database) : Except Exn (List (Uuid × ℤ)) := do
  let (lo, hi) ← req.window
  sumByVehicle ConsumptionRow.mileage (consumptionsIn req.vehicleId lo hi db)

/-- The second statement of `GetConsumptionEfficiency` -/
def efficiencyKwh (req : WindowRequest) (db : Database) : Except Exn (List (Uuid × Numeric)) := do
  let (lo, hi) ← req.window
  return (groupBy ChargingRow.vehicleId (chargingsIn req.vehicleId lo hi db)).map
    fun g => (g.1, (g.2.map ChargingRow.kwhCharged).sum)

/-- `GetRangeAccuracy`: vehicle, dashboard range and mileage; the vehicle is that of
the first subquery. -/
def rangeAccuracy (req : WindowRequest) (db : Database) :
    Except Exn (List (Option Uuid × ℤ × ℤ)) := do
  let (lo, hi) ← req.window
  let rows := consumptionsIn req.vehicleId lo hi db
  let d ← sumByVehicle ConsumptionRow.rangeDrop rows
  let m ← sumByVehicle ConsumptionRow.mileage rows
  return (fullOuterJoin Prod.fst Prod.fst d m).map fun p =>
    (p.1.map Prod.fst, (p.1.map Prod.snd).getD 0, (p.2.map Prod.snd).getD 0)

/-! ## Trips by temperature -/

/-- A row of `per_event`. -/
structure Trip where
  avgTemp : Numeric
  mileage : ℤ
  kwh : Numeric

/-- `INTERVAL '24 hours'` -/
def dayBefore (t : Instant) : Instant := t - microsPerDay

/-- The `CASE` over the average temperature; NaN is greater than every number. -/
def temperatureLabel : Numeric → String
  | .num t =>
      if t < 0 then "<0" else if t < 10 then "0-10" else if t < 20 then "10-20"
      else if t < 30 then "20-30" else ">30"
  | .nan => ">30"

/-- `per_event` -/
def perEvent (vehicleId : String) (lo hi : Option Instant) (db : Database) :
    Except Exn (List Trip) := do
  let trips ← (consumptionsIn vehicleId lo hi db).mapM fun k => do
    let mileage ← k.mileage
    let kwh := (db.charging.filter fun ch =>
      decide (ch.vehicleId = k.vehicleId) &&
        decide (dayBefore k.start ≤ ch.startTime ∧ ch.startTime ≤ k.endTime)).map
          ChargingRow.kwhCharged
    return (⟨(k.highestTemperature + k.lowestTemperature).half, mileage, kwh.sum⟩ : Trip)
  return trips.filter fun t => decide (0 < t.mileage)

/-- The smallest of some temperatures. -/
def minTemp (ts : List Numeric) : Numeric :=
  ts.foldl (fun a b => if Numeric.le a b then a else b) .nan

/-- `GetTemperatureConsumptionCorrelation`: label, count, distance and energy. -/
def temperatureBuckets (req : WindowRequest) (db : Database) :
    Except Exn (List (String × ℕ × ℤ × Numeric)) := do
  let (lo, hi) ← req.window
  let trips ← perEvent req.vehicleId lo hi db
  let groups := (groupBy (fun t => temperatureLabel t.avgTemp) trips).mergeSort fun a b =>
    Numeric.le (minTemp (a.2.map Trip.avgTemp)) (minTemp (b.2.map Trip.avgTemp))
  return groups.map fun g =>
    (g.1, g.2.length, (g.2.map Trip.mileage).sum, (g.2.map Trip.kwh).sum)

end EvGrpc
