import EvGrpc.Db.Types
import EvGrpc.Lib.Relational

/-!
# The schema

The five tables of `sql/001_initial.sql`.  A table is the list of its rows in the
order a scan would meet them; nothing but `ORDER BY` fixes that order, so two
databases with the same rows are interchangeable (`Database.SameRows`).

The primary keys, the unique columns and the foreign keys are fields of
`Database`: a database that violates one cannot be built, and every statement that
changes a table has to show that it keeps them.
-/

namespace EvGrpc

open Lib

/-- `charger_type_enum` -/
inductive ChargerTypeEnum
  | fast
  | slow
  deriving DecidableEq, Repr

/-- The label of an enum value. -/
def ChargerTypeEnum.label : ChargerTypeEnum → String
  | .fast => "fast"
  | .slow => "slow"

/-- Input of a `charger_type_enum`. -/
def Param.asChargerType : Param → Except Exn (Option ChargerTypeEnum)
  | .null => .ok none
  | .text s =>
      if received s = "fast" then .ok (some .fast)
      else if received s = "slow" then .ok (some .slow)
      else .error (dataException "invalid input value for enum charger_type_enum")
  | _ => .error (dataException "invalid input value for enum charger_type_enum")

/-! ## Rows -/

/-- A row of `vehicle`. -/
structure VehicleRow where
  id : Uuid
  brand : String
  calibratedRange : Int32
  batteryCapacity : Numeric
  purchaseDate : Date
  licensePlate : String
  deriving DecidableEq

/-- A row of `weather`. -/
structure WeatherRow where
  id : Uuid
  name : String
  deriving DecidableEq

/-- A row of `source_category`. -/
structure SourceCategoryRow where
  id : Uuid
  name : String
  deriving DecidableEq

/-- A row of `consumption`. -/
structure ConsumptionRow where
  id : Uuid
  vehicleId : Uuid
  start : Instant
  endTime : Instant
  beginPercent : Int32
  endPercent : Int32
  beginMileage : Int32
  endMileage : Int32
  beginRange : Int32
  endRange : Int32
  highestTemperature : Numeric
  lowestTemperature : Numeric
  weatherId : Uuid
  remark : Option String
  deriving DecidableEq

/-- A row of `charging`. -/
structure ChargingRow where
  id : Uuid
  vehicleId : Uuid
  startTime : Instant
  endTime : Instant
  startPercent : Int32
  endPercent : Int32
  startMileage : Int32
  endMileage : Int32
  kwhCharged : Numeric
  cost : Numeric
  electricityUnitPrice : Numeric
  serviceFee : Option Numeric
  chargerType : ChargerTypeEnum
  sourceCategoryId : Uuid
  location : Option String
  remark : Option String
  deriving DecidableEq

/-! ## The database -/

/-- The tables with their constraints. -/
structure Database where
  vehicle : List VehicleRow
  weather : List WeatherRow
  sourceCategory : List SourceCategoryRow
  consumption : List ConsumptionRow
  charging : List ChargingRow
  vehicle_pk : (vehicle.map VehicleRow.id).Nodup
  vehicle_licensePlate : (vehicle.map VehicleRow.licensePlate).Nodup
  weather_pk : (weather.map WeatherRow.id).Nodup
  weather_name : (weather.map WeatherRow.name).Nodup
  sourceCategory_pk : (sourceCategory.map SourceCategoryRow.id).Nodup
  sourceCategory_name : (sourceCategory.map SourceCategoryRow.name).Nodup
  consumption_pk : (consumption.map ConsumptionRow.id).Nodup
  consumption_vehicle : ∀ c ∈ consumption, c.vehicleId ∈ vehicle.map VehicleRow.id
  consumption_weather : ∀ c ∈ consumption, c.weatherId ∈ weather.map WeatherRow.id
  charging_pk : (charging.map ChargingRow.id).Nodup
  charging_vehicle : ∀ c ∈ charging, c.vehicleId ∈ vehicle.map VehicleRow.id
  charging_sourceCategory :
    ∀ c ∈ charging, c.sourceCategoryId ∈ sourceCategory.map SourceCategoryRow.id

namespace Database

/-- The database right after `sql/001_initial.sql`. -/
def empty : Database where
  vehicle := []
  weather := []
  sourceCategory := []
  consumption := []
  charging := []
  vehicle_pk := by simp
  vehicle_licensePlate := by simp
  weather_pk := by simp
  weather_name := by simp
  sourceCategory_pk := by simp
  sourceCategory_name := by simp
  consumption_pk := by simp
  consumption_vehicle := by simp
  consumption_weather := by simp
  charging_pk := by simp
  charging_vehicle := by simp
  charging_sourceCategory := by simp

/-- The same rows, possibly met in a different order. -/
def SameRows (a b : Database) : Prop :=
  a.vehicle.Perm b.vehicle ∧ a.weather.Perm b.weather ∧
    a.sourceCategory.Perm b.sourceCategory ∧ a.consumption.Perm b.consumption ∧
    a.charging.Perm b.charging

instance (a b : Database) : Decidable (a.SameRows b) :=
  inferInstanceAs (Decidable (_ ∧ _ ∧ _ ∧ _ ∧ _))

theorem SameRows.refl (a : Database) : a.SameRows a :=
  ⟨.refl _, .refl _, .refl _, .refl _, .refl _⟩

/-! ## Changing a table -/

section Insert
variable (db : Database)

/-- Add a vehicle whose id and plate are new. -/
def insertVehicle (r : VehicleRow) (hid : r.id ∉ db.vehicle.map VehicleRow.id)
    (hplate : r.licensePlate ∉ db.vehicle.map VehicleRow.licensePlate) : Database :=
  { db with
    vehicle := r :: db.vehicle
    vehicle_pk := List.nodup_cons.mpr ⟨hid, db.vehicle_pk⟩
    vehicle_licensePlate := List.nodup_cons.mpr ⟨hplate, db.vehicle_licensePlate⟩
    consumption_vehicle := fun c hc => List.mem_cons_of_mem _ (db.consumption_vehicle c hc)
    charging_vehicle := fun c hc => List.mem_cons_of_mem _ (db.charging_vehicle c hc) }

/-- Add a weather whose id and name are new. -/
def insertWeather (r : WeatherRow) (hid : r.id ∉ db.weather.map WeatherRow.id)
    (hname : r.name ∉ db.weather.map WeatherRow.name) : Database :=
  { db with
    weather := r :: db.weather
    weather_pk := List.nodup_cons.mpr ⟨hid, db.weather_pk⟩
    weather_name := List.nodup_cons.mpr ⟨hname, db.weather_name⟩
    consumption_weather := fun c hc => List.mem_cons_of_mem _ (db.consumption_weather c hc) }

/-- Add a source category whose id and name are new. -/
def insertSourceCategory (r : SourceCategoryRow)
    (hid : r.id ∉ db.sourceCategory.map SourceCategoryRow.id)
    (hname : r.name ∉ db.sourceCategory.map SourceCategoryRow.name) : Database :=
  { db with
    sourceCategory := r :: db.sourceCategory
    sourceCategory_pk := List.nodup_cons.mpr ⟨hid, db.sourceCategory_pk⟩
    sourceCategory_name := List.nodup_cons.mpr ⟨hname, db.sourceCategory_name⟩
    charging_sourceCategory := fun c hc =>
      List.mem_cons_of_mem _ (db.charging_sourceCategory c hc) }

/-- Add a consumption whose id is new and whose references exist. -/
def insertConsumption (r : ConsumptionRow) (hid : r.id ∉ db.consumption.map ConsumptionRow.id)
    (hv : r.vehicleId ∈ db.vehicle.map VehicleRow.id)
    (hw : r.weatherId ∈ db.weather.map WeatherRow.id) : Database :=
  { db with
    consumption := r :: db.consumption
    consumption_pk := List.nodup_cons.mpr ⟨hid, db.consumption_pk⟩
    consumption_vehicle := List.forall_mem_cons.mpr ⟨hv, db.consumption_vehicle⟩
    consumption_weather := List.forall_mem_cons.mpr ⟨hw, db.consumption_weather⟩ }

/-- Add a charging whose id is new and whose references exist. -/
def insertCharging (r : ChargingRow) (hid : r.id ∉ db.charging.map ChargingRow.id)
    (hv : r.vehicleId ∈ db.vehicle.map VehicleRow.id)
    (hs : r.sourceCategoryId ∈ db.sourceCategory.map SourceCategoryRow.id) : Database :=
  { db with
    charging := r :: db.charging
    charging_pk := List.nodup_cons.mpr ⟨hid, db.charging_pk⟩
    charging_vehicle := List.forall_mem_cons.mpr ⟨hv, db.charging_vehicle⟩
    charging_sourceCategory := List.forall_mem_cons.mpr ⟨hs, db.charging_sourceCategory⟩ }

end Insert

section Update
variable (db : Database)

/-- Replace the vehicle with the id of `r`; its plate belongs to no other vehicle. -/
def replaceVehicle (r : VehicleRow)
    (hplate : ∀ v ∈ db.vehicle, v.id ≠ r.id → v.licensePlate ≠ r.licensePlate) : Database :=
  { db with
    vehicle := replaceBy VehicleRow.id r db.vehicle
    vehicle_pk := by rw [map_key_replaceBy]; exact db.vehicle_pk
    vehicle_licensePlate := nodup_map_replaceBy db.vehicle_pk db.vehicle_licensePlate hplate
    consumption_vehicle := by rw [map_key_replaceBy]; exact db.consumption_vehicle
    charging_vehicle := by rw [map_key_replaceBy]; exact db.charging_vehicle }

/-- Replace the consumption with the id of `r`, whose references exist. -/
def replaceConsumption (r : ConsumptionRow) (hv : r.vehicleId ∈ db.vehicle.map VehicleRow.id)
    (hw : r.weatherId ∈ db.weather.map WeatherRow.id) : Database :=
  { db with
    consumption := replaceBy ConsumptionRow.id r db.consumption
    consumption_pk := by rw [map_key_replaceBy]; exact db.consumption_pk
    consumption_vehicle := by
      intro c hc
      rcases mem_replaceBy hc with rfl | ⟨hc, -⟩
      · exact hv
      · exact db.consumption_vehicle c hc
    consumption_weather := by
      intro c hc
      rcases mem_replaceBy hc with rfl | ⟨hc, -⟩
      · exact hw
      · exact db.consumption_weather c hc }

/-- Replace the charging with the id of `r`, whose references exist. -/
def replaceCharging (r : ChargingRow) (hv : r.vehicleId ∈ db.vehicle.map VehicleRow.id)
    (hs : r.sourceCategoryId ∈ db.sourceCategory.map SourceCategoryRow.id) : Database :=
  { db with
    charging := replaceBy ChargingRow.id r db.charging
    charging_pk := by rw [map_key_replaceBy]; exact db.charging_pk
    charging_vehicle := by
      intro c hc
      rcases mem_replaceBy hc with rfl | ⟨hc, -⟩
      · exact hv
      · exact db.charging_vehicle c hc
    charging_sourceCategory := by
      intro c hc
      rcases mem_replaceBy hc with rfl | ⟨hc, -⟩
      · exact hs
      · exact db.charging_sourceCategory c hc }

end Update

section Delete
variable (db : Database) (id : Uuid)

/-- Remove a vehicle no other table refers to. -/
def deleteVehicle (hc : ∀ c ∈ db.consumption, c.vehicleId ≠ id)
    (hch : ∀ c ∈ db.charging, c.vehicleId ≠ id) : Database :=
  { db with
    vehicle := deleteBy VehicleRow.id id db.vehicle
    vehicle_pk := nodup_map_deleteBy db.vehicle_pk
    vehicle_licensePlate := nodup_map_deleteBy db.vehicle_licensePlate
    consumption_vehicle := by
      intro c h
      obtain ⟨v, hv, he⟩ := List.mem_map.mp (db.consumption_vehicle c h)
      exact List.mem_map.mpr ⟨v, mem_deleteBy.mpr ⟨hv, he ▸ hc c h⟩, he⟩
    charging_vehicle := by
      intro c h
      obtain ⟨v, hv, he⟩ := List.mem_map.mp (db.charging_vehicle c h)
      exact List.mem_map.mpr ⟨v, mem_deleteBy.mpr ⟨hv, he ▸ hch c h⟩, he⟩ }

/-- Remove a consumption. -/
def deleteConsumption : Database :=
  { db with
    consumption := deleteBy ConsumptionRow.id id db.consumption
    consumption_pk := nodup_map_deleteBy db.consumption_pk
    consumption_vehicle := fun c h => db.consumption_vehicle c (mem_deleteBy.mp h).1
    consumption_weather := fun c h => db.consumption_weather c (mem_deleteBy.mp h).1 }

/-- Remove a charging. -/
def deleteCharging : Database :=
  { db with
    charging := deleteBy ChargingRow.id id db.charging
    charging_pk := nodup_map_deleteBy db.charging_pk
    charging_vehicle := fun c h => db.charging_vehicle c (mem_deleteBy.mp h).1
    charging_sourceCategory := fun c h => db.charging_sourceCategory c (mem_deleteBy.mp h).1 }

end Delete

end Database

end EvGrpc
