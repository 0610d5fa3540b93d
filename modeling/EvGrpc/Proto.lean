import EvGrpc.Db.Types

/-!
# Messages

The messages of `proto/evgrpc`.  A message field that is read without asking for
its presence is its value, with the default when it is unset; a field whose
presence matters is an `Option`.
-/

namespace EvGrpc

open Lib

/-! ## Vehicles -/

/-- `google.type.Date` -/
structure GDate where
  year : Int32
  month : Int32
  day : Int32
  deriving DecidableEq

structure Vehicle where
  id : String
  brand : String
  calibratedRangeKm : Int32
  batteryCapacityKwh : Double
  purchaseDate : Option GDate
  licensePlate : String
  deriving DecidableEq

structure CreateVehicleRequest where
  brand : String
  calibratedRangeKm : Int32
  batteryCapacityKwh : Double
  purchaseDate : GDate
  licensePlate : String
  deriving DecidableEq

structure GetVehicleRequest where
  id : String

structure UpdateVehicleRequest where
  id : String
  brand : String
  calibratedRangeKm : Int32
  batteryCapacityKwh : Double
  purchaseDate : GDate
  licensePlate : String

structure DeleteVehicleRequest where
  id : String

structure ListVehiclesRequest where
  pageSize : Int32
  pageToken : String

structure ListVehiclesResponse where
  vehicles : List Vehicle
  nextPageToken : String
  deriving DecidableEq

/-! ## Lookup tables -/

structure Weather where
  id : String
  name : String
  deriving DecidableEq

structure CreateWeatherRequest where
  name : String

structure SearchWeatherRequest where
  start : String
  limit : Int32

structure SourceCategory where
  id : String
  name : String
  deriving DecidableEq

structure CreateSourceCategoryRequest where
  name : String

structure SearchSourceCategoryRequest where
  start : String
  limit : Int32

/-! ## Consumptions -/

structure Consumption where
  id : String
  vehicleId : String
  start : Option Timestamp
  «end» : Option Timestamp
  beginPercent : Int32
  endPercent : Int32
  beginMileageKm : Int32
  endMileageKm : Int32
  beginRangeKm : Int32
  endRangeKm : Int32
  highestTemperatureC : Double
  lowestTemperatureC : Double
  weatherId : String
  remark : String
  deriving DecidableEq

structure CreateConsumptionRequest where
  vehicleId : String
  start : Timestamp
  «end» : Timestamp
  beginPercent : Int32
  endPercent : Int32
  beginMileageKm : Int32
  endMileageKm : Int32
  beginRangeKm : Int32
  endRangeKm : Int32
  highestTemperatureC : Double
  lowestTemperatureC : Double
  weatherId : String
  remark : String

structure GetConsumptionRequest where
  id : String

/-- The fields of a `CreateConsumptionRequest` and the id of the row. -/
structure UpdateConsumptionRequest extends CreateConsumptionRequest where
  id : String

structure DeleteConsumptionRequest where
  id : String

structure ListConsumptionsRequest where
  vehicleId : String
  startAfter : Option Timestamp
  startBefore : Option Timestamp
  pageSize : Int32
  pageToken : String

structure ListConsumptionsResponse where
  consumptions : List Consumption
  nextPageToken : String
  deriving DecidableEq

/-! ## Chargings -/

/-- `ChargerType`: an open enum, so a peer may send any number. -/
inductive ChargerType
  | CHARGER_TYPE_UNSPECIFIED
  | CHARGER_TYPE_FAST
  | CHARGER_TYPE_SLOW
  | unrecognized (n : Int32)
  deriving DecidableEq

structure Charging where
  id : String
  vehicleId : String
  startTime : Option Timestamp
  endTime : Option Timestamp
  startPercent : Int32
  endPercent : Int32
  startMileageKm : Int32
  endMileageKm : Int32
  kwhCharged : Double
  cost : Double
  electricityUnitPrice : Double
  serviceFee : Option Double
  chargerType : ChargerType
  sourceCategoryId : String
  location : String
  remark : String
  deriving DecidableEq

structure CreateChargingRequest where
  vehicleId : String
  startTime : Timestamp
  endTime : Timestamp
  startPercent : Int32
  endPercent : Int32
  startMileageKm : Int32
  endMileageKm : Int32
  kwhCharged : Double
  cost : Double
  electricityUnitPrice : Double
  serviceFee : Option Double
  chargerType : ChargerType
  sourceCategoryId : String
  location : String
  remark : String

structure GetChargingRequest where
  id : String

/-- The fields of a `CreateChargingRequest` and the id of the row. -/
structure UpdateChargingRequest extends CreateChargingRequest where
  id : String

structure DeleteChargingRequest where
  id : String

structure ListChargingsRequest where
  vehicleId : String
  startAfter : Option Timestamp
  startBefore : Option Timestamp
  chargerType : ChargerType
  sourceCategoryId : String
  pageSize : Int32
  pageToken : String

structure ListChargingsResponse where
  chargings : List Charging
  nextPageToken : String
  deriving DecidableEq

/-! ## Reports -/

/-- The filter that seven of the report requests carry: an optional vehicle and an
optional time window. -/
structure WindowRequest where
  vehicleId : String
  startTime : Option Timestamp
  endTime : Option Timestamp

structure VehicleCostSummary where
  vehicleId : String
  totalCost : Double
  totalKwh : Double
  avgYuanPerKwh : Double
  avgYuanPerKm : Double
  deriving DecidableEq

structure PeriodReport where
  year : Int32
  month : Int32
  totalCost : Double
  totalKwh : Double
  totalKm : Double
  vehicleId : String
  deriving DecidableEq

structure GetMonthlyReportRequest where
  year : Int32
  month : Int32
  vehicleId : String

structure GetAnnualReportRequest where
  year : Int32
  vehicleId : String
  deriving DecidableEq

structure ChargerTypeBreakdown where
  chargerType : ChargerType
  totalCost : Double
  totalKwh : Double
  avgYuanPerKwh : Double
  deriving DecidableEq

structure SourceCategoryBreakdown where
  sourceCategoryId : String
  sourceCategoryName : String
  totalCost : Double
  totalKwh : Double
  avgYuanPerKwh : Double
  deriving DecidableEq

structure ConsumptionEfficiency where
  vehicleId : String
  kmPerKwh : Double
  kwhPer100km : Double
  totalKm : Double
  totalKwh : Double
  deriving DecidableEq

structure RangeAccuracy where
  vehicleId : String
  dashboardRangeTotalKm : Double
  actualMileageTotalKm : Double
  accuracyRatio : Double
  deriving DecidableEq

structure TemperatureBucket where
  label : String
  avgKwhPer100km : Double
  sampleCount : ℤ
  deriving DecidableEq

structure ChargingReport where
  year : Int32
  month : Int32
  day : Int32
  totalCost : Double
  totalKwh : Double
  count : ℤ
  vehicleId : String
  deriving DecidableEq

structure GetDailyChargingReportRequest where
  year : Int32
  month : Int32
  day : Int32
  vehicleId : String

structure GetMonthlyChargingReportRequest where
  year : Int32
  month : Int32
  vehicleId : String

structure GetAnnualChargingReportRequest where
  year : Int32
  vehicleId : String

end EvGrpc
