import EvGrpc.Services.Listing
import EvGrpc.Util.Timestamp

/-!
# `ConsumptionService`

`services/consumption_service.cc`.
-/

namespace EvGrpc

open Lib

/-! ## Rows and messages -/

/-- `RowToConsumption` -/
def rowToConsumption (r : ConsumptionRow) : Consumption where
  id := uuidOut r.id
  vehicleId := uuidOut r.vehicleId
  start := parseTimestamp (timestampOut r.start)
  «end» := parseTimestamp (timestampOut r.endTime)
  beginPercent := r.beginPercent
  endPercent := r.endPercent
  beginMileageKm := r.beginMileage
  endMileageKm := r.endMileage
  beginRangeKm := r.beginRange
  endRangeKm := r.endRange
  highestTemperatureC := r.highestTemperature.toDouble
  lowestTemperatureC := r.lowestTemperature.toDouble
  weatherId := uuidOut r.weatherId
  remark := r.remark.getD ""

-- These two are not left to `rfl`: unification would evaluate the parser.
theorem rowToConsumption_start (r : ConsumptionRow) :
    (rowToConsumption r).start = parseTimestamp (timestampOut r.start) := by
  simp only [rowToConsumption]

theorem rowToConsumption_end (r : ConsumptionRow) :
    (rowToConsumption r).«end» = parseTimestamp (timestampOut r.endTime) := by
  simp only [rowToConsumption]

/-- `ValidateConsumption` -/
def validateConsumption (req : CreateConsumptionRequest) : Status :=
  if req.«end».seconds.toInt ≤ req.start.seconds.toInt then
    ⟨.INVALID_ARGUMENT, "end must be after start"⟩
  else if req.beginPercent.toInt ≤ req.endPercent.toInt then
    ⟨.INVALID_ARGUMENT, "end_percent must be less than begin_percent"⟩
  else if req.highestTemperatureC.lt req.lowestTemperatureC then
    ⟨.INVALID_ARGUMENT, "highest_temperature_c must be >= lowest_temperature_c"⟩
  else if req.weatherId = "" then
    ⟨.INVALID_ARGUMENT, "weather_id is required (cannot be empty)"⟩
  else .OK

/-! ## Statements -/

/-- The parameters of the `INSERT`. -/
def consumptionParams (id : String) (req : CreateConsumptionRequest) : List Param :=
  [.text id, .text req.vehicleId, .time req.start, .time req.«end», .int req.beginPercent,
    .int req.endPercent, .int req.beginMileageKm, .int req.endMileageKm, .int req.beginRangeKm,
    .int req.endRangeKm, .double req.highestTemperatureC, .double req.lowestTemperatureC,
    .text req.weatherId, .text req.remark]

/-- The parameters of the `UPDATE`, in the same order. -/
def UpdateConsumptionRequest.params (req : UpdateConsumptionRequest) : List Param :=
  [.text req.id, .text req.vehicleId, .time req.start, .time req.«end», .int req.beginPercent,
    .int req.endPercent, .int req.beginMileageKm, .int req.endMileageKm, .int req.beginRangeKm,
    .int req.endRangeKm, .double req.highestTemperatureC, .double req.lowestTemperatureC,
    .text req.weatherId, .text req.remark]

/-- The request of the other kind that `UpdateConsumption` validates, copied field by
field. -/
def UpdateConsumptionRequest.view (req : UpdateConsumptionRequest) : CreateConsumptionRequest where
  vehicleId := req.vehicleId
  start := req.start
  «end» := req.«end»
  beginPercent := req.beginPercent
  endPercent := req.endPercent
  beginMileageKm := req.beginMileageKm
  endMileageKm := req.endMileageKm
  beginRangeKm := req.beginRangeKm
  endRangeKm := req.endRangeKm
  highestTemperatureC := req.highestTemperatureC
  lowestTemperatureC := req.lowestTemperatureC
  weatherId := req.weatherId
  remark := req.remark

/-- The value each column of `consumption` gets from a request. -/
def consumptionColumn (id : String) (req : CreateConsumptionRequest) : ConsumptionCol → Param
  | .id => .text id
  | .vehicleId => .text req.vehicleId
  | .start => .time req.start
  | .endTime => .time req.«end»
  | .beginPercent => .int req.beginPercent
  | .endPercent => .int req.endPercent
  | .beginMileage => .int req.beginMileageKm
  | .endMileage => .int req.endMileageKm
  | .beginRange => .int req.beginRangeKm
  | .endRange => .int req.endRangeKm
  | .highestTemperature => .double req.highestTemperatureC
  | .lowestTemperature => .double req.lowestTemperatureC
  | .weatherId => .text req.weatherId
  | .remark => .text req.remark

/-- The `INSERT` binds each column to its own parameter. -/
theorem placeholder_consumptionParams (id : String) (req : CreateConsumptionRequest)
    (c : ConsumptionCol) :
    placeholder (consumptionParams id req) (consumptionColumns c) = consumptionColumn id req c := by
  cases c <;> rfl

/-- And so does the `UPDATE`. -/
theorem placeholder_updateConsumptionParams (req : UpdateConsumptionRequest) (c : ConsumptionCol) :
    placeholder req.params (consumptionColumns c) =
      consumptionColumn req.id req.toCreateConsumptionRequest c := by
  cases c <;> rfl

/-- `SELECT … FROM consumption WHERE Id = $1` -/
def selectConsumption (id : String) (db : Database) : Except Exn (List ConsumptionRow) := do
  let id ← (Param.text id).asUuid
  return db.consumption.filter fun r => id = some r.id

/-- The columns `ListConsumptions` filters by. -/
inductive ConsumptionFilter
  | vehicleId
  | start
  deriving DecidableEq, Repr

/-- `consumption`, as `ListConsumptions` lists it. -/
def listedConsumption : Listed ConsumptionFilter ConsumptionRow where
  rows := Database.consumption
  coerce
    | .vehicleId, p => do return (← p.asUuid).map .uuid
    | .start, p => do return (← p.asInstant).map .instant
  value r
    | .vehicleId => .uuid r.vehicleId
    | .start => .instant r.start
  startTime := ConsumptionRow.start

/-- The filters of a request. -/
def ListConsumptionsRequest.listing (req : ListConsumptionsRequest) : Listing ConsumptionFilter :=
  Listing.start
    |>.andWhere (req.vehicleId ≠ "") .vehicleId .eq (.text req.vehicleId)
    |>.andWhere req.startAfter.isSome .start .gt (.time (req.startAfter.getD ⟨0, 0⟩))
    |>.andWhere req.startBefore.isSome .start .lt (.time (req.startBefore.getD ⟨0, 0⟩))

/-! ## RPCs -/

def consumptionNotFound : Status := ⟨.NOT_FOUND, "consumption not found"⟩

/-- `CreateConsumption` reads the row back before it commits. -/
def createConsumption (md : Metadata) (req : CreateConsumptionRequest) :
    Prog Op (Reply Consumption) :=
  authenticated md "/evgrpc.ConsumptionService/CreateConsumption" <|
    validated (validateConsumption req) <| catching <| withConn <| withWork do
      let id ← newUuid
      insertRow (.insertConsumption (consumptionParams (uuidOut id) req))
        (selectConsumption (uuidOut id)) fun r => .ok (rowToConsumption r)

/-- `GetConsumption` -/
def getConsumption (md : Metadata) (req : GetConsumptionRequest) : Prog Op (Reply Consumption) :=
  authenticated md "/evgrpc.ConsumptionService/GetConsumption" <| catching <|
    getRow (selectConsumption req.id) consumptionNotFound fun r => .ok (rowToConsumption r)

/-- `UpdateConsumption` validates a request of the other kind, built from its fields. -/
def updateConsumption (md : Metadata) (req : UpdateConsumptionRequest) :
    Prog Op (Reply Consumption) :=
  authenticated md "/evgrpc.ConsumptionService/UpdateConsumption" <|
    validated (validateConsumption req.view) <| catching <|
      updateRow (.updateConsumption req.params) consumptionNotFound
        fun r => .ok (rowToConsumption r)

/-- `DeleteConsumption` -/
def deleteConsumption (md : Metadata) (req : DeleteConsumptionRequest) : Prog Op (Reply Unit) :=
  authenticated md "/evgrpc.ConsumptionService/DeleteConsumption" <| catching <|
    deleteRow (.deleteConsumption [.text req.id]) consumptionNotFound

/-- `ListConsumptions` binds the limit and the offset as text. -/
def listConsumptions (md : Metadata) (req : ListConsumptionsRequest) :
    Prog Op (Reply ListConsumptionsResponse) :=
  authenticated md "/evgrpc.ConsumptionService/ListConsumptions" <| catching do
    let pageSize := pageSizeOf req.pageSize
    let sql := req.listing
    match parsePageToken req.pageToken with
    | .error s => fail s
    | .ok offset =>
        let limit ← addInt pageSize 1
        withConn do
          let result ← exec
            (sql.run listedConsumption (.text (toText limit)) (.text (toText offset)))
          let (consumptions, nextPageToken) ←
            listPage (fun r => .ok (rowToConsumption r)) pageSize offset result
          return (.OK, some { consumptions, nextPageToken })

end EvGrpc
