import EvGrpc.Services.Consumption

/-!
# `ChargingService`

`services/charging_service.cc` and `services/charger/charger_type.cc`.
-/

namespace EvGrpc

open Lib

/-! ## Charger types -/

/-- `ChargerTypeLabel`; a null pointer for everything that is not in the SQL enum. -/
def chargerTypeLabel : ChargerType → Option String
  | .CHARGER_TYPE_FAST => some "fast"
  | .CHARGER_TYPE_SLOW => some "slow"
  | _ => none

/-- `ChargerTypeFromLabel` -/
def chargerTypeFromLabel (s : String) : ChargerType :=
  if s = "fast" then .CHARGER_TYPE_FAST
  else if s = "slow" then .CHARGER_TYPE_SLOW
  else .CHARGER_TYPE_UNSPECIFIED

/-- A label as a parameter: a null pointer is bound as `NULL`. -/
def labelParam (t : ChargerType) : Param :=
  match chargerTypeLabel t with
  | some s => .text s
  | none => .null

/-! ## Rows and messages -/

/-- `RowToCharging` -/
def rowToCharging (r : ChargingRow) : Charging where
  id := uuidOut r.id
  vehicleId := uuidOut r.vehicleId
  startTime := parseTimestamp (timestampOut r.startTime)
  endTime := parseTimestamp (timestampOut r.endTime)
  startPercent := r.startPercent
  endPercent := r.endPercent
  startMileageKm := r.startMileage
  endMileageKm := r.endMileage
  kwhCharged := r.kwhCharged.toDouble
  cost := r.cost.toDouble
  electricityUnitPrice := r.electricityUnitPrice.toDouble
  serviceFee := r.serviceFee.map Numeric.toDouble
  chargerType := chargerTypeFromLabel r.chargerType.label
  sourceCategoryId := uuidOut r.sourceCategoryId
  location := r.location.getD ""
  remark := r.remark.getD ""

-- These two are not left to `rfl`: unification would evaluate the parser.
theorem rowToCharging_startTime (r : ChargingRow) :
    (rowToCharging r).startTime = parseTimestamp (timestampOut r.startTime) := by
  simp only [rowToCharging]

theorem rowToCharging_endTime (r : ChargingRow) :
    (rowToCharging r).endTime = parseTimestamp (timestampOut r.endTime) := by
  simp only [rowToCharging]

/-- `ValidateCharging` -/
def validateCharging (req : CreateChargingRequest) : Status :=
  if req.endTime.seconds.toInt ≤ req.startTime.seconds.toInt then
    ⟨.INVALID_ARGUMENT, "end_time must be after start_time"⟩
  else if req.endPercent.toInt ≤ req.startPercent.toInt then
    ⟨.INVALID_ARGUMENT, "end_percent must be greater than start_percent"⟩
  else if req.kwhCharged.le 0 then
    ⟨.INVALID_ARGUMENT, "kwh_charged must be > 0"⟩
  else if req.cost.le 0 then
    ⟨.INVALID_ARGUMENT, "cost must be > 0"⟩
  else if req.chargerType = .CHARGER_TYPE_UNSPECIFIED then
    ⟨.INVALID_ARGUMENT, "charger_type must be FAST or SLOW (not UNSPECIFIED)"⟩
  else .OK

/-! ## Statements -/

/-- An empty text is bound as `NULL`. -/
def textOrNull (s : String) : Param := if s = "" then .null else .text s

/-- An unset number is bound as `NULL`. -/
def doubleOrNull : Option Double → Param
  | some d => .double d
  | none => .null

/-- `ChargeParams`: the id comes first. -/
def chargeParams (id : String) (req : CreateChargingRequest) : List Param :=
  [.text id, .text req.vehicleId, .time req.startTime, .time req.endTime, .int req.startPercent,
    .int req.endPercent, .int req.startMileageKm, .int req.endMileageKm, .double req.kwhCharged,
    .double req.cost, .double req.electricityUnitPrice, doubleOrNull req.serviceFee,
    labelParam req.chargerType, .text req.sourceCategoryId, textOrNull req.location,
    textOrNull req.remark]

/-- The parameters of the `UPDATE`: the id comes last. -/
def UpdateChargingRequest.params (req : UpdateChargingRequest) : List Param :=
  [.text req.vehicleId, .time req.startTime, .time req.endTime, .int req.startPercent,
    .int req.endPercent, .int req.startMileageKm, .int req.endMileageKm, .double req.kwhCharged,
    .double req.cost, .double req.electricityUnitPrice, doubleOrNull req.serviceFee,
    labelParam req.chargerType, .text req.sourceCategoryId, textOrNull req.location,
    textOrNull req.remark, .text req.id]

/-- The request of the other kind that `UpdateCharging` validates, copied field by field. -/
def UpdateChargingRequest.view (req : UpdateChargingRequest) : CreateChargingRequest where
  vehicleId := req.vehicleId
  startTime := req.startTime
  endTime := req.endTime
  startPercent := req.startPercent
  endPercent := req.endPercent
  startMileageKm := req.startMileageKm
  endMileageKm := req.endMileageKm
  kwhCharged := req.kwhCharged
  cost := req.cost
  electricityUnitPrice := req.electricityUnitPrice
  serviceFee := req.serviceFee
  chargerType := req.chargerType
  sourceCategoryId := req.sourceCategoryId
  location := req.location
  remark := req.remark

/-- The value each column of `charging` gets from a request. -/
def chargingColumn (id : String) (req : CreateChargingRequest) : ChargingCol → Param
  | .id => .text id
  | .vehicleId => .text req.vehicleId
  | .startTime => .time req.startTime
  | .endTime => .time req.endTime
  | .startPercent => .int req.startPercent
  | .endPercent => .int req.endPercent
  | .startMileage => .int req.startMileageKm
  | .endMileage => .int req.endMileageKm
  | .kwhCharged => .double req.kwhCharged
  | .cost => .double req.cost
  | .electricityUnitPrice => .double req.electricityUnitPrice
  | .serviceFee => doubleOrNull req.serviceFee
  | .chargerType => labelParam req.chargerType
  | .sourceCategoryId => .text req.sourceCategoryId
  | .location => textOrNull req.location
  | .remark => textOrNull req.remark

/-- The `INSERT` binds each column to its own parameter. -/
theorem placeholder_chargeParams (id : String) (req : CreateChargingRequest) (c : ChargingCol) :
    placeholder (chargeParams id req) (chargingInsert c) = chargingColumn id req c := by
  cases c <;> rfl

/-- And so does the `UPDATE`, with its other numbering. -/
theorem placeholder_updateParams (req : UpdateChargingRequest) (c : ChargingCol) :
    placeholder req.params (chargingUpdate c) =
      chargingColumn req.id req.toCreateChargingRequest c := by
  cases c <;> rfl

/-- `SELECT … FROM charging WHERE Id=$1` -/
def selectCharging (id : String) (db : Database) : Except Exn (List ChargingRow) := do
  let id ← (Param.text id).asUuid
  return db.charging.filter fun r => id = some r.id

/-- The columns `ListChargings` filters by. -/
inductive ChargingFilter
  | vehicleId
  | startTime
  | chargerType
  | sourceCategoryId
  deriving DecidableEq, Repr

/-- `charging`, as `ListChargings` lists it. -/
def listedCharging : Listed ChargingFilter ChargingRow where
  rows := Database.charging
  coerce
    | .vehicleId, p => do return (← p.asUuid).map .uuid
    | .startTime, p => do return (← p.asInstant).map .instant
    | .chargerType, p => do return (← p.asChargerType).map .chargerType
    | .sourceCategoryId, p => do return (← p.asUuid).map .uuid
  value r
    | .vehicleId => .uuid r.vehicleId
    | .startTime => .instant r.startTime
    | .chargerType => .chargerType r.chargerType
    | .sourceCategoryId => .uuid r.sourceCategoryId
  startTime := ChargingRow.startTime

/-- The filters of a request. -/
def ListChargingsRequest.listing (req : ListChargingsRequest) : Listing ChargingFilter :=
  Listing.start
    |>.andWhere (req.vehicleId ≠ "") .vehicleId .eq (.text req.vehicleId)
    |>.andWhere req.startAfter.isSome .startTime .gt (.time (req.startAfter.getD ⟨0, 0⟩))
    |>.andWhere req.startBefore.isSome .startTime .lt (.time (req.startBefore.getD ⟨0, 0⟩))
    |>.andWhere (req.chargerType ≠ .CHARGER_TYPE_UNSPECIFIED) .chargerType .eq
      (labelParam req.chargerType)
    |>.andWhere (req.sourceCategoryId ≠ "") .sourceCategoryId .eq (.text req.sourceCategoryId)

/-! ## RPCs -/

def chargingNotFound : Status := ⟨.NOT_FOUND, "charging not found"⟩

/-- `CreateCharging` draws the id before it takes a connection, and reads the row
back before it commits. -/
def createCharging (md : Metadata) (req : CreateChargingRequest) : Prog Op (Reply Charging) :=
  authenticated md "/evgrpc.ChargingService/CreateCharging" <|
    validated (validateCharging req) <| catching do
      let id ← newUuid
      withConn <| withWork <|
        insertRow (.insertCharging (chargeParams (uuidOut id) req)) (selectCharging (uuidOut id))
          fun r => .ok (rowToCharging r)

/-- `GetCharging` -/
def getCharging (md : Metadata) (req : GetChargingRequest) : Prog Op (Reply Charging) :=
  authenticated md "/evgrpc.ChargingService/GetCharging" <| catching <|
    getRow (selectCharging req.id) chargingNotFound fun r => .ok (rowToCharging r)

/-- `UpdateCharging` validates a request of the other kind, built from its fields. -/
def updateCharging (md : Metadata) (req : UpdateChargingRequest) : Prog Op (Reply Charging) :=
  authenticated md "/evgrpc.ChargingService/UpdateCharging" <|
    validated (validateCharging req.view) <| catching <|
      updateRow (.updateCharging req.params) chargingNotFound fun r => .ok (rowToCharging r)

/-- `DeleteCharging` -/
def deleteCharging (md : Metadata) (req : DeleteChargingRequest) : Prog Op (Reply Unit) :=
  authenticated md "/evgrpc.ChargingService/DeleteCharging" <| catching <|
    deleteRow (.deleteCharging [.text req.id]) chargingNotFound

/-- `ListChargings` binds the limit and the offset as integers. -/
def listChargings (md : Metadata) (req : ListChargingsRequest) :
    Prog Op (Reply ListChargingsResponse) :=
  authenticated md "/evgrpc.ChargingService/ListChargings" <| catching do
    let pageSize := pageSizeOf req.pageSize
    let sql := req.listing
    match parsePageToken req.pageToken with
    | .error s => fail s
    | .ok offset =>
        let limit ← addInt pageSize 1
        withConn do
          let result ← exec
            (sql.run listedCharging (.int (Int32.ofInt limit)) (.int (Int32.ofInt offset)))
          let (chargings, nextPageToken) ←
            listPage (fun r => .ok (rowToCharging r)) pageSize offset result
          return (.OK, some { chargings, nextPageToken })

end EvGrpc
