import EvGrpc.Db.Schema

/-!
# Statements that change a table

Every `INSERT`, `UPDATE` and `DELETE` the services issue, with the placeholder
numbers of its SQL text.  A statement takes its parameters as a list, the way
`pqxx::params` does: `$k` is the `k`-th of them, and the tables `vehicleColumns`,
`consumptionColumns`, `chargingInsert` and `chargingUpdate` say which placeholder
each column is bound to.

A statement first coerces its parameters to the column types, then checks
`NOT NULL`, uniqueness and references, and then changes the table.  Either it fails
with the exception libpqxx throws, and the database is what it was, or it answers
with its result and the new database.

## Main definitions

* `Write ρ` — a statement whose result has type `ρ`.
* `Write.run` — what the statement does to a database.
-/

namespace EvGrpc

open Lib

/-- The parameter `$k`. -/
def placeholder (p : List Param) (k : ℕ) : Param := p.getD (k - 1) .null

/-- SQLSTATE 23505. -/
def uniqueViolation (constraint : String) : Exn :=
  ⟨.uniqueViolation, "duplicate key value violates unique constraint \"" ++ constraint ++ "\""⟩

/-- SQLSTATE 23503. -/
def foreignKeyViolation (constraint : String) : Exn :=
  ⟨.foreignKeyViolation, "violates foreign key constraint \"" ++ constraint ++ "\""⟩

/-! ## Rows from parameters -/

/-- The columns of `vehicle`. -/
inductive VehicleCol
  | id | brand | calibratedRange | batteryCapacity | purchaseDate | licensePlate
  deriving DecidableEq, Repr

/-- The placeholders of both the `INSERT` and the `UPDATE` of `vehicle`. -/
def vehicleColumns : VehicleCol → ℕ
  | .id => 1
  | .brand => 2
  | .calibratedRange => 3
  | .batteryCapacity => 4
  | .purchaseDate => 5
  | .licensePlate => 6

/-- The row a set of column values stands for. -/
def vehicleRow (v : VehicleCol → Param) : Except Exn VehicleRow := do
  let id ← (v .id).asUuid
  let brand ← (v .brand).asVarchar 36
  let calibratedRange ← (v .calibratedRange).asInt
  let batteryCapacity ← (v .batteryCapacity).asDecimal 10 2
  let purchaseDate ← (v .purchaseDate).asDate
  let licensePlate ← (v .licensePlate).asVarchar 15
  let id ← notNull "id" id
  let brand ← notNull "brand" brand
  let calibratedRange ← notNull "calibratedrange" calibratedRange
  let batteryCapacity ← notNull "batterycapacity" batteryCapacity
  let purchaseDate ← notNull "purchasedate" purchaseDate
  let licensePlate ← notNull "licenseplate" licensePlate
  return { id, brand, calibratedRange, batteryCapacity, purchaseDate, licensePlate }

/-- The columns of `consumption`. -/
inductive ConsumptionCol
  | id | vehicleId | start | endTime | beginPercent | endPercent | beginMileage | endMileage
  | beginRange | endRange | highestTemperature | lowestTemperature | weatherId | remark
  deriving DecidableEq, Repr

/-- The placeholders of both the `INSERT` and the `UPDATE` of `consumption`. -/
def consumptionColumns : ConsumptionCol → ℕ
  | .id => 1
  | .vehicleId => 2
  | .start => 3
  | .endTime => 4
  | .beginPercent => 5
  | .endPercent => 6
  | .beginMileage => 7
  | .endMileage => 8
  | .beginRange => 9
  | .endRange => 10
  | .highestTemperature => 11
  | .lowestTemperature => 12
  | .weatherId => 13
  | .remark => 14

/-- `NULLIF($k, '')` -/
def nullIfEmpty : Option String → Option String
  | some s => if s = "" then none else some s
  | none => none

/-- The row a set of column values stands for; the remark goes through `NULLIF`. -/
def consumptionRow (v : ConsumptionCol → Param) : Except Exn ConsumptionRow := do
  let id ← (v .id).asUuid
  let vehicleId ← (v .vehicleId).asUuid
  let start ← (v .start).asInstant
  let endTime ← (v .endTime).asInstant
  let beginPercent ← (v .beginPercent).asInt
  let endPercent ← (v .endPercent).asInt
  let beginMileage ← (v .beginMileage).asInt
  let endMileage ← (v .endMileage).asInt
  let beginRange ← (v .beginRange).asInt
  let endRange ← (v .endRange).asInt
  let highestTemperature ← (v .highestTemperature).asDecimal 4 1
  let lowestTemperature ← (v .lowestTemperature).asDecimal 4 1
  let weatherId ← (v .weatherId).asUuid
  let remark ← (v .remark).asText
  let id ← notNull "id" id
  let vehicleId ← notNull "vehicleid" vehicleId
  let start ← notNull "start" start
  let endTime ← notNull "endtime" endTime
  let beginPercent ← notNull "beginpercent" beginPercent
  let endPercent ← notNull "endpercent" endPercent
  let beginMileage ← notNull "beginmileage" beginMileage
  let endMileage ← notNull "endmileage" endMileage
  let beginRange ← notNull "beginrange" beginRange
  let endRange ← notNull "endrange" endRange
  let highestTemperature ← notNull "highesttemperature" highestTemperature
  let lowestTemperature ← notNull "lowesttemperature" lowestTemperature
  let weatherId ← notNull "weatherid" weatherId
  return { id, vehicleId, start, endTime, beginPercent, endPercent, beginMileage, endMileage,
           beginRange, endRange, highestTemperature, lowestTemperature, weatherId,
           remark := nullIfEmpty remark }

/-- The columns of `charging`. -/
inductive ChargingCol
  | id | vehicleId | startTime | endTime | startPercent | endPercent | startMileage | endMileage
  | kwhCharged | cost | electricityUnitPrice | serviceFee | chargerType | sourceCategoryId
  | location | remark
  deriving DecidableEq, Repr

/-- The placeholders of the `INSERT` into `charging`. -/
def chargingInsert : ChargingCol → ℕ
  | .id => 1
  | .vehicleId => 2
  | .startTime => 3
  | .endTime => 4
  | .startPercent => 5
  | .endPercent => 6
  | .startMileage => 7
  | .endMileage => 8
  | .kwhCharged => 9
  | .cost => 10
  | .electricityUnitPrice => 11
  | .serviceFee => 12
  | .chargerType => 13
  | .sourceCategoryId => 14
  | .location => 15
  | .remark => 16

/-- The placeholders of the `UPDATE` of `charging`: the id comes last. -/
def chargingUpdate : ChargingCol → ℕ
  | .vehicleId => 1
  | .startTime => 2
  | .endTime => 3
  | .startPercent => 4
  | .endPercent => 5
  | .startMileage => 6
  | .endMileage => 7
  | .kwhCharged => 8
  | .cost => 9
  | .electricityUnitPrice => 10
  | .serviceFee => 11
  | .chargerType => 12
  | .sourceCategoryId => 13
  | .location => 14
  | .remark => 15
  | .id => 16

/-- The row a set of column values stands for. -/
def chargingRow (v : ChargingCol → Param) : Except Exn ChargingRow := do
  let id ← (v .id).asUuid
  let vehicleId ← (v .vehicleId).asUuid
  let startTime ← (v .startTime).asInstant
  let endTime ← (v .endTime).asInstant
  let startPercent ← (v .startPercent).asInt
  let endPercent ← (v .endPercent).asInt
  let startMileage ← (v .startMileage).asInt
  let endMileage ← (v .endMileage).asInt
  let kwhCharged ← (v .kwhCharged).asDecimal 10 2
  let cost ← (v .cost).asDecimal 10 2
  let electricityUnitPrice ← (v .electricityUnitPrice).asDecimal 4 2
  let serviceFee ← (v .serviceFee).asDecimal 5 2
  let chargerType ← (v .chargerType).asChargerType
  let sourceCategoryId ← (v .sourceCategoryId).asUuid
  let location ← (v .location).asVarchar 100
  let remark ← (v .remark).asText
  let id ← notNull "id" id
  let vehicleId ← notNull "vehicleid" vehicleId
  let startTime ← notNull "starttime" startTime
  let endTime ← notNull "endtime" endTime
  let startPercent ← notNull "startpercent" startPercent
  let endPercent ← notNull "endpercent" endPercent
  let startMileage ← notNull "startmileage" startMileage
  let endMileage ← notNull "endmileage" endMileage
  let kwhCharged ← notNull "kwhcharged" kwhCharged
  let cost ← notNull "cost" cost
  let electricityUnitPrice ← notNull "electricityunitprice" electricityUnitPrice
  let chargerType ← notNull "chargertype" chargerType
  let sourceCategoryId ← notNull "sourcecategoryid" sourceCategoryId
  return { id, vehicleId, startTime, endTime, startPercent, endPercent, startMileage, endMileage,
           kwhCharged, cost, electricityUnitPrice, serviceFee, chargerType, sourceCategoryId,
           location, remark }

/-! ## Statements -/

/-- A statement that may change the database, by the type of its result. -/
inductive Write : Type → Type
  | insertVehicle (p : List Param) : Write Unit
  | updateVehicle (p : List Param) : Write (List VehicleRow)
  | deleteVehicle (p : List Param) : Write ℕ
  | insertWeather (p : List Param) : Write Unit
  | insertSourceCategory (p : List Param) : Write Unit
  | insertConsumption (p : List Param) : Write Unit
  | updateConsumption (p : List Param) : Write (List ConsumptionRow)
  | deleteConsumption (p : List Param) : Write ℕ
  | insertCharging (p : List Param) : Write Unit
  | updateCharging (p : List Param) : Write (List ChargingRow)
  | deleteCharging (p : List Param) : Write ℕ

/-- Results of statements can be compared. -/
def Write.decEq {ρ : Type} : Write ρ → DecidableEq ρ
  | .insertVehicle _ | .insertWeather _ | .insertSourceCategory _ | .insertConsumption _
  | .insertCharging _ => inferInstance
  | .updateVehicle _ | .updateConsumption _ | .updateCharging _ => inferInstance
  | .deleteVehicle _ | .deleteConsumption _ | .deleteCharging _ => inferInstance

section Run
variable (db : Database)

/-- `INSERT INTO vehicle` -/
def runInsertVehicle (r : VehicleRow) : Except Exn (Unit × Database) :=
  if hid : r.id ∈ db.vehicle.map VehicleRow.id then .error (uniqueViolation "vehicle_pkey")
  else if hplate : r.licensePlate ∈ db.vehicle.map VehicleRow.licensePlate then
    .error (uniqueViolation "vehicle_licenseplate_key")
  else .ok ((), db.insertVehicle r hid hplate)

/-- `UPDATE vehicle … WHERE Id = r.id RETURNING …`, on an existing row. -/
def runUpdateVehicle (r : VehicleRow) : Except Exn (List VehicleRow × Database) :=
  if h : ∀ v ∈ db.vehicle, v.id ≠ r.id → v.licensePlate ≠ r.licensePlate then
    .ok ([r], db.replaceVehicle r h)
  else .error (uniqueViolation "vehicle_licenseplate_key")

/-- `DELETE FROM vehicle WHERE Id = id`; the result is `affected_rows()`. -/
def runDeleteVehicle (id : Uuid) : Except Exn (ℕ × Database) :=
  if id ∈ db.vehicle.map VehicleRow.id then
    if hc : ∀ c ∈ db.consumption, c.vehicleId ≠ id then
      if hch : ∀ c ∈ db.charging, c.vehicleId ≠ id then .ok (1, db.deleteVehicle id hc hch)
      else .error (foreignKeyViolation "charging_vehicleid_fkey")
    else .error (foreignKeyViolation "consumption_vehicleid_fkey")
  else .ok (0, db)

/-- `INSERT INTO weather` -/
def runInsertWeather (r : WeatherRow) : Except Exn (Unit × Database) :=
  if hid : r.id ∈ db.weather.map WeatherRow.id then .error (uniqueViolation "weather_pkey")
  else if hname : r.name ∈ db.weather.map WeatherRow.name then
    .error (uniqueViolation "weather_name_key")
  else .ok ((), db.insertWeather r hid hname)

/-- `INSERT INTO source_category` -/
def runInsertSourceCategory (r : SourceCategoryRow) : Except Exn (Unit × Database) :=
  if hid : r.id ∈ db.sourceCategory.map SourceCategoryRow.id then
    .error (uniqueViolation "source_category_pkey")
  else if hname : r.name ∈ db.sourceCategory.map SourceCategoryRow.name then
    .error (uniqueViolation "source_category_name_key")
  else .ok ((), db.insertSourceCategory r hid hname)

/-- `INSERT INTO consumption` -/
def runInsertConsumption (r : ConsumptionRow) : Except Exn (Unit × Database) :=
  if hid : r.id ∈ db.consumption.map ConsumptionRow.id then
    .error (uniqueViolation "consumption_pkey")
  else if hv : r.vehicleId ∈ db.vehicle.map VehicleRow.id then
    if hw : r.weatherId ∈ db.weather.map WeatherRow.id then
      .ok ((), db.insertConsumption r hid hv hw)
    else .error (foreignKeyViolation "consumption_weatherid_fkey")
  else .error (foreignKeyViolation "consumption_vehicleid_fkey")

/-- `UPDATE consumption … WHERE Id = r.id RETURNING …`, on an existing row. -/
def runUpdateConsumption (r : ConsumptionRow) : Except Exn (List ConsumptionRow × Database) :=
  if hv : r.vehicleId ∈ db.vehicle.map VehicleRow.id then
    if hw : r.weatherId ∈ db.weather.map WeatherRow.id then
      .ok ([r], db.replaceConsumption r hv hw)
    else .error (foreignKeyViolation "consumption_weatherid_fkey")
  else .error (foreignKeyViolation "consumption_vehicleid_fkey")

/-- `DELETE FROM consumption WHERE Id = id` -/
def runDeleteConsumption (id : Uuid) : Except Exn (ℕ × Database) :=
  if id ∈ db.consumption.map ConsumptionRow.id then .ok (1, db.deleteConsumption id) else .ok (0, db)

/-- `INSERT INTO charging` -/
def runInsertCharging (r : ChargingRow) : Except Exn (Unit × Database) :=
  if hid : r.id ∈ db.charging.map ChargingRow.id then .error (uniqueViolation "charging_pkey")
  else if hv : r.vehicleId ∈ db.vehicle.map VehicleRow.id then
    if hs : r.sourceCategoryId ∈ db.sourceCategory.map SourceCategoryRow.id then
      .ok ((), db.insertCharging r hid hv hs)
    else .error (foreignKeyViolation "charging_sourcecategoryid_fkey")
  else .error (foreignKeyViolation "charging_vehicleid_fkey")

/-- `UPDATE charging … WHERE Id = r.id RETURNING …`, on an existing row. -/
def runUpdateCharging (r : ChargingRow) : Except Exn (List ChargingRow × Database) :=
  if hv : r.vehicleId ∈ db.vehicle.map VehicleRow.id then
    if hs : r.sourceCategoryId ∈ db.sourceCategory.map SourceCategoryRow.id then
      .ok ([r], db.replaceCharging r hv hs)
    else .error (foreignKeyViolation "charging_sourcecategoryid_fkey")
  else .error (foreignKeyViolation "charging_vehicleid_fkey")

/-- `DELETE FROM charging WHERE Id = id` -/
def runDeleteCharging (id : Uuid) : Except Exn (ℕ × Database) :=
  if id ∈ db.charging.map ChargingRow.id then .ok (1, db.deleteCharging id) else .ok (0, db)

/-- An `UPDATE` of the row with a given id.  Its parameters are coerced in any
case; constraints are checked only when the row exists. -/
def updateExisting {α : Type} (idParam : Param) (ids : List Uuid) (row : Except Exn α)
    (update : α → Except Exn (List α × Database)) : Except Exn (List α × Database) := do
  let id ← idParam.asUuid
  if id.any (· ∈ ids) then update (← row)
  else
    match row with
    | .error e => if e.kind = .notNullViolation then .ok ([], db) else .error e
    | .ok _ => .ok ([], db)

end Run

/-- A parameter that names a row. -/
def idOf (p : Param) : Except Exn Uuid := do
  notNull "id" (← p.asUuid)

/-- The row of a lookup table from its two parameters. -/
def lookupRow (p : List Param) : Except Exn (Uuid × String) := do
  let id ← (placeholder p 1).asUuid
  let name ← (placeholder p 2).asVarchar 36
  return (← notNull "id" id, ← notNull "name" name)

/-- Run a statement on a database. -/
def Write.run {ρ : Type} (db : Database) : Write ρ → Except Exn (ρ × Database)
  | .insertVehicle p => do
      runInsertVehicle db (← vehicleRow fun c => placeholder p (vehicleColumns c))
  | .updateVehicle p =>
      updateExisting db (placeholder p (vehicleColumns .id)) (db.vehicle.map VehicleRow.id)
        (vehicleRow fun c => placeholder p (vehicleColumns c)) (runUpdateVehicle db)
  | .deleteVehicle p => do runDeleteVehicle db (← idOf (placeholder p 1))
  | .insertWeather p => do
      let (id, name) ← lookupRow p
      runInsertWeather db ⟨id, name⟩
  | .insertSourceCategory p => do
      let (id, name) ← lookupRow p
      runInsertSourceCategory db ⟨id, name⟩
  | .insertConsumption p => do
      runInsertConsumption db (← consumptionRow fun c => placeholder p (consumptionColumns c))
  | .updateConsumption p =>
      updateExisting db (placeholder p (consumptionColumns .id))
        (db.consumption.map ConsumptionRow.id)
        (consumptionRow fun c => placeholder p (consumptionColumns c)) (runUpdateConsumption db)
  | .deleteConsumption p => do runDeleteConsumption db (← idOf (placeholder p 1))
  | .insertCharging p => do
      runInsertCharging db (← chargingRow fun c => placeholder p (chargingInsert c))
  | .updateCharging p =>
      updateExisting db (placeholder p (chargingUpdate .id)) (db.charging.map ChargingRow.id)
        (chargingRow fun c => placeholder p (chargingUpdate c)) (runUpdateCharging db)
  | .deleteCharging p => do runDeleteCharging db (← idOf (placeholder p 1))

/-! ## What a statement can do -/

/-- A computation that may throw and did not. -/
theorem bind_eq_ok {ε α β : Type} {x : Except ε α} {f : α → Except ε β} {b : β} :
    (x >>= f) = .ok b ↔ ∃ a, x = .ok a ∧ f a = .ok b := by
  cases x with
  | error e =>
      constructor
      · intro h; cases h
      · rintro ⟨a, h, -⟩; cases h
  | ok a =>
      constructor
      · intro h; exact ⟨a, rfl, h⟩
      · rintro ⟨a', h, hf⟩; cases h; exact hf

theorem pure_eq_ok {ε α : Type} {a b : α} : (pure a : Except ε α) = .ok b ↔ a = b :=
  ⟨fun h => by cases h; rfl, fun h => h ▸ rfl⟩

theorem notNull_eq_ok {α : Type} {column : String} {o : Option α} {a : α} :
    notNull column o = .ok a ↔ o = some a := by
  cases o with
  | none => simp [notNull]
  | some b => simp [notNull]

/-! ## Rows and the values they were made from -/

theorem lookupRow_ok {p : List Param} {r : Uuid × String} (h : lookupRow p = .ok r) :
    (placeholder p 1).asUuid = .ok (some r.1) ∧ (placeholder p 2).asVarchar 36 = .ok (some r.2) := by
  simp only [lookupRow, bind_eq_ok, notNull_eq_ok, pure_eq_ok] at h
  obtain ⟨_, hid, _, hname, _, rfl, _, rfl, rfl⟩ := h
  exact ⟨hid, hname⟩

/-- The row holds the coerced column values. -/
structure VehicleCoerced (v : VehicleCol → Param) (r : VehicleRow) : Prop where
  id : (v .id).asUuid = .ok (some r.id)
  brand : (v .brand).asVarchar 36 = .ok (some r.brand)
  calibratedRange : (v .calibratedRange).asInt = .ok (some r.calibratedRange)
  batteryCapacity : (v .batteryCapacity).asDecimal 10 2 = .ok (some r.batteryCapacity)
  purchaseDate : (v .purchaseDate).asDate = .ok (some r.purchaseDate)
  licensePlate : (v .licensePlate).asVarchar 15 = .ok (some r.licensePlate)

theorem vehicleRow_ok {v : VehicleCol → Param} {r : VehicleRow} (h : vehicleRow v = .ok r) :
    VehicleCoerced v r := by
  simp only [vehicleRow, bind_eq_ok, notNull_eq_ok, pure_eq_ok] at h
  obtain ⟨_, id, _, brand, _, calibratedRange, _, batteryCapacity, _, purchaseDate, _,
    licensePlate, _, rfl, _, rfl, _, rfl, _, rfl, _, rfl, _, rfl, rfl⟩ := h
  exact ⟨id, brand, calibratedRange, batteryCapacity, purchaseDate, licensePlate⟩

/-- The row holds the coerced column values; the remark goes through `NULLIF`. -/
structure ConsumptionCoerced (v : ConsumptionCol → Param) (r : ConsumptionRow) : Prop where
  id : (v .id).asUuid = .ok (some r.id)
  vehicleId : (v .vehicleId).asUuid = .ok (some r.vehicleId)
  start : (v .start).asInstant = .ok (some r.start)
  endTime : (v .endTime).asInstant = .ok (some r.endTime)
  beginPercent : (v .beginPercent).asInt = .ok (some r.beginPercent)
  endPercent : (v .endPercent).asInt = .ok (some r.endPercent)
  beginMileage : (v .beginMileage).asInt = .ok (some r.beginMileage)
  endMileage : (v .endMileage).asInt = .ok (some r.endMileage)
  beginRange : (v .beginRange).asInt = .ok (some r.beginRange)
  endRange : (v .endRange).asInt = .ok (some r.endRange)
  highestTemperature : (v .highestTemperature).asDecimal 4 1 = .ok (some r.highestTemperature)
  lowestTemperature : (v .lowestTemperature).asDecimal 4 1 = .ok (some r.lowestTemperature)
  weatherId : (v .weatherId).asUuid = .ok (some r.weatherId)
  remark : ∃ s, (v .remark).asText = .ok s ∧ r.remark = nullIfEmpty s

theorem consumptionRow_ok {v : ConsumptionCol → Param} {r : ConsumptionRow} (h : consumptionRow v = .ok r) :
    ConsumptionCoerced v r := by
  simp only [consumptionRow, bind_eq_ok, notNull_eq_ok, pure_eq_ok] at h
  obtain ⟨_, id, _, vehicleId, _, start, _, endTime, _, beginPercent, _, endPercent, _,
    beginMileage, _, endMileage, _, beginRange, _, endRange, _, highestTemperature, _,
    lowestTemperature, _, weatherId, _, remark, h⟩ := h
  obtain ⟨_, rfl, _, rfl, _, rfl, _, rfl, _, rfl, _, rfl, _, rfl, _, rfl, _, rfl, _, rfl, _,
    rfl, _, rfl, _, rfl, rfl⟩ := h
  exact ⟨id, vehicleId, start, endTime, beginPercent, endPercent, beginMileage, endMileage,
    beginRange, endRange, highestTemperature, lowestTemperature, weatherId, ⟨_, remark, rfl⟩⟩

/-- The row holds the coerced column values. -/
structure ChargingCoerced (v : ChargingCol → Param) (r : ChargingRow) : Prop where
  id : (v .id).asUuid = .ok (some r.id)
  vehicleId : (v .vehicleId).asUuid = .ok (some r.vehicleId)
  startTime : (v .startTime).asInstant = .ok (some r.startTime)
  endTime : (v .endTime).asInstant = .ok (some r.endTime)
  startPercent : (v .startPercent).asInt = .ok (some r.startPercent)
  endPercent : (v .endPercent).asInt = .ok (some r.endPercent)
  startMileage : (v .startMileage).asInt = .ok (some r.startMileage)
  endMileage : (v .endMileage).asInt = .ok (some r.endMileage)
  kwhCharged : (v .kwhCharged).asDecimal 10 2 = .ok (some r.kwhCharged)
  cost : (v .cost).asDecimal 10 2 = .ok (some r.cost)
  electricityUnitPrice : (v .electricityUnitPrice).asDecimal 4 2 = .ok (some r.electricityUnitPrice)
  serviceFee : (v .serviceFee).asDecimal 5 2 = .ok r.serviceFee
  chargerType : (v .chargerType).asChargerType = .ok (some r.chargerType)
  sourceCategoryId : (v .sourceCategoryId).asUuid = .ok (some r.sourceCategoryId)
  location : (v .location).asVarchar 100 = .ok r.location
  remark : (v .remark).asText = .ok r.remark

theorem chargingRow_ok {v : ChargingCol → Param} {r : ChargingRow} (h : chargingRow v = .ok r) :
    ChargingCoerced v r := by
  simp only [chargingRow, bind_eq_ok, notNull_eq_ok, pure_eq_ok] at h
  obtain ⟨_, id, _, vehicleId, _, startTime, _, endTime, _, startPercent, _, endPercent, _,
    startMileage, _, endMileage, _, kwhCharged, _, cost, _, electricityUnitPrice, _,
    serviceFee, _, chargerType, _, sourceCategoryId, _, location, _, remark, h⟩ := h
  obtain ⟨_, rfl, _, rfl, _, rfl, _, rfl, _, rfl, _, rfl, _, rfl, _, rfl, _, rfl, _, rfl, _,
    rfl, _, rfl, _, rfl, rfl⟩ := h
  exact ⟨id, vehicleId, startTime, endTime, startPercent, endPercent, startMileage, endMileage,
    kwhCharged, cost, electricityUnitPrice, serviceFee, chargerType, sourceCategoryId,
    location, remark⟩

section Inversion
variable {db db' : Database}

theorem runInsertVehicle_ok {r : VehicleRow} {u : Unit}
    (h : runInsertVehicle db r = .ok (u, db')) :
    ∃ hid hplate, db' = db.insertVehicle r hid hplate := by
  unfold runInsertVehicle at h
  split at h
  · cases h
  · rename_i hid
    split at h
    · cases h
    · rename_i hplate
      cases h
      exact ⟨hid, hplate, rfl⟩

theorem runUpdateVehicle_ok {r : VehicleRow} {l : List VehicleRow}
    (h : runUpdateVehicle db r = .ok (l, db')) : ∃ hplate, db' = db.replaceVehicle r hplate := by
  unfold runUpdateVehicle at h
  split at h
  · rename_i hplate
    cases h
    exact ⟨hplate, rfl⟩
  · cases h

theorem runDeleteVehicle_ok {id : Uuid} {n : ℕ} (h : runDeleteVehicle db id = .ok (n, db')) :
    db' = db ∨ ∃ hc hch, db' = db.deleteVehicle id hc hch := by
  unfold runDeleteVehicle at h
  split at h
  · split at h
    · rename_i hc
      split at h
      · rename_i hch
        cases h
        exact .inr ⟨hc, hch, rfl⟩
      · cases h
    · cases h
  · cases h
    exact .inl rfl

theorem runInsertWeather_ok {r : WeatherRow} {u : Unit}
    (h : runInsertWeather db r = .ok (u, db')) : ∃ hid hname, db' = db.insertWeather r hid hname := by
  unfold runInsertWeather at h
  split at h
  · cases h
  · rename_i hid
    split at h
    · cases h
    · rename_i hname
      cases h
      exact ⟨hid, hname, rfl⟩

theorem runInsertSourceCategory_ok {r : SourceCategoryRow} {u : Unit}
    (h : runInsertSourceCategory db r = .ok (u, db')) :
    ∃ hid hname, db' = db.insertSourceCategory r hid hname := by
  unfold runInsertSourceCategory at h
  split at h
  · cases h
  · rename_i hid
    split at h
    · cases h
    · rename_i hname
      cases h
      exact ⟨hid, hname, rfl⟩

theorem runInsertConsumption_ok {r : ConsumptionRow} {u : Unit}
    (h : runInsertConsumption db r = .ok (u, db')) :
    ∃ hid hv hw, db' = db.insertConsumption r hid hv hw := by
  unfold runInsertConsumption at h
  split at h
  · cases h
  · rename_i hid
    split at h
    · rename_i hv
      split at h
      · rename_i hw
        cases h
        exact ⟨hid, hv, hw, rfl⟩
      · cases h
    · cases h

theorem runUpdateConsumption_ok {r : ConsumptionRow} {l : List ConsumptionRow}
    (h : runUpdateConsumption db r = .ok (l, db')) :
    ∃ hv hw, db' = db.replaceConsumption r hv hw := by
  unfold runUpdateConsumption at h
  split at h
  · rename_i hv
    split at h
    · rename_i hw
      cases h
      exact ⟨hv, hw, rfl⟩
    · cases h
  · cases h

theorem runDeleteConsumption_ok {id : Uuid} {n : ℕ}
    (h : runDeleteConsumption db id = .ok (n, db')) : db' = db ∨ db' = db.deleteConsumption id := by
  unfold runDeleteConsumption at h
  split at h
  · cases h
    exact .inr rfl
  · cases h
    exact .inl rfl

theorem runInsertCharging_ok {r : ChargingRow} {u : Unit}
    (h : runInsertCharging db r = .ok (u, db')) :
    ∃ hid hv hs, db' = db.insertCharging r hid hv hs := by
  unfold runInsertCharging at h
  split at h
  · cases h
  · rename_i hid
    split at h
    · rename_i hv
      split at h
      · rename_i hs
        cases h
        exact ⟨hid, hv, hs, rfl⟩
      · cases h
    · cases h

theorem runUpdateCharging_ok {r : ChargingRow} {l : List ChargingRow}
    (h : runUpdateCharging db r = .ok (l, db')) : ∃ hv hs, db' = db.replaceCharging r hv hs := by
  unfold runUpdateCharging at h
  split at h
  · rename_i hv
    split at h
    · rename_i hs
      cases h
      exact ⟨hv, hs, rfl⟩
    · cases h
  · cases h

theorem runDeleteCharging_ok {id : Uuid} {n : ℕ} (h : runDeleteCharging db id = .ok (n, db')) :
    db' = db ∨ db' = db.deleteCharging id := by
  unfold runDeleteCharging at h
  split at h
  · cases h
    exact .inr rfl
  · cases h
    exact .inl rfl

/-- An `UPDATE` finds no row, or its row is well formed and it ran. -/
theorem updateExisting_ok {α : Type} {idParam : Param} {ids : List Uuid} {row : Except Exn α}
    {update : α → Except Exn (List α × Database)} {l : List α}
    (h : updateExisting db idParam ids row update = .ok (l, db')) :
    (l = [] ∧ db' = db) ∨ ∃ a, row = .ok a ∧ update a = .ok (l, db') ∧
      ∃ id ∈ ids, idParam.asUuid = .ok (some id) := by
  obtain ⟨id, hid, h⟩ := bind_eq_ok.mp h
  split at h
  · rename_i hmem
    obtain ⟨id, rfl, hmem⟩ := (Option.any_eq_true ..).mp hmem
    obtain ⟨a, ha, h⟩ := bind_eq_ok.mp h
    exact .inr ⟨a, ha, h, id, by simpa using hmem, hid⟩
  · left
    split at h
    · split at h
      · cases h; exact ⟨rfl, rfl⟩
      · cases h
    · cases h; exact ⟨rfl, rfl⟩

end Inversion

/-- Everything a statement that did not throw can have done. -/
inductive Effect (db : Database) : {ρ : Type} → Write ρ → Database → Prop
  | none {ρ : Type} {w : Write ρ} : Effect db w db
  | insertVehicle {p r hid hplate}
      (hr : vehicleRow (fun c => placeholder p (vehicleColumns c)) = .ok r) :
      Effect db (.insertVehicle p) (db.insertVehicle r hid hplate)
  | updateVehicle {p r hplate}
      (hr : vehicleRow (fun c => placeholder p (vehicleColumns c)) = .ok r) :
      Effect db (.updateVehicle p) (db.replaceVehicle r hplate)
  | deleteVehicle {p id hc hch} (hid : idOf (placeholder p 1) = .ok id) :
      Effect db (.deleteVehicle p) (db.deleteVehicle id hc hch)
  | insertWeather {p r hid hname} (hr : lookupRow p = .ok r) :
      Effect db (.insertWeather p) (db.insertWeather ⟨r.1, r.2⟩ hid hname)
  | insertSourceCategory {p r hid hname} (hr : lookupRow p = .ok r) :
      Effect db (.insertSourceCategory p) (db.insertSourceCategory ⟨r.1, r.2⟩ hid hname)
  | insertConsumption {p r hid hv hw}
      (hr : consumptionRow (fun c => placeholder p (consumptionColumns c)) = .ok r) :
      Effect db (.insertConsumption p) (db.insertConsumption r hid hv hw)
  | updateConsumption {p r hv hw}
      (hr : consumptionRow (fun c => placeholder p (consumptionColumns c)) = .ok r) :
      Effect db (.updateConsumption p) (db.replaceConsumption r hv hw)
  | deleteConsumption {p id} (hid : idOf (placeholder p 1) = .ok id) :
      Effect db (.deleteConsumption p) (db.deleteConsumption id)
  | insertCharging {p r hid hv hs}
      (hr : chargingRow (fun c => placeholder p (chargingInsert c)) = .ok r) :
      Effect db (.insertCharging p) (db.insertCharging r hid hv hs)
  | updateCharging {p r hv hs}
      (hr : chargingRow (fun c => placeholder p (chargingUpdate c)) = .ok r) :
      Effect db (.updateCharging p) (db.replaceCharging r hv hs)
  | deleteCharging {p id} (hid : idOf (placeholder p 1) = .ok id) :
      Effect db (.deleteCharging p) (db.deleteCharging id)

section Effect
variable {db db' : Database} {ρ : Type} {w : Write ρ} {a : ρ}

theorem Write.run_effect (h : w.run db = .ok (a, db')) : Effect db w db' := by
  cases w with
  | insertVehicle p =>
      obtain ⟨r, hr, h⟩ := bind_eq_ok.mp h
      obtain ⟨_, _, rfl⟩ := runInsertVehicle_ok h
      exact .insertVehicle hr
  | updateVehicle p =>
      rcases updateExisting_ok h with ⟨-, rfl⟩ | ⟨r, hr, h, -⟩
      · exact .none
      · obtain ⟨_, rfl⟩ := runUpdateVehicle_ok h
        exact .updateVehicle hr
  | deleteVehicle p =>
      obtain ⟨id, hid, h⟩ := bind_eq_ok.mp h
      rcases runDeleteVehicle_ok h with rfl | ⟨_, _, rfl⟩
      · exact .none
      · exact .deleteVehicle hid
  | insertWeather p =>
      obtain ⟨r, hr, h⟩ := bind_eq_ok.mp h
      obtain ⟨_, _, rfl⟩ := runInsertWeather_ok h
      exact .insertWeather hr
  | insertSourceCategory p =>
      obtain ⟨r, hr, h⟩ := bind_eq_ok.mp h
      obtain ⟨_, _, rfl⟩ := runInsertSourceCategory_ok h
      exact .insertSourceCategory hr
  | insertConsumption p =>
      obtain ⟨r, hr, h⟩ := bind_eq_ok.mp h
      obtain ⟨_, _, _, rfl⟩ := runInsertConsumption_ok h
      exact .insertConsumption hr
  | updateConsumption p =>
      rcases updateExisting_ok h with ⟨-, rfl⟩ | ⟨r, hr, h, -⟩
      · exact .none
      · obtain ⟨_, _, rfl⟩ := runUpdateConsumption_ok h
        exact .updateConsumption hr
  | deleteConsumption p =>
      obtain ⟨id, hid, h⟩ := bind_eq_ok.mp h
      rcases runDeleteConsumption_ok h with rfl | rfl
      · exact .none
      · exact .deleteConsumption hid
  | insertCharging p =>
      obtain ⟨r, hr, h⟩ := bind_eq_ok.mp h
      obtain ⟨_, _, _, rfl⟩ := runInsertCharging_ok h
      exact .insertCharging hr
  | updateCharging p =>
      rcases updateExisting_ok h with ⟨-, rfl⟩ | ⟨r, hr, h, -⟩
      · exact .none
      · obtain ⟨_, _, rfl⟩ := runUpdateCharging_ok h
        exact .updateCharging hr
  | deleteCharging p =>
      obtain ⟨id, hid, h⟩ := bind_eq_ok.mp h
      rcases runDeleteCharging_ok h with rfl | rfl
      · exact .none
      · exact .deleteCharging hid

/-! ## Rows that were not there before -/

/-- The column values a statement on `consumption` carries. -/
def Write.consumptionValues : {ρ : Type} → Write ρ → Option (ConsumptionCol → Param)
  | _, .insertConsumption p | _, .updateConsumption p =>
      some fun c => placeholder p (consumptionColumns c)
  | _, _ => none

/-- The column values a statement on `charging` carries. -/
def Write.chargingValues : {ρ : Type} → Write ρ → Option (ChargingCol → Param)
  | _, .insertCharging p => some fun c => placeholder p (chargingInsert c)
  | _, .updateCharging p => some fun c => placeholder p (chargingUpdate c)
  | _, _ => none

/-- The parameters of an `INSERT INTO vehicle`. -/
def Write.vehicleInsert? : {ρ : Type} → Write ρ → Option (List Param)
  | _, .insertVehicle p => some p
  | _, _ => none

/-- The parameters of an `UPDATE vehicle`. -/
def Write.vehicleUpdate? : {ρ : Type} → Write ρ → Option (List Param)
  | _, .updateVehicle p => some p
  | _, _ => none

/-- A vehicle in the table after a statement was there before, was inserted, or is the new
version of one that was there. -/
theorem Effect.vehicle_cases (h : Effect db w db') {x : VehicleRow} (hx : x ∈ db'.vehicle) :
    x ∈ db.vehicle ∨
      (∃ p, w.vehicleInsert? = some p ∧
        vehicleRow (fun c => placeholder p (vehicleColumns c)) = .ok x) ∨
      ∃ p, w.vehicleUpdate? = some p ∧
        vehicleRow (fun c => placeholder p (vehicleColumns c)) = .ok x ∧
        ∃ y ∈ db.vehicle, y.id = x.id := by
  cases h with
  | insertVehicle hr =>
      rcases List.mem_cons.mp hx with rfl | hx
      · exact .inr (.inl ⟨_, rfl, hr⟩)
      · exact .inl hx
  | updateVehicle hr =>
      have hid : x.id ∈ db.vehicle.map VehicleRow.id := by
        rw [← map_key_replaceBy VehicleRow.id]
        exact List.mem_map_of_mem hx
      rcases mem_replaceBy hx with rfl | ⟨hx, -⟩
      · exact .inr (.inr ⟨_, rfl, hr, List.mem_map.mp hid⟩)
      · exact .inl hx
  | deleteVehicle => exact .inl (mem_deleteBy.mp hx).1
  | _ => exact .inl hx

/-- A consumption in the table after a statement was there before, or is the row the
statement carries. -/
theorem Effect.mem_consumption (h : Effect db w db') {x : ConsumptionRow}
    (hx : x ∈ db'.consumption) :
    x ∈ db.consumption ∨ ∃ v, w.consumptionValues = some v ∧ consumptionRow v = .ok x := by
  cases h with
  | insertConsumption hr =>
      rcases List.mem_cons.mp hx with rfl | hx
      · exact .inr ⟨_, rfl, hr⟩
      · exact .inl hx
  | updateConsumption hr =>
      rcases mem_replaceBy hx with rfl | ⟨hx, -⟩
      · exact .inr ⟨_, rfl, hr⟩
      · exact .inl hx
  | deleteConsumption => exact .inl (mem_deleteBy.mp hx).1
  | _ => exact .inl hx

/-- A charging in the table after a statement was there before, or is the row the
statement carries. -/
theorem Effect.mem_charging (h : Effect db w db') {x : ChargingRow} (hx : x ∈ db'.charging) :
    x ∈ db.charging ∨ ∃ v, w.chargingValues = some v ∧ chargingRow v = .ok x := by
  cases h with
  | insertCharging hr =>
      rcases List.mem_cons.mp hx with rfl | hx
      · exact .inr ⟨_, rfl, hr⟩
      · exact .inl hx
  | updateCharging hr =>
      rcases mem_replaceBy hx with rfl | ⟨hx, -⟩
      · exact .inr ⟨_, rfl, hr⟩
      · exact .inl hx
  | deleteCharging => exact .inl (mem_deleteBy.mp hx).1
  | _ => exact .inl hx

end Effect

end EvGrpc
