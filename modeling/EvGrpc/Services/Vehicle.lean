import EvGrpc.Services.Listing

/-!
# `VehicleService`

`services/vehicle_service.cc`.
-/

namespace EvGrpc

open Lib

/-! ## Rows and messages -/

/-- Exception of a failed `std::stoi`. -/
def stoiError : Exn := ⟨.other, "stoi"⟩

/-- A field of a date's text. -/
def dateField (s : List Char) (pos len : ℕ) : Except Exn Int32 :=
  match stoi ((s.drop pos).take len) with
  | some n => .ok (Int32.ofInt n)
  | none => .error stoiError

/-- The date in a `PurchaseDate::text` of exactly ten characters; any other text is
skipped. -/
def purchaseDateOf (s : List Char) : Except Exn (Option GDate) := do
  if s.length = 10 ∧ s[4]? = some '-' ∧ s[7]? = some '-' then
    let year ← dateField s 0 4
    let month ← dateField s 5 2
    let day ← dateField s 8 2
    return some ⟨year, month, day⟩
  else return none

/-- `RowToVehicle` -/
def rowToVehicle (r : VehicleRow) : Except Exn Vehicle := do
  let purchaseDate ← purchaseDateOf (dateOut r.purchaseDate).toList
  return { id := uuidOut r.id
           brand := r.brand
           calibratedRangeKm := r.calibratedRange
           batteryCapacityKwh := r.batteryCapacity.toDouble
           purchaseDate
           licensePlate := r.licensePlate }

/-- The date in a vehicle message: only a year of four digits gives a text that is
read. -/
def purchaseDateMessage (x : Date) : Option GDate :=
  if 1 ≤ x.year ∧ x.year ≤ 9999 then
    some ⟨Int32.ofInt x.year, Int32.ofInt x.month, Int32.ofInt x.day⟩
  else none

/-- The message of a row. -/
def vehicleMessage (r : VehicleRow) : Vehicle where
  id := uuidOut r.id
  brand := r.brand
  calibratedRangeKm := r.calibratedRange
  batteryCapacityKwh := r.batteryCapacity.toDouble
  purchaseDate := purchaseDateMessage r.purchaseDate
  licensePlate := r.licensePlate

theorem stoi_padded {w n : ℕ} (hw : 0 < w) (h : n ≤ 9999) : stoi (padded w (n : ℤ)) = some (n : ℤ) := by
  have hne : padded w (n : ℤ) ≠ [] := by
    have := length_padded_ge w n
    intro h0
    rw [h0] at this
    simp at this
    omega
  have hread : strtol (padded w (n : ℤ) ++ []) = _ :=
    strtol_digits hne (fun c hc => isDigit_of_mem_padded hc) (by simp)
      (by rw [ofDigitChars_padded]; unfold longMax; omega)
  rw [List.append_nil, ofDigitChars_padded] at hread
  unfold stoi
  rw [hread]
  simp only [Bool.false_eq_true, false_or]
  rw [if_neg (by omega)]

/-- The fields of a text of ten characters are where `RowToVehicle` looks for them. -/
theorem dateText_fields {A B C : List Char} (hA : A.length = 4) (hB : B.length = 2)
    (hC : C.length = 2) :
    (A ++ '-' :: B ++ '-' :: C).length = 10 ∧ (A ++ '-' :: B ++ '-' :: C)[4]? = some '-' ∧
      (A ++ '-' :: B ++ '-' :: C)[7]? = some '-' ∧
      ((A ++ '-' :: B ++ '-' :: C).drop 0).take 4 = A ∧
      ((A ++ '-' :: B ++ '-' :: C).drop 5).take 2 = B ∧
      ((A ++ '-' :: B ++ '-' :: C).drop 8).take 2 = C := by
  match A, hA, B, hB, C, hC with
  | [_, _, _, _], _, [_, _], _, [_, _], _ => exact ⟨rfl, rfl, rfl, rfl, rfl, rfl⟩

/-- The text of a date is read back, or skipped. -/
theorem purchaseDateOf_dateOut (x : Date) :
    purchaseDateOf (dateOut x).toList = .ok (purchaseDateMessage x) := by
  have hmonth := x.month_le
  have hday : x.day ≤ 31 := x.day_le.trans (daysInMonth_le x.year x.month)
  have hm := length_padded (w := 2) (n := x.month) (by omega) (by omega)
  have hd := length_padded (w := 2) (n := x.day) (by omega) (by omega)
  by_cases hpos : 1 ≤ x.year
  · obtain ⟨y, hy⟩ : ∃ y : ℕ, x.year = y := ⟨x.year.toNat, by omega⟩
    have hout : (dateOut x).toList =
        padded 4 (y : ℤ) ++ '-' :: padded 2 x.month ++ '-' :: padded 2 x.day := by
      rw [dateOut, if_pos hpos, hy, String.toList_ofList]
    by_cases hle : y ≤ 9999
    · have hy4 := length_padded (w := 4) (n := y) (by omega) (by omega)
      obtain ⟨hlen, h4, h7, hA, hB, hC⟩ := dateText_fields hy4 hm hd
      unfold purchaseDateOf dateField
      rw [hout, if_pos ⟨hlen, h4, h7⟩, hA, hB, hC, stoi_padded (by omega) hle,
        stoi_padded (by omega) (by omega), stoi_padded (by omega) (by omega), purchaseDateMessage,
        if_pos (by omega), hy]
      rfl
    · have hlong := lt_length_padded (w := 4) (n := y) (by omega) (by omega)
      unfold purchaseDateOf
      rw [hout, if_neg, purchaseDateMessage, if_neg (by omega)]
      · rfl
      · simp only [List.length_append, List.length_cons, hm, hd]
        omega
  · have hlong : 4 ≤ (padded 4 (1 - x.year)).length := by
      obtain ⟨y, hy⟩ : ∃ y : ℕ, 1 - x.year = y := ⟨(1 - x.year).toNat, by omega⟩
      rw [hy]
      exact length_padded_ge 4 y
    unfold purchaseDateOf
    rw [dateOut, if_neg hpos, String.toList_ofList, if_neg, purchaseDateMessage, if_neg (by omega)]
    · rfl
    · simp only [List.length_append, List.length_cons, List.length_nil, hm, hd]
      omega

/-- Every row can be converted. -/
theorem rowToVehicle_eq (r : VehicleRow) : rowToVehicle r = .ok (vehicleMessage r) := by
  unfold rowToVehicle
  rw [purchaseDateOf_dateOut]
  rfl

/-- `DateToString`: the buffer has room for ten characters. -/
def dateToString (d : GDate) : String :=
  String.ofList ((padded 4 d.year.toInt ++ '-' :: padded 2 d.month.toInt ++
    '-' :: padded 2 d.day.toInt).take 10)

/-! ## Statements -/

/-- The parameters of the `INSERT` and the `UPDATE`. -/
def vehicleParams (id brand : String) (calibratedRangeKm : Int32) (batteryCapacityKwh : Double)
    (purchaseDate : GDate) (licensePlate : String) : List Param :=
  [.text id, .text brand, .int calibratedRangeKm, .double batteryCapacityKwh,
    .text (dateToString purchaseDate), .text licensePlate]

/-- The parameters `CreateVehicle` binds. -/
def CreateVehicleRequest.params (req : CreateVehicleRequest) (id : Uuid) : List Param :=
  vehicleParams (uuidOut id) req.brand req.calibratedRangeKm req.batteryCapacityKwh
    req.purchaseDate req.licensePlate

/-- The parameters `UpdateVehicle` binds. -/
def UpdateVehicleRequest.params (req : UpdateVehicleRequest) : List Param :=
  vehicleParams req.id req.brand req.calibratedRangeKm req.batteryCapacityKwh
    req.purchaseDate req.licensePlate

/-- `SELECT … FROM vehicle WHERE Id = $1` -/
def selectVehicle (id : String) (db : Database) : Except Exn (List VehicleRow) := do
  let id ← (Param.text id).asUuid
  return db.vehicle.filter fun r => id = some r.id

/-- `ORDER BY PurchaseDate DESC, Id` -/
def vehicleOrder (a b : VehicleRow) : Bool :=
  decide (b.purchaseDate.toDays < a.purchaseDate.toDays ∨
    (a.purchaseDate.toDays = b.purchaseDate.toDays ∧ a.id ≤ b.id))

/-- `SELECT … FROM vehicle ORDER BY PurchaseDate DESC, Id LIMIT $1 OFFSET $2` -/
def selectVehicles (limit offset : ℤ) (db : Database) : Except Exn (List VehicleRow) :=
  .ok (limitOffset limit offset (db.vehicle.mergeSort vehicleOrder))

/-! ## RPCs -/

def vehicleNotFound : Status := ⟨.NOT_FOUND, "vehicle not found"⟩

/-- `GetVehicle` -/
def getVehicle (md : Metadata) (req : GetVehicleRequest) : Prog Op (Reply Vehicle) :=
  authenticated md "/evgrpc.VehicleService/GetVehicle" <| catching <|
    getRow (selectVehicle req.id) vehicleNotFound rowToVehicle

/-- `CreateVehicle` calls `GetVehicle` while its own connection is still out. -/
def createVehicle (md : Metadata) (req : CreateVehicleRequest) : Prog Op (Reply Vehicle) :=
  authenticated md "/evgrpc.VehicleService/CreateVehicle" <| catching <| withConn <| withWork do
    let id ← newUuid
    execWrite (.insertVehicle (req.params id))
    commit
    let read ← callHandler (getVehicle md ⟨uuidOut id⟩)
    if !read.1.ok then fail read.1
    else return (.OK, read.2)

/-- `UpdateVehicle` -/
def updateVehicle (md : Metadata) (req : UpdateVehicleRequest) : Prog Op (Reply Vehicle) :=
  authenticated md "/evgrpc.VehicleService/UpdateVehicle" <| catching <|
    updateRow (.updateVehicle req.params) vehicleNotFound rowToVehicle

/-- `DeleteVehicle` -/
def deleteVehicle (md : Metadata) (req : DeleteVehicleRequest) : Prog Op (Reply Unit) :=
  authenticated md "/evgrpc.VehicleService/DeleteVehicle" <| catching <|
    deleteRow (.deleteVehicle [.text req.id]) vehicleNotFound

/-- `ListVehicles` -/
def listVehicles (md : Metadata) (req : ListVehiclesRequest) : Prog Op (Reply ListVehiclesResponse) :=
  authenticated md "/evgrpc.VehicleService/ListVehicles" <| catching do
    let pageSize := pageSizeOf req.pageSize
    match parsePageToken req.pageToken with
    | .error s => fail s
    | .ok offset =>
        withConn do
          let limit ← addInt pageSize 1
          let result ← exec (selectVehicles limit offset)
          let (vehicles, nextPageToken) ← listPage rowToVehicle pageSize offset result
          return (.OK, some { vehicles, nextPageToken })

end EvGrpc
