import EvGrpc.Records.DateText
import EvGrpc.Services.Written

/-!
# Purchase dates

A date is printed, cast, stored, printed by PostgreSQL and read back.  Each step has its own
idea of what a date looks like, and none compares the result with the request:
`purchase_date_kept_iff` says which dates come back as they were sent.
-/

namespace EvGrpc

open Lib

/-- The date in a request that writes a vehicle. -/
def Request.purchaseDate? : Request → Option GDate
  | .createVehicle r => some r.purchaseDate
  | .updateVehicle r => some r.purchaseDate
  | _ => none

/-- The stored date is that of the request. -/
structure VehicleRow.Bears (row : VehicleRow) (g : GDate) : Prop where
  year : row.purchaseDate.year = g.year.toInt
  month : (row.purchaseDate.month : ℤ) = g.month.toInt
  day : (row.purchaseDate.day : ℤ) = g.day.toInt

/-- A date is kept: whenever a request with it succeeds, the date is stored, and for as long
as the row is, `GetVehicle` returns it. -/
def DateKept (g : GDate) : Prop :=
  ∀ (req : Request) (md : Metadata) (db db' : Database) (reply : Reply Response),
    req.purchaseDate? = some g → Serves db (handle ⟨md, req⟩) reply db' → reply.1.ok = true →
    ∃ row ∈ db'.vehicle, reply.2 = some (.vehicle (vehicleMessage row)) ∧ row.Bears g ∧
      ∀ later md', row ∈ later.vehicle →
        Replies later (handle ⟨md', .getVehicle ⟨uuidOut row.id⟩⟩) fun reply' =>
          ∃ v, reply' = (.OK, some (.vehicle v)) ∧ v.purchaseDate = some g

section Kept
variable {g : GDate} {db db' : Database} {md : Metadata} {row : VehicleRow}

theorem asDate_text {s : String} {x : Date} (h : (Param.text s).asDate = .ok (some x)) :
    dateIn s = some x := by
  simp only [Param.asDate] at h
  split at h
  · rename_i y hy
    cases h
    exact hy
  · cases h

/-- A request that succeeds stores what the cast makes of its date. -/
theorem written_vehicle {req : Request} {reply : Reply Response}
    (hreq : req.purchaseDate? = some g) (hserves : Serves db (handle ⟨md, req⟩) reply db')
    (hok : reply.1.ok = true) :
    ∃ row ∈ db'.vehicle, reply.2 = some (.vehicle (vehicleMessage row)) ∧
      dateIn (dateToString g) = some row.purchaseDate := by
  cases req with
  | createVehicle q =>
      cases hreq
      obtain ⟨r, hr, rfl⟩ := serves_respond.mp hserves
      obtain ⟨u, row, hmem, hrow, rfl⟩ := createVehicle_ok hok hr
      exact ⟨row, hmem, rfl, asDate_text (vehicleRow_ok hrow).purchaseDate⟩
  | updateVehicle q =>
      cases hreq
      obtain ⟨r, hr, rfl⟩ := serves_respond.mp hserves
      obtain ⟨row, hmem, hrow, rfl⟩ := updateVehicle_ok hok hr
      exact ⟨row, hmem, rfl, asDate_text (vehicleRow_ok hrow).purchaseDate⟩
  | _ => cases hreq

/-- A stored row is what `GetVehicle` answers with. -/
theorem replies_handle_getVehicle (h : row ∈ db.vehicle) (md : Metadata) :
    Replies db (handle ⟨md, .getVehicle ⟨uuidOut row.id⟩⟩)
      (· = (.OK, some (.vehicle (vehicleMessage row)))) := by
  refine (replies_getVehicle h (uuidIn_uuidOut row.id)).respond ?_
  rintro _ rfl
  rfl

/-- The message of a row bears a date exactly when the row does, in a year of four digits. -/
theorem purchaseDate_vehicleMessage (h : row.Bears g) :
    (vehicleMessage row).purchaseDate = some g ↔ 1 ≤ g.year.toInt ∧ g.year.toInt ≤ 9999 := by
  have hself : (⟨Int32.ofInt g.year.toInt, Int32.ofInt g.month.toInt, Int32.ofInt g.day.toInt⟩ :
      GDate) = g := by
    simp only [Int32.ofInt_toInt]
  simp only [vehicleMessage, purchaseDateMessage, h.year, h.month, h.day, hself]
  by_cases hy : 1 ≤ g.year.toInt ∧ g.year.toInt ≤ 9999
  · simp [hy]
  · simp [hy]

/-- A plain date is kept. -/
theorem dateKept_of_isPlain (h : IsPlain g.year.toInt g.month.toInt g.day.toInt) : DateKept g := by
  intro req md db db' reply hreq hserves hok
  obtain ⟨row, hmem, hreply, hdate⟩ := written_vehicle hreq hserves hok
  obtain ⟨x, hx, hyear, hmonth, hday⟩ := dateIn_of_isPlain h
  rw [hx] at hdate
  cases hdate
  have hbears : row.Bears g := ⟨hyear, hmonth, hday⟩
  refine ⟨row, hmem, hreply, hbears, ?_⟩
  intro later md' hlater
  obtain ⟨hsome, hall⟩ := replies_handle_getVehicle hlater md'
  refine ⟨hsome, ?_⟩
  intro reply' db'' hreply'
  obtain ⟨rfl, rfl⟩ := hall reply' db'' hreply'
  exact ⟨rfl, _, rfl, (purchaseDate_vehicleMessage hbears).mpr h.1⟩

theorem vehicleRow_of_coerced {v : VehicleCol → Param} (h : VehicleCoerced v row) :
    vehicleRow v = .ok row := by
  simp only [vehicleRow, h.id, h.brand, h.calibratedRange, h.batteryCapacity, h.purchaseDate,
    h.licensePlate]
  rfl

/-- A date that is accepted can be written. -/
theorem exists_written (h : (dateIn (dateToString g)).isSome) :
    ∃ (q : CreateVehicleRequest) (reply : Reply Response) (db' : Database), q.purchaseDate = g ∧
      Serves .empty (handle ⟨[], .createVehicle q⟩) reply db' ∧ reply.1.ok = true := by
  obtain ⟨x, hx⟩ := Option.isSome_iff_exists.mp h
  let q : CreateVehicleRequest := { someVehicle "A" with purchaseDate := g }
  have hdate : (Param.text (dateToString g)).asDate = .ok (some x) := by
    simp only [Param.asDate, hx]
  have hrow : vehicleRow (fun c => placeholder (q.params (someUuid 0)) (vehicleColumns c)) =
      .ok ⟨someUuid 0, "brand", 500, .num 60, x, "A"⟩ :=
    vehicleRow_of_coerced
      { id := asUuid_uuidOut _
        brand := show (Param.text "brand").asVarchar 36 = .ok (some "brand") by decide
        calibratedRange := rfl
        batteryCapacity :=
          show (Param.double (.fin 60)).asDecimal 10 2 = .ok (some (.num 60)) by decide +kernel
        purchaseDate := hdate
        licensePlate := show (Param.text "A").asVarchar 15 = .ok (some "A") by decide }
  exact ⟨q, _, _, rfl, serves_respond.mpr ⟨_, serves_createVehicle hrow (by simp [Database.empty])
    (by simp [Database.empty]), rfl⟩, rfl⟩

/-- A date that is kept although it is accepted is a plain one. -/
theorem isPlain_of_dateKept (hkept : DateKept g) (h : (dateIn (dateToString g)).isSome) :
    IsPlain g.year.toInt g.month.toInt g.day.toInt := by
  obtain ⟨q, reply, db', rfl, hserves, hok⟩ := exists_written h
  obtain ⟨row, hmem, -, hbears, hget⟩ := hkept _ _ _ _ _ rfl hserves hok
  obtain ⟨⟨reply', hreply'⟩, hall⟩ := hget db' [] hmem
  obtain ⟨-, v, hv, hdate⟩ := hall reply' db' hreply'
  obtain ⟨-, hmessage⟩ := (replies_handle_getVehicle hmem []).2 reply' db' hreply'
  rw [hv] at hmessage
  cases hmessage
  have hyear := (purchaseDate_vehicleMessage hbears).mp hdate
  have hdays := row.purchaseDate.day_le
  have hnat : row.purchaseDate.month = q.purchaseDate.month.toInt.natAbs := by
    have := hbears.month
    omega
  rw [hbears.year, hnat] at hdays
  refine ⟨hyear, ⟨?_, ?_⟩, ?_, ?_⟩
  · rw [← hbears.month]
    exact_mod_cast row.purchaseDate.month_pos
  · rw [← hbears.month]
    exact_mod_cast row.purchaseDate.month_le
  · rw [← hbears.day]
    exact_mod_cast row.purchaseDate.day_pos
  · rw [← hbears.day]
    exact_mod_cast hdays

end Kept

/-- **Purchase dates are kept** exactly when they are not misread: a date whose ten characters
name no date is refused, and a plain one is stored and comes back as it is. -/
theorem purchase_date_kept_iff (g : GDate) :
    DateKept g ↔ ¬ Misread g.year.toInt g.month.toInt g.day.toInt := by
  constructor
  · intro hkept hmis
    exact hmis.not_isPlain
      (isPlain_of_dateKept hkept ((dateIn_dateToString_iff g).mpr (.inr hmis)))
  · intro hmis
    by_cases hplain : IsPlain g.year.toInt g.month.toInt g.day.toInt
    · exact dateKept_of_isPlain hplain
    · intro req md db db' reply hreq hserves hok
      obtain ⟨row, -, -, hdate⟩ := written_vehicle hreq hserves hok
      have hsome : (dateIn (dateToString g)).isSome := by rw [hdate]; rfl
      rcases (dateIn_dateToString_iff g).mp hsome with h | h
      · exact absurd h hplain
      · exact absurd h hmis

/-- The twelfth of January 12345 is stored as the first, and comes back as no date at all. -/
theorem twelfth_stored_as_first :
    ∃ reply db', Serves .empty (handle ⟨[], .createVehicle
        { someVehicle "A" with purchaseDate := ⟨12345, 1, 12⟩ }⟩) reply db' ∧
      reply.1.ok = true ∧
      db'.vehicle.map (fun r => (r.purchaseDate.year, r.purchaseDate.month, r.purchaseDate.day)) =
        [(12345, 1, 1)] ∧
      (∃ v, reply.2 = some (.vehicle v) ∧ v.purchaseDate = none) ∧
      ¬ DateKept ⟨12345, 1, 12⟩ := by
  have hrun : ∃ reply db', Serves .empty (handle ⟨[], .createVehicle
      { someVehicle "A" with purchaseDate := ⟨12345, 1, 12⟩ }⟩) reply db' ∧
      reply.1.ok = true ∧
      db'.vehicle.map (fun r => (r.purchaseDate.year, r.purchaseDate.month, r.purchaseDate.day)) =
        [(12345, 1, 1)] :=
    Serves.exists_run 2 (List.replicate 20 {}) (clean_replicate 20) (by decide +kernel)
  obtain ⟨reply, db', hserves, hok, hstored⟩ := hrun
  obtain ⟨row, hmem, hreply, -⟩ := written_vehicle rfl hserves hok
  have hyear : row.purchaseDate.year = 12345 := by
    have hrow := List.mem_map_of_mem (f := fun r : VehicleRow =>
      (r.purchaseDate.year, r.purchaseDate.month, r.purchaseDate.day)) hmem
    rw [hstored] at hrow
    simp only [List.mem_cons, List.not_mem_nil, or_false, Prod.mk.injEq] at hrow
    exact hrow.1
  refine ⟨reply, db', hserves, hok, hstored, ⟨_, hreply, ?_⟩, ?_⟩
  · simp [vehicleMessage, purchaseDateMessage, hyear]
  · intro hkept
    have hplain := isPlain_of_dateKept hkept (by decide +kernel)
    exact absurd hplain.1.2 (by decide)

end EvGrpc
