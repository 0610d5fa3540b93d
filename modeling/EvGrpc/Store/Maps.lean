import EvGrpc.Db.Write
import EvGrpc.Lib.Keyed

/-!
# The database as five maps

What the tables are for: a `Store` has a record for some of the ids of each kind, and
nothing else.  The order of rows is gone, and so are the proofs that the constraints hold;
what is left of a constraint is when a statement is refused.

`Database.store` forgets the rest of a database, and two databases are the same store if
and only if they have the same rows (`store_eq_iff`).  Statements mean the same on both
levels (`run_store`).
-/

namespace EvGrpc

open Lib Classical

/-- What is stored: the records by their ids. -/
@[ext]
structure Store where
  vehicle : Uuid → Option VehicleRow
  weather : Uuid → Option WeatherRow
  sourceCategory : Uuid → Option SourceCategoryRow
  consumption : Uuid → Option ConsumptionRow
  charging : Uuid → Option ChargingRow

/-- The records of a database. -/
def Database.store (db : Database) : Store where
  vehicle := index VehicleRow.id db.vehicle
  weather := index WeatherRow.id db.weather
  sourceCategory := index SourceCategoryRow.id db.sourceCategory
  consumption := index ConsumptionRow.id db.consumption
  charging := index ChargingRow.id db.charging

/-- Databases with the same rows, in whatever order, are the same store. -/
theorem store_eq_iff {a b : Database} : a.store = b.store ↔ a.SameRows b := by
  rw [Store.ext_iff]
  exact and_congr (index_eq_iff a.vehicle_pk b.vehicle_pk)
    (and_congr (index_eq_iff a.weather_pk b.weather_pk)
      (and_congr (index_eq_iff a.sourceCategory_pk b.sourceCategory_pk)
        (and_congr (index_eq_iff a.consumption_pk b.consumption_pk)
          (index_eq_iff a.charging_pk b.charging_pk))))

/-! ## Statements -/

namespace Store

/-- The map with one more record, or another one. -/
noncomputable def put {α : Type} (m : Uuid → Option α) (u : Uuid) (r : α) : Uuid → Option α :=
  Function.update m u (some r)

/-- The map without a record. -/
noncomputable def drop {α : Type} (m : Uuid → Option α) (u : Uuid) : Uuid → Option α :=
  Function.update m u none

section Statements
variable (σ : Store)

noncomputable def insertVehicle (r : VehicleRow) : Except Exn (Unit × Store) :=
  if σ.vehicle r.id ≠ none then .error (uniqueViolation "vehicle_pkey")
  else if ∃ u v, σ.vehicle u = some v ∧ v.licensePlate = r.licensePlate then
    .error (uniqueViolation "vehicle_licenseplate_key")
  else .ok ((), { σ with vehicle := put σ.vehicle r.id r })

noncomputable def updateVehicle (r : VehicleRow) : Except Exn (List VehicleRow × Store) :=
  if ∃ u v, σ.vehicle u = some v ∧ u ≠ r.id ∧ v.licensePlate = r.licensePlate then
    .error (uniqueViolation "vehicle_licenseplate_key")
  else .ok ([r], { σ with vehicle := put σ.vehicle r.id r })

noncomputable def deleteVehicle (u : Uuid) : Except Exn (ℕ × Store) :=
  if σ.vehicle u = none then .ok (0, σ)
  else if ∃ k c, σ.consumption k = some c ∧ c.vehicleId = u then
    .error (foreignKeyViolation "consumption_vehicleid_fkey")
  else if ∃ k c, σ.charging k = some c ∧ c.vehicleId = u then
    .error (foreignKeyViolation "charging_vehicleid_fkey")
  else .ok (1, { σ with vehicle := drop σ.vehicle u })

noncomputable def insertWeather (r : WeatherRow) : Except Exn (Unit × Store) :=
  if σ.weather r.id ≠ none then .error (uniqueViolation "weather_pkey")
  else if ∃ u v, σ.weather u = some v ∧ v.name = r.name then
    .error (uniqueViolation "weather_name_key")
  else .ok ((), { σ with weather := put σ.weather r.id r })

noncomputable def insertSourceCategory (r : SourceCategoryRow) : Except Exn (Unit × Store) :=
  if σ.sourceCategory r.id ≠ none then .error (uniqueViolation "source_category_pkey")
  else if ∃ u v, σ.sourceCategory u = some v ∧ v.name = r.name then
    .error (uniqueViolation "source_category_name_key")
  else .ok ((), { σ with sourceCategory := put σ.sourceCategory r.id r })

noncomputable def insertConsumption (r : ConsumptionRow) : Except Exn (Unit × Store) :=
  if σ.consumption r.id ≠ none then .error (uniqueViolation "consumption_pkey")
  else if σ.vehicle r.vehicleId = none then
    .error (foreignKeyViolation "consumption_vehicleid_fkey")
  else if σ.weather r.weatherId = none then
    .error (foreignKeyViolation "consumption_weatherid_fkey")
  else .ok ((), { σ with consumption := put σ.consumption r.id r })

noncomputable def updateConsumption (r : ConsumptionRow) :
    Except Exn (List ConsumptionRow × Store) :=
  if σ.vehicle r.vehicleId = none then .error (foreignKeyViolation "consumption_vehicleid_fkey")
  else if σ.weather r.weatherId = none then
    .error (foreignKeyViolation "consumption_weatherid_fkey")
  else .ok ([r], { σ with consumption := put σ.consumption r.id r })

noncomputable def deleteConsumption (u : Uuid) : Except Exn (ℕ × Store) :=
  if σ.consumption u = none then .ok (0, σ)
  else .ok (1, { σ with consumption := drop σ.consumption u })

noncomputable def insertCharging (r : ChargingRow) : Except Exn (Unit × Store) :=
  if σ.charging r.id ≠ none then .error (uniqueViolation "charging_pkey")
  else if σ.vehicle r.vehicleId = none then
    .error (foreignKeyViolation "charging_vehicleid_fkey")
  else if σ.sourceCategory r.sourceCategoryId = none then
    .error (foreignKeyViolation "charging_sourcecategoryid_fkey")
  else .ok ((), { σ with charging := put σ.charging r.id r })

noncomputable def updateCharging (r : ChargingRow) : Except Exn (List ChargingRow × Store) :=
  if σ.vehicle r.vehicleId = none then .error (foreignKeyViolation "charging_vehicleid_fkey")
  else if σ.sourceCategory r.sourceCategoryId = none then
    .error (foreignKeyViolation "charging_sourcecategoryid_fkey")
  else .ok ([r], { σ with charging := put σ.charging r.id r })

noncomputable def deleteCharging (u : Uuid) : Except Exn (ℕ × Store) :=
  if σ.charging u = none then .ok (0, σ)
  else .ok (1, { σ with charging := drop σ.charging u })

/-- An `UPDATE` of the record with a given id, which is checked only if there is one. -/
noncomputable def updateExisting {α : Type} (idParam : Param) (m : Uuid → Option α)
    (row : Except Exn α) (update : α → Except Exn (List α × Store)) :
    Except Exn (List α × Store) := do
  let id ← idParam.asUuid
  if id.any fun u => decide (m u ≠ none) then update (← row)
  else
    match row with
    | .error e => if e.kind = .notNullViolation then .ok ([], σ) else .error e
    | .ok _ => .ok ([], σ)

/-- Run a statement on a store. -/
noncomputable def run {ρ : Type} : Write ρ → Except Exn (ρ × Store)
  | .insertVehicle p => do
      σ.insertVehicle (← vehicleRow fun c => placeholder p (vehicleColumns c))
  | .updateVehicle p =>
      σ.updateExisting (placeholder p (vehicleColumns .id)) σ.vehicle
        (vehicleRow fun c => placeholder p (vehicleColumns c)) σ.updateVehicle
  | .deleteVehicle p => do σ.deleteVehicle (← idOf (placeholder p 1))
  | .insertWeather p => do
      let (id, name) ← lookupRow p
      σ.insertWeather ⟨id, name⟩
  | .insertSourceCategory p => do
      let (id, name) ← lookupRow p
      σ.insertSourceCategory ⟨id, name⟩
  | .insertConsumption p => do
      σ.insertConsumption (← consumptionRow fun c => placeholder p (consumptionColumns c))
  | .updateConsumption p =>
      σ.updateExisting (placeholder p (consumptionColumns .id)) σ.consumption
        (consumptionRow fun c => placeholder p (consumptionColumns c)) σ.updateConsumption
  | .deleteConsumption p => do σ.deleteConsumption (← idOf (placeholder p 1))
  | .insertCharging p => do
      σ.insertCharging (← chargingRow fun c => placeholder p (chargingInsert c))
  | .updateCharging p =>
      σ.updateExisting (placeholder p (chargingUpdate .id)) σ.charging
        (chargingRow fun c => placeholder p (chargingUpdate c)) σ.updateCharging
  | .deleteCharging p => do σ.deleteCharging (← idOf (placeholder p 1))

end Statements

end Store

/-! ## Statements mean the same on both levels -/

section Agree
variable (db : Database) {ρ : Type}

/-- The result of a statement, with the rows it leaves as a store. -/
def stored (x : Except Exn (ρ × Database)) : Except Exn (ρ × Store) :=
  x.map fun y => (y.1, y.2.store)

@[simp] theorem stored_ok (a : ρ) : stored (.ok (a, db)) = .ok (a, db.store) := rfl

@[simp] theorem stored_error (e : Exn) : stored (.error e : Except Exn (ρ × Database)) = .error e :=
  rfl

theorem stored_bind {α : Type} (x : Except Exn α) (f : α → Except Exn (ρ × Database)) :
    stored (x >>= f) = x >>= fun a => stored (f a) := by
  cases x <;> rfl

/-! Keys of the tables, as the statements check them. -/

theorem vehicle_ne_none {u : Uuid} :
    db.store.vehicle u ≠ none ↔ u ∈ db.vehicle.map VehicleRow.id := index_ne_none_iff

theorem weather_ne_none {u : Uuid} :
    db.store.weather u ≠ none ↔ u ∈ db.weather.map WeatherRow.id := index_ne_none_iff

theorem sourceCategory_ne_none {u : Uuid} :
    db.store.sourceCategory u ≠ none ↔ u ∈ db.sourceCategory.map SourceCategoryRow.id :=
  index_ne_none_iff

theorem consumption_ne_none {u : Uuid} :
    db.store.consumption u ≠ none ↔ u ∈ db.consumption.map ConsumptionRow.id := index_ne_none_iff

theorem charging_ne_none {u : Uuid} :
    db.store.charging u ≠ none ↔ u ∈ db.charging.map ChargingRow.id := index_ne_none_iff

theorem store_insertVehicle (r : VehicleRow) :
    stored (runInsertVehicle db r) = db.store.insertVehicle r := by
  have hid := vehicle_ne_none db (u := r.id)
  have hplate : (∃ u v, db.store.vehicle u = some v ∧ v.licensePlate = r.licensePlate) ↔
      r.licensePlate ∈ db.vehicle.map VehicleRow.licensePlate :=
    (exists_index_iff db.vehicle_pk).trans List.mem_map.symm
  rw [runInsertVehicle, Store.insertVehicle, if_congr hid rfl rfl, if_congr hplate rfl rfl]
  by_cases h : r.id ∈ db.vehicle.map VehicleRow.id
  · rw [dif_pos h, if_pos h, stored_error]
  · by_cases h' : r.licensePlate ∈ db.vehicle.map VehicleRow.licensePlate
    · rw [dif_neg h, dif_pos h', if_neg h, if_pos h', stored_error]
    · rw [dif_neg h, dif_neg h', if_neg h, if_neg h', stored_ok]
      simp [Database.store, Database.insertVehicle, Store.put, index_cons_eq]

theorem store_updateVehicle {r : VehicleRow} (h : r.id ∈ db.vehicle.map VehicleRow.id) :
    stored (runUpdateVehicle db r) = db.store.updateVehicle r := by
  have hplate : (∃ u v, db.store.vehicle u = some v ∧ u ≠ r.id ∧
      v.licensePlate = r.licensePlate) ↔
      ¬ ∀ v ∈ db.vehicle, v.id ≠ r.id → v.licensePlate ≠ r.licensePlate :=
    (exists_index_iff db.vehicle_pk).trans (by simp)
  rw [runUpdateVehicle, Store.updateVehicle, if_congr hplate rfl rfl]
  by_cases h' : ∀ v ∈ db.vehicle, v.id ≠ r.id → v.licensePlate ≠ r.licensePlate
  · rw [dif_pos h', if_neg (not_not.mpr h'), stored_ok]
    simp [Database.store, Database.replaceVehicle, Store.put, index_replaceBy db.vehicle_pk h]
  · rw [dif_neg h', if_pos h', stored_error]

theorem store_deleteVehicle (u : Uuid) :
    stored (runDeleteVehicle db u) = db.store.deleteVehicle u := by
  have hid := vehicle_ne_none db (u := u)
  have hc : (∃ k c, db.store.consumption k = some c ∧ c.vehicleId = u) ↔
      ¬ ∀ c ∈ db.consumption, c.vehicleId ≠ u :=
    (exists_index_iff db.consumption_pk).trans (by simp)
  have hch : (∃ k c, db.store.charging k = some c ∧ c.vehicleId = u) ↔
      ¬ ∀ c ∈ db.charging, c.vehicleId ≠ u :=
    (exists_index_iff db.charging_pk).trans (by simp)
  rw [runDeleteVehicle, Store.deleteVehicle, if_congr hc rfl rfl, if_congr hch rfl rfl]
  by_cases h : u ∈ db.vehicle.map VehicleRow.id
  · rw [if_pos h, if_neg (hid.mpr h)]
    by_cases h' : ∀ c ∈ db.consumption, c.vehicleId ≠ u
    · rw [dif_pos h', if_neg (not_not.mpr h')]
      by_cases h'' : ∀ c ∈ db.charging, c.vehicleId ≠ u
      · rw [dif_pos h'', if_neg (not_not.mpr h''), stored_ok]
        simp [Database.store, Database.deleteVehicle, Store.drop, index_deleteBy db.vehicle_pk]
      · rw [dif_neg h'', if_pos h'', stored_error]
    · rw [dif_neg h', if_pos h', stored_error]
  · rw [if_neg h, if_pos (not_not.mp (mt hid.mp h)), stored_ok]

theorem store_insertWeather (r : WeatherRow) :
    stored (runInsertWeather db r) = db.store.insertWeather r := by
  have hid := weather_ne_none db (u := r.id)
  have hname : (∃ u v, db.store.weather u = some v ∧ v.name = r.name) ↔
      r.name ∈ db.weather.map WeatherRow.name :=
    (exists_index_iff db.weather_pk).trans List.mem_map.symm
  rw [runInsertWeather, Store.insertWeather, if_congr hid rfl rfl, if_congr hname rfl rfl]
  by_cases h : r.id ∈ db.weather.map WeatherRow.id
  · rw [dif_pos h, if_pos h, stored_error]
  · by_cases h' : r.name ∈ db.weather.map WeatherRow.name
    · rw [dif_neg h, dif_pos h', if_neg h, if_pos h', stored_error]
    · rw [dif_neg h, dif_neg h', if_neg h, if_neg h', stored_ok]
      simp [Database.store, Database.insertWeather, Store.put, index_cons_eq]

theorem store_insertSourceCategory (r : SourceCategoryRow) :
    stored (runInsertSourceCategory db r) = db.store.insertSourceCategory r := by
  have hid := sourceCategory_ne_none db (u := r.id)
  have hname : (∃ u v, db.store.sourceCategory u = some v ∧ v.name = r.name) ↔
      r.name ∈ db.sourceCategory.map SourceCategoryRow.name :=
    (exists_index_iff db.sourceCategory_pk).trans List.mem_map.symm
  rw [runInsertSourceCategory, Store.insertSourceCategory, if_congr hid rfl rfl,
    if_congr hname rfl rfl]
  by_cases h : r.id ∈ db.sourceCategory.map SourceCategoryRow.id
  · rw [dif_pos h, if_pos h, stored_error]
  · by_cases h' : r.name ∈ db.sourceCategory.map SourceCategoryRow.name
    · rw [dif_neg h, dif_pos h', if_neg h, if_pos h', stored_error]
    · rw [dif_neg h, dif_neg h', if_neg h, if_neg h', stored_ok]
      simp [Database.store, Database.insertSourceCategory, Store.put, index_cons_eq]

/-- Two references, each of which has to be there. -/
theorem stored_references {p q : Prop} [Decidable p] [Decidable q] {e e' : Exn}
    {f : p → q → ρ × Database} {z : ρ × Store} {v w : Prop} [Decidable v] [Decidable w]
    (hp : ¬ v ↔ p) (hq : ¬ w ↔ q) (hf : ∀ hp hq, stored (.ok (f hp hq)) = .ok z) :
    stored (if hp : p then if hq : q then .ok (f hp hq) else .error e' else .error e) =
      if v then .error e else if w then .error e' else .ok z := by
  by_cases h : p
  · rw [dif_pos h, if_neg (hp.mpr h)]
    by_cases h' : q
    · rw [dif_pos h', if_neg (hq.mpr h'), hf]
    · rw [dif_neg h', if_pos (not_not.mp (mt hq.mp h')), stored_error]
  · rw [dif_neg h, if_pos (not_not.mp (mt hp.mp h)), stored_error]

theorem store_insertConsumption (r : ConsumptionRow) :
    stored (runInsertConsumption db r) = db.store.insertConsumption r := by
  have hid := consumption_ne_none db (u := r.id)
  rw [runInsertConsumption, Store.insertConsumption, if_congr hid rfl rfl]
  by_cases h : r.id ∈ db.consumption.map ConsumptionRow.id
  · rw [dif_pos h, if_pos h, stored_error]
  · rw [dif_neg h, if_neg h]
    refine stored_references (vehicle_ne_none db) (weather_ne_none db) fun hv hw => ?_
    simp [Database.store, Database.insertConsumption, Store.put, index_cons_eq]

theorem store_updateConsumption {r : ConsumptionRow}
    (h : r.id ∈ db.consumption.map ConsumptionRow.id) :
    stored (runUpdateConsumption db r) = db.store.updateConsumption r := by
  refine stored_references (vehicle_ne_none db) (weather_ne_none db) fun hv hw => ?_
  simp [Database.store, Database.replaceConsumption, Store.put, index_replaceBy db.consumption_pk h]

theorem store_deleteConsumption (u : Uuid) :
    stored (runDeleteConsumption db u) = db.store.deleteConsumption u := by
  have hid := consumption_ne_none db (u := u)
  rw [runDeleteConsumption, Store.deleteConsumption]
  by_cases h : u ∈ db.consumption.map ConsumptionRow.id
  · rw [if_pos h, if_neg (hid.mpr h), stored_ok]
    simp [Database.store, Database.deleteConsumption, Store.drop, index_deleteBy db.consumption_pk]
  · rw [if_neg h, if_pos (not_not.mp (mt hid.mp h)), stored_ok]

theorem store_insertCharging (r : ChargingRow) :
    stored (runInsertCharging db r) = db.store.insertCharging r := by
  have hid := charging_ne_none db (u := r.id)
  rw [runInsertCharging, Store.insertCharging, if_congr hid rfl rfl]
  by_cases h : r.id ∈ db.charging.map ChargingRow.id
  · rw [dif_pos h, if_pos h, stored_error]
  · rw [dif_neg h, if_neg h]
    refine stored_references (vehicle_ne_none db) (sourceCategory_ne_none db) fun hv hs => ?_
    simp [Database.store, Database.insertCharging, Store.put, index_cons_eq]

theorem store_updateCharging {r : ChargingRow} (h : r.id ∈ db.charging.map ChargingRow.id) :
    stored (runUpdateCharging db r) = db.store.updateCharging r := by
  refine stored_references (vehicle_ne_none db) (sourceCategory_ne_none db) fun hv hs => ?_
  simp [Database.store, Database.replaceCharging, Store.put, index_replaceBy db.charging_pk h]

theorem store_deleteCharging (u : Uuid) :
    stored (runDeleteCharging db u) = db.store.deleteCharging u := by
  have hid := charging_ne_none db (u := u)
  rw [runDeleteCharging, Store.deleteCharging]
  by_cases h : u ∈ db.charging.map ChargingRow.id
  · rw [if_pos h, if_neg (hid.mpr h), stored_ok]
    simp [Database.store, Database.deleteCharging, Store.drop, index_deleteBy db.charging_pk]
  · rw [if_neg h, if_pos (not_not.mp (mt hid.mp h)), stored_ok]

/-- An `UPDATE` checks a row only if it is there. -/
theorem store_updateExisting {α : Type} {idParam : Param} {key : α → Uuid} {rows : List α}
    {row : Except Exn α} {update : α → Except Exn (List α × Database)}
    {update' : α → Except Exn (List α × Store)}
    (hkey : ∀ r, row = .ok r → idParam.asUuid = .ok (some (key r)))
    (h : ∀ r, key r ∈ rows.map key → stored (update r) = update' r) :
    stored (updateExisting db idParam (rows.map key) row update) =
      db.store.updateExisting idParam (index key rows) row update' := by
  rw [updateExisting.eq_def, Store.updateExisting.eq_def, stored_bind]
  cases hid : idParam.asUuid with
  | error e => rfl
  | ok id =>
      have hthere : (id.any fun u => decide (index key rows u ≠ none)) =
          id.any (· ∈ rows.map key) := by
        cases id with
        | none => rfl
        | some u => simp [index_ne_none_iff]
      change stored (if _ then _ else _) = if _ then _ else _
      rw [hthere]
      by_cases hany : id.any (· ∈ rows.map key) = true
      · rw [if_pos hany, if_pos hany, stored_bind]
        cases hrow : row with
        | error e => rfl
        | ok r =>
            have hr := hkey r hrow
            rw [hid] at hr
            cases hr
            exact h r (by simpa using hany)
      · rw [if_neg hany, if_neg hany]
        cases row with
        | error e =>
            by_cases hnull : e.kind = .notNullViolation
            · simp [hnull]
            · simp [hnull]
        | ok r => rfl

/-- A statement means the same on a database and on its store. -/
theorem stored_run (w : Write ρ) : stored (w.run db) = db.store.run w := by
  cases w with
  | insertVehicle p =>
      rw [Write.run, Store.run, stored_bind]
      exact bind_congr fun r => store_insertVehicle db r
  | updateVehicle p =>
      exact store_updateExisting db (fun r hr => (vehicleRow_ok hr).id)
        fun r hr => store_updateVehicle db hr
  | deleteVehicle p =>
      rw [Write.run, Store.run, stored_bind]
      exact bind_congr fun u => store_deleteVehicle db u
  | insertWeather p =>
      rw [Write.run, Store.run, stored_bind]
      exact bind_congr fun r => store_insertWeather db ⟨r.1, r.2⟩
  | insertSourceCategory p =>
      rw [Write.run, Store.run, stored_bind]
      exact bind_congr fun r => store_insertSourceCategory db ⟨r.1, r.2⟩
  | insertConsumption p =>
      rw [Write.run, Store.run, stored_bind]
      exact bind_congr fun r => store_insertConsumption db r
  | updateConsumption p =>
      exact store_updateExisting db (fun r hr => (consumptionRow_ok hr).id)
        fun r hr => store_updateConsumption db hr
  | deleteConsumption p =>
      rw [Write.run, Store.run, stored_bind]
      exact bind_congr fun u => store_deleteConsumption db u
  | insertCharging p =>
      rw [Write.run, Store.run, stored_bind]
      exact bind_congr fun r => store_insertCharging db r
  | updateCharging p =>
      exact store_updateExisting db (fun r hr => (chargingRow_ok hr).id)
        fun r hr => store_updateCharging db hr
  | deleteCharging p =>
      rw [Write.run, Store.run, stored_bind]
      exact bind_congr fun u => store_deleteCharging db u

end Agree

end EvGrpc
