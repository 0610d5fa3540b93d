import EvGrpc.Services.Exact
import EvGrpc.Store.Maps

/-!
# What a request means

`Store.perform` says what each of the fourteen requests about one record is for, on the
store: which record it looks up, adds, changes or takes away, when it is refused, and what
it answers.  The handlers do just that (`serves_iff_perform`).  The other requests only
read, and a store can be read in any order (`Store.Does`).
-/

namespace EvGrpc

open Lib

variable {α ρ : Type}

/-- Look a record up by the text of its id. -/
def lookup (m : Uuid → Option α) (id : String) : Except Exn (List α) :=
  (Param.text id).asUuid.map fun u => (u.bind m).toList

/-- The reply to the deletion of so many records. -/
def deleted (notFound : Status) (n : ℕ) : Reply Response :=
  if n = 0 then (notFound, none) else (.OK, some .empty)

namespace Store

variable (σ : Store)

/-- The outcome of a statement on the store. -/
noncomputable def conclude {β : Type} (w : Write β) (f : β → Store → Reply ρ) : Reply ρ × Store :=
  concluding (σ.run w) σ f

/-- The outcome of a request whose arguments are checked first. -/
def checked (st : Status) (outcome : Reply ρ × Store) : Reply ρ × Store :=
  if st.ok then outcome else ((st, none), σ)

/-- What a request about one record comes to, if the identifier drawn for it is `u`. -/
noncomputable def perform (u : Uuid) : Request → Option (Reply Response × Store)
  | .getVehicle r =>
      some (sought vehicleNotFound (.vehicle <| vehicleMessage ·) (lookup σ.vehicle r.id), σ)
  | .createVehicle r =>
      some <| σ.conclude (.insertVehicle (r.params u)) fun _ σ' =>
        firstOf vehicleNotFound (.vehicle <| vehicleMessage ·) (σ'.vehicle u).toList
  | .updateVehicle r =>
      some <| σ.conclude (.updateVehicle r.params) fun records _ =>
        firstOf vehicleNotFound (.vehicle <| vehicleMessage ·) records
  | .deleteVehicle r =>
      some <| σ.conclude (.deleteVehicle [.text r.id]) fun n _ => deleted vehicleNotFound n
  | .createWeather r =>
      some <| σ.conclude (.insertWeather [.text (uuidOut u), .text r.name]) fun _ _ =>
        (.OK, some (.weather ⟨uuidOut u, r.name⟩))
  | .createSourceCategory r =>
      some <| σ.conclude (.insertSourceCategory [.text (uuidOut u), .text r.name]) fun _ _ =>
        (.OK, some (.sourceCategory ⟨uuidOut u, r.name⟩))
  | .getConsumption r =>
      some (sought consumptionNotFound (.consumption <| rowToConsumption ·)
        (lookup σ.consumption r.id), σ)
  | .createConsumption r =>
      some <| σ.checked (validateConsumption r) <|
        σ.conclude (.insertConsumption (consumptionParams (uuidOut u) r)) fun _ σ' =>
          firstOf ⟨.INTERNAL, "INSERT returned no row"⟩ (.consumption <| rowToConsumption ·)
            (σ'.consumption u).toList
  | .updateConsumption r =>
      some <| σ.checked (validateConsumption r.view) <|
        σ.conclude (.updateConsumption r.params) fun records _ =>
          firstOf consumptionNotFound (.consumption <| rowToConsumption ·) records
  | .deleteConsumption r =>
      some <| σ.conclude (.deleteConsumption [.text r.id]) fun n _ => deleted consumptionNotFound n
  | .getCharging r =>
      some (sought chargingNotFound (.charging <| rowToCharging ·) (lookup σ.charging r.id), σ)
  | .createCharging r =>
      some <| σ.checked (validateCharging r) <|
        σ.conclude (.insertCharging (chargeParams (uuidOut u) r)) fun _ σ' =>
          firstOf ⟨.INTERNAL, "INSERT returned no row"⟩ (.charging <| rowToCharging ·)
            (σ'.charging u).toList
  | .updateCharging r =>
      some <| σ.checked (validateCharging r.view) <|
        σ.conclude (.updateCharging r.params) fun records _ =>
          firstOf chargingNotFound (.charging <| rowToCharging ·) records
  | .deleteCharging r =>
      some <| σ.conclude (.deleteCharging [.text r.id]) fun n _ => deleted chargingNotFound n
  | _ => none

end Store

/-! ## What is looked up -/

section Lookup
variable {db v : Database}

theorem store_eq (h : db.SameRows v) : v.store = db.store := (store_eq_iff.mpr h).symm

/-- The rows with the id of a text are the record that is looked up. -/
theorem select_eq {rows : List α} {key : α → Uuid} (hpk : (rows.map key).Nodup) (id : String) :
    ((Param.text id).asUuid >>= fun u => pure (rows.filter fun r => u = some (key r))) =
      lookup (index key rows) id := by
  rw [lookup]
  cases (Param.text id).asUuid with
  | error e => rfl
  | ok u =>
      cases u with
      | none => simp [Except.map, bind, Except.bind, pure, Except.pure]
      | some u =>
          have hone := filter_key_eq hpk (k := u)
          simpa [Except.map, bind, Except.bind, pure, Except.pure, eq_comm] using hone

theorem selectVehicle_eq_lookup (id : String) :
    selectVehicle id db = lookup db.store.vehicle id := select_eq db.vehicle_pk id

theorem selectConsumption_eq_lookup (id : String) :
    selectConsumption id db = lookup db.store.consumption id := select_eq db.consumption_pk id

theorem selectCharging_eq_lookup (id : String) :
    selectCharging id db = lookup db.store.charging id := select_eq db.charging_pk id

theorem lookup_uuidOut (m : Uuid → Option α) (u : Uuid) :
    lookup m (uuidOut u) = .ok (m u).toList := by
  rw [lookup, asUuid_uuidOut]
  rfl

end Lookup

/-! ## Every request about a record -/

/-- The fourteen requests about one record. -/
def Request.ofRecord : Request → Bool
  | .createVehicle _ | .getVehicle _ | .updateVehicle _ | .deleteVehicle _ | .createWeather _
  | .createSourceCategory _ | .createConsumption _ | .getConsumption _ | .updateConsumption _
  | .deleteConsumption _ | .createCharging _ | .getCharging _ | .updateCharging _
  | .deleteCharging _ => true
  | _ => false

section Requests
variable {db : Database} {md : Metadata} {kMethod : String}

/-- On the store the call comes to one of these, by the identifier that is drawn. -/
def Performs (db : Database) (p : Prog Op (Reply Response))
    (outcome : Uuid → Reply Response × Store) : Prop :=
  ∀ x σ', (∃ db', db'.store = σ' ∧ Serves db p x db') ↔ ∃ u, (x, σ') = outcome u

/-- What a call comes to, with the rows it leaves as a store. -/
theorem Means.performs {f : ρ → Response} {p : Prog Op (Reply ρ)} {y : Uuid → Reply ρ × Database}
    {z : Uuid → Reply Response × Store} (h : Means db p y)
    (hz : ∀ u, Prod.map (Reply.wrap f) Database.store (y u) = z u) :
    Performs db (respond f p) z := by
  intro x σ'
  simp only [serves_respond, h _ _, ← hz]
  constructor
  · intro ⟨db', hdb, r, ⟨u, hy⟩, hx⟩
    refine ⟨u, ?_⟩
    rw [← hy, hx, ← hdb]
    rfl
  · intro ⟨u, hu⟩
    rw [Prod.map_apply', Prod.mk.injEq] at hu
    exact ⟨(y u).2, hu.2.symm, (y u).1, ⟨u, rfl⟩, hu.1⟩

theorem wrap_sought {f : ρ → Response} {notFound : Status} {message : α → ρ}
    (rows : Except Exn (List α)) :
    Reply.wrap f (sought notFound message rows) = sought notFound (fun a => f (message a)) rows := by
  cases rows with
  | error e => rfl
  | ok rows => exact wrap_firstOf rows

theorem wrap_deleted {notFound : Status} (n : ℕ) :
    Reply.wrap (fun _ => .empty) (if n = 0 then (notFound, none) else (.OK, some ())) =
      deleted notFound n := by
  by_cases h : n = 0
  · simp [deleted, h, Reply.wrap]
  · simp [deleted, h, Reply.wrap]

/-- The outcome of a statement on both levels. -/
theorem map_conclude {β : Type} {f : ρ → Response} {w : Write β} {F : β → Database → Reply ρ}
    {G : β → Store → Reply Response} (h : ∀ b d, Reply.wrap f (F b d) = G b d.store) :
    Prod.map (Reply.wrap f) Database.store (concluding (w.run db) db F) =
      db.store.conclude w G := by
  rw [map_concluding f Database.store h, Store.conclude, ← stored_run]
  rfl

theorem map_checked {f : ρ → Response} {st : Status} {y : Reply ρ × Database}
    {z : Reply Response × Store} (h : Prod.map (Reply.wrap f) Database.store y = z) :
    Prod.map (Reply.wrap f) Database.store (if st.ok then y else ((st, none), db)) =
      db.store.checked st z := by
  by_cases hst : st.ok = true
  · simp [Store.checked, hst, h]
  · simp [Store.checked, hst, Reply.wrap]

/-- The record that was inserted is there. -/
theorem vehicle_of_insert {v : Database} {p : List Param} {u : Uuid}
    (hp : placeholder p 1 = .text (uuidOut u))
    (h : (Write.insertVehicle p).run db = .ok ((), v)) :
    ∃ row, v.store.vehicle u = some row := by
  obtain ⟨row, hmem, hrow⟩ := run_insertVehicle h
  have hid : (placeholder p 1).asUuid = .ok (some row.id) := (vehicleRow_ok hrow).id
  rw [hp, asUuid_uuidOut] at hid
  cases hid
  exact ⟨row, (index_eq_some_iff v.vehicle_pk).mpr ⟨hmem, rfl⟩⟩

/-- `GetVehicle` answers from the store. -/
theorem ends_getVehicle (db : Database) (id : String) :
    ∃ x, Ends (getRow (selectVehicle id) vehicleNotFound rowToVehicle) ⟨db, []⟩ x ⟨db, []⟩ ∧
      settle x = sought vehicleNotFound vehicleMessage (lookup db.store.vehicle id) :=
  ends_getRow _ (fun v hv => by rw [selectVehicle_eq_lookup, store_eq hv]) rowToVehicle_eq

/-- `CreateVehicle` looks for its record after the commit, and finds it. -/
theorem means_createVehicle (req : CreateVehicleRequest) :
    Means db (createVehicle md req) fun u =>
      concluding ((Write.insertVehicle (req.params u)).run db) db fun _ d =>
        firstOf vehicleNotFound vehicleMessage (d.store.vehicle u).toList := by
  refine means_drawInWork fun u r db' => serves_insertAndCall fun v hrun => ?_
  obtain ⟨row, hrow⟩ := vehicle_of_insert rfl hrun
  obtain ⟨x, hx, hsettle⟩ := ends_getVehicle v (uuidOut u)
  rw [lookup_uuidOut] at hsettle
  refine ⟨by rw [hrow]; rfl, fun a t => ?_⟩
  exact hx.yields.trans (by rw [hsettle]; rfl)

/-- The shape of a lookup. -/
theorem performs_lookup {f : ρ → Response} {p : Prog Op (Reply ρ)} {notFound : Status}
    {message : α → ρ} {rows : Except Exn (List α)}
    (h : Means db p fun _ => (sought notFound message rows, db)) :
    Performs db (respond f p) fun _ => (sought notFound (fun a => f (message a)) rows, db.store) :=
  h.performs fun _ => by rw [Prod.map_apply, wrap_sought]

/-- The shape of a statement. -/
theorem performs_write {β : Type} {f : ρ → Response} {p : Prog Op (Reply ρ)} {w : Uuid → Write β}
    {F : Uuid → β → Database → Reply ρ} {G : Uuid → β → Store → Reply Response}
    (h : Means db p fun u => concluding ((w u).run db) db (F u))
    (hFG : ∀ u b d, Reply.wrap f (F u b d) = G u b d.store) :
    Performs db (respond f p) fun u => db.store.conclude (w u) (G u) :=
  h.performs fun u => map_conclude (hFG u)

/-- And behind a check. -/
theorem performs_checked {β : Type} {f : ρ → Response} {p : Prog Op (Reply ρ)} {st : Status}
    {w : Uuid → Write β} {F : Uuid → β → Database → Reply ρ}
    {G : Uuid → β → Store → Reply Response}
    (h : Means db p fun u => if st.ok then concluding ((w u).run db) db (F u) else ((st, none), db))
    (hFG : ∀ u b d, Reply.wrap f (F u b d) = G u b d.store) :
    Performs db (respond f p) fun u => db.store.checked st (db.store.conclude (w u) (G u)) :=
  h.performs fun u => map_checked (map_conclude (hFG u))

/-- The handlers do what their requests mean. -/
theorem performs_handle (db : Database) (call : Call) (h : call.req.ofRecord = true) :
    ∃ z, (∀ u, db.store.perform u call.req = some (z u)) ∧ Performs db (handle call) z := by
  obtain ⟨md, req⟩ := call
  cases req with
  | getVehicle r =>
      refine ⟨_, fun _ => rfl, performs_lookup (means_getRow (fun v hv => ?_) rowToVehicle_eq)⟩
      rw [selectVehicle_eq_lookup, store_eq hv]
  | createVehicle r =>
      exact ⟨_, fun _ => rfl, performs_write (means_createVehicle r) fun _ _ _ => wrap_firstOf _⟩
  | updateVehicle r =>
      refine ⟨_, fun _ => rfl, performs_write (means_of_iff fun r db' =>
        serves_updateRow rfl rowToVehicle_eq) fun _ _ _ => wrap_firstOf _⟩
  | deleteVehicle r =>
      exact ⟨_, fun _ => rfl, performs_write (means_of_iff fun r db' => serves_deleteRow rfl)
        fun _ _ _ => wrap_deleted _⟩
  | createWeather r =>
      exact ⟨_, fun _ => rfl, performs_write (means_drawInWork fun u r db' =>
        serves_insertAndAnswer) fun _ _ _ => rfl⟩
  | createSourceCategory r =>
      exact ⟨_, fun _ => rfl, performs_write (means_drawInWork fun u r db' =>
        serves_insertAndAnswer) fun _ _ _ => rfl⟩
  | getConsumption r =>
      refine ⟨_, fun _ => rfl, performs_lookup (means_getRow (fun v hv => ?_) fun _ => rfl)⟩
      rw [selectConsumption_eq_lookup, store_eq hv]
  | createConsumption r =>
      refine ⟨_, fun _ => rfl, performs_checked (.validated (means_drawInWork fun u r db' =>
        serves_insertRow (fun d => (d.store.consumption u).toList)
          (fun v _ v' hv => ?_) fun _ => rfl)) fun _ _ _ => wrap_firstOf _⟩
      rw [selectConsumption_eq_lookup, store_eq hv, lookup_uuidOut]
  | updateConsumption r =>
      exact ⟨_, fun _ => rfl, performs_checked (.validated (means_of_iff fun r db' =>
        serves_updateRow rfl fun _ => rfl)) fun _ _ _ => wrap_firstOf _⟩
  | deleteConsumption r =>
      exact ⟨_, fun _ => rfl, performs_write (means_of_iff fun r db' => serves_deleteRow rfl)
        fun _ _ _ => wrap_deleted _⟩
  | getCharging r =>
      refine ⟨_, fun _ => rfl, performs_lookup (means_getRow (fun v hv => ?_) fun _ => rfl)⟩
      rw [selectCharging_eq_lookup, store_eq hv]
  | createCharging r =>
      refine ⟨_, fun _ => rfl, performs_checked (.validated (means_draw fun u r db' =>
        serves_insertRow (fun d => (d.store.charging u).toList)
          (fun v _ v' hv => ?_) fun _ => rfl)) fun _ _ _ => wrap_firstOf _⟩
      rw [selectCharging_eq_lookup, store_eq hv, lookup_uuidOut]
  | updateCharging r =>
      exact ⟨_, fun _ => rfl, performs_checked (.validated (means_of_iff fun r db' =>
        serves_updateRow rfl fun _ => rfl)) fun _ _ _ => wrap_firstOf _⟩
  | deleteCharging r =>
      exact ⟨_, fun _ => rfl, performs_write (means_of_iff fun r db' => serves_deleteRow rfl)
        fun _ _ _ => wrap_deleted _⟩
  | _ => cases h

end Requests

end EvGrpc
