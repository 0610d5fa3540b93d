import EvGrpc.Atomicity
import EvGrpc.Invariant.Charging
import EvGrpc.Store.Linear

/-!
# Reading one's writes

A record that a call was shown, because the call created it, changed it or looked it up, is
what every later lookup shows, until somebody else names it to change or to delete it.

`Store.recordAt` is the message of a stored record.  A statement leaves the records it does
not name as they are (`run_frame`), an OK reply shows a record as it is stored
(`perform_shows`), and a lookup answers with it (`perform_sought`).
-/

namespace EvGrpc

open Lib

/-- The message of a stored record. -/
def Store.recordAt (σ : Store) : Table → Uuid → Option Response
  | .vehicle, u => (σ.vehicle u).map fun r => .vehicle (vehicleMessage r)
  | .weather, u => (σ.weather u).map fun r => .weather ⟨uuidOut r.id, r.name⟩
  | .sourceCategory, u => (σ.sourceCategory u).map fun r => .sourceCategory ⟨uuidOut r.id, r.name⟩
  | .consumption, u => (σ.consumption u).map fun r => .consumption (rowToConsumption r)
  | .charging, u => (σ.charging u).map fun r => .charging (rowToCharging r)

/-- The record a message shows. -/
def Response.key : Response → Option (Table × Uuid)
  | .vehicle m => (uuidIn m.id).map fun u => (.vehicle, u)
  | .consumption m => (uuidIn m.id).map fun u => (.consumption, u)
  | .charging m => (uuidIn m.id).map fun u => (.charging, u)
  | _ => none

/-- The record a request looks up. -/
def Request.sought : Request → Option (Table × Uuid)
  | .getVehicle r => (uuidIn r.id).map fun u => (.vehicle, u)
  | .getConsumption r => (uuidIn r.id).map fun u => (.consumption, u)
  | .getCharging r => (uuidIn r.id).map fun u => (.charging, u)
  | _ => none

/-- The record a request names to change or to delete it. -/
def Request.named : Request → Option (Table × Uuid)
  | .updateVehicle r => (uuidIn r.id).map fun u => (.vehicle, u)
  | .deleteVehicle r => (uuidIn r.id).map fun u => (.vehicle, u)
  | .updateConsumption r => (uuidIn r.id).map fun u => (.consumption, u)
  | .deleteConsumption r => (uuidIn r.id).map fun u => (.consumption, u)
  | .updateCharging r => (uuidIn r.id).map fun u => (.charging, u)
  | .deleteCharging r => (uuidIn r.id).map fun u => (.charging, u)
  | _ => none

/-! ## What a statement leaves alone -/

/-- The parameter that names a record to change or to delete. -/
def Write.named : {ρ : Type} → Write ρ → Option (Table × Param)
  | _, .updateVehicle p => some (.vehicle, placeholder p 1)
  | _, .deleteVehicle p => some (.vehicle, placeholder p 1)
  | _, .updateConsumption p => some (.consumption, placeholder p 1)
  | _, .deleteConsumption p => some (.consumption, placeholder p 1)
  | _, .updateCharging p => some (.charging, placeholder p (chargingUpdate .id))
  | _, .deleteCharging p => some (.charging, placeholder p 1)
  | _, _ => none

section Frame
variable {σ σ' : Store} {α ρ : Type}

theorem put_of_ne {m : Uuid → Option α} {u v : Uuid} {r : α} (h : u ≠ v) :
    Store.put m v r u = m u := Function.update_of_ne h ..

theorem drop_of_ne {m : Uuid → Option α} {u v : Uuid} (h : u ≠ v) : Store.drop m v u = m u :=
  Function.update_of_ne h ..

/-- A record that is there is not the one that is inserted. -/
theorem put_of_some {m : Uuid → Option α} {u v : Uuid} {r : α} (hu : m u ≠ none)
    (hv : ¬ m v ≠ none) : Store.put m v r u = m u :=
  put_of_ne fun h => hv (h ▸ hu)

/-- What an `UPDATE` that succeeds has done. -/
theorem updateExisting_cases {idParam : Param} {m : Uuid → Option α} {row : Except Exn α}
    {update : α → Except Exn (List α × Store)} {rows : List α}
    (h : σ.updateExisting idParam m row update = .ok (rows, σ')) :
    (rows = [] ∧ σ' = σ) ∨ ∃ r, row = .ok r ∧ update r = .ok (rows, σ') := by
  rw [Store.updateExisting.eq_def] at h
  obtain ⟨id, hid, h⟩ := bind_eq_ok.mp h
  by_cases hthere : (id.any fun u => decide (m u ≠ none)) = true
  · rw [if_pos hthere] at h
    obtain ⟨r, hr, h⟩ := bind_eq_ok.mp h
    exact .inr ⟨r, hr, h⟩
  · rw [if_neg hthere] at h
    cases row with
    | ok r =>
        cases h
        exact .inl ⟨rfl, rfl⟩
    | error e =>
        by_cases hnull : e.kind = .notNullViolation
        · simp only [hnull, if_true, Except.ok.injEq, Prod.mk.injEq] at h
          exact .inl ⟨h.1.symm, h.2.symm⟩
        · simp only [hnull, if_false, reduceCtorEq] at h

/-- The two stores agree on a record. -/
def Store.AgreeAt (σ σ' : Store) : Table → Uuid → Prop
  | .vehicle, u => σ'.vehicle u = σ.vehicle u
  | .weather, u => σ'.weather u = σ.weather u
  | .sourceCategory, u => σ'.sourceCategory u = σ.sourceCategory u
  | .consumption, u => σ'.consumption u = σ.consumption u
  | .charging, u => σ'.charging u = σ.charging u

theorem Store.AgreeAt.refl (T : Table) (u : Uuid) : σ.AgreeAt σ T u := by cases T <;> rfl

theorem Store.AgreeAt.recordAt {T : Table} {u : Uuid} (h : σ.AgreeAt σ' T u) :
    σ'.recordAt T u = σ.recordAt T u := by
  cases T <;> exact congrArg (Option.map _) h

theorem recordAt_ne_none {m : Uuid → Option α} {f : α → Response} {u : Uuid}
    (h : ((m u).map f).isSome) : m u ≠ none := by
  intro hnone
  rw [hnone] at h
  cases h

/-! What each kind of statement has done when it has succeeded. -/

theorem Store.insertVehicle_ok {r : VehicleRow} {x : Unit} (h : σ.insertVehicle r = .ok (x, σ')) :
    ¬ σ.vehicle r.id ≠ none ∧ σ' = { σ with vehicle := Store.put σ.vehicle r.id r } := by
  rw [Store.insertVehicle] at h
  split_ifs at h with hid
  cases h
  exact ⟨hid, rfl⟩

theorem Store.insertWeather_ok {r : WeatherRow} {x : Unit} (h : σ.insertWeather r = .ok (x, σ')) :
    ¬ σ.weather r.id ≠ none ∧ σ' = { σ with weather := Store.put σ.weather r.id r } := by
  rw [Store.insertWeather] at h
  split_ifs at h with hid
  cases h
  exact ⟨hid, rfl⟩

theorem Store.insertSourceCategory_ok {r : SourceCategoryRow} {x : Unit}
    (h : σ.insertSourceCategory r = .ok (x, σ')) :
    ¬ σ.sourceCategory r.id ≠ none ∧
      σ' = { σ with sourceCategory := Store.put σ.sourceCategory r.id r } := by
  rw [Store.insertSourceCategory] at h
  split_ifs at h with hid
  cases h
  exact ⟨hid, rfl⟩

theorem Store.insertConsumption_ok {r : ConsumptionRow} {x : Unit}
    (h : σ.insertConsumption r = .ok (x, σ')) :
    ¬ σ.consumption r.id ≠ none ∧
      σ' = { σ with consumption := Store.put σ.consumption r.id r } := by
  rw [Store.insertConsumption] at h
  split_ifs at h with hid
  cases h
  exact ⟨hid, rfl⟩

theorem Store.insertCharging_ok {r : ChargingRow} {x : Unit} (h : σ.insertCharging r = .ok (x, σ')) :
    ¬ σ.charging r.id ≠ none ∧ σ' = { σ with charging := Store.put σ.charging r.id r } := by
  rw [Store.insertCharging] at h
  split_ifs at h with hid
  cases h
  exact ⟨hid, rfl⟩

theorem Store.updateVehicle_ok {r : VehicleRow} {rows : List VehicleRow}
    (h : σ.updateVehicle r = .ok (rows, σ')) :
    rows = [r] ∧ σ' = { σ with vehicle := Store.put σ.vehicle r.id r } := by
  rw [Store.updateVehicle] at h
  split_ifs at h
  cases h
  exact ⟨rfl, rfl⟩

theorem Store.updateConsumption_ok {r : ConsumptionRow} {rows : List ConsumptionRow}
    (h : σ.updateConsumption r = .ok (rows, σ')) :
    rows = [r] ∧ σ' = { σ with consumption := Store.put σ.consumption r.id r } := by
  rw [Store.updateConsumption] at h
  split_ifs at h
  cases h
  exact ⟨rfl, rfl⟩

theorem Store.updateCharging_ok {r : ChargingRow} {rows : List ChargingRow}
    (h : σ.updateCharging r = .ok (rows, σ')) :
    rows = [r] ∧ σ' = { σ with charging := Store.put σ.charging r.id r } := by
  rw [Store.updateCharging] at h
  split_ifs at h
  cases h
  exact ⟨rfl, rfl⟩

theorem Store.deleteVehicle_ok {u : Uuid} {n : ℕ} (h : σ.deleteVehicle u = .ok (n, σ')) :
    σ' = σ ∨ σ' = { σ with vehicle := Store.drop σ.vehicle u } := by
  rw [Store.deleteVehicle] at h
  split_ifs at h
  · cases h
    exact .inl rfl
  · cases h
    exact .inr rfl

theorem Store.deleteConsumption_ok {u : Uuid} {n : ℕ} (h : σ.deleteConsumption u = .ok (n, σ')) :
    σ' = σ ∨ σ' = { σ with consumption := Store.drop σ.consumption u } := by
  rw [Store.deleteConsumption] at h
  split_ifs at h
  · cases h
    exact .inl rfl
  · cases h
    exact .inr rfl

theorem Store.deleteCharging_ok {u : Uuid} {n : ℕ} (h : σ.deleteCharging u = .ok (n, σ')) :
    σ' = σ ∨ σ' = { σ with charging := Store.drop σ.charging u } := by
  rw [Store.deleteCharging] at h
  split_ifs at h
  · cases h
    exact .inl rfl
  · cases h
    exact .inr rfl

/-! Stores that differ in one table. -/

section OneTable
variable {T : Table} {u : Uuid}

theorem agreeAt_vehicle {m : Uuid → Option VehicleRow} (h : T = .vehicle → m u = σ.vehicle u) :
    σ.AgreeAt { σ with vehicle := m } T u := by
  cases T with
  | vehicle => exact h rfl
  | _ => rfl

theorem agreeAt_weather {m : Uuid → Option WeatherRow} (h : T = .weather → m u = σ.weather u) :
    σ.AgreeAt { σ with weather := m } T u := by
  cases T with
  | weather => exact h rfl
  | _ => rfl

theorem agreeAt_sourceCategory {m : Uuid → Option SourceCategoryRow}
    (h : T = .sourceCategory → m u = σ.sourceCategory u) :
    σ.AgreeAt { σ with sourceCategory := m } T u := by
  cases T with
  | sourceCategory => exact h rfl
  | _ => rfl

theorem agreeAt_consumption {m : Uuid → Option ConsumptionRow}
    (h : T = .consumption → m u = σ.consumption u) : σ.AgreeAt { σ with consumption := m } T u := by
  cases T with
  | consumption => exact h rfl
  | _ => rfl

theorem agreeAt_charging {m : Uuid → Option ChargingRow}
    (h : T = .charging → m u = σ.charging u) : σ.AgreeAt { σ with charging := m } T u := by
  cases T with
  | charging => exact h rfl
  | _ => rfl

end OneTable

/-- A statement leaves the records that are there as they are, but the one it names. -/
theorem run_frame {w : Write ρ} {b : ρ} (h : σ.run w = .ok (b, σ')) {T : Table} {u : Uuid}
    (hthere : (σ.recordAt T u).isSome)
    (hnot : ∀ p, w.named = some (T, p) → p.asUuid ≠ .ok (some u)) : σ.AgreeAt σ' T u := by
  cases w with
  | insertVehicle p =>
      obtain ⟨r, -, h⟩ := bind_eq_ok.mp h
      obtain ⟨hid, rfl⟩ := Store.insertVehicle_ok h
      refine agreeAt_vehicle fun hT => ?_
      subst hT
      exact put_of_some (recordAt_ne_none hthere) hid
  | insertWeather p =>
      obtain ⟨r, -, h⟩ := bind_eq_ok.mp h
      obtain ⟨hid, rfl⟩ := Store.insertWeather_ok h
      refine agreeAt_weather fun hT => ?_
      subst hT
      exact put_of_some (recordAt_ne_none hthere) hid
  | insertSourceCategory p =>
      obtain ⟨r, -, h⟩ := bind_eq_ok.mp h
      obtain ⟨hid, rfl⟩ := Store.insertSourceCategory_ok h
      refine agreeAt_sourceCategory fun hT => ?_
      subst hT
      exact put_of_some (recordAt_ne_none hthere) hid
  | insertConsumption p =>
      obtain ⟨r, -, h⟩ := bind_eq_ok.mp h
      obtain ⟨hid, rfl⟩ := Store.insertConsumption_ok h
      refine agreeAt_consumption fun hT => ?_
      subst hT
      exact put_of_some (recordAt_ne_none hthere) hid
  | insertCharging p =>
      obtain ⟨r, -, h⟩ := bind_eq_ok.mp h
      obtain ⟨hid, rfl⟩ := Store.insertCharging_ok h
      refine agreeAt_charging fun hT => ?_
      subst hT
      exact put_of_some (recordAt_ne_none hthere) hid
  | updateVehicle p =>
      rcases updateExisting_cases h with ⟨-, rfl⟩ | ⟨r, hr, h⟩
      · exact .refl T u
      · obtain ⟨-, rfl⟩ := Store.updateVehicle_ok h
        refine agreeAt_vehicle fun hT => put_of_ne fun hu => ?_
        subst hT hu
        exact hnot _ rfl (vehicleRow_ok hr).id
  | updateConsumption p =>
      rcases updateExisting_cases h with ⟨-, rfl⟩ | ⟨r, hr, h⟩
      · exact .refl T u
      · obtain ⟨-, rfl⟩ := Store.updateConsumption_ok h
        refine agreeAt_consumption fun hT => put_of_ne fun hu => ?_
        subst hT hu
        exact hnot _ rfl (consumptionRow_ok hr).id
  | updateCharging p =>
      rcases updateExisting_cases h with ⟨-, rfl⟩ | ⟨r, hr, h⟩
      · exact .refl T u
      · obtain ⟨-, rfl⟩ := Store.updateCharging_ok h
        refine agreeAt_charging fun hT => put_of_ne fun hu => ?_
        subst hT hu
        exact hnot _ rfl (chargingRow_ok hr).id
  | deleteVehicle p =>
      obtain ⟨v, hv, h⟩ := bind_eq_ok.mp h
      rcases Store.deleteVehicle_ok h with rfl | rfl
      · exact .refl T u
      · refine agreeAt_vehicle fun hT => drop_of_ne fun hu => ?_
        subst hT hu
        exact hnot _ rfl (idOf_ok hv)
  | deleteConsumption p =>
      obtain ⟨v, hv, h⟩ := bind_eq_ok.mp h
      rcases Store.deleteConsumption_ok h with rfl | rfl
      · exact .refl T u
      · refine agreeAt_consumption fun hT => drop_of_ne fun hu => ?_
        subst hT hu
        exact hnot _ rfl (idOf_ok hv)
  | deleteCharging p =>
      obtain ⟨v, hv, h⟩ := bind_eq_ok.mp h
      rcases Store.deleteCharging_ok h with rfl | rfl
      · exact .refl T u
      · refine agreeAt_charging fun hT => drop_of_ne fun hu => ?_
        subst hT hu
        exact hnot _ rfl (idOf_ok hv)

/-- A request that was refused changed nothing, and one whose statement was run did that or
was undone. -/
theorem conclude_cases {w : Write ρ} {f : ρ → Store → Reply Response} {x : Reply Response}
    (h : σ.conclude w f = (x, σ')) :
    (x.2 = none ∧ σ' = σ) ∨ ∃ b σ₁, σ.run w = .ok (b, σ₁) ∧ x = f b σ₁ ∧
      σ' = if x.1.ok then σ₁ else σ := by
  rw [Store.conclude] at h
  cases hrun : σ.run w with
  | error e =>
      rw [hrun] at h
      cases h
      exact .inl ⟨rfl, rfl⟩
  | ok y =>
      rw [hrun] at h
      cases h
      exact .inr ⟨y.1, y.2, rfl, rfl, rfl⟩

theorem checked_cases {st : Status} {y : Reply Response × Store} {x : Reply Response}
    (h : σ.checked st y = (x, σ')) : (x.2 = none ∧ σ' = σ) ∨ y = (x, σ') := by
  rw [Store.checked] at h
  split_ifs at h
  · exact .inr h
  · cases h
    exact .inl ⟨rfl, rfl⟩

theorem conclude_frame {w : Write ρ} {f : ρ → Store → Reply Response} {x : Reply Response}
    (h : σ.conclude w f = (x, σ')) {T : Table} {u : Uuid} (hthere : (σ.recordAt T u).isSome)
    (hnot : ∀ p, w.named = some (T, p) → p.asUuid ≠ .ok (some u)) : σ.AgreeAt σ' T u := by
  rcases conclude_cases h with ⟨-, rfl⟩ | ⟨b, σ₁, hrun, -, rfl⟩
  · exact .refl T u
  · by_cases hok : x.1.ok = true
    · rw [if_pos hok]
      exact run_frame hrun hthere hnot
    · rw [if_neg hok]
      exact .refl T u

end Frame

/-! ## Requests -/

section Requests
variable {σ σ' : Store} {u₀ u : Uuid} {req : Request} {x : Reply Response} {T : Table}

/-- The name of a record in a request is the name of a record in its statement. -/
theorem named_ne {T' : Table} {p : Param} {id : String}
    (hnot : (uuidIn id).map (fun u => (T', u)) ≠ some (T, u))
    (h : some (T', Param.text id) = some (T, p)) : p.asUuid ≠ .ok (some u) := by
  cases h
  intro hp
  exact hnot (by rw [asUuid_text hp]; rfl)

/-- A request leaves the records that are there as they are, but the one it names. -/
theorem perform_frame (h : σ.perform u₀ req = some (x, σ')) (hthere : (σ.recordAt T u).isSome)
    (hnot : req.named ≠ some (T, u)) : σ.AgreeAt σ' T u := by
  cases req with
  | getVehicle r | getConsumption r | getCharging r =>
      cases h
      exact .refl T u
  | createVehicle r | createWeather r | createSourceCategory r =>
      exact conclude_frame (Option.some.inj h) hthere fun p hp => nomatch hp
  | createConsumption r | createCharging r =>
      rcases checked_cases (Option.some.inj h) with ⟨-, rfl⟩ | h
      · exact .refl T u
      · exact conclude_frame h hthere fun p hp => nomatch hp
  | updateVehicle r | deleteVehicle r | deleteConsumption r | deleteCharging r =>
      exact conclude_frame (Option.some.inj h) hthere fun p hp => named_ne hnot hp
  | updateConsumption r | updateCharging r =>
      rcases checked_cases (Option.some.inj h) with ⟨-, rfl⟩ | h
      · exact .refl T u
      · exact conclude_frame h hthere fun p hp => named_ne hnot hp
  | _ => cases h

/-- A lookup of a record that is there answers with it. -/
theorem perform_sought {m : Response} (h : σ.perform u₀ req = some (x, σ'))
    (hsought : req.sought = some (T, u)) (hthere : σ.recordAt T u = some m) :
    x = (.OK, some m) := by
  cases req with
  | getVehicle r | getConsumption r | getCharging r =>
      obtain ⟨v, hv, hkey⟩ := Option.map_eq_some_iff.mp hsought
      cases hkey
      obtain ⟨row, hrow, rfl⟩ := Option.map_eq_some_iff.mp hthere
      have hid : (Param.text r.id).asUuid = .ok (some u) := by simp [Param.asUuid, hv]
      cases h
      simp [lookup, hid, Except.map, hrow, sought, firstOf]
  | _ => cases hsought

/-- Every record is stored under its own id. -/
structure Store.Keyed (σ : Store) : Prop where
  vehicle : ∀ u r, σ.vehicle u = some r → r.id = u
  consumption : ∀ u r, σ.consumption u = some r → r.id = u
  charging : ∀ u r, σ.charging u = some r → r.id = u

theorem Database.keyed (db : Database) : db.store.Keyed where
  vehicle _ _ h := (mem_of_index h).2
  consumption _ _ h := (mem_of_index h).2
  charging _ _ h := (mem_of_index h).2

section Shows
variable {m : Response}

theorem vehicle_shown {r : VehicleRow} (h : σ.vehicle r.id = some r)
    (hkey : (Response.vehicle (vehicleMessage r)).key = some (T, u)) :
    σ.recordAt T u = some (.vehicle (vehicleMessage r)) := by
  have hid : uuidIn (vehicleMessage r).id = some r.id := uuidIn_uuidOut r.id
  rw [Response.key, hid] at hkey
  cases hkey
  exact congrArg (Option.map _) h

theorem consumption_shown {r : ConsumptionRow} (h : σ.consumption r.id = some r)
    (hkey : (Response.consumption (rowToConsumption r)).key = some (T, u)) :
    σ.recordAt T u = some (.consumption (rowToConsumption r)) := by
  have hid : uuidIn (rowToConsumption r).id = some r.id := uuidIn_uuidOut r.id
  rw [Response.key, hid] at hkey
  cases hkey
  exact congrArg (Option.map _) h

theorem charging_shown {r : ChargingRow} (h : σ.charging r.id = some r)
    (hkey : (Response.charging (rowToCharging r)).key = some (T, u)) :
    σ.recordAt T u = some (.charging (rowToCharging r)) := by
  have hid : uuidIn (rowToCharging r).id = some r.id := uuidIn_uuidOut r.id
  rw [Response.key, hid] at hkey
  cases hkey
  exact congrArg (Option.map _) h

/-- A message that a reply holds is that of the first record. -/
theorem firstOf_eq_some {α : Type} {notFound : Status} {f : α → Response} {records : List α}
    (h : (firstOf notFound f records).2 = some m) : ∃ r, records.head? = some r ∧ f r = m := by
  cases records with
  | nil => cases h
  | cons r rs => exact ⟨r, rfl, Option.some.inj h⟩

/-- A record that a lookup answers with is there. -/
theorem sought_eq_some {α : Type} {notFound : Status} {f : α → Response} {n : Uuid → Option α}
    {id : String} (h : (sought notFound f (lookup n id)).2 = some m) :
    ∃ v r, n v = some r ∧ f r = m := by
  rw [lookup] at h
  cases hid : (Param.text id).asUuid with
  | error e =>
      rw [hid] at h
      cases h
  | ok o =>
      rw [hid] at h
      obtain ⟨r, hr, hm⟩ := firstOf_eq_some h
      cases o with
      | none => cases hr
      | some v =>
          cases hv : n v with
          | none =>
              simp only [Option.bind_some, hv] at hr
              cases hr
          | some r' =>
              simp only [Option.bind_some, hv, Option.toList_some, List.head?_cons] at hr
              exact ⟨v, r, hr ▸ hv, hm⟩

/-- An outcome that shows a message has run its statement. -/
theorem conclude_shows {ρ : Type} {w : Write ρ} {f : ρ → Store → Reply Response}
    (h : σ.conclude w f = (x, σ')) (hok : x.1.ok = true) (hm : x.2 = some m) :
    ∃ b, σ.run w = .ok (b, σ') ∧ (f b σ').2 = some m := by
  rcases conclude_cases h with ⟨hnone, -⟩ | ⟨b, σ₁, hrun, hx, rfl⟩
  · rw [hnone] at hm
    cases hm
  · rw [if_pos hok]
    exact ⟨b, hrun, hx ▸ hm⟩

theorem checked_shows {st : Status} {y : Reply Response × Store}
    (h : σ.checked st y = (x, σ')) (hm : x.2 = some m) : y = (x, σ') := by
  rcases checked_cases h with ⟨hnone, -⟩ | h
  · rw [hnone] at hm
    cases hm
  · exact h

/-- An OK reply that is a record shows it as it is stored afterwards. -/
theorem perform_shows (hkeyed : σ'.Keyed) (h : σ.perform u₀ req = some (x, σ'))
    (hok : x.1.ok = true) (hm : x.2 = some m) (hkey : m.key = some (T, u)) :
    σ'.recordAt T u = some m := by
  cases req with
  | getVehicle r =>
      cases h
      obtain ⟨v, row, hrow, rfl⟩ := sought_eq_some hm
      exact vehicle_shown (hkeyed.vehicle v row hrow ▸ hrow) hkey
  | getConsumption r =>
      cases h
      obtain ⟨v, row, hrow, rfl⟩ := sought_eq_some hm
      exact consumption_shown (hkeyed.consumption v row hrow ▸ hrow) hkey
  | getCharging r =>
      cases h
      obtain ⟨v, row, hrow, rfl⟩ := sought_eq_some hm
      exact charging_shown (hkeyed.charging v row hrow ▸ hrow) hkey
  | createVehicle r =>
      obtain ⟨_, -, hm⟩ := conclude_shows (Option.some.inj h) hok hm
      obtain ⟨row, hrow, rfl⟩ := firstOf_eq_some hm
      rw [Option.head?_toList] at hrow
      exact vehicle_shown (hkeyed.vehicle _ row hrow ▸ hrow) hkey
  | createConsumption r =>
      obtain ⟨_, -, hm⟩ := conclude_shows (checked_shows (Option.some.inj h) hm) hok hm
      obtain ⟨row, hrow, rfl⟩ := firstOf_eq_some hm
      rw [Option.head?_toList] at hrow
      exact consumption_shown (hkeyed.consumption _ row hrow ▸ hrow) hkey
  | createCharging r =>
      obtain ⟨_, -, hm⟩ := conclude_shows (checked_shows (Option.some.inj h) hm) hok hm
      obtain ⟨row, hrow, rfl⟩ := firstOf_eq_some hm
      rw [Option.head?_toList] at hrow
      exact charging_shown (hkeyed.charging _ row hrow ▸ hrow) hkey
  | updateVehicle r =>
      obtain ⟨rows, hrun, hm⟩ := conclude_shows (Option.some.inj h) hok hm
      obtain ⟨row, hrow, rfl⟩ := firstOf_eq_some hm
      rcases updateExisting_cases hrun with ⟨rfl, -⟩ | ⟨row', -, hrun⟩
      · cases hrow
      · obtain ⟨rfl, rfl⟩ := Store.updateVehicle_ok hrun
        cases hrow
        exact vehicle_shown (Function.update_self ..) hkey
  | updateConsumption r =>
      obtain ⟨rows, hrun, hm⟩ := conclude_shows (checked_shows (Option.some.inj h) hm) hok hm
      obtain ⟨row, hrow, rfl⟩ := firstOf_eq_some hm
      rcases updateExisting_cases hrun with ⟨rfl, -⟩ | ⟨row', -, hrun⟩
      · cases hrow
      · obtain ⟨rfl, rfl⟩ := Store.updateConsumption_ok hrun
        cases hrow
        exact consumption_shown (Function.update_self ..) hkey
  | updateCharging r =>
      obtain ⟨rows, hrun, hm⟩ := conclude_shows (checked_shows (Option.some.inj h) hm) hok hm
      obtain ⟨row, hrow, rfl⟩ := firstOf_eq_some hm
      rcases updateExisting_cases hrun with ⟨rfl, -⟩ | ⟨row', -, hrun⟩
      · cases hrow
      · obtain ⟨rfl, rfl⟩ := Store.updateCharging_ok hrun
        cases hrow
        exact charging_shown (Function.update_self ..) hkey
  | createWeather r | createSourceCategory r =>
      obtain ⟨_, -, hm⟩ := conclude_shows (Option.some.inj h) hok hm
      cases hm
      cases hkey
  | deleteVehicle r | deleteConsumption r | deleteCharging r =>
      obtain ⟨n, -, hm⟩ := conclude_shows (Option.some.inj h) hok hm
      rw [deleted] at hm
      split_ifs at hm
      cases hm
      cases hkey
  | _ => cases h

end Shows

end Requests

/-! ## Runs -/

section Runs
variable {db db' : Database} {call : Call} {x : Reply Response} {T : Table} {u : Uuid} {m : Response}

/-- A call that does not name the record leaves it as it is. -/
theorem serves_frame (h : Serves db (handle call) x db') (hthere : db.store.recordAt T u = some m)
    (hnot : call.req.named ≠ some (T, u)) : db'.store.recordAt T u = some m := by
  have hdoes := serves_iff_does.mp ⟨db', rfl, h⟩
  by_cases hrecord : call.req.ofRecord = true
  · rw [Store.Does, if_pos hrecord] at hdoes
    obtain ⟨v, hv⟩ := hdoes
    rw [(perform_frame hv (by rw [hthere]; rfl) hnot).recordAt, hthere]
  · rw [Store.Does, if_neg hrecord] at hdoes
    rw [hdoes.1, hthere]

/-- A call that returned a record leaves it as it was returned. -/
theorem serves_shows (h : Serves db (handle call) x db') (hrecord : call.req.ofRecord = true)
    (hok : x.1.ok = true) (hm : x.2 = some m) (hkey : m.key = some (T, u)) :
    db'.store.recordAt T u = some m := by
  have hdoes := serves_iff_does.mp ⟨db', rfl, h⟩
  rw [Store.Does, if_pos hrecord] at hdoes
  obtain ⟨v, hv⟩ := hdoes
  exact perform_shows db'.keyed hv hok hm hkey

theorem ofRecord_of_sought {req : Request} (h : req.sought = some (T, u)) :
    req.ofRecord = true ∧ req.nests = false := by
  cases req <;> first | exact ⟨rfl, rfl⟩ | cases h

/-- A lookup returns the record that is there. -/
theorem serves_sought (h : Serves db (handle call) x db')
    (hsought : call.req.sought = some (T, u)) (hthere : db.store.recordAt T u = some m) :
    x = (.OK, some m) := by
  have hdoes := serves_iff_does.mp ⟨db', rfl, h⟩
  rw [Store.Does, if_pos (ofRecord_of_sought hsought).1] at hdoes
  obtain ⟨v, hv⟩ := hdoes
  exact perform_sought hv hsought hthere

/-- A call precedes only calls that come in later. -/
theorem ne_of_precedes {past : Past} {i j : ℕ} (h : Precedes past i j) : i ≠ j := by
  obtain ⟨t, -, x, -, -, hx, -, hlen⟩ := h
  have := (List.getElem?_eq_some_iff.mp hx).1
  omega

/-- **Reads see writes.**  Call `i`, about a record and not `CreateVehicle`, returned OK with
a record.  Call `j` came in after that and looks the record up.  Every other call that names
the record to change or to delete it had returned before `i` came in, or came in after `j`
had returned.  Then `j`, if it returned OK or nothing failed for it, returned the record that
`i` did, whatever else went on in between. -/
theorem reads_see_writes {db : Database} {n : ℕ} {issued : List Uuid} {past : Past} {s : Server}
    (h : Server.Run db n issued past s) {i j : ℕ}
    {x y : Lib.Task Op Call Local (Reply Response)} {a b : Reply Response}
    (hx : s.tasks[i]? = some x) (ha : x.prog = .done a) (hy : s.tasks[j]? = some y)
    (hb : y.prog = .done b) (hrecord : x.req.req.ofRecord = true)
    (hnests : x.req.req.nests = false) (hok : a.1.ok = true) (hm : a.2 = some m)
    (hkey : m.key = some (T, u)) (hsought : y.req.req.sought = some (T, u))
    (hor : b.1.ok = true ∨ Unhurt past j) (hafter : Precedes past i j)
    (hothers : ∀ k z, k ≠ i → s.tasks[k]? = some z → z.req.req.named = some (T, u) →
      Precedes past k i ∨ Precedes past j k) : b = (.OK, some m) := by
  obtain ⟨order, hturn, hnodup, hpairwise, hall⟩ :=
    h.exists_order id (fun call a d d' => Serves d (handle call) a d') fun _ _ _ _ hserves => hserves
  -- Both calls are in the order, with their replies, and `i` is the first of them.
  have hmem : ∀ (k : ℕ) (z : Lib.Task Op Call Local (Reply Response)) (c : Reply Response),
      s.tasks[k]? = some z → z.prog = .done c → z.req.req.ofRecord = true →
      z.req.req.nests = false → (c.1.ok = true ∨ Unhurt past k) → (k, c) ∈ order := by
    intro k z c hz hc hrec hnest hc'
    have hlen : z.req.req.statements.length ≤ 1 := by simp [Request.statements_of_ofRecord hrec]
    obtain ⟨c', hin⟩ := (hall k z c hz hc).1 hlen hc'
    rwa [(hall k z c hz hc).2 hnest c' hin] at hin
  have hi := hmem i x a hx ha hrecord hnests (.inl hok)
  obtain ⟨hrec', hnests'⟩ := ofRecord_of_sought hsought
  have hj := hmem j y b hy hb hrec' hnests' hor
  obtain ⟨before, rest, rfl⟩ := List.append_of_mem hi
  rw [List.pairwise_append, List.pairwise_cons] at hpairwise
  obtain ⟨-, ⟨hfirst, hrest⟩, hcross⟩ := hpairwise
  have hj' : (j, b) ∈ rest := by
    rcases List.mem_append.mp hj with hbefore | hmore
    · exact absurd hafter (hcross _ hbefore _ List.mem_cons_self)
    · rcases List.mem_cons.mp hmore with heq | hrest
      · cases heq
        exact absurd rfl (ne_of_precedes hafter)
      · exact hrest
  obtain ⟨between, after, rfl⟩ := List.append_of_mem hj'
  -- From the step of `i` to that of `j` the record stays.
  obtain ⟨d₀, -, hturn⟩ := inTurn_append.mp hturn
  obtain ⟨d₁, ⟨x', hx', hserves⟩, hturn⟩ := inTurn_cons.mp hturn
  obtain ⟨d₂, hbetween, hturn⟩ := inTurn_append.mp hturn
  obtain ⟨d₃, ⟨y', hy', hserves'⟩, -⟩ := inTurn_cons.mp hturn
  obtain rfl := Option.some.inj (hx.symm.trans hx')
  obtain rfl := Option.some.inj (hy.symm.trans hy')
  have hthere := serves_shows hserves hrecord hok hm hkey
  have hstays : d₂.store.recordAt T u = some m := by
    refine hbetween.invariant (I := fun d => d.store.recordAt T u = some m) ?_ hthere
    intro e he d d' ⟨z, hz, hz'⟩ hd
    refine serves_frame hz' hd fun hnamed => ?_
    have hne : e.1 ≠ i := by
      intro heq
      have hin : e.1 ∈ (between ++ (j, b) :: after).map Prod.fst :=
        List.mem_map_of_mem (List.mem_append_left _ he)
      rw [List.map_append, List.map_cons, List.nodup_append] at hnodup
      exact (List.nodup_cons.mp hnodup.2.1).1 (heq ▸ hin)
    rcases hothers e.1 z hne hz hnamed with hpre | hpost
    · exact hfirst e (List.mem_append_left _ he) hpre
    · rw [List.pairwise_append] at hrest
      exact hrest.2.2 e he _ List.mem_cons_self hpost
  exact serves_sought hserves' hsought hstays

end Runs

/-- A charging is created and then looked up. -/
def createThenGet : List ServerAction :=
  firstSteps 0 (.createCharging (someCharging (.fin 10))) (someUuid 9) 12 ++
    firstSteps 1 (.getCharging ⟨uuidOut (someUuid 9)⟩) Uuid.nil 7

/-- What was created is what is found. -/
theorem reads_see_writes_create : ∃ past s, Server.Run stocked 1 [] past s ∧
    ∃ a, s.tasks.map (fun x => returned? x.prog) = [some a, some a] := by
  have hrun : ∃ past s, Server.Run stocked 1 [] past s ∧
      s.tasks.map (fun x => (returned? x.prog).any fun r =>
        r.1 = .OK ∧ r.2.bind Response.key = some (.charging, someUuid 9)) = [true, true] ∧
      s.tasks.map (fun x => (x.req.req.ofRecord, x.req.req.nests, x.req.req.named.isSome)) =
        [(true, false, false), (true, false, false)] ∧
      s.tasks.map (fun x => decide (x.req.req.sought = some (.charging, someUuid 9))) =
        [false, true] ∧
      past.any (fun y => y.1.tasks.length == 1 &&
        (y.1.tasks[0]?.any fun x => (returned? x.prog).isSome)) = true :=
    exists_run createThenGet (by decide +kernel)
  obtain ⟨past, s, h, hreplies, hkinds, hsoughts, hpast⟩ := hrun
  obtain ⟨x, rest, hs, hx, hrest⟩ := List.map_eq_cons_iff.mp hreplies
  obtain ⟨y, rest', rfl, hy, hnil⟩ := List.map_eq_cons_iff.mp hrest
  obtain rfl := List.map_eq_nil_iff.mp hnil
  simp only [hs, List.map_cons, List.map_nil, List.cons.injEq, Prod.mk.injEq, decide_eq_true_eq]
    at hkinds hsoughts
  obtain ⟨⟨st, o⟩, ha, hok⟩ := (Option.any_eq_true ..).mp hx
  obtain ⟨b, hb, hok'⟩ := (Option.any_eq_true ..).mp hy
  simp only [decide_eq_true_eq] at hok hok'
  obtain ⟨rfl, hkey⟩ := hok
  obtain ⟨m, rfl, hkey⟩ := Option.bind_eq_some_iff.mp hkey
  have hprecedes : Precedes past 0 1 := by
    obtain ⟨⟨t, c⟩, hmem, htc⟩ := List.any_eq_true.mp hpast
    rw [Bool.and_eq_true, beq_iff_eq, Option.any_eq_true] at htc
    obtain ⟨hone, z, hz, hz'⟩ := htc
    obtain ⟨c', hc'⟩ := Option.isSome_iff_exists.mp hz'
    exact ⟨t, c, z, c', hmem, hz, returned?_eq_some hc', hone.le⟩
  have hnamed : ∀ z ∈ s.tasks, z.req.req.named.isSome = false := by
    rw [hs]
    simp only [List.mem_cons, List.not_mem_nil, or_false, forall_eq_or_imp, forall_eq]
    exact ⟨hkinds.1.2.2, hkinds.2.1.2.2⟩
  have hsees := reads_see_writes h (i := 0) (j := 1) (by rw [hs]; rfl) (returned?_eq_some ha)
    (by rw [hs]; rfl) (returned?_eq_some hb) hkinds.1.1 hkinds.1.2.1 rfl rfl hkey hsoughts.2.1
    (.inl (by rw [hok'.1]; rfl)) hprecedes fun k z _ hk hname => by
      have hno := hnamed z (List.mem_of_getElem? hk)
      rw [hname] at hno
      cases hno
  exact ⟨past, s, h, b, by simp [hs, ha, hb, hsees]⟩

end EvGrpc
