import EvGrpc.Services.Answers

/-!
# What the writing handlers do

A `Get` answers with the record of the row it finds, and a `Create` or an `Update` that
succeeds leaves the row its statement carries and answers with that row's record.  The
shapes first, then the handlers of `VehicleService`, `ConsumptionService` and
`ChargingService`.
-/

namespace EvGrpc

open Lib

/-! ## Shapes -/

section Shapes
variable {db db' : Database} {md : Metadata} {kMethod : String} {α β ρ : Type} {r : Reply ρ}
variable {s s' : Session}

/-- A transaction starts without statements, and none outlives it. -/
theorem yields_withWork {body : Rpc α} {x : Except Exn α} :
    (withWork body).run.Yields Op.Answers ⟨db, []⟩ x s' ↔
      ∃ t, body.run.Yields Op.Answers ⟨db, []⟩ x t ∧ s' = ⟨t.db, []⟩ := by
  rw [run_withWork, Prog.yields_bind]
  constructor
  · rintro ⟨b, t, hb, hrest⟩
    obtain ⟨rfl, rfl⟩ := yields_call.mp hb
    obtain ⟨y, t, hbody, hend⟩ := (Prog.yields_bind ..).mp hrest
    obtain ⟨u, t', ht, rfl, rfl⟩ := hend
    exact ⟨t, hbody, ht⟩
  · rintro ⟨t, hbody, rfl⟩
    refine ⟨.ok (), ⟨db, []⟩, yields_call.mpr ⟨rfl, rfl⟩, ?_⟩
    exact (Prog.yields_bind ..).mpr ⟨x, t, hbody, (), ⟨t.db, []⟩, rfl, rfl, rfl⟩

theorem yields_newUuid {x : Except Exn Uuid} :
    newUuid.run.Yields Op.Answers s x s' ↔ ∃ u, x = .ok u ∧ s' = s := by
  have hrun : newUuid.run = (Prog.call .newUuid >>= fun u => .done (.ok u)) := rfl
  rw [hrun, Prog.yields_bind]
  simp only [yields_call, Prog.yields_done]
  constructor
  · rintro ⟨u, t, ht, hx, rfl⟩
    exact ⟨u, hx, ht⟩
  · rintro ⟨u, hx, hs⟩
    exact ⟨u, s', hs, hx, rfl⟩

/-- The first statement of a transaction. -/
theorem yields_execWrite_ok {w : Write α} {a : α}
    (h : (execWrite w).run.Yields Op.Answers ⟨db, []⟩ (.ok a) s') :
    ∃ v, w.run db = .ok (a, v) ∧ s' = ⟨db, [⟨w, a⟩]⟩ := by
  have hcall : (execWrite w).run = Prog.call (.write w) := rfl
  rw [hcall, yields_call] at h
  obtain ⟨v, hv, ⟨e, -, he, -⟩ | ⟨a', v', hrun, ha, rfl⟩⟩ := h
  · cases he
  · cases hv
    cases ha
    exact ⟨v', hrun, rfl⟩

/-- A question inside a transaction sees what its statement did. -/
theorem yields_exec_pending {q : Database → Except Exn ρ} {w : Write α} {a : α} {v : Database}
    {x : Except Exn ρ} (hrun : w.run db = .ok (a, v))
    (h : (exec q).run.Yields Op.Answers ⟨db, [⟨w, a⟩]⟩ x s') :
    ∃ v', v.SameRows v' ∧ x = q v' ∧ s' = ⟨db, [⟨w, a⟩]⟩ := by
  have hcall : (exec q).run = Prog.call (.query q) := rfl
  rw [hcall, yields_call] at h
  obtain ⟨u, v', hu, hsame, rfl, rfl⟩ := h
  obtain ⟨u', hu', hnil⟩ := (replay_cons ..).mp hu
  rw [hrun] at hu'
  cases hu'
  cases hnil
  exact ⟨v', hsame, rfl, rfl⟩

/-- The commit leaves what the statement did. -/
theorem yields_commit_pending {w : Write α} {a : α} {v : Database} {x : Except Exn Unit}
    (hrun : w.run db = .ok (a, v)) (h : commit.run.Yields Op.Answers ⟨db, [⟨w, a⟩]⟩ x s') :
    x = .ok () ∧ s' = ⟨v, []⟩ := by
  have hcall : commit.run = Prog.call .commit := rfl
  rw [hcall, yields_call] at h
  obtain ⟨u, hu, rfl, rfl⟩ := h
  obtain ⟨u', hu', hnil⟩ := (replay_cons ..).mp hu
  rw [hrun] at hu'
  cases hu'
  cases hnil
  exact ⟨rfl, rfl⟩

/-- The tail of the writing handlers succeeds when a row came back. -/
theorem yields_firstRow_commit {w : Write β} {b : β} {v : Database} {notFound : Status}
    {row : α → Except Exn ρ} {rows : List α} (hrun : w.run db = .ok (b, v))
    (hnf : notFound.ok = false) (hok : r.1.ok = true)
    (h : (firstRow notFound (fun x => do
      let resp ← convert (row x)
      commit
      return (.OK, some resp)) rows).run.Yields Op.Answers ⟨db, [⟨w, b⟩]⟩ (.ok r) s') :
    ∃ x xs c, rows = x :: xs ∧ row x = .ok c ∧ r = (.OK, some c) ∧ s' = ⟨v, []⟩ := by
  cases rows with
  | nil =>
      obtain ⟨hr, -⟩ := yields_fail.mp h
      cases hr
      rw [hnf] at hok
      cases hok
  | cons x xs =>
      rcases yields_run_bind.mp h with ⟨e, -, he⟩ | ⟨c, t, hc, hrest⟩
      · cases he
      · obtain ⟨hrow, rfl⟩ := yields_convert.mp hc
        rcases yields_run_bind.mp hrest with ⟨e, -, he⟩ | ⟨u, t, hcommit, hend⟩
        · cases he
        · obtain ⟨-, rfl⟩ := yields_commit_pending hrun hcommit
          obtain ⟨hr, rfl⟩ := yields_run_pure.mp hend
          cases hr
          exact ⟨x, xs, c, rfl, hrow.symm, rfl, rfl⟩

/-- An `INSERT` that succeeds. -/
theorem yields_insertRow_ok {w : Write Unit} {q : Database → Except Exn (List α)}
    {row : α → Except Exn ρ} (hok : r.1.ok = true)
    (h : (insertRow w q row).run.Yields Op.Answers ⟨db, []⟩ (.ok r) s') :
    ∃ v v' x xs c, w.run db = .ok ((), v) ∧ v.SameRows v' ∧ q v' = .ok (x :: xs) ∧
      row x = .ok c ∧ r = (.OK, some c) ∧ s' = ⟨v, []⟩ := by
  rcases yields_run_bind.mp h with ⟨e, -, he⟩ | ⟨u, t, hwrite, hrest⟩
  · cases he
  · obtain ⟨v, hrun, rfl⟩ := yields_execWrite_ok hwrite
    rcases yields_run_bind.mp hrest with ⟨e, -, he⟩ | ⟨rows, t, hexec, hfirst⟩
    · cases he
    · obtain ⟨v', hsame, hq, rfl⟩ := yields_exec_pending hrun hexec
      obtain ⟨x, xs, c, rfl, hc, hr, hs⟩ := yields_firstRow_commit hrun rfl hok hfirst
      exact ⟨v, v', x, xs, c, hrun, hsame, hq.symm, hc, hr, hs⟩

/-- An `UPDATE` that succeeds. -/
theorem yields_updateRow_ok {w : Write (List α)} {notFound : Status} {row : α → Except Exn ρ}
    (hnf : notFound.ok = false) (hok : r.1.ok = true)
    (h : (updateRow w notFound row).run.Yields Op.Answers ⟨db, []⟩ (.ok r) s') :
    ∃ v x xs c, w.run db = .ok (x :: xs, v) ∧ row x = .ok c ∧ r = (.OK, some c) ∧
      s' = ⟨v, []⟩ := by
  obtain ⟨t, hbody, rfl⟩ := yields_withWork.mp (yields_withConn.mp h)
  rcases yields_run_bind.mp hbody with ⟨e, -, he⟩ | ⟨rows, t', hwrite, hfirst⟩
  · cases he
  · obtain ⟨v, hrun, rfl⟩ := yields_execWrite_ok hwrite
    obtain ⟨x, xs, c, rfl, hc, hr, rfl⟩ := yields_firstRow_commit hrun hnf hok hfirst
    exact ⟨v, x, xs, c, hrun, hc, hr, rfl⟩

/-- A call that succeeds: its `try` block came to its end. -/
theorem serves_try_ok {body : Rpc (Reply ρ)} (hok : r.1.ok = true)
    (h : Serves db (authenticated md kMethod (catching body)) r db') :
    ∃ ps, body.run.Yields Op.Answers ⟨db, []⟩ (.ok r) ⟨db', ps⟩ := by
  obtain ⟨ps, h⟩ := h
  rw [yields_authenticated, yields_catching] at h
  obtain ⟨x, hbody, rfl⟩ := h
  cases x with
  | ok r => exact ⟨ps, hbody⟩
  | error e => simp [settle] at hok

/-- And it passed its checks. -/
theorem serves_catching_ok {st : Status} {body : Rpc (Reply ρ)} (hok : r.1.ok = true)
    (h : Serves db (authenticated md kMethod (validated st (catching body))) r db') :
    st.ok = true ∧ ∃ ps, body.run.Yields Op.Answers ⟨db, []⟩ (.ok r) ⟨db', ps⟩ := by
  rw [serves_validated] at h
  by_cases hst : st.ok = true
  · rw [if_pos hst] at h
    exact ⟨hst, serves_try_ok hok h⟩
  · rw [if_neg hst] at h
    rw [h.1] at hok
    exact absurd hok hst

/-- A row of a lookup table that is stored; the reply repeats the request. -/
theorem serves_createLookup_ok {insert : List Param → Write Unit} {message : String → String → ρ}
    {name : String} (hok : r.1.ok = true)
    (h : Serves db (createLookup kMethod insert message md name) r db') :
    ∃ u, (insert [.text (uuidOut u), .text name]).run db = .ok ((), db') ∧
      r = (.OK, some (message (uuidOut u) name)) := by
  obtain ⟨ps, hbody⟩ := serves_try_ok hok h
  obtain ⟨t, hbody, hs⟩ := yields_withWork.mp (yields_withConn.mp hbody)
  rcases yields_run_bind.mp hbody with ⟨e, -, he⟩ | ⟨u, t', hu, hrest⟩
  · cases he
  obtain ⟨_, -, rfl⟩ := yields_newUuid.mp hu
  rcases yields_run_bind.mp hrest with ⟨e, -, he⟩ | ⟨_, t', hwrite, hrest⟩
  · cases he
  obtain ⟨v, hrun, rfl⟩ := yields_execWrite_ok hwrite
  rcases yields_run_bind.mp hrest with ⟨e, -, he⟩ | ⟨_, t', hcommit, hrest⟩
  · cases he
  obtain ⟨-, rfl⟩ := yields_commit_pending hrun hcommit
  obtain ⟨hr, rfl⟩ := yields_run_pure.mp hrest
  cases hr
  cases hs
  exact ⟨u, hrun, rfl⟩

/-- A handler that is called directly does what it would do alone. -/
theorem yields_callHandler {p : Prog Op α} {x : Except Exn α} :
    (callHandler p).run.Yields Op.Answers s x s' ↔
      ∃ a, p.Yields Op.Answers s a s' ∧ x = .ok a := by
  have hrun : (callHandler p).run = (p >>= fun a => .done (.ok a)) := rfl
  rw [hrun, Prog.yields_bind]
  constructor
  · rintro ⟨a, t, hp, rfl, rfl⟩
    exact ⟨a, hp, rfl⟩
  · rintro ⟨a, hp, rfl⟩
    exact ⟨a, s', hp, rfl, rfl⟩

/-- The reply to a lookup. -/
def found (notFound : Status) (row : α → Except Exn ρ) : Except Exn (List α) → Reply ρ
  | .error e => (toGrpcStatus e, none)
  | .ok [] => (notFound, none)
  | .ok (x :: _) => answer (row x)

/-- A handler that looks one row up. -/
theorem serves_getRow {q : Database → Except Exn (List α)} {notFound : Status}
    {row : α → Except Exn ρ} :
    Serves db (authenticated md kMethod (catching (getRow q notFound row))) r db' ↔
      db' = db ∧ ∃ v, db.SameRows v ∧ r = found notFound row (q v) := by
  unfold Serves getRow
  simp only [yields_authenticated, yields_catching, yields_withConn, yields_run_bind (m := exec q),
    yields_exec]
  constructor
  · rintro ⟨ps, x, ⟨e, ⟨v, hv, hq, hs⟩, rfl⟩ | ⟨rows, t, ⟨v, hv, hq, rfl⟩, hrest⟩, rfl⟩
    · cases hs
      exact ⟨rfl, v, hv, by rw [← hq]; rfl⟩
    · cases rows with
      | nil =>
          obtain ⟨rfl, hs⟩ := yields_fail.mp hrest
          cases hs
          exact ⟨rfl, v, hv, by rw [← hq]; rfl⟩
      | cons a rows =>
          have hdo : (firstRow notFound (fun r => do return (.OK, some (← convert (row r))))
              (a :: rows) : Rpc (Reply ρ)) = (convert (row a) >>= fun c => pure (.OK, some c)) := rfl
          rw [hdo, yields_run_bind] at hrest
          simp only [yields_convert, yields_run_pure] at hrest
          rcases hrest with ⟨e, ⟨he, hs⟩, rfl⟩ | ⟨c, t, ⟨hc, rfl⟩, rfl, hs⟩
          · cases hs
            exact ⟨rfl, v, hv, by rw [← hq]; simp [found, ← he, settle, answer]⟩
          · cases hs
            exact ⟨rfl, v, hv, by rw [← hq]; simp [found, ← hc, settle, answer]⟩
  · rintro ⟨rfl, v, hv, rfl⟩
    cases hq : q v with
    | error e => exact ⟨[], .error e, .inl ⟨e, ⟨v, hv, hq.symm, rfl⟩, rfl⟩, rfl⟩
    | ok rows =>
        cases rows with
        | nil =>
            exact ⟨[], _, .inr ⟨[], _, ⟨v, hv, hq.symm, rfl⟩, yields_fail.mpr ⟨rfl, rfl⟩⟩, rfl⟩
        | cons a rows =>
            cases hrow : row a with
            | error e =>
                refine ⟨[], .error e, .inr ⟨a :: rows, _, ⟨v, hv, hq.symm, rfl⟩,
                  yields_run_bind.mpr (.inl ⟨e, yields_convert.mpr ⟨hrow.symm, rfl⟩, rfl⟩)⟩, ?_⟩
                simp [found, hrow, settle, answer]
            | ok c =>
                refine ⟨[], .ok (.OK, some c), .inr ⟨a :: rows, _, ⟨v, hv, hq.symm, rfl⟩,
                  yields_run_bind.mpr (.inr ⟨c, _, yields_convert.mpr ⟨hrow.symm, rfl⟩,
                    yields_run_pure.mpr ⟨rfl, rfl⟩⟩)⟩, ?_⟩
                simp [found, hrow, settle, answer]

theorem replies_getRow {q : Database → Except Exn (List α)} {notFound : Status}
    {row : α → Except Exn ρ} {Q : Reply ρ → Prop}
    (h : ∀ v, db.SameRows v → Q (found notFound row (q v))) :
    Replies db (authenticated md kMethod (catching (getRow q notFound row))) Q := by
  refine ⟨⟨_, serves_getRow.mpr ⟨rfl, db, .refl db, rfl⟩⟩, ?_⟩
  intro r db' hserves
  obtain ⟨rfl, v, hv, rfl⟩ := serves_getRow.mp hserves
  exact ⟨rfl, h v hv⟩

end Shapes

/-! ## Statements -/

section Statements
variable {db v : Database} {p : List Param}

theorem run_insertVehicle (h : (Write.insertVehicle p).run db = .ok ((), v)) :
    ∃ row ∈ v.vehicle, vehicleRow (fun c => placeholder p (vehicleColumns c)) = .ok row := by
  obtain ⟨row, hrow, h⟩ := bind_eq_ok.mp h
  obtain ⟨_, _, rfl⟩ := runInsertVehicle_ok h
  exact ⟨row, List.mem_cons_self, hrow⟩

theorem run_updateVehicle {x : VehicleRow} {xs : List VehicleRow}
    (h : (Write.updateVehicle p).run db = .ok (x :: xs, v)) :
    x ∈ v.vehicle ∧ vehicleRow (fun c => placeholder p (vehicleColumns c)) = .ok x := by
  rcases updateExisting_ok h with ⟨hnil, -⟩ | ⟨row, hrow, hrun, id, hid, hparam⟩
  · cases hnil
  · have hrid : id = row.id := by
      have := (vehicleRow_ok hrow).id
      rw [hparam] at this
      simpa using this
    unfold runUpdateVehicle at hrun
    split_ifs at hrun
    cases hrun
    exact ⟨mem_replaceBy_self (hrid ▸ hid), hrow⟩

theorem run_insertConsumption (h : (Write.insertConsumption p).run db = .ok ((), v)) :
    ∃ row ∈ v.consumption,
      consumptionRow (fun c => placeholder p (consumptionColumns c)) = .ok row := by
  obtain ⟨row, hrow, h⟩ := bind_eq_ok.mp h
  obtain ⟨_, _, _, rfl⟩ := runInsertConsumption_ok h
  exact ⟨row, List.mem_cons_self, hrow⟩

theorem run_updateConsumption {x : ConsumptionRow} {xs : List ConsumptionRow}
    (h : (Write.updateConsumption p).run db = .ok (x :: xs, v)) :
    x ∈ v.consumption ∧
      consumptionRow (fun c => placeholder p (consumptionColumns c)) = .ok x := by
  rcases updateExisting_ok h with ⟨hnil, -⟩ | ⟨row, hrow, hrun, id, hid, hparam⟩
  · cases hnil
  · have hrid : id = row.id := by
      have := (consumptionRow_ok hrow).id
      rw [hparam] at this
      simpa using this
    unfold runUpdateConsumption at hrun
    split_ifs at hrun
    cases hrun
    exact ⟨mem_replaceBy_self (hrid ▸ hid), hrow⟩

theorem run_insertCharging (h : (Write.insertCharging p).run db = .ok ((), v)) :
    ∃ row ∈ v.charging, chargingRow (fun c => placeholder p (chargingInsert c)) = .ok row := by
  obtain ⟨row, hrow, h⟩ := bind_eq_ok.mp h
  obtain ⟨_, _, _, rfl⟩ := runInsertCharging_ok h
  exact ⟨row, List.mem_cons_self, hrow⟩

theorem run_updateCharging {x : ChargingRow} {xs : List ChargingRow}
    (h : (Write.updateCharging p).run db = .ok (x :: xs, v)) :
    x ∈ v.charging ∧ chargingRow (fun c => placeholder p (chargingUpdate c)) = .ok x := by
  rcases updateExisting_ok h with ⟨hnil, -⟩ | ⟨row, hrow, hrun, id, hid, hparam⟩
  · cases hnil
  · have hrid : id = row.id := by
      have := (chargingRow_ok hrow).id
      rw [hparam] at this
      simpa using this
    unfold runUpdateCharging at hrun
    split_ifs at hrun
    cases hrun
    exact ⟨mem_replaceBy_self (hrid ▸ hid), hrow⟩

/-- The row with a given id is found under every spelling of the id. -/
theorem selectVehicle_eq {row : VehicleRow} {s : String} (h : row ∈ db.vehicle)
    (hs : uuidIn s = some row.id) : selectVehicle s db = .ok [row] := by
  have hone := filter_key_eq_singleton db.vehicle_pk h
  simp only [selectVehicle, Param.asUuid, hs]
  simpa [eq_comm] using hone

theorem selectConsumption_eq {row : ConsumptionRow} {s : String} (h : row ∈ db.consumption)
    (hs : uuidIn s = some row.id) : selectConsumption s db = .ok [row] := by
  have hone := filter_key_eq_singleton db.consumption_pk h
  simp only [selectConsumption, Param.asUuid, hs]
  simpa [eq_comm] using hone

theorem selectCharging_eq {row : ChargingRow} {s : String} (h : row ∈ db.charging)
    (hs : uuidIn s = some row.id) : selectCharging s db = .ok [row] := by
  have hone := filter_key_eq_singleton db.charging_pk h
  simp only [selectCharging, Param.asUuid, hs]
  simpa [eq_comm] using hone

end Statements

/-! ## Vehicles -/

section Vehicle
variable {db db' : Database} {md : Metadata} {r : Reply Vehicle}

/-- `GetVehicle` answers with the message of the row that has the id. -/
theorem replies_getVehicle {row : VehicleRow} {id : String} (h : row ∈ db.vehicle)
    (hid : uuidIn id = some row.id) :
    Replies db (getVehicle md ⟨id⟩) (· = (.OK, some (vehicleMessage row))) := by
  refine replies_getRow fun v hv => ?_
  rw [selectVehicle_eq (hv.1.mem_iff.mp h) hid, found, rowToVehicle_eq]
  rfl

/-- `CreateVehicle` stores the row of its request and answers with its message. -/
theorem createVehicle_ok {req : CreateVehicleRequest} (hok : r.1.ok = true)
    (h : Serves db (createVehicle md req) r db') :
    ∃ u, ∃ row ∈ db'.vehicle,
      vehicleRow (fun c => placeholder (req.params u) (vehicleColumns c)) = .ok row ∧
        r = (.OK, some (vehicleMessage row)) := by
  obtain ⟨ps, hbody⟩ := serves_try_ok hok h
  obtain ⟨t, hbody, hs⟩ := yields_withWork.mp (yields_withConn.mp hbody)
  rcases yields_run_bind.mp hbody with ⟨e, -, he⟩ | ⟨u, t', hu, hrest⟩
  · cases he
  obtain ⟨_, -, rfl⟩ := yields_newUuid.mp hu
  rcases yields_run_bind.mp hrest with ⟨e, -, he⟩ | ⟨_, t', hwrite, hrest⟩
  · cases he
  obtain ⟨v, hrun, rfl⟩ := yields_execWrite_ok hwrite
  rcases yields_run_bind.mp hrest with ⟨e, -, he⟩ | ⟨_, t', hcommit, hrest⟩
  · cases he
  obtain ⟨-, rfl⟩ := yields_commit_pending hrun hcommit
  rcases yields_run_bind.mp hrest with ⟨e, -, he⟩ | ⟨read, t', hread, hrest⟩
  · cases he
  -- The row is there when `GetVehicle` looks for it.
  obtain ⟨row, hmem, hrow⟩ := run_insertVehicle hrun
  have hid : uuidIn (uuidOut u) = some row.id := asUuid_text (vehicleRow_ok hrow).id
  obtain ⟨a, ha, hx⟩ := yields_callHandler.mp hread
  cases hx
  obtain ⟨rfl, rfl⟩ := (replies_getVehicle hmem hid).2 read t'.db ⟨t'.pending, ha⟩
  obtain ⟨hr, rfl⟩ := yields_run_pure.mp hrest
  cases hr
  cases hs
  exact ⟨u, row, hmem, hrow, rfl⟩

/-- And so does `UpdateVehicle`. -/
theorem updateVehicle_ok {req : UpdateVehicleRequest} (hok : r.1.ok = true)
    (h : Serves db (updateVehicle md req) r db') :
    ∃ row ∈ db'.vehicle,
      vehicleRow (fun c => placeholder req.params (vehicleColumns c)) = .ok row ∧
        r = (.OK, some (vehicleMessage row)) := by
  obtain ⟨ps, hbody⟩ := serves_try_ok hok h
  obtain ⟨v, x, xs, c, hrun, hc, hr, hs⟩ := yields_updateRow_ok rfl hok hbody
  cases hs
  rw [rowToVehicle_eq] at hc
  cases hc
  obtain ⟨hmem, hrow⟩ := run_updateVehicle hrun
  exact ⟨x, hmem, hrow, hr⟩

/-- `CreateVehicle` succeeds when nothing is wrong with its row. -/
theorem serves_createVehicle {req : CreateVehicleRequest} {u : Uuid} {row : VehicleRow}
    (hrow : vehicleRow (fun c => placeholder (req.params u) (vehicleColumns c)) = .ok row)
    (hid : row.id ∉ db.vehicle.map VehicleRow.id)
    (hplate : row.licensePlate ∉ db.vehicle.map VehicleRow.licensePlate) :
    Serves db (createVehicle md req) (.OK, some (vehicleMessage row))
      (db.insertVehicle row hid hplate) := by
  have hrun : (Write.insertVehicle (req.params u)).run db =
      .ok ((), db.insertVehicle row hid hplate) := by
    simp only [Write.run, hrow, runInsertVehicle]
    change dite _ _ _ = _
    rw [dif_neg hid, dif_neg hplate]
  have huuid : uuidIn (uuidOut u) = some row.id := asUuid_text (vehicleRow_ok hrow).id
  have hmem : row ∈ (db.insertVehicle row hid hplate).vehicle := List.mem_cons_self
  have hget : Replies (db.insertVehicle row hid hplate) (getVehicle md ⟨uuidOut u⟩)
      (· = (.OK, some (vehicleMessage row))) := replies_getVehicle hmem huuid
  obtain ⟨⟨reply, ps, hreply⟩, hall⟩ := hget
  obtain ⟨-, rfl⟩ := hall reply _ ⟨ps, hreply⟩
  have hwrite : (execWrite (.insertVehicle (req.params u))).run.Yields Op.Answers ⟨db, []⟩ (.ok ())
      ⟨db, [⟨.insertVehicle (req.params u), ()⟩]⟩ :=
    yields_call.mpr ⟨db, rfl, .inr ⟨(), _, hrun, rfl, rfl⟩⟩
  have hcommit : commit.run.Yields Op.Answers ⟨db, [⟨.insertVehicle (req.params u), ()⟩]⟩ (.ok ())
      ⟨db.insertVehicle row hid hplate, []⟩ :=
    yields_call.mpr ⟨_, (replay_cons ..).mpr ⟨_, hrun, rfl⟩, rfl, rfl⟩
  refine ⟨[], yields_authenticated.mpr (yields_catching.mpr ⟨.ok _, yields_withConn.mpr
    (yields_withWork.mpr ⟨⟨db.insertVehicle row hid hplate, ps⟩, ?_, rfl⟩), rfl⟩)⟩
  refine yields_run_bind.mpr (.inr ⟨u, _, yields_newUuid.mpr ⟨u, rfl, rfl⟩, ?_⟩)
  refine yields_run_bind.mpr (.inr ⟨(), _, hwrite, ?_⟩)
  refine yields_run_bind.mpr (.inr ⟨(), _, hcommit, ?_⟩)
  refine yields_run_bind.mpr (.inr ⟨_, _, yields_callHandler.mpr ⟨_, hreply, rfl⟩, ?_⟩)
  exact yields_run_pure.mpr ⟨rfl, rfl⟩

end Vehicle

/-! ## Consumptions -/

section Consumption
variable {db db' : Database} {md : Metadata} {r : Reply Consumption}

/-- `CreateConsumption` stores the row of its request and answers with its record. -/
theorem createConsumption_ok {req : CreateConsumptionRequest} (hok : r.1.ok = true)
    (h : Serves db (createConsumption md req) r db') :
    (validateConsumption req).ok = true ∧ ∃ u, ∃ row ∈ db'.consumption,
      consumptionRow (consumptionColumn (uuidOut u) req) = .ok row ∧
        r = (.OK, some (rowToConsumption row)) := by
  obtain ⟨hvalid, ps, hbody⟩ := serves_catching_ok hok h
  refine ⟨hvalid, ?_⟩
  obtain ⟨t, hbody, hs⟩ := yields_withWork.mp (yields_withConn.mp hbody)
  rcases yields_run_bind.mp hbody with ⟨e, -, he⟩ | ⟨u, t', hu, hrest⟩
  · cases he
  · obtain ⟨_, -, rfl⟩ := yields_newUuid.mp hu
    obtain ⟨v, v', x, xs, c, hrun, hsame, hq, hc, hr, rfl⟩ := yields_insertRow_ok hok hrest
    cases hs
    obtain ⟨row, hmem, hrow⟩ := run_insertConsumption hrun
    rw [funext (placeholder_consumptionParams _ _)] at hrow
    have hid : uuidIn (uuidOut u) = some row.id := asUuid_text (consumptionRow_ok hrow).id
    rw [selectConsumption_eq (hsame.2.2.2.1.mem_iff.mp hmem) hid] at hq
    cases hq
    cases hc
    exact ⟨u, x, hmem, hrow, hr⟩

/-- And so does `UpdateConsumption`. -/
theorem updateConsumption_ok {req : UpdateConsumptionRequest} (hok : r.1.ok = true)
    (h : Serves db (updateConsumption md req) r db') :
    (validateConsumption req.view).ok = true ∧ ∃ row ∈ db'.consumption,
      consumptionRow (consumptionColumn req.id req.toCreateConsumptionRequest) = .ok row ∧
        r = (.OK, some (rowToConsumption row)) := by
  obtain ⟨hvalid, ps, hbody⟩ := serves_catching_ok hok h
  refine ⟨hvalid, ?_⟩
  obtain ⟨v, x, xs, c, hrun, hc, hr, hs⟩ := yields_updateRow_ok rfl hok hbody
  cases hs
  cases hc
  obtain ⟨hmem, hrow⟩ := run_updateConsumption hrun
  rw [funext (placeholder_updateConsumptionParams _)] at hrow
  exact ⟨x, hmem, hrow, hr⟩

/-- `GetConsumption` answers with the record of the row that has the id. -/
theorem replies_getConsumption {row : ConsumptionRow} {id : String} (h : row ∈ db.consumption)
    (hid : uuidIn id = some row.id) :
    Replies db (getConsumption md ⟨id⟩) (· = (.OK, some (rowToConsumption row))) := by
  refine replies_getRow fun v hv => ?_
  rw [selectConsumption_eq (hv.2.2.2.1.mem_iff.mp h) hid]
  rfl

end Consumption

/-! ## Chargings -/

section Charging
variable {db db' : Database} {md : Metadata} {r : Reply Charging}

/-- `CreateCharging` stores the row of its request and answers with its record. -/
theorem createCharging_ok {req : CreateChargingRequest} (hok : r.1.ok = true)
    (h : Serves db (createCharging md req) r db') :
    (validateCharging req).ok = true ∧ ∃ u, ∃ row ∈ db'.charging,
      chargingRow (chargingColumn (uuidOut u) req) = .ok row ∧
        r = (.OK, some (rowToCharging row)) := by
  obtain ⟨hvalid, ps, hbody⟩ := serves_catching_ok hok h
  refine ⟨hvalid, ?_⟩
  rcases yields_run_bind.mp hbody with ⟨e, -, he⟩ | ⟨u, t', hu, hrest⟩
  · cases he
  · obtain ⟨_, -, rfl⟩ := yields_newUuid.mp hu
    obtain ⟨t, hinsert, hs⟩ := yields_withWork.mp (yields_withConn.mp hrest)
    obtain ⟨v, v', x, xs, c, hrun, hsame, hq, hc, hr, rfl⟩ := yields_insertRow_ok hok hinsert
    cases hs
    obtain ⟨row, hmem, hrow⟩ := run_insertCharging hrun
    rw [funext (placeholder_chargeParams _ _)] at hrow
    have hid : uuidIn (uuidOut u) = some row.id := asUuid_text (chargingRow_ok hrow).id
    rw [selectCharging_eq (hsame.2.2.2.2.mem_iff.mp hmem) hid] at hq
    cases hq
    cases hc
    exact ⟨u, x, hmem, hrow, hr⟩

/-- And so does `UpdateCharging`. -/
theorem updateCharging_ok {req : UpdateChargingRequest} (hok : r.1.ok = true)
    (h : Serves db (updateCharging md req) r db') :
    (validateCharging req.view).ok = true ∧ ∃ row ∈ db'.charging,
      chargingRow (chargingColumn req.id req.toCreateChargingRequest) = .ok row ∧
        r = (.OK, some (rowToCharging row)) := by
  obtain ⟨hvalid, ps, hbody⟩ := serves_catching_ok hok h
  refine ⟨hvalid, ?_⟩
  obtain ⟨v, x, xs, c, hrun, hc, hr, hs⟩ := yields_updateRow_ok rfl hok hbody
  cases hs
  cases hc
  obtain ⟨hmem, hrow⟩ := run_updateCharging hrun
  rw [funext (placeholder_updateParams _)] at hrow
  exact ⟨x, hmem, hrow, hr⟩

/-- `GetCharging` answers with the record of the row that has the id. -/
theorem replies_getCharging {row : ChargingRow} {id : String} (h : row ∈ db.charging)
    (hid : uuidIn id = some row.id) :
    Replies db (getCharging md ⟨id⟩) (· = (.OK, some (rowToCharging row))) := by
  refine replies_getRow fun v hv => ?_
  rw [selectCharging_eq (hv.2.2.2.2.mem_iff.mp h) hid]
  rfl

end Charging

end EvGrpc
