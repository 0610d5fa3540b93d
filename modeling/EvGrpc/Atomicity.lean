import EvGrpc.Rpc.Interference
import EvGrpc.Shapes

/-!
# All or nothing

A mutating RPC other than `CreateVehicle` commits as the last thing before its reply, so a
call that is refused, or fails at any point, has not touched the database, and a call that
succeeds has changed the row it was asked to change and nothing else.

The call runs alone, and everything that can fail may fail at any time.
-/

namespace EvGrpc

open Lib

/-! ## The row a request is about -/

/-- The tables of the schema. -/
inductive Table
  | vehicle
  | weather
  | sourceCategory
  | consumption
  | charging
  deriving DecidableEq

/-- The table an RPC writes to. -/
def Request.table : Request → Option Table
  | .createVehicle _ | .updateVehicle _ | .deleteVehicle _ => some .vehicle
  | .createWeather _ => some .weather
  | .createSourceCategory _ => some .sourceCategory
  | .createConsumption _ | .updateConsumption _ | .deleteConsumption _ => some .consumption
  | .createCharging _ | .updateCharging _ | .deleteCharging _ => some .charging
  | _ => none

/-- The id of the row an RPC writes to: the one it names, or the one it drew. -/
def Request.target (ids : List Uuid) : Request → Option Uuid
  | .createVehicle _ | .createWeather _ | .createSourceCategory _ | .createConsumption _
  | .createCharging _ => ids.head?
  | .updateVehicle r => uuidIn r.id
  | .deleteVehicle r => uuidIn r.id
  | .updateConsumption r => uuidIn r.id
  | .deleteConsumption r => uuidIn r.id
  | .updateCharging r => uuidIn r.id
  | .deleteCharging r => uuidIn r.id
  | _ => none

/-- The two databases differ at most in the row of this table with this id. -/
structure ChangedOnly (T : Option Table) (id : Option Uuid) (a b : Database) : Prop where
  vehicle : ∀ r, ¬ (T = some .vehicle ∧ id = some r.id) → (r ∈ b.vehicle ↔ r ∈ a.vehicle)
  weather : ∀ r, ¬ (T = some .weather ∧ id = some r.id) → (r ∈ b.weather ↔ r ∈ a.weather)
  sourceCategory : ∀ r, ¬ (T = some .sourceCategory ∧ id = some r.id) →
    (r ∈ b.sourceCategory ↔ r ∈ a.sourceCategory)
  consumption : ∀ r, ¬ (T = some .consumption ∧ id = some r.id) →
    (r ∈ b.consumption ↔ r ∈ a.consumption)
  charging : ∀ r, ¬ (T = some .charging ∧ id = some r.id) → (r ∈ b.charging ↔ r ∈ a.charging)

section ChangedOnly
variable {T : Option Table} {id : Option Uuid} {a b c : Database}

theorem ChangedOnly.refl (T : Option Table) (id : Option Uuid) (a : Database) :
    ChangedOnly T id a a :=
  ⟨fun _ _ => .rfl, fun _ _ => .rfl, fun _ _ => .rfl, fun _ _ => .rfl, fun _ _ => .rfl⟩

theorem ChangedOnly.trans (hab : ChangedOnly T id a b) (hbc : ChangedOnly T id b c) :
    ChangedOnly T id a c where
  vehicle r hr := (hbc.vehicle r hr).trans (hab.vehicle r hr)
  weather r hr := (hbc.weather r hr).trans (hab.weather r hr)
  sourceCategory r hr := (hbc.sourceCategory r hr).trans (hab.sourceCategory r hr)
  consumption r hr := (hbc.consumption r hr).trans (hab.consumption r hr)
  charging r hr := (hbc.charging r hr).trans (hab.charging r hr)

end ChangedOnly

/-! ## Statements -/

/-- The table a statement writes to. -/
def Write.table : {ρ : Type} → Write ρ → Table
  | _, .insertVehicle _ | _, .updateVehicle _ | _, .deleteVehicle _ => .vehicle
  | _, .insertWeather _ => .weather
  | _, .insertSourceCategory _ => .sourceCategory
  | _, .insertConsumption _ | _, .updateConsumption _ | _, .deleteConsumption _ => .consumption
  | _, .insertCharging _ | _, .updateCharging _ | _, .deleteCharging _ => .charging

/-- The parameter that names the row a statement writes to. -/
def Write.idParam : {ρ : Type} → Write ρ → Param
  | _, .updateCharging p => placeholder p (chargingUpdate .id)
  | _, .insertVehicle p | _, .updateVehicle p | _, .deleteVehicle p | _, .insertWeather p
  | _, .insertSourceCategory p | _, .insertConsumption p | _, .updateConsumption p
  | _, .deleteConsumption p | _, .insertCharging p | _, .deleteCharging p => placeholder p 1

section Statements
variable {db db' : Database} {ρ : Type} {w : Write ρ}

theorem idOf_ok {p : Param} {u : Uuid} (h : idOf p = .ok u) : p.asUuid = .ok (some u) := by
  obtain ⟨id, hid, h⟩ := bind_eq_ok.mp h
  rw [hid, notNull_eq_ok.mp h]

/-- A row that is not the one in question has another id. -/
theorem id_ne_of_not {T : Table} {u v : Uuid}
    (h : ¬ (some T = some T ∧ some u = some v)) : v ≠ u :=
  fun e => h ⟨rfl, by rw [e]⟩

/-- A statement changes at most the row it names. -/
theorem Effect.changedOnly (h : Effect db w db') :
    db' = db ∨ ∃ u, w.idParam.asUuid = .ok (some u) ∧ ChangedOnly (some w.table) (some u) db db' := by
  have same := fun T id => ChangedOnly.refl T id db
  cases h with
  | none => exact .inl rfl
  | insertVehicle hr =>
      exact .inr ⟨_, (vehicleRow_ok hr).id, { same _ _ with
        vehicle := fun _ hx => mem_cons_of_key_ne VehicleRow.id (id_ne_of_not hx) }⟩
  | updateVehicle hr =>
      exact .inr ⟨_, (vehicleRow_ok hr).id, { same _ _ with
        vehicle := fun _ hx => mem_replaceBy_of_key_ne (id_ne_of_not hx) }⟩
  | deleteVehicle hid =>
      exact .inr ⟨_, idOf_ok hid, { same _ _ with
        vehicle := fun _ hx => mem_deleteBy_of_key_ne (id_ne_of_not hx) }⟩
  | insertWeather hr =>
      exact .inr ⟨_, (lookupRow_ok hr).1, { same _ _ with
        weather := fun _ hx => mem_cons_of_key_ne WeatherRow.id (id_ne_of_not hx) }⟩
  | insertSourceCategory hr =>
      exact .inr ⟨_, (lookupRow_ok hr).1, { same _ _ with
        sourceCategory := fun _ hx =>
          mem_cons_of_key_ne SourceCategoryRow.id (id_ne_of_not hx) }⟩
  | insertConsumption hr =>
      exact .inr ⟨_, (consumptionRow_ok hr).id, { same _ _ with
        consumption := fun _ hx => mem_cons_of_key_ne ConsumptionRow.id (id_ne_of_not hx) }⟩
  | updateConsumption hr =>
      exact .inr ⟨_, (consumptionRow_ok hr).id, { same _ _ with
        consumption := fun _ hx => mem_replaceBy_of_key_ne (id_ne_of_not hx) }⟩
  | deleteConsumption hid =>
      exact .inr ⟨_, idOf_ok hid, { same _ _ with
        consumption := fun _ hx => mem_deleteBy_of_key_ne (id_ne_of_not hx) }⟩
  | insertCharging hr =>
      exact .inr ⟨_, (chargingRow_ok hr).id, { same _ _ with
        charging := fun _ hx => mem_cons_of_key_ne ChargingRow.id (id_ne_of_not hx) }⟩
  | updateCharging hr =>
      exact .inr ⟨_, (chargingRow_ok hr).id, { same _ _ with
        charging := fun _ hx => mem_replaceBy_of_key_ne (id_ne_of_not hx) }⟩
  | deleteCharging hid =>
      exact .inr ⟨_, idOf_ok hid, { same _ _ with
        charging := fun _ hx => mem_deleteBy_of_key_ne (id_ne_of_not hx) }⟩

/-- A permitted statement names the request's row. -/
theorem Permitted.target {req : Request} {ids : List Uuid} (h : Permitted req ids w)
    (hlen : ids.length ≤ 1) : req.table = some w.table ∧
      ∀ u, w.idParam.asUuid = .ok (some u) → req.target ids = some u := by
  -- The id drawn is the only one there is.
  have hdrawn : ∀ u v, u ∈ ids → (Param.text (uuidOut u)).asUuid = .ok (some v) →
      ids.head? = some v := by
    intro u v hu hv
    rw [asUuid_uuidOut] at hv
    cases hv
    obtain ⟨x, rfl⟩ : ∃ x, ids = [x] :=
      List.length_eq_one_iff.mp (le_antisymm hlen (List.length_pos_of_mem hu))
    rw [List.mem_singleton.mp hu]
    rfl
  cases h with
  | createVehicle hu | createWeather hu | createSourceCategory hu | createConsumption hu
  | createCharging hu => exact ⟨rfl, fun v hv => hdrawn _ v hu hv⟩
  | _ => exact ⟨rfl, fun v hv => asUuid_text hv⟩

end Statements

/-! ## A call alone -/

/-- Nobody else is there, and anything may fail. -/
def alone : Surroundings machine Local.view where
  Rely _ w w' := w' = w
  Ok _ _ _ _ _ := True
  refl _ _ := rfl

theorem alone_stable (P : View → Prop) : alone.Stable P := by
  rintro t w w' hx rfl
  exact hx

/-- The database is as it was, and the open transaction holds statements of the request. -/
structure Unchanged (req : Request) (db : Database) (ids : List Uuid) (x : View) : Prop where
  db : x.db = db
  drawn : x.ids = ids
  pending : ∀ p ∈ x.pending, Permitted req ids p.stmt

/-- The database is as it was, or the reply is OK and the request's row has changed. -/
def Settled (req : Request) (db : Database) {ρ : Type} (r : Reply ρ) (x : View) : Prop :=
  x.db = db ∨ (r.1 = .OK ∧ ChangedOnly req.table (req.target x.ids) db x.db)

/-- What a transaction of permitted statements does. -/
theorem replay_changedOnly {req : Request} {ids : List Uuid} {ps : List Pending}
    {db db' : Database} (hlen : ids.length ≤ 1) (hps : ∀ p ∈ ps, Permitted req ids p.stmt)
    (h : replay db ps = some db') : ChangedOnly req.table (req.target ids) db db' := by
  refine replay_invariant (I := ChangedOnly req.table (req.target ids) db) ?_ h (.refl ..)
  intro p hp a b ha heff
  obtain ⟨htable, htarget⟩ := (hps p hp).target hlen
  rcases heff.changedOnly with rfl | ⟨u, hu, hb⟩
  · exact ha
  · rw [← htable, ← htarget u hu] at hb
    exact ha.trans hb

section Triples
variable {req : Request} {db : Database} {ids : List Uuid} {α ρ : Type}

/-- Plain code leaves everything as it is. -/
theorem Plain.unchanged {m : Rpc α} (h : Plain m) :
    alone.Triple (Unchanged req db ids) m.run fun _ => Unchanged req db ids := by
  induction h with
  | pure a => exact triple_run_pure (alone_stable _) fun _ hx => hx
  | exec q =>
      refine triple_op (alone_stable _) (fun _ => alone_stable _) ?_
      rintro c w t b y hx - (⟨e, -, rfl, -⟩ | ⟨v, v', -, -, -, rfl⟩)
      · exact hx
      · exact ⟨hx.db, hx.drawn, hx.pending⟩
  | convert r =>
      refine triple_op (alone_stable _) (fun _ => alone_stable _) ?_
      rintro c w t b y hx - (⟨e, -, rfl, -⟩ | ⟨-, rfl⟩)
      · exact hx
      · exact hx
  | addInt a b => exact triple_addInt (alone_stable _)
  | bind _ _ ihm ihf =>
      exact triple_run_bind ihm (fun _ => ⟨alone_stable _, fun _ hx => hx⟩) ihf

theorem execWrite_unchanged {w : Write α} (hw : Permitted req ids w) :
    alone.Triple (Unchanged req db ids) (execWrite w).run fun _ => Unchanged req db ids := by
  refine triple_op (alone_stable _) (fun _ => alone_stable _) ?_
  rintro c world t b y hx - (⟨e, -, rfl⟩ | ⟨r, v, v', -, -, -, rfl⟩)
  · exact hx
  · refine ⟨hx.db, hx.drawn, fun p hp => ?_⟩
    rcases List.mem_append.mp hp with hp | hp
    · exact hx.pending p hp
    · rw [List.mem_singleton.mp hp]
      exact hw

/-- The identifier drawn is the only one. -/
theorem newUuid_unchanged :
    alone.Triple (Unchanged req db []) newUuid.run fun r x =>
      match r with
      | .ok u => Unchanged req db [u] x
      | .error _ => False := by
  have hrun : newUuid.run = (Prog.call .newUuid >>= fun u => .done (.ok u)) := rfl
  rw [hrun]
  refine Surroundings.Triple.bind (S := fun u => Unchanged req db [u]) ?_ fun u =>
    Surroundings.triple_done (alone_stable _) fun _ hx => hx
  refine triple_op (alone_stable _) (fun _ => alone_stable _) ?_
  rintro c w t u y hx - ⟨-, rfl⟩
  refine ⟨hx.db, ?_, fun p hp => (hx.pending p hp).mono (List.nil_subset _)⟩
  rw [← hx.drawn]

/-- What a commit leaves behind, before the handler returns its message. -/
def CommitLeaves (req : Request) (db : Database) (resp : ρ) : Except Exn Unit → View → Prop
  | .error _, x => x.db = db
  | .ok (), x => Settled req db (.OK, some resp) x

/-- The commit is what changes the database. -/
theorem commit_settled (hlen : ids.length ≤ 1) (resp : ρ) :
    alone.Triple (Unchanged req db ids) (commit >>= fun _ => pure (.OK, some resp) : Rpc (Reply ρ)).run
      fun r => Settled req db (settle r) := by
  have hcommit : alone.Triple (Unchanged req db ids) commit.run (CommitLeaves req db resp) := by
    refine triple_op (alone_stable _) (fun _ => alone_stable _) ?_
    rintro c w t b y hx - (⟨e, rfl, rfl⟩ | ⟨v, hreplay, rfl, rfl⟩)
    · exact hx.db
    · refine .inr ⟨rfl, ?_⟩
      rw [hx.db] at hreplay
      have := replay_changedOnly hlen hx.pending hreplay
      rwa [← hx.drawn] at this
  refine triple_run_bind hcommit (fun e => ⟨alone_stable _, fun x hx => .inl hx⟩) fun _ => ?_
  exact triple_run_pure (alone_stable _) fun _ hx => hx

/-- A `try` block that ends without its commit has changed nothing. -/
theorem Body.settled {b : Rpc (Reply ρ)} (h : Body req ids b) (hlen : ids.length ≤ 1) :
    alone.Triple (Unchanged req db ids) b.run fun r => Settled req db (settle r) := by
  induction h with
  | fail s => exact triple_fail (alone_stable _) fun x hx => .inl hx.db
  | reply resp => exact triple_run_pure (alone_stable _) fun x hx => .inl hx.db
  | commit resp => exact commit_settled hlen resp
  | plain hm _ ih =>
      exact triple_run_bind hm.unchanged
        (fun _ => ⟨alone_stable _, fun x hx => .inl hx.db⟩) fun a => ih a hlen
  | write hw _ ih =>
      exact triple_run_bind (execWrite_unchanged hw)
        (fun _ => ⟨alone_stable _, fun x hx => .inl hx.db⟩) fun a => ih a hlen
  | newUuid _ ih =>
      exact triple_run_bind newUuid_unchanged (fun _ => ⟨alone_stable _, fun _ hx => hx.elim⟩)
        fun u => ih u (by simp)
  | withConn _ ih => exact triple_withConn (alone_stable _) (fun _ => alone_stable _) (ih hlen)
  | withWork _ ih =>
      refine triple_withWork (alone_stable _) (alone_stable _) (fun _ => alone_stable _) ?_
        (fun e x hx => .inl hx.db) (fun r x hx => hx) (ih hlen)
      exact fun x hx => ⟨hx.db, hx.drawn, by simp⟩

theorem Handler.settled {p : Prog Op (Reply ρ)} (h : Handler req p) :
    alone.Triple (Unchanged req db []) p (Settled req db) := by
  induction h with
  | catching hb => exact triple_catching (fun _ => alone_stable _) (hb.settled (by simp))
  | validated s _ ih =>
      exact triple_validated ih (fun _ x hx => .inl hx.db) (alone_stable _)

/-- A call that is refused at the door has changed nothing either. -/
theorem handle_settled (call : Call) (h : call.req.nests = false) :
    alone.Triple (Unchanged call.req db []) (handle call) (Settled call.req db) := by
  obtain ⟨ρ, f, kMethod, b, hb, he⟩ := handle_shape call h
  rw [he]
  refine Surroundings.Triple.bind (S := fun r => Settled call.req db r) ?_ fun r =>
    Surroundings.triple_done (alone_stable _) fun x hx => hx
  refine triple_authenticated (alone_stable _) (fun _ => alone_stable _) ?_ hb.settled
  intro c w t message reason hx _ _
  exact .inl hx.db

end Triples

/-- **Failed writes leave no trace.**  A call other than `CreateVehicle`, alone on the
machine, whatever fails: if its reply is not OK the database is what it was, and if it is
OK, nothing but the row the request is about has changed. -/
theorem failed_write_leaves_no_trace (call : Call) (hcall : call.req.nests = false)
    {w w' : World} {t : Local} {reply : Reply Response}
    (h : (handle call).Yields machine.Steps (w, .fresh) reply (w', t)) :
    (reply.1.ok = false → w'.db = w.db) ∧
      (reply.1.ok = true → ChangedOnly call.req.table (call.req.target t.ids) w.db w'.db) := by
  have hstart : Unchanged call.req w.db [] (Local.fresh.view w) :=
    ⟨rfl, rfl, by simp [Local.view, Local.fresh]⟩
  have hsettled := (handle_settled call hcall Local.fresh w hstart).yields alone.refl h
  rcases hsettled with hdb | ⟨hok, hchanged⟩
  · refine ⟨fun _ => hdb, fun _ => ?_⟩
    change w'.db = w.db at hdb
    rw [hdb]
    exact .refl ..
  · refine ⟨fun hfail => ?_, fun _ => hchanged⟩
    rw [hok] at hfail
    cases hfail

/-- All goes well but for the seventh step. -/
def seventhFails : List Choice :=
  List.replicate 6 ({} : Choice) ++
    { fault := some ⟨.sqlError, "connection lost"⟩ } :: List.replicate 4 ({} : Choice)

/-- `CreateWeather` on the empty database: its commit fails, or all goes well. -/
theorem failed_write_leaves_no_trace_weather :
    (∃ reply s, (handle ⟨[], .createWeather ⟨"sunny"⟩⟩).Yields machine.Steps
        (World.start .empty 1 [], .fresh) reply s ∧ reply.1.ok = false ∧
      s.1.db = (World.start .empty 1 []).db) ∧
    ∃ reply s, (handle ⟨[], .createWeather ⟨"sunny"⟩⟩).Yields machine.Steps
        (World.start .empty 1 [], .fresh) reply s ∧ reply.1.ok = true ∧ s.1.db.weather ≠ [] ∧
      ChangedOnly (some .weather) s.2.ids.head? .empty s.1.db := by
  have hfail : ∃ reply s, (handle ⟨[], .createWeather ⟨"sunny"⟩⟩).Yields machine.Steps
      (World.start .empty 1 [], .fresh) reply s ∧ reply.1.ok = false :=
    Machine.exists_yields seventhFails (by decide +kernel)
  have hok : ∃ reply s, (handle ⟨[], .createWeather ⟨"sunny"⟩⟩).Yields machine.Steps
      (World.start .empty 1 [], .fresh) reply s ∧ reply.1.ok = true ∧ s.1.db.weather ≠ [] :=
    Machine.exists_yields (List.replicate 10 {}) (by decide +kernel)
  refine ⟨?_, ?_⟩
  · obtain ⟨reply, s, h, hreply⟩ := hfail
    exact ⟨reply, s, h, hreply, (failed_write_leaves_no_trace _ rfl h).1 hreply⟩
  · obtain ⟨reply, s, h, hreply, hrow⟩ := hok
    exact ⟨reply, s, h, hreply, hrow, (failed_write_leaves_no_trace _ rfl h).2 hreply⟩

end EvGrpc
