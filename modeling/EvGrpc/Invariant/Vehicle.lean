import EvGrpc.Discipline
import EvGrpc.Rpc.Interference

/-!
# What `CreateVehicle` leaves behind

`CreateVehicle` commits its row and then calls `GetVehicle` for the response.  If that call
fails, the client gets an error and the row stays; if another client updates the row in
between, the response is not the row that was inserted.

`Server.Undisturbed` are the runs in which neither happens: while its row is in the
table, a call that has committed is not rejected and its read does not fail, and before it
has read the row nobody commits an update that changes it.  In these runs a call is all or
nothing (`create_vehicle_all_or_nothing`); a row that is deleted before the read is no
harm.
-/

namespace EvGrpc

open Lib

/-! ## Rows -/

/-- The row a request inserts under an identifier. -/
def CreateVehicleRequest.row (req : CreateVehicleRequest) (u : Uuid) : Except Exn VehicleRow :=
  vehicleRow fun c => placeholder (req.params u) (vehicleColumns c)

/-- The row a request writes over the one with its id. -/
def UpdateVehicleRequest.row (req : UpdateVehicleRequest) : Except Exn VehicleRow :=
  vehicleRow fun c => placeholder req.params (vehicleColumns c)

/-- The inserted row has the identifier that was drawn. -/
theorem CreateVehicleRequest.row_id {req : CreateVehicleRequest} {u : Uuid} {r : VehicleRow}
    (h : req.row u = .ok r) : r.id = u := by
  have hid : (Param.text (uuidOut u)).asUuid = .ok (some r.id) := (vehicleRow_ok h).id
  simpa [Param.asUuid] using hid.symm

/-- A vehicle in the table after a statement was there before, or was inserted under an
identifier of the call, or is the new version of a vehicle that was there. -/
theorem Permitted.vehicle_cases {req : Request} {ids : List Uuid} {ρ : Type} {w : Write ρ}
    {db db' : Database} (h : Permitted req ids w) (heff : Effect db w db') {x : VehicleRow}
    (hx : x ∈ db'.vehicle) :
    x ∈ db.vehicle ∨ (∃ r, ∃ u ∈ ids, req = .createVehicle r ∧ r.row u = .ok x) ∨
      ∃ r, req = .updateVehicle r ∧ r.row = .ok x ∧ ∃ y ∈ db.vehicle, y.id = x.id := by
  rcases heff.vehicle_cases hx with hx | ⟨p, hp, hr⟩ | ⟨p, hp, hr, hold⟩
  · exact .inl hx
  · cases h with
    | createVehicle hu =>
        cases hp
        exact .inr (.inl ⟨_, _, hu, rfl, hr⟩)
    | _ => cases hp
  · cases h with
    | updateVehicle =>
        cases hp
        exact .inr (.inr ⟨_, rfl, hr, hold⟩)
    | _ => cases hp

/-! ## The promise -/

/-- If the call failed, none of its rows is in the table; if it succeeded, it committed, and
the response is the row it inserted. -/
structure AllOrNothing (req : CreateVehicleRequest) (reply : Reply Response) (db : Database)
    (ids : List Uuid) (committed : Bool) : Prop where
  nothing : reply.1.ok = false → ∀ v ∈ db.vehicle, v.id ∉ ids
  all : reply.1.ok = true → committed = true ∧ ∃ u ∈ ids, ∃ row, req.row u = .ok row ∧
    reply.2 = some (.vehicle (vehicleMessage row))

/-- The operation fails for reasons outside the server. -/
def Op.mishap {β : Type} (o : Op β) (c : Choice) : Bool :=
  match o with
  | .auth _ _ =>
      match c.verdict with
      | .accepted _ _ => false
      | .rejected _ _ => true
  | .query _ | .convert _ => c.fault.isSome
  | _ => false

/-- The next operation of a handler fails so. -/
def mishap {α : Type} (p : Prog Op α) (c : Choice) : Bool :=
  match p with
  | .op o _ => o.mishap c
  | .done _ => false

/-- The handler is about to commit. -/
def atCommit {α : Type} : Prog Op α → Bool
  | .op .commit _ => true
  | _ => false

/-- An update a request asks for. -/
def Request.vehicleUpdate? : Request → Option UpdateVehicleRequest
  | .updateVehicle r => some r
  | _ => none

/-- The update leaves this row as it is. -/
def UpdateVehicleRequest.keeps (r : UpdateVehicleRequest) (v : VehicleRow) : Bool :=
  match r.row with
  | .ok row => decide (row.id = v.id → row = v)
  | .error _ => true

/-- A row of the call is in the table. -/
def Local.Present (t : Local) (db : Database) : Prop := ∃ v ∈ db.vehicle, v.id ∈ t.ids

instance (t : Local) (db : Database) : Decidable (t.Present db) :=
  inferInstanceAs (Decidable (∃ v ∈ db.vehicle, v.id ∈ t.ids))

/-- A step of the call `x` does not come between the two halves of a `CreateVehicle`: when
`x` has committed and its row is in the table, it is not rejected and does not fail to
read, and `x` does not commit an update that changes a row whose call has committed and has
not read it yet. -/
def Server.LeavesAlone (s : Server) (x : Task Op Call Local (Reply Response)) (c : Choice) : Prop :=
  (x.loc.committed = true → x.loc.Present s.world.db → mishap x.prog c = false) ∧
    (atCommit x.prog = true → ∀ r ∈ x.req.req.vehicleUpdate?, ∀ y ∈ s.tasks,
      y.loc.committed = true → y.loc.hasRead = false → ∀ v ∈ s.world.db.vehicle,
        v.id ∈ y.loc.ids → r.keeps v = true)

instance (s : Server) (x : Task Op Call Local (Reply Response)) (c : Choice) :
    Decidable (s.LeavesAlone x c) :=
  inferInstanceAs (Decidable (_ ∧ _))

/-- All steps do so. -/
def Server.Undisturbed (s : Server) : ServerAction → Prop
  | .spawn _ => True
  | .step i c =>
      match s.tasks[i]? with
      | some x => s.LeavesAlone x c
      | none => True

instance (s : Server) (a : ServerAction) : Decidable (s.Undisturbed a) :=
  match a with
  | .spawn _ => inferInstanceAs (Decidable True)
  | .step i c =>
      match h : s.tasks[i]? with
      | some x => decidable_of_iff (s.LeavesAlone x c) (by simp [Server.Undisturbed, h])
      | none => isTrue (by simp [Server.Undisturbed, h])

/-! ## One call among others -/

/-- What a call puts up with: rows with its identifiers do not appear, and between its
commit and its read they do not change either. -/
def Tolerates (t : Local) (w w' : World) : Prop :=
  (∀ v ∈ w'.db.vehicle, v.id ∈ t.ids → ∃ v' ∈ w.db.vehicle, v'.id = v.id) ∧
    (t.committed = true → t.hasRead = false → ∀ v ∈ w'.db.vehicle, v.id ∈ t.ids → v ∈ w.db.vehicle)

/-- The surroundings of a call in an undisturbed run. -/
def undisturbed : Surroundings machine Local.view where
  Rely := Tolerates
  Ok := fun _ o c w t => (∀ v ∈ w.db.vehicle, v.id ∈ w.issued) ∧
    (t.committed = true → t.Present w.db → o.mishap c = false)
  refl := fun _ _ => ⟨fun v hv _ => ⟨v, hv, rfl⟩, fun _ _ _ hv _ => hv⟩

/-- No row of the call is in the table. -/
def View.Absent (x : View) : Prop := ∀ v ∈ x.db.vehicle, v.id ∉ x.ids

theorem stable_absent : undisturbed.Stable View.Absent := by
  intro t w w' hx hrely v hv hid
  obtain ⟨v', hv', he⟩ := hrely.1 v hv hid
  exact hx v' hv' (he ▸ hid)

section Create
variable {req : CreateVehicleRequest} {u : Uuid} {md : Metadata}

/-- Nothing was drawn and nothing was read. -/
def View.Untouched (x : View) : Prop := x.ids = [] ∧ x.hasRead = false

/-- An identifier was drawn that no row has. -/
def View.Drawn (u : Uuid) (x : View) : Prop := x.ids = [u] ∧ x.hasRead = false ∧ x.Absent

/-- The row was sent. -/
def View.Sent (req : CreateVehicleRequest) (u : Uuid) (x : View) : Prop :=
  x.Drawn u ∧ x.pending = [⟨.insertVehicle (req.params u), ()⟩]

/-- The row was committed: it is in the table as it was inserted, or not any more. -/
structure View.Inserted (req : CreateVehicleRequest) (u : Uuid) (x : View) : Prop where
  ids : x.ids = [u]
  hasRead : x.hasRead = false
  committed : x.committed = true
  pending : x.pending = []
  row : ∃ row, req.row u = .ok row ∧ ∀ v ∈ x.db.vehicle, v.id = u → v = row

/-- The row `r` was read, and it is the one that was inserted. -/
structure View.ReadBack (req : CreateVehicleRequest) (r : VehicleRow) (x : View) : Prop where
  committed : x.committed = true
  row : ∃ u ∈ x.ids, req.row u = .ok r

/-- The promise, kept by the reply. -/
def View.Keeps (req : CreateVehicleRequest) (reply : Reply Vehicle) (x : View) : Prop :=
  AllOrNothing req (Reply.wrap .vehicle reply) x.db x.ids x.committed

theorem View.Absent.keeps {x : View} (h : x.Absent) {st : Status} (hst : st.ok = false) :
    x.Keeps req (st, none) :=
  ⟨fun _ => h, fun hok => by rw [Reply.wrap, hst] at hok; cases hok⟩

theorem stable_untouched : undisturbed.Stable View.Untouched :=
  fun _ _ _ hx _ => hx

theorem stable_drawn : undisturbed.Stable (View.Drawn u) :=
  fun t w w' hx hrely => ⟨hx.1, hx.2.1, stable_absent t w w' hx.2.2 hrely⟩

theorem stable_sent : undisturbed.Stable (View.Sent req u) :=
  fun t w w' hx hrely => ⟨stable_drawn t w w' hx.1 hrely, hx.2⟩

theorem stable_inserted : undisturbed.Stable (View.Inserted req u) := by
  intro t w w' hx hrely
  obtain ⟨row, hrow, hkeep⟩ := hx.row
  refine ⟨hx.ids, hx.hasRead, hx.committed, hx.pending, row, hrow, ?_⟩
  intro v hv hid
  have hmem : v.id ∈ t.ids := by
    have hids : t.ids = [u] := hx.ids
    rw [hids, hid]
    exact List.mem_singleton_self u
  exact hkeep v (hrely.2 hx.committed hx.hasRead v hv hmem) hid

theorem stable_readBack {r : VehicleRow} : undisturbed.Stable (View.ReadBack req r) :=
  fun _ _ _ hx _ => ⟨hx.committed, hx.row⟩

theorem stable_keeps (reply : Reply Vehicle) : undisturbed.Stable (View.Keeps req reply) :=
  fun t w w' hx hrely =>
    ⟨fun hok => stable_absent t w w' (hx.nothing hok) hrely, hx.all⟩

/-- When the surroundings fail a call that has committed, its row is gone. -/
theorem absent_of_mishap {β : Type} {o : Op β} {c : Choice} {w : World} {t : Local}
    (hok : undisturbed.Ok β o c w t) (hcommitted : t.committed = true) (h : o.mishap c = true) :
    (t.view w).Absent := by
  intro v hv hid
  rw [hok.2 hcommitted ⟨v, hv, hid⟩] at h
  cases h

/-- The read: an error or an empty result means that the row is gone. -/
theorem triple_select :
    undisturbed.Triple (View.Inserted req u) (exec (selectVehicle (uuidOut u))).run
      fun result x =>
        match result with
        | .error _ | .ok [] => x.Absent
        | .ok (r :: _) => x.ReadBack req r := by
  refine triple_op (o := .query (selectVehicle (uuidOut u))) stable_inserted ?_ ?_
  · intro result
    match result with
    | .error _ => exact stable_absent
    | .ok [] => exact stable_absent
    | .ok (r :: _) => exact stable_readBack
  · intro c w t result y hx hok heff
    have hids : t.ids = [u] := hx.ids
    have hpending : replay w.db t.pending = some w.db := by
      have : t.pending = [] := hx.pending
      rw [this, replay_nil]
    rcases heff with ⟨e, rfl, rfl, hfault | hreplay⟩ | ⟨v, v', hv, hsame, rfl, rfl⟩
    · exact absent_of_mishap hok hx.committed hfault
    · exact absurd (hpending.symm.trans hreplay) (by simp)
    · cases hpending.symm.trans hv
      have hresult : selectVehicle (uuidOut u) v' = .ok (v'.vehicle.filter fun r => some u = some r.id) := by
        simp [selectVehicle, Param.asUuid, bind, Except.bind, pure, Except.pure]
      rw [hresult]
      cases hrows : v'.vehicle.filter fun r => decide (some u = some r.id) with
      | nil =>
          intro r hr hid
          have hid : r.id = u := by
            rw [show (t.view w).ids = [u] from hids] at hid
            exact List.mem_singleton.mp hid
          have hmem : r ∈ v'.vehicle := hsame.1.mem_iff.mp hr
          have hfilter : r ∈ v'.vehicle.filter fun r => decide (some u = some r.id) :=
            List.mem_filter.mpr ⟨hmem, by simp [hid]⟩
          rw [hrows] at hfilter
          cases hfilter
      | cons r rest =>
          have hmem : r ∈ v'.vehicle.filter fun r => decide (some u = some r.id) := by
            rw [hrows]
            exact List.mem_cons_self
          obtain ⟨hr, hid⟩ := List.mem_filter.mp hmem
          simp only [Option.some.injEq, decide_eq_true_eq] at hid
          obtain ⟨row, hrow, hkeep⟩ := hx.row
          have hsame' : r = row := hkeep r (hsame.1.mem_iff.mpr hr) hid.symm
          exact ⟨hx.committed, u, by rw [show (t.view w).ids = [u] from hids]; simp, hsame' ▸ hrow⟩

/-- The row is converted, or it is gone. -/
theorem triple_convertRow {r : VehicleRow} :
    undisturbed.Triple (View.ReadBack req r) (convert (rowToVehicle r)).run fun m x =>
      match m with
      | .error _ => x.Absent
      | .ok m => m = vehicleMessage r ∧ x.ReadBack req r := by
  refine triple_op (o := .convert (rowToVehicle r)) stable_readBack ?_ ?_
  · intro m
    cases m with
    | error e => exact stable_absent
    | ok m => exact fun t w w' hx hrely => ⟨hx.1, stable_readBack t w w' hx.2 hrely⟩
  · intro c w t m y hx hok heff
    rcases heff with ⟨e, rfl, rfl, hfault⟩ | ⟨rfl, rfl⟩
    · exact absent_of_mishap hok hx.committed hfault
    · rw [rowToVehicle_eq]
      exact ⟨rfl, hx⟩

/-- The second half: what `GetVehicle` answers keeps the promise. -/
theorem triple_getVehicle :
    undisturbed.Triple (View.Inserted req u) (getVehicle md ⟨uuidOut u⟩) (View.Keeps req) := by
  refine triple_authenticated stable_inserted stable_keeps ?_ ?_
  · intro c w t message reason hx hok hverdict
    refine (absent_of_mishap hok hx.committed ?_).keeps rfl
    simp [Op.mishap, hverdict]
  · refine triple_catching stable_keeps ?_
    refine triple_withConn stable_inserted (fun r => stable_keeps _) ?_
    refine triple_run_bind triple_select ?_ ?_
    · intro e
      exact ⟨stable_absent, fun x hx => hx.keeps (ok_toGrpcStatus e)⟩
    · intro rows
      cases rows with
      | nil => exact triple_fail stable_absent fun x hx => hx.keeps rfl
      | cons r rest =>
          refine triple_run_bind triple_convertRow ?_ ?_
          · intro e
            exact ⟨stable_absent, fun x hx => hx.keeps (ok_toGrpcStatus e)⟩
          · intro m
            refine triple_run_pure ?_ ?_
            · exact fun t w w' hx hrely => ⟨hx.1, stable_readBack t w w' hx.2 hrely⟩
            · rintro x ⟨rfl, hx⟩
              obtain ⟨u, hu, hrow⟩ := hx.row
              exact ⟨fun h => (by cases h), fun _ => ⟨hx.committed, u, hu, r, hrow, rfl⟩⟩

/-- The insert: the statement is pending, or nothing has happened. -/
theorem triple_insert :
    undisturbed.Triple (fun x => x.Drawn u ∧ x.pending = [])
      (execWrite (.insertVehicle (req.params u))).run fun r x =>
        match r with
        | .error _ => x.Absent
        | .ok () => x.Sent req u := by
  refine triple_op (o := .write (.insertVehicle (req.params u))) ?_ ?_ ?_
  · exact fun t w w' hx hrely => ⟨stable_drawn t w w' hx.1 hrely, hx.2⟩
  · intro r
    cases r with
    | error e => exact stable_absent
    | ok => exact stable_sent
  · intro c w t r y hx _ heff
    rcases heff with ⟨e, rfl, rfl⟩ | ⟨r, v, v', -, -, rfl, rfl⟩
    · exact hx.1.2.2
    · refine ⟨hx.1, ?_⟩
      have hpending : t.pending = [] := hx.2
      simp [Local.view, hpending]

/-- The commit: the row is in the table, or nothing has happened. -/
theorem triple_commit :
    undisturbed.Triple (View.Sent req u) commit.run fun r x =>
      match r with
      | .error _ => x.Absent
      | .ok () => x.Inserted req u := by
  refine triple_op (o := .commit) stable_sent ?_ ?_
  · intro r
    cases r with
    | error e => exact stable_absent
    | ok => exact stable_inserted
  · intro c w t r y hx _ heff
    rcases heff with ⟨e, rfl, rfl⟩ | ⟨v, hreplay, rfl, rfl⟩
    · exact hx.1.2.2
    · have hpending : (t.view w).pending = [⟨.insertVehicle (req.params u), ()⟩] := hx.2
      rw [hpending, replay_cons] at hreplay
      obtain ⟨db₁, hrun, hrest⟩ := hreplay
      cases hrest
      obtain ⟨row, hrow, hins⟩ := bind_eq_ok.mp hrun
      obtain ⟨hid, hplate, rfl⟩ := runInsertVehicle_ok hins
      refine ⟨hx.1.1, hx.1.2.1, rfl, rfl, row, hrow, ?_⟩
      -- No row had the identifier, so the inserted one is the only one that has it.
      intro v hv he
      rcases List.mem_cons.mp hv with rfl | hv
      · rfl
      · have hids : (t.view w).ids = [u] := hx.1.1
        exact absurd (hids ▸ he ▸ List.mem_singleton_self _) (hx.1.2.2 v hv)

theorem triple_newUuid {f : Uuid → Rpc (Reply Vehicle)}
    {Q : Except Exn (Reply Vehicle) → View → Prop}
    (hf : ∀ u, undisturbed.Triple (fun x => x.Drawn u ∧ x.pending = []) (f u).run Q) :
    undisturbed.Triple (fun x => x.Untouched ∧ x.pending = []) (newUuid >>= f).run Q := by
  have hrun : (newUuid >>= f).run = (Prog.call .newUuid >>= fun u => (f u).run) := rfl
  rw [hrun]
  refine Surroundings.Triple.bind (S := fun u x => x.Drawn u ∧ x.pending = []) ?_ hf
  refine triple_op (fun t w w' hx _ => hx) ?_ ?_
  · exact fun u t w w' hx hrely => ⟨stable_drawn t w w' hx.1 hrely, hx.2⟩
  · rintro c w t u y ⟨⟨hids, hread⟩, hpending⟩ hok ⟨hfresh, rfl⟩
    refine ⟨⟨?_, hread, ?_⟩, hpending⟩
    · simp only [hids]
    · intro v hv hid
      simp only [hids, List.mem_singleton] at hid
      exact hfresh (hid ▸ hok.1 v hv)

/-- `CreateVehicle` keeps its promise. -/
theorem triple_createVehicle :
    undisturbed.Triple View.Untouched (createVehicle md req) (View.Keeps req) := by
  have hnothing : ∀ x : View, x.Untouched → x.Absent := by
    rintro x ⟨hids, -⟩ v - hid
    rw [hids] at hid
    cases hid
  refine triple_authenticated stable_untouched stable_keeps ?_ ?_
  · intro c w t message reason hx _ _
    exact (hnothing _ hx).keeps rfl
  · refine triple_catching stable_keeps ?_
    refine triple_withConn stable_untouched (fun r => stable_keeps _) ?_
    refine triple_withWork (S := fun x => x.Untouched ∧ x.pending = []) stable_untouched
      (fun t w w' hx _ => hx) (fun r => stable_keeps _) ?_ ?_ ?_ ?_
    · exact fun x hx => ⟨hx, rfl⟩
    · exact fun e x hx => (hnothing x hx).keeps (ok_toGrpcStatus e)
    · exact fun r x hx => hx
    · refine triple_newUuid fun u => triple_run_bind triple_insert ?_ fun _ => ?_
      · exact fun e => ⟨stable_absent, fun x hx => hx.keeps (ok_toGrpcStatus e)⟩
      refine triple_run_bind triple_commit ?_ fun _ => ?_
      · exact fun e => ⟨stable_absent, fun x hx => hx.keeps (ok_toGrpcStatus e)⟩
      have hread : undisturbed.Triple (View.Inserted req u)
          (callHandler (getVehicle md ⟨uuidOut u⟩)).run fun r x =>
            match r with
            | .error _ => False
            | .ok reply => x.Keeps req reply := by
        refine Surroundings.Triple.bind triple_getVehicle fun reply => ?_
        exact Surroundings.triple_done (stable_keeps reply) fun x hx => hx
      refine triple_run_bind hread ?_ fun reply => ?_
      · exact fun e => ⟨fun _ _ _ hx _ => hx, fun x hx => hx.elim⟩
      · by_cases hok : reply.1.ok = true
        · simp only [hok, Bool.not_true, Bool.false_eq_true, if_false]
          refine triple_run_pure (stable_keeps reply) fun x hx => ?_
          exact ⟨fun h => (by cases h), fun _ => hx.all hok⟩
        · simp only [hok, Bool.not_false, if_true]
          refine triple_fail (stable_keeps reply) fun x hx => ?_
          have hfailed : reply.1.ok = false := by simpa using hok
          exact View.Absent.keeps (hx.nothing hfailed) hfailed

end Create

/-! ## Whole runs -/

section Runs
variable {db : Database} {n : ℕ} {issued : List Uuid} {s : Server}

/-- Every vehicle has an identifier that is on record. -/
theorem vehicle_ids_issued {Ok : Server → ServerAction → Prop} {s₀ : Server}
    (h : Server.Reached Ok s₀ s) (h₀ : s₀.tasks = [])
    (hdb : ∀ v ∈ s₀.world.db.vehicle, v.id ∈ s₀.world.issued) :
    ∀ v ∈ s.world.db.vehicle, v.id ∈ s.world.issued := by
  refine h.rec_invariant_of (I := fun s => Server.Reached Ok s₀ s)
    (J := fun s : Server => ∀ v ∈ s.world.db.vehicle, v.id ∈ s.world.issued) (fun _ h => h) hdb ?_
  intro s a s' hreach hI _ e
  rcases State.act_cases e with ⟨call, -, rfl⟩ | ⟨i, c, call, t, β, o, k, b, w, t', -, hi, hs, rfl⟩
  · exact hI
  · have hmem := List.mem_of_getElem? hi
    have hgrow : s.world.issued ⊆ w.issued := by
      rcases step_ids hs with ⟨hw, -⟩ | ⟨v, -, hw, -⟩
      · exact hw ▸ List.Subset.refl _
      · exact hw ▸ List.subset_cons_self _ _
    rcases step_db hs with hw | ⟨-, hw⟩
    · intro v hv
      exact hgrow (hI v (hw ▸ hv))
    · refine replay_invariant (I := fun db => ∀ v ∈ db.vehicle, v.id ∈ w.issued) ?_ hw
        fun v hv => hgrow (hI v hv)
      intro p hp db db' hdb heff v hv
      have hperm := (hreach.disciplined h₀ _ hmem).pending p hp
      rcases hperm.vehicle_cases heff hv with hv | ⟨r, u, hu, -, hrow⟩ | ⟨r, -, -, y, hy, he⟩
      · exact hdb v hv
      · rw [r.row_id hrow]
        exact hgrow ((hreach.distinctIds h₀).issued _ hmem hu)
      · exact he ▸ hdb y hy

/-- Only a commit changes the rows. -/
theorem db_eq_of_not_atCommit {β α : Type} {o : Op β} {k : β → Prog Op α} {c : Choice}
    {w w' : World} {t t' : Local} {b : β} (h : machine.step o c w t = some (b, w', t'))
    (ho : atCommit (.op o k) = false) : w'.db = w.db := by
  cases o with
  | commit => cases ho
  | _ =>
      simp only [machine] at h
      repeat' split at h
      all_goals cases h
      all_goals rfl

/-- In an undisturbed run the others do only what a call puts up with. -/
theorem tolerates_of_undisturbed {s₀ : Server} (h : Server.Reached Server.Undisturbed s₀ s)
    (h₀ : s₀.tasks = []) {i : ℕ} {c : Choice} {call : Call} {t : Local} {β : Type} {o : Op β}
    {k : β → Prog Op (Reply Response)} {b : β} {w : World} {t' : Local} {j : ℕ}
    {x : Task Op Call Local (Reply Response)} (hadm : s.Undisturbed (.step i c))
    (hi : s.tasks[i]? = some ⟨call, t, .op o k⟩) (hs : machine.step o c s.world t = some (b, w, t'))
    (hij : j ≠ i) (hj : s.tasks[j]? = some x) : Tolerates x.loc s.world w := by
  have hquiet : w.db = s.world.db → Tolerates x.loc s.world w := by
    intro hw
    refine ⟨?_, ?_⟩
    · intro v hv _
      exact ⟨v, hw ▸ hv, rfl⟩
    · intro _ _ v hv _
      exact hw ▸ hv
  rcases step_db hs with hw | ⟨-, hw⟩
  · exact hquiet hw
  by_cases hcommit : atCommit (.op o k) = true
  · have hperm := (h.disciplined h₀ _ (List.mem_of_getElem? hi)).pending
    have hdisjoint := (h.distinctIds h₀).disjoint i j _ x hi hj hij.symm
    refine ⟨?_, ?_⟩
    · refine replay_invariant (I := fun db => ∀ v ∈ db.vehicle, v.id ∈ x.loc.ids →
        ∃ v' ∈ s.world.db.vehicle, v'.id = v.id) ?_ hw fun v hv _ => ⟨v, hv, rfl⟩
      intro p hp db db' hdb heff v hv hid
      rcases (hperm p hp).vehicle_cases heff hv with hv | ⟨r, u, hu, -, hrow⟩ | ⟨r, -, -, y, hy, he⟩
      · exact hdb v hv hid
      · rw [r.row_id hrow] at hid
        exact absurd hid (hdisjoint u hu)
      · obtain ⟨v', hv', he'⟩ := hdb y hy (he ▸ hid)
        exact ⟨v', hv', he'.trans he⟩
    · intro hc hr
      refine replay_invariant (I := fun db => ∀ v ∈ db.vehicle, v.id ∈ x.loc.ids →
        v ∈ s.world.db.vehicle) ?_ hw fun v hv _ => hv
      intro p hp db db' hdb heff v hv hid
      rcases (hperm p hp).vehicle_cases heff hv with
        hv | ⟨r, u, hu, -, hrow⟩ | ⟨r, hreq, hrow, y, hy, he⟩
      · exact hdb v hv hid
      · rw [r.row_id hrow] at hid
        exact absurd hid (hdisjoint u hu)
      · -- An update of the row: it has to leave it as it is.
        have hold := hdb y hy (he ▸ hid)
        have hupdate : r ∈ call.req.vehicleUpdate? := by
          rw [hreq]
          rfl
        have hleaves : s.LeavesAlone ⟨call, t, .op o k⟩ c := by
          simpa only [Server.Undisturbed, hi] using hadm
        have hkeeps := hleaves.2 hcommit r hupdate x (List.mem_of_getElem? hj) hc hr y hold
          (he ▸ hid)
        simp only [UpdateVehicleRequest.keeps, hrow, decide_eq_true_eq] at hkeeps
        exact hkeeps he.symm ▸ hold
  · exact hquiet (db_eq_of_not_atCommit (k := k) hs (by simpa using hcommit))

/-- What a call promises: nothing, unless it creates a vehicle. -/
def CreatePromise (call : Call) (reply : Reply Response) (t : Local) (w : World) : Prop :=
  match call.req with
  | .createVehicle req => AllOrNothing req reply w.db t.ids t.committed
  | _ => True

/-- In a run in which nothing comes between the two halves of a `CreateVehicle`, every
call that has returned was all or nothing, in every state after it. -/
theorem create_vehicle_all_or_nothing
    (h : Server.Reached Server.Undisturbed
      (Server.start db n (db.vehicle.map VehicleRow.id ++ issued)) s) :
    ∀ x ∈ s.tasks, ∀ req reply, x.req.req = .createVehicle req → x.prog = .done reply →
      AllOrNothing req reply s.world.db x.loc.ids x.loc.committed := by
  have hstart : ∀ v ∈ (Server.start db n (db.vehicle.map VehicleRow.id ++ issued)).world.db.vehicle,
      v.id ∈ (Server.start db n (db.vehicle.map VehicleRow.id ++ issued)).world.issued :=
    fun v hv => List.mem_append_left _ (List.mem_map_of_mem hv)
  have hsound : ∀ x ∈ s.tasks,
      x.prog.Sound machine undisturbed.Rely undisturbed.Ok (CreatePromise x.req) x.loc s.world :=
    tasks_sound (Q := CreatePromise) undisturbed.refl ?_ h rfl ?_ ?_ ?_
  · intro x hx req reply hreq hdone
    have hpromise := hsound x hx
    rw [hdone] at hpromise
    have hkept : CreatePromise x.req reply x.loc s.world :=
      hpromise s.world (undisturbed.refl _ _)
    simpa only [CreatePromise, hreq] using hkept
  · rintro t a b c ⟨hab, hab'⟩ ⟨hbc, hbc'⟩
    refine ⟨?_, ?_⟩
    · intro v hv hid
      obtain ⟨v', hv', he⟩ := hbc v hv hid
      obtain ⟨v'', hv'', he'⟩ := hab v' hv' (he ▸ hid)
      exact ⟨v'', hv'', he'.trans he⟩
    · intro hc hr v hv hid
      exact hab' hc hr v (hbc' hc hr v hv hid) hid
  · intro s call _
    obtain ⟨md, r⟩ := call
    cases r with
    | createVehicle req =>
        have hcreate : undisturbed.Triple View.Untouched (respond .vehicle (createVehicle md req))
            fun reply x => AllOrNothing req reply x.db x.ids x.committed := by
          refine Surroundings.Triple.bind triple_createVehicle fun reply => ?_
          exact Surroundings.triple_done (stable_keeps reply) fun x hx => hx
        exact hcreate Local.fresh s.world ⟨rfl, rfl⟩
    | _ => exact Prog.sound_trivial _ _ _
  · intro s i c call t β o k hreach hadm hi
    have hleaves : Server.LeavesAlone s ⟨call, t, .op o k⟩ c := by
      simpa only [Server.Undisturbed, hi] using hadm
    exact ⟨vehicle_ids_issued hreach rfl hstart, hleaves.1⟩
  · intro s i c call t β o k b w t' j x hreach hadm hi hs hij hj
    exact tolerates_of_undisturbed hreach rfl hadm hi hs hij hj

end Runs

/-! ## Three runs -/

/-- The vehicle a request asks for. -/
def Request.vehicleCreate? : Request → Option CreateVehicleRequest
  | .createVehicle r => some r
  | _ => none

theorem Request.vehicleCreate?_eq_some {req : Request} {r : CreateVehicleRequest}
    (h : req.vehicleCreate? = some r) : req = .createVehicle r := by
  cases req with
  | createVehicle r' =>
      cases h
      rfl
  | _ => cases h

/-- The first call creates a vehicle and has committed. -/
def createUpToCommit : List ServerAction :=
  firstSteps 0 (.createVehicle (someVehicle "A")) (someUuid 0) 7

/-- The token is rejected when `GetVehicle` checks it again. -/
def rejectedAfterCommit : List ServerAction :=
  createUpToCommit ++ .step 0 { verdict := .rejected "token expired" "bad_signature" } ::
    List.replicate 7 (.step 0 {})

/-- Another client updates the vehicle before it is read back. -/
def updatedBeforeRead : List ServerAction :=
  createUpToCommit ++
    firstSteps 1 (.updateVehicle
      { id := uuidOut (someUuid 0), brand := "other", calibratedRangeKm := 500,
        batteryCapacityKwh := .fin 60, purchaseDate := ⟨2024, 1, 1⟩, licensePlate := "A" })
      (someUuid 1) 10 ++
    List.replicate 10 (.step 0 {})

/-- A call that is rejected after its commit leaves its row behind, and a call that reads an
updated row returns what it did not insert. -/
theorem create_vehicle_not_atomic :
    (∃ s, Server.Reached (fun _ _ => True) (Server.start .empty 4 []) s ∧
      ∃ x ∈ s.tasks, ∃ req reply, x.req.req = .createVehicle req ∧ x.prog = .done reply ∧
        reply.1.ok = false ∧
        ¬ AllOrNothing req reply s.world.db x.loc.ids x.loc.committed) ∧
    ∃ s, Server.Reached (fun _ _ => True) (Server.start .empty 4 []) s ∧
      ∃ x ∈ s.tasks, ∃ req reply, x.req.req = .createVehicle req ∧ x.prog = .done reply ∧
        reply.1.ok = true ∧
        ¬ AllOrNothing req reply s.world.db x.loc.ids x.loc.committed := by
  have hrejected : ∃ s, Server.Reached (fun _ _ => True) (Server.start .empty 4 []) s ∧
      ∃ x ∈ s.tasks, x.req.req.vehicleCreate? = some (someVehicle "A") ∧
        returned? x.prog = some (⟨.UNAUTHENTICATED, "token expired"⟩, none) ∧
        ∃ v ∈ s.world.db.vehicle, v.id ∈ x.loc.ids :=
    exists_reach rejectedAfterCommit (by decide +kernel)
  have hupdated : ∃ s, Server.Reached (fun _ _ => True) (Server.start .empty 4 []) s ∧
      ∃ x ∈ s.tasks, x.req.req.vehicleCreate? = some (someVehicle "A") ∧
        returned? x.prog = some (.OK, some (.vehicle
          ⟨uuidOut (someUuid 0), "other", 500, .fin 60, some ⟨2024, 1, 1⟩, "A"⟩)) :=
    exists_reach updatedBeforeRead (by decide +kernel)
  refine ⟨?_, ?_⟩
  · obtain ⟨s, hreach, x, hx, hreq, hreply, v, hv, hid⟩ := hrejected
    refine ⟨s, hreach, x, hx, _, _, Request.vehicleCreate?_eq_some hreq,
      returned?_eq_some hreply, rfl, ?_⟩
    intro h
    exact h.nothing rfl v hv hid
  · obtain ⟨s, hreach, x, hx, hreq, hreply⟩ := hupdated
    refine ⟨s, hreach, x, hx, _, _, Request.vehicleCreate?_eq_some hreq,
      returned?_eq_some hreply, rfl, ?_⟩
    intro h
    obtain ⟨-, u, -, row, hrow, hresp⟩ := h.all rfl
    -- The brand that was inserted is the brand that was asked for.
    have hbrand : (Param.text "brand").asVarchar 36 = .ok (some row.brand) := (vehicleRow_ok hrow).brand
    have hmessage := Response.vehicle.inj (Option.some.inj hresp)
    have hother : row.brand = "other" := (congrArg Vehicle.brand hmessage).symm
    rw [hother] at hbrand
    exact absurd hbrand (by decide)

/-- Without disturbance the response is the row. -/
theorem create_vehicle_all_or_nothing_one :
    ∃ s, Server.Reached Server.Undisturbed (Server.start .empty 4 []) s ∧
      ∃ x ∈ s.tasks, ∃ reply, x.prog = .done reply ∧ reply.1.ok = true ∧
        AllOrNothing (someVehicle "A") reply s.world.db x.loc.ids x.loc.committed := by
  have hrun : ∃ s, Server.Reached Server.Undisturbed (Server.start .empty 4 []) s ∧
      ∃ x ∈ s.tasks, x.req.req.vehicleCreate? = some (someVehicle "A") ∧
        returned? x.prog = some (.OK, some (.vehicle
          ⟨uuidOut (someUuid 0), "brand", 500, .fin 60, some ⟨2024, 1, 1⟩, "A"⟩)) :=
    exists_reach (createUpToCommit ++ List.replicate 10 (.step 0 {})) (by decide +kernel)
  obtain ⟨s, hreach, x, hx, hreq, hreply⟩ := hrun
  have hdone := returned?_eq_some hreply
  exact ⟨s, hreach, x, hx, _, hdone, rfl,
    @create_vehicle_all_or_nothing .empty 4 [] s hreach x hx _ _
      (Request.vehicleCreate?_eq_some hreq) hdone⟩

end EvGrpc
