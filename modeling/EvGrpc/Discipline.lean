import EvGrpc.Server

/-!
# What a handler may do

Two rules every handler keeps, whatever the operations answer.

* It takes a connection only when it holds none, and gives back what it took.
  `CreateVehicle` alone takes a second one: it calls `GetVehicle` before its own
  connection is returned.
* It sends only the statements of its own RPC, with the parameters its request gives
  and an identifier it drew itself, and only if the request passed validation
  (`Permitted`).

The rules are a protocol, `Orderly` says that a program keeps it and ends with as
many connections as it started with, and `handle_orderly` that every handler is
orderly.  `Server.Reached.disciplined` carries this to all states of the server.
-/

namespace EvGrpc

open Lib

/-! ## The rules -/

/-- The statements a request may lead to, given the identifiers drawn for it. -/
inductive Permitted : Request → List Uuid → {ρ : Type} → Write ρ → Prop
  | createVehicle {r ids u} (hu : u ∈ ids) :
      Permitted (.createVehicle r) ids (.insertVehicle (r.params u))
  | updateVehicle {r ids} : Permitted (.updateVehicle r) ids (.updateVehicle r.params)
  | deleteVehicle {r ids} : Permitted (.deleteVehicle r) ids (.deleteVehicle [.text r.id])
  | createWeather {r ids u} (hu : u ∈ ids) :
      Permitted (.createWeather r) ids (.insertWeather [.text (uuidOut u), .text r.name])
  | createSourceCategory {r ids u} (hu : u ∈ ids) :
      Permitted (.createSourceCategory r) ids
        (.insertSourceCategory [.text (uuidOut u), .text r.name])
  | createConsumption {r ids u} (hu : u ∈ ids) (hv : (validateConsumption r).ok = true) :
      Permitted (.createConsumption r) ids (.insertConsumption (consumptionParams (uuidOut u) r))
  | updateConsumption {r ids}
      (hv : (validateConsumption r.toCreateConsumptionRequest).ok = true) :
      Permitted (.updateConsumption r) ids (.updateConsumption r.params)
  | deleteConsumption {r ids} :
      Permitted (.deleteConsumption r) ids (.deleteConsumption [.text r.id])
  | createCharging {r ids u} (hu : u ∈ ids) (hv : (validateCharging r).ok = true) :
      Permitted (.createCharging r) ids (.insertCharging (chargeParams (uuidOut u) r))
  | updateCharging {r ids} (hv : (validateCharging r.toCreateChargingRequest).ok = true) :
      Permitted (.updateCharging r) ids (.updateCharging r.params)
  | deleteCharging {r ids} : Permitted (.deleteCharging r) ids (.deleteCharging [.text r.id])

/-- More identifiers permit more. -/
theorem Permitted.mono {req : Request} {ids ids' : List Uuid} {ρ : Type} {w : Write ρ}
    (h : Permitted req ids w) (hsub : ids ⊆ ids') : Permitted req ids' w := by
  cases h with
  | createVehicle hu => exact .createVehicle (hsub hu)
  | createWeather hu => exact .createWeather (hsub hu)
  | createSourceCategory hu => exact .createSourceCategory (hsub hu)
  | createConsumption hu hv => exact .createConsumption (hsub hu) hv
  | createCharging hu hv => exact .createCharging (hsub hu) hv
  | updateVehicle => exact .updateVehicle
  | deleteVehicle => exact .deleteVehicle
  | updateConsumption hv => exact .updateConsumption hv
  | deleteConsumption => exact .deleteConsumption
  | updateCharging hv => exact .updateCharging hv
  | deleteCharging => exact .deleteCharging

/-- What the rules keep track of: connections held and identifiers drawn. -/
structure Account where
  held : ℕ
  ids : List Uuid

/-- The account of a handler. -/
def Local.account (t : Local) : Account := ⟨t.conns.length, t.ids⟩

/-- A request that may take a second connection. -/
def Request.nests : Request → Bool
  | .createVehicle _ => true
  | _ => false

/-- A handler with `held` connections may ask for one more. -/
def MayAcquire (req : Request) (held : ℕ) : Prop :=
  held = 0 ∨ (held = 1 ∧ req.nests = true)

/-- The rules, as a protocol. -/
def discipline (req : Request) : Protocol Op Account where
  pre
    | .acquire, s => MayAcquire req s.held
    | .release, s => 0 < s.held
    | .write w, s => Permitted req s.ids w
    | _, _ => True
  next
    | .acquire, _, s => { s with held := s.held + 1 }
    | .release, _, s => { s with held := s.held - 1 }
    | .newUuid, u, s => { s with ids := u :: s.ids }
    | _, _, s => s

/-- The operations the rules say nothing about. -/
def Op.free {β : Type} : Op β → Bool
  | .acquire | .release | .newUuid | .write _ => false
  | _ => true

/-- With `held` connections and the identifiers `ids`, the program keeps the rules,
and it ends with `held` connections. -/
def Orderly (req : Request) (held : ℕ) (ids : List Uuid) {α : Type} (p : Prog Op α) : Prop :=
  ∀ ids', ids ⊆ ids' → p.Meets (discipline req) ⟨held, ids'⟩
    fun _ s => s.held = held ∧ ids ⊆ s.ids

/-! ## Rules for the shapes -/

section Shapes
variable {req : Request} {held : ℕ} {ids : List Uuid} {α β ρ : Type}

theorem orderly_done (a : α) : Orderly req held ids (.done a) :=
  fun _ h => ⟨rfl, h⟩

theorem Orderly.bind {p : Prog Op α} {f : α → Prog Op β} (hp : Orderly req held ids p)
    (hf : ∀ a, Orderly req held ids (f a)) : Orderly req held ids (p >>= f) := by
  intro ids' h
  rw [Prog.meets_bind]
  refine (hp ids' h).mono fun a s hs => ?_
  obtain ⟨n, l⟩ := s
  obtain ⟨rfl, hl⟩ := hs
  exact hf a l hl

/-- An operation the rules say nothing about. -/
theorem orderly_call {o : Op β} (ho : o.free = true) : Orderly req held ids (Prog.call o) := by
  intro ids' h
  cases o with
  | acquire | release | newUuid | write => cases ho
  | _ => exact ⟨trivial, fun _ => ⟨rfl, h⟩⟩

theorem orderly_run_pure (a : α) : Orderly req held ids (pure a : Rpc α).run :=
  orderly_done _

theorem Orderly.run_bind {x : Rpc α} {f : α → Rpc β} (hx : Orderly req held ids x.run)
    (hf : ∀ a, Orderly req held ids (f a).run) : Orderly req held ids (x >>= f).run := by
  rw [ExceptT.run_bind]
  refine hx.bind fun r => ?_
  cases r with
  | ok a => exact hf a
  | error e => exact orderly_done _

theorem orderly_exec (q : Database → Except Exn ρ) : Orderly req held ids (exec q).run :=
  orderly_call (o := .query q) rfl

theorem orderly_convert (r : Except Exn ρ) : Orderly req held ids (convert r).run :=
  orderly_call (o := .convert r) rfl

theorem orderly_commit : Orderly req held ids commit.run :=
  orderly_call (o := .commit) rfl

theorem orderly_perform {o : Op β} (ho : o.free = true) : Orderly req held ids (perform o).run :=
  (orderly_call ho).bind fun _ => orderly_done _

theorem orderly_fail (s : Status) : Orderly req held ids (fail s : Rpc (Reply ρ)).run :=
  (orderly_perform (o := .setStatus s) rfl).run_bind fun _ => orderly_run_pure _

theorem orderly_addInt (a b : ℤ) : Orderly req held ids (addInt a b).run := by
  unfold addInt
  split
  · exact (orderly_perform (o := .undefined) rfl).run_bind fun _ => orderly_run_pure _
  · exact orderly_run_pure _

/-- A statement of the handler's own RPC. -/
theorem orderly_execWrite {w : Write ρ} (h : Permitted req ids w) :
    Orderly req held ids (execWrite w).run :=
  fun _ hsub => ⟨h.mono hsub, fun _ => ⟨rfl, hsub⟩⟩

/-- What follows a draw may use the identifier. -/
theorem orderly_newUuid {f : Uuid → Rpc β} (hf : ∀ u, Orderly req held (u :: ids) (f u).run) :
    Orderly req held ids (newUuid >>= f).run := by
  intro ids' h
  refine ⟨trivial, fun u => ?_⟩
  refine (hf u (u :: ids') (List.cons_subset_cons u h)).mono fun _ s hs => ?_
  exact ⟨hs.1, fun x hx => hs.2 (List.mem_cons_of_mem _ hx)⟩

/-- A block with a connection has one more inside. -/
theorem orderly_withConn {body : Rpc α} (hacq : MayAcquire req held)
    (h : Orderly req (held + 1) ids body.run) : Orderly req held ids (withConn body).run := by
  intro ids' hsub
  refine ⟨hacq, fun _ => ?_⟩
  refine (Prog.meets_bind (ExceptT.run body) _ _).mpr ((h ids' hsub).mono fun r s hs => ?_)
  obtain ⟨n, l⟩ := s
  obtain ⟨rfl, hl⟩ := hs
  exact ⟨Nat.succ_pos held, fun _ => ⟨Nat.add_sub_cancel held 1, hl⟩⟩

theorem orderly_withWork {body : Rpc α} (h : Orderly req held ids body.run) :
    Orderly req held ids (withWork body).run := by
  refine (orderly_call (o := .beginWork) rfl).bind fun r => ?_
  cases r with
  | error e => exact orderly_done _
  | ok _ =>
      exact h.bind fun _ => (orderly_call (o := .endWork) rfl).bind fun _ => orderly_done _

theorem orderly_catching {body : Rpc (Reply ρ)} (h : Orderly req held ids body.run) :
    Orderly req held ids (catching body) := by
  refine h.bind fun r => ?_
  cases r with
  | ok r => exact orderly_done _
  | error e =>
      exact (orderly_call (o := .setStatus (toGrpcStatus e)) rfl).bind fun _ => orderly_done _

theorem orderly_validated {s : Status} {body : Prog Op (Reply ρ)}
    (h : s.ok = true → Orderly req held ids body) : Orderly req held ids (validated s body) := by
  unfold validated
  split
  · rename_i hs
    exact h hs
  · exact (orderly_call (o := .setStatus s) rfl).bind fun _ => orderly_done _

theorem orderly_authenticated {md : Metadata} {kMethod : String} {body : Prog Op (Reply ρ)}
    (h : Orderly req held ids body) : Orderly req held ids (authenticated md kMethod body) := by
  refine (orderly_call (o := .auth md kMethod) rfl).bind fun a => ?_
  refine (orderly_call (o := .enter kMethod a.subject a.reqId) rfl).bind fun _ => ?_
  exact (orderly_validated fun _ => h).bind fun _ =>
    (orderly_call (o := .leave) rfl).bind fun _ => orderly_done _

theorem orderly_respond {f : ρ → Response} {p : Prog Op (Reply ρ)} (h : Orderly req held ids p) :
    Orderly req held ids (respond f p) :=
  h.bind fun _ => orderly_done _

theorem orderly_listPage (row : α → Except Exn β) (pageSize offset : ℤ) (result : List α) :
    Orderly req held ids (listPage row pageSize offset result).run := by
  refine (orderly_convert _).run_bind fun page => ?_
  split
  · exact ((orderly_addInt _ _).run_bind fun _ => orderly_run_pure _).run_bind
      fun _ => orderly_run_pure _
  · exact (orderly_run_pure _).run_bind fun _ => orderly_run_pure _

theorem orderly_firstRow {s : Status} {f : α → Rpc (Reply ρ)} (result : List α)
    (h : ∀ r, Orderly req held ids (f r).run) : Orderly req held ids (firstRow s f result).run := by
  cases result with
  | nil => exact orderly_fail s
  | cons r rs => exact h r

theorem orderly_getRow {q : Database → Except Exn (List α)} {s : Status} {row : α → Except Exn ρ}
    (hacq : MayAcquire req held) : Orderly req held ids (getRow q s row).run := by
  refine orderly_withConn hacq ((orderly_exec _).run_bind fun result => orderly_firstRow _ ?_)
  exact fun r => (orderly_convert _).run_bind fun _ => orderly_run_pure _

theorem orderly_convertAndCommit (r : Except Exn ρ) :
    Orderly req held ids (do
      let resp ← convert r
      commit
      return (.OK, some resp) : Rpc (Reply ρ)).run :=
  (orderly_convert _).run_bind fun _ => orderly_commit.run_bind fun _ => orderly_run_pure _

theorem orderly_insertRow {w : Write Unit} {q : Database → Except Exn (List α)}
    {row : α → Except Exn ρ} (hw : Permitted req ids w) :
    Orderly req held ids (insertRow w q row).run := by
  refine (orderly_execWrite hw).run_bind fun _ => (orderly_exec _).run_bind fun result => ?_
  exact orderly_firstRow _ fun r => orderly_convertAndCommit _

theorem orderly_updateRow {w : Write (List α)} {s : Status} {row : α → Except Exn ρ}
    (hacq : MayAcquire req held) (hw : Permitted req ids w) :
    Orderly req held ids (updateRow w s row).run := by
  refine orderly_withConn hacq (orderly_withWork ((orderly_execWrite hw).run_bind fun _ => ?_))
  exact orderly_firstRow _ fun r => orderly_convertAndCommit _

theorem orderly_deleteRow {w : Write ℕ} {s : Status} (hacq : MayAcquire req held)
    (hw : Permitted req ids w) : Orderly req held ids (deleteRow w s).run := by
  refine orderly_withConn hacq (orderly_withWork ((orderly_execWrite hw).run_bind fun _ => ?_))
  split
  · exact orderly_fail _
  · exact orderly_commit.run_bind fun _ => orderly_run_pure _

theorem orderly_readAll {q : Database → Except Exn α} {f : α → Except Exn ρ}
    (hacq : MayAcquire req held) : Orderly req held ids (readAll q f).run := by
  refine orderly_withConn hacq ((orderly_exec _).run_bind fun _ => ?_)
  exact (orderly_convert _).run_bind fun _ => orderly_run_pure _

theorem orderly_gatedReport {e : Database → Except Exn Bool} {q : Database → Except Exn α}
    {f : α → ρ} (hacq : MayAcquire req held) : Orderly req held ids (gatedReport e q f).run := by
  refine orderly_withConn hacq ((orderly_exec _).run_bind fun hasData => ?_)
  split
  · exact orderly_fail _
  · refine (orderly_exec _).run_bind fun _ => ?_
    exact (orderly_convert _).run_bind fun _ => orderly_run_pure _

end Shapes

/-! ## The handlers -/

section Handlers
variable {req : Request} {md : Metadata}

/-- `GetVehicle`, on its own or called by a handler that may take one more. -/
theorem orderly_getVehicle {held : ℕ} {ids : List Uuid} (r : GetVehicleRequest)
    (hacq : MayAcquire req held) : Orderly req held ids (getVehicle md r) :=
  orderly_authenticated (orderly_catching (orderly_getRow hacq))

theorem orderly_createVehicle (r : CreateVehicleRequest) :
    Orderly (.createVehicle r) 0 [] (createVehicle md r) := by
  refine orderly_authenticated (orderly_catching (orderly_withConn (.inl rfl) ?_))
  refine orderly_withWork (orderly_newUuid fun u => ?_)
  refine (orderly_execWrite (.createVehicle (by simp))).run_bind fun _ => ?_
  refine orderly_commit.run_bind fun _ => ?_
  -- The nested call asks for a second connection.
  refine Orderly.run_bind (x := callHandler _)
    ((orderly_getVehicle _ (.inr ⟨rfl, rfl⟩)).bind fun _ => orderly_done _) fun read => ?_
  split
  · exact orderly_fail _
  · exact orderly_run_pure _

theorem orderly_createLookup {ρ : Type} {kMethod : String} {insert : List Param → Write Unit}
    {message : String → String → ρ} {name : String}
    (hw : ∀ u, Permitted req [u] (insert [.text (uuidOut u), .text name])) :
    Orderly req 0 [] (createLookup kMethod insert message md name) := by
  refine orderly_authenticated (orderly_catching (orderly_withConn (.inl rfl) ?_))
  refine orderly_withWork (orderly_newUuid fun u => ?_)
  refine (orderly_execWrite (hw u)).run_bind fun _ => ?_
  exact orderly_commit.run_bind fun _ => orderly_run_pure _

theorem orderly_listVehicles (r : ListVehiclesRequest) :
    Orderly req 0 [] (listVehicles md r) := by
  refine orderly_authenticated (orderly_catching ?_)
  dsimp only
  split
  · exact orderly_fail _
  · refine orderly_withConn (.inl rfl) ((orderly_addInt _ _).run_bind fun _ => ?_)
    refine (orderly_exec _).run_bind fun _ => ?_
    exact (orderly_listPage _ _ _ _).run_bind fun _ => orderly_run_pure _

theorem orderly_listConsumptions (r : ListConsumptionsRequest) :
    Orderly req 0 [] (listConsumptions md r) := by
  refine orderly_authenticated (orderly_catching ?_)
  dsimp only
  split
  · exact orderly_fail _
  · refine (orderly_addInt _ _).run_bind fun _ => orderly_withConn (.inl rfl) ?_
    refine (orderly_exec _).run_bind fun _ => ?_
    exact (orderly_listPage _ _ _ _).run_bind fun _ => orderly_run_pure _

theorem orderly_listChargings (r : ListChargingsRequest) :
    Orderly req 0 [] (listChargings md r) := by
  refine orderly_authenticated (orderly_catching ?_)
  dsimp only
  split
  · exact orderly_fail _
  · refine (orderly_addInt _ _).run_bind fun _ => orderly_withConn (.inl rfl) ?_
    refine (orderly_exec _).run_bind fun _ => ?_
    exact (orderly_listPage _ _ _ _).run_bind fun _ => orderly_run_pure _

theorem orderly_getConsumptionEfficiency (r : WindowRequest) :
    Orderly req 0 [] (getConsumptionEfficiency md r) := by
  refine orderly_authenticated (orderly_catching (orderly_withConn (.inl rfl) ?_))
  refine (orderly_exec _).run_bind fun _ => (orderly_exec _).run_bind fun _ => ?_
  exact (orderly_convert _).run_bind fun _ => orderly_run_pure _

end Handlers

/-- Every handler keeps the rules. -/
theorem handle_orderly (call : Call) : Orderly call.req 0 [] (handle call) := by
  obtain ⟨md, req⟩ := call
  have start : ∀ req : Request, MayAcquire req 0 := fun _ => .inl rfl
  cases req with
  | createVehicle r => exact orderly_respond (orderly_createVehicle r)
  | getVehicle r => exact orderly_respond (orderly_getVehicle r (start _))
  | updateVehicle r =>
      exact orderly_respond (orderly_authenticated (orderly_catching
        (orderly_updateRow (start _) .updateVehicle)))
  | deleteVehicle r =>
      exact orderly_respond (orderly_authenticated (orderly_catching
        (orderly_deleteRow (start _) .deleteVehicle)))
  | listVehicles r => exact orderly_respond (orderly_listVehicles r)
  | createWeather r =>
      exact orderly_respond (orderly_createLookup fun u => .createWeather (List.mem_singleton_self u))
  | createSourceCategory r =>
      exact orderly_respond (orderly_createLookup fun u =>
        .createSourceCategory (List.mem_singleton_self u))
  | createConsumption r =>
      exact orderly_respond (orderly_authenticated (orderly_validated fun hv => orderly_catching
        (orderly_withConn (start _) (orderly_withWork (orderly_newUuid fun u =>
          orderly_insertRow (.createConsumption (List.mem_singleton_self u) hv))))))
  | updateConsumption r =>
      exact orderly_respond (orderly_authenticated (orderly_validated fun hv => orderly_catching
        (orderly_updateRow (start _) (.updateConsumption hv))))
  | deleteConsumption r =>
      exact orderly_respond (orderly_authenticated (orderly_catching
        (orderly_deleteRow (start _) .deleteConsumption)))
  | listConsumptions r => exact orderly_respond (orderly_listConsumptions r)
  | createCharging r =>
      exact orderly_respond (orderly_authenticated (orderly_validated fun hv => orderly_catching
        (orderly_newUuid fun u => orderly_withConn (start _) (orderly_withWork
          (orderly_insertRow (.createCharging (List.mem_singleton_self u) hv))))))
  | updateCharging r =>
      exact orderly_respond (orderly_authenticated (orderly_validated fun hv => orderly_catching
        (orderly_updateRow (start _) (.updateCharging hv))))
  | deleteCharging r =>
      exact orderly_respond (orderly_authenticated (orderly_catching
        (orderly_deleteRow (start _) .deleteCharging)))
  | listChargings r => exact orderly_respond (orderly_listChargings r)
  | getConsumptionEfficiency r => exact orderly_respond (orderly_getConsumptionEfficiency r)
  | getConsumption r | getCharging r =>
      exact orderly_respond (orderly_authenticated (orderly_catching (orderly_getRow (start _))))
  | getVehicleCostSummary r | getMonthlyReport r | getAnnualReport r =>
      exact orderly_respond (orderly_authenticated (orderly_validated fun _ =>
        orderly_catching (orderly_gatedReport (start _))))
  | searchWeather r | searchSourceCategory r | getCostByChargerType r | getCostBySourceCategory r
  | getRangeAccuracy r | getTemperatureConsumptionCorrelation r =>
      exact orderly_respond (orderly_authenticated (orderly_catching (orderly_readAll (start _))))
  | getDailyChargingReport r | getMonthlyChargingReport r | getAnnualChargingReport r =>
      exact orderly_respond (orderly_authenticated (orderly_validated fun _ =>
        orderly_catching (orderly_readAll (start _))))

/-! ## The rules in every state -/

/-- The machine shows how a handler's account changes. -/
theorem machine_shows_account (req : Request) : machine.Shows (discipline req) Local.account := by
  intro β o c w t b w' t' h
  cases o with
  | acquire | release =>
      simp only [machine] at h
      split at h
      · cases h
      · rename_i hc
        cases h
        simp [Local.account, discipline, hc]
  | newUuid =>
      simp only [machine] at h
      split at h
      · cases h
      · cases h; rfl
  | _ =>
      simp only [machine] at h
      repeat' split at h
      all_goals cases h
      all_goals rfl

/-- A call that has kept the rules so far and will keep them. -/
structure Disciplined (x : Task Op Call Local (Reply Response)) : Prop where
  meets : x.prog.Meets (discipline x.req.req) x.loc.account fun _ s => s.held = 0
  pending : ∀ p ∈ x.loc.pending, Permitted x.req.req x.loc.ids p.stmt

/-- In every state of the server every call keeps the rules. -/
theorem Server.Reached.disciplined {Ok : Server → ServerAction → Prop} {s₀ s : Server}
    (h : Server.Reached Ok s₀ s) (h₀ : s₀.tasks = []) : ∀ x ∈ s.tasks, Disciplined x := by
  refine tasks_invariant h (by simp [h₀]) ?_ ?_
  · intro call
    have hstart := handle_orderly call [] (List.Subset.refl [])
    exact ⟨hstart.mono fun _ _ hs => hs.1, by simp [Local.fresh]⟩
  · intro call t β o k c w b w' t' hd hs
    refine ⟨?_, ?_⟩
    · have := machine_shows_account call.req β o c w t b w' t' hs
      rw [this]
      exact hd.meets.2 b
    · intro p hp
      have hsub : t.ids ⊆ t'.ids := by
        rcases step_ids hs with ⟨-, hids⟩ | ⟨u, -, -, hids⟩
        · exact hids ▸ List.Subset.refl _
        · exact hids ▸ List.subset_cons_self u t.ids
      rcases step_pending hs hp with hp | hp
      · exact (hd.pending p hp).mono hsub
      · -- The statement has just been sent, so the protocol let it through.
        cases o with
        | write q =>
            obtain ⟨r, rfl⟩ := hp
            exact Permitted.mono hd.meets.1 hsub
        | _ => cases hp

/-! ## Invariants of the rows -/

/-- Runs all of whose requests satisfy `Good`. -/
def Asks (Good : Request → Prop) (_ : Server) : ServerAction → Prop
  | .spawn call => Good call.req
  | .step _ _ => True

instance (Good : Request → Prop) [DecidablePred Good] (s : Server) (a : ServerAction) :
    Decidable (Asks Good s a) :=
  match a with
  | .spawn call => inferInstanceAs (Decidable (Good call.req))
  | .step _ _ => inferInstanceAs (Decidable True)

/-- In such a run every call was made with a request of this kind. -/
theorem Server.Reached.requests {Good : Request → Prop} {s₀ s : Server}
    (h : Server.Reached (Asks Good) s₀ s) (h₀ : s₀.tasks = []) : ∀ x ∈ s.tasks, Good x.req.req := by
  refine h.rec_invariant (I := fun s : Server => ∀ x ∈ s.tasks, Good x.req.req) (by simp [h₀]) ?_
  intro s a s' hI hok e x hx
  rcases State.act_cases e with ⟨call, rfl, rfl⟩ | ⟨i, c, call, t, β, o, k, b, w, t', -, hi, -, rfl⟩
  · rcases List.mem_append.mp hx with hx | hx
    · exact hI x hx
    · rw [List.mem_singleton.mp hx]
      exact hok
  · rcases List.mem_or_eq_of_mem_set hx with hx | rfl
    · exact hI x hx
    · have hold := hI _ (List.mem_of_getElem? hi)
      exact hold

/-- A property of the rows that permitted statements keep survives a transaction. -/
theorem replay_invariant {I : Database → Prop} {ps : List Pending} {db db' : Database}
    (hstmt : ∀ p ∈ ps, ∀ db db', I db → Effect db p.stmt db' → I db')
    (h : replay db ps = some db') (hI : I db) : I db' := by
  induction ps generalizing db with
  | nil =>
      cases h
      exact hI
  | cons p ps ih =>
      obtain ⟨w, r⟩ := p
      obtain ⟨db₁, hw, hrest⟩ := (replay_cons ..).mp h
      refine ih (fun q hq => hstmt q (List.mem_cons_of_mem _ hq)) hrest ?_
      exact hstmt _ List.mem_cons_self db db₁ hI (Write.run_effect hw)

/-- A property of the rows that every permitted statement keeps holds in every state
of the server. -/
theorem Server.Reached.db_invariant {Good : Request → Prop} {I : Database → Prop}
    {s₀ s : Server} (h : Server.Reached (Asks Good) s₀ s) (h₀ : s₀.tasks = [])
    (hI : I s₀.world.db)
    (hstmt : ∀ (req : Request) (ids : List Uuid) (ρ : Type) (w : Write ρ) (db db' : Database),
      Good req → Permitted req ids w → I db → Effect db w db' → I db') : I s.world.db := by
  refine h.rec_invariant_of (I := fun s => Server.Reached (Asks Good) s₀ s)
    (J := fun s : Server => I s.world.db) (fun _ h => h) hI ?_
  intro s a s' hreach hdb _ e
  rcases State.act_cases e with ⟨call, -, rfl⟩ | ⟨i, c, call, t, β, o, k, b, w, t', -, hi, hs, rfl⟩
  · exact hdb
  · have hmem := List.mem_of_getElem? hi
    rcases step_db hs with hw | ⟨-, hw⟩
    · exact hw ▸ hdb
    · refine replay_invariant (fun p hp db db' => ?_) hw hdb
      exact hstmt call.req t.ids p.ρ p.stmt db db' (hreach.requests h₀ _ hmem)
        ((hreach.disciplined h₀ _ hmem).pending p hp)

/-! ## Identifiers -/

/-- Identifiers are drawn once: those of a call are on record, and no two calls have one in
common. -/
structure Server.DistinctIds (s : Server) : Prop where
  issued : ∀ x ∈ s.tasks, x.loc.ids ⊆ s.world.issued
  disjoint : ∀ (i j : ℕ) (x y : Task Op Call Local (Reply Response)), s.tasks[i]? = some x →
    s.tasks[j]? = some y → i ≠ j → ∀ u ∈ x.loc.ids, u ∉ y.loc.ids

/-- A new call has drawn nothing. -/
theorem Server.DistinctIds.spawn {s : Server} (h : s.DistinctIds) (call : Call) :
    Server.DistinctIds { s with tasks := s.tasks ++ [⟨call, Local.fresh, handle call⟩] } := by
  constructor
  · intro x hx
    rcases List.mem_append.mp hx with hx | hx
    · exact h.issued x hx
    · rw [List.mem_singleton.mp hx]
      exact List.nil_subset _
  · intro j k x y hx hy hjk u hu hu'
    rw [List.getElem?_append] at hx hy
    split at hx
    · split at hy
      · exact h.disjoint j k x y hx hy hjk u hu hu'
      · rw [List.mem_singleton.mp (List.mem_of_getElem? hy)] at hu'
        cases hu'
    · rw [List.mem_singleton.mp (List.mem_of_getElem? hx)] at hu
      cases hu

/-- What a call has after a step it had before, or it has just drawn it. -/
theorem Server.DistinctIds.step {s : Server} (h : s.DistinctIds) {i : ℕ} {c : Choice} {call : Call}
    {t t' : Local} {β : Type} {o : Op β} {k : β → Prog Op (Reply Response)} {b : β} {w : World}
    (hi : s.tasks[i]? = some ⟨call, t, .op o k⟩)
    (hs : machine.step o c s.world t = some (b, w, t')) :
    Server.DistinctIds ⟨w, s.tasks.set i ⟨call, t', k b⟩⟩ := by
  have hold := h.issued _ (List.mem_of_getElem? hi)
  have hgrow : s.world.issued ⊆ w.issued := by
    rcases step_ids hs with ⟨hw, -⟩ | ⟨v, -, hw, -⟩
    · exact hw ▸ List.Subset.refl _
    · exact hw ▸ List.subset_cons_self _ _
  have hnew : ∀ u ∈ t'.ids, u ∈ t.ids ∨ u ∉ s.world.issued := by
    intro u hu
    rcases step_ids hs with ⟨-, hids⟩ | ⟨v, hv, -, hids⟩
    · exact .inl (hids ▸ hu)
    · rw [hids] at hu
      rcases List.mem_cons.mp hu with rfl | hu
      · exact .inr hv
      · exact .inl hu
  have hother : ∀ (j : ℕ) (y : Task Op Call Local (Reply Response)), s.tasks[j]? = some y →
      i ≠ j → ∀ u ∈ t'.ids, u ∉ y.loc.ids := by
    intro j y hy hij u hu hu'
    rcases hnew u hu with hu | hu
    · exact h.disjoint i j _ y hi hy hij u hu hu'
    · exact hu (h.issued y (List.mem_of_getElem? hy) hu')
  constructor
  · intro x hx
    rcases List.mem_or_eq_of_mem_set hx with hx | rfl
    · exact List.Subset.trans (h.issued x hx) hgrow
    · rcases step_ids hs with ⟨hw, hids⟩ | ⟨v, -, hw, hids⟩
      · rw [hw, hids]
        exact hold
      · rw [hw, hids]
        exact List.cons_subset_cons v hold
  · intro j k' x y hx hy hjk u hu hu'
    by_cases hj : i = j
    · subst hj
      rw [List.getElem?_set_self (List.getElem?_eq_some_iff.mp hi).1] at hx
      cases hx
      rw [List.getElem?_set_ne hjk] at hy
      exact hother k' y hy hjk u hu hu'
    · rw [List.getElem?_set_ne hj] at hx
      by_cases hk : i = k'
      · subst hk
        rw [List.getElem?_set_self (List.getElem?_eq_some_iff.mp hi).1] at hy
        cases hy
        exact hother j x hx hj u hu' hu
      · rw [List.getElem?_set_ne hk] at hy
        exact h.disjoint j k' x y hx hy hjk u hu hu'

theorem Server.Reached.distinctIds {Ok : Server → ServerAction → Prop} {s₀ s : Server}
    (h : Server.Reached Ok s₀ s) (h₀ : s₀.tasks = []) : s.DistinctIds := by
  refine h.rec_invariant (I := Server.DistinctIds) ⟨by simp [h₀], by simp [h₀]⟩ ?_
  intro s a s' hI _ e
  rcases State.act_cases e with ⟨call, -, rfl⟩ | ⟨i, c, call, t, β, o, k, b, w, t', -, hi, hs, rfl⟩
  · exact hI.spawn call
  · exact hI.step hi hs

end EvGrpc
