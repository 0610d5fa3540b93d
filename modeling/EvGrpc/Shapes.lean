import EvGrpc.Discipline

/-!
# The handlers' grammar

Every handler but `CreateVehicle` is put together in one way, and the predicates below
say which.  `Plain` is code of a `try` block that neither writes, commits nor touches the
log scope.  `Body` is a `try` block: plain code, statements of its own RPC, and an end
that refuses, replies, or commits and then replies.  `Handler` is what stands behind the
prologue.

A property of all handlers is then proved by induction over the grammar; `handle_shape`
goes through the handlers once.
-/

namespace EvGrpc

open Lib

/-- Code that reads and computes. -/
inductive Plain : {α : Type} → Rpc α → Prop
  | pure {α : Type} (a : α) : Plain (pure a : Rpc α)
  | exec {α : Type} (q : Database → Except Exn α) : Plain (exec q)
  | convert {α : Type} (r : Except Exn α) : Plain (convert r)
  | addInt (a b : ℤ) : Plain (addInt a b)
  | bind {α β : Type} {m : Rpc α} {f : α → Rpc β} (hm : Plain m) (hf : ∀ a, Plain (f a)) :
      Plain (m >>= f)

/-- The `try` block of a request, given the identifiers drawn so far. -/
inductive Body (req : Request) {ρ : Type} : List Uuid → Rpc (Reply ρ) → Prop
  /-- `scope.set_status(s); return s;` -/
  | fail {ids : List Uuid} (s : Status) : Body req ids (fail s)
  /-- `return grpc::Status::OK;` -/
  | reply {ids : List Uuid} (resp : ρ) : Body req ids (pure (.OK, some resp))
  /-- `tx.commit(); return grpc::Status::OK;` -/
  | commit {ids : List Uuid} (resp : ρ) :
      Body req ids (commit >>= fun _ => pure (.OK, some resp))
  | plain {ids : List Uuid} {α : Type} {m : Rpc α} {f : α → Rpc (Reply ρ)} (hm : Plain m)
      (hf : ∀ a, Body req ids (f a)) : Body req ids (m >>= f)
  | write {ids : List Uuid} {α : Type} {w : Write α} {f : α → Rpc (Reply ρ)}
      (hw : Permitted req ids w) (hf : ∀ a, Body req ids (f a)) :
      Body req ids (execWrite w >>= f)
  /-- An identifier is drawn once. -/
  | newUuid {f : Uuid → Rpc (Reply ρ)} (hf : ∀ u, Body req [u] (f u)) :
      Body req [] (newUuid >>= f)
  | withConn {ids : List Uuid} {b : Rpc (Reply ρ)} (h : Body req ids b) :
      Body req ids (withConn b)
  | withWork {ids : List Uuid} {b : Rpc (Reply ρ)} (h : Body req ids b) :
      Body req ids (withWork b)

/-- What a handler does once its call is let in. -/
inductive Handler (req : Request) {ρ : Type} : Prog Op (Reply ρ) → Prop
  | catching {b : Rpc (Reply ρ)} (h : Body req [] b) : Handler req (catching b)
  | validated (s : Status) {p : Prog Op (Reply ρ)} (h : s.ok = true → Handler req p) :
      Handler req (validated s p)

/-! ## Shared bodies -/

section Bodies
variable {req : Request} {ids : List Uuid} {α β ρ : Type}

theorem body_firstRow {s : Status} {f : α → Rpc (Reply ρ)} (result : List α)
    (h : ∀ r, Body req ids (f r)) : Body req ids (firstRow s f result) := by
  cases result with
  | nil => exact .fail s
  | cons r rs => exact h r

theorem body_getRow (q : Database → Except Exn (List α)) (s : Status) (row : α → Except Exn ρ) :
    Body req ids (getRow q s row) := by
  refine .withConn (.plain (.exec q) fun result => body_firstRow result fun r => ?_)
  exact .plain (.convert _) fun resp => .reply resp

theorem body_convertAndCommit (r : Except Exn ρ) :
    Body req ids (do
      let resp ← convert r
      commit
      return (.OK, some resp)) :=
  .plain (.convert r) fun resp => .commit resp

theorem body_insertRow {w : Write Unit} (q : Database → Except Exn (List α))
    (row : α → Except Exn ρ) (hw : Permitted req ids w) : Body req ids (insertRow w q row) := by
  refine .write hw fun _ => .plain (.exec q) fun inserted => ?_
  exact body_firstRow inserted fun r => body_convertAndCommit (row r)

theorem body_updateRow {w : Write (List α)} (s : Status) (row : α → Except Exn ρ)
    (hw : Permitted req ids w) : Body req ids (updateRow w s row) := by
  refine .withConn (.withWork (.write hw fun result => ?_))
  exact body_firstRow result fun r => body_convertAndCommit (row r)

theorem body_deleteRow {w : Write ℕ} (s : Status) (hw : Permitted req ids w) :
    Body req ids (deleteRow w s) := by
  refine .withConn (.withWork (.write hw fun affected => ?_))
  split
  · exact .fail s
  · exact .commit ()

theorem body_readAll (q : Database → Except Exn α) (f : α → Except Exn ρ) :
    Body req ids (readAll q f) :=
  .withConn (.plain (.exec q) fun result => .plain (.convert (f result)) fun resp => .reply resp)

theorem body_gatedReport (e : Database → Except Exn Bool) (q : Database → Except Exn α)
    (f : α → ρ) : Body req ids (gatedReport e q f) := by
  refine .withConn (.plain (.exec e) fun hasData => ?_)
  split
  · exact .fail _
  · exact .plain (.exec q) fun row => .plain (.convert _) fun resp => .reply resp

theorem plain_listPage (row : α → Except Exn β) (pageSize offset : ℤ) (result : List α) :
    Plain (listPage row pageSize offset result) := by
  refine .bind (.convert _) fun page => ?_
  split
  · exact .bind (.bind (.addInt _ _) fun _ => .pure _) fun _ => .pure _
  · exact .bind (.pure _) fun _ => .pure _

/-- The three list RPCs ask for a page and make a response of it. -/
theorem body_page (q : Database → Except Exn (List α)) (row : α → Except Exn β)
    (pageSize offset : ℤ) (f : List β × String → ρ) :
    Body req ids (do
      let result ← exec q
      let page ← listPage row pageSize offset result
      return (.OK, some (f page))) :=
  .plain (.exec q) fun _ => .plain (plain_listPage ..) fun page => .reply (f page)

/-- The body of `CreateWeather` and `CreateSourceCategory`. -/
theorem handler_createLookup {insert : List Param → Write Unit} {message : String → String → ρ}
    {name : String} (hw : ∀ u, Permitted req [u] (insert [.text (uuidOut u), .text name])) :
    Handler req (catching <| withConn <| withWork do
      let id ← newUuid
      execWrite (insert [.text (uuidOut id), .text name])
      commit
      return (.OK, some (message (uuidOut id) name))) :=
  .catching (.withConn (.withWork (.newUuid fun u => .write (hw u) fun _ => .commit _)))

end Bodies

/-! ## Every handler -/

/-- A call of an RPC other than `CreateVehicle` runs a handler of the grammar behind the
prologue. -/
theorem handle_shape (call : Call) (h : call.req.nests = false) :
    ∃ (ρ : Type) (f : ρ → Response) (kMethod : String) (b : Prog Op (Reply ρ)),
      Handler call.req b ∧ handle call = respond f (authenticated call.md kMethod b) := by
  obtain ⟨md, req⟩ := call
  cases req with
  | createVehicle r => cases h
  | getVehicle r => exact ⟨_, _, _, _, .catching (body_getRow ..), rfl⟩
  | updateVehicle r => exact ⟨_, _, _, _, .catching (body_updateRow _ _ .updateVehicle), rfl⟩
  | deleteVehicle r => exact ⟨_, _, _, _, .catching (body_deleteRow _ .deleteVehicle), rfl⟩
  | listVehicles r =>
      refine ⟨_, _, _, _, .catching ?_, rfl⟩
      dsimp only
      split
      · exact .fail _
      · exact .withConn (.plain (.addInt _ _) fun _ => body_page ..)
  | createWeather r =>
      exact ⟨_, _, _, _, handler_createLookup fun u =>
        .createWeather (List.mem_singleton_self u), rfl⟩
  | createSourceCategory r =>
      exact ⟨_, _, _, _, handler_createLookup fun u =>
        .createSourceCategory (List.mem_singleton_self u), rfl⟩
  | createConsumption r =>
      refine ⟨_, _, _, _, .validated _ fun hv => .catching (.withConn (.withWork
        (.newUuid fun u => body_insertRow _ _ ?_))), rfl⟩
      exact .createConsumption (List.mem_singleton_self u) hv
  | updateConsumption r =>
      exact ⟨_, _, _, _, .validated _ fun hv =>
        .catching (body_updateRow _ _ (.updateConsumption hv)), rfl⟩
  | deleteConsumption r =>
      exact ⟨_, _, _, _, .catching (body_deleteRow _ .deleteConsumption), rfl⟩
  | listConsumptions r =>
      refine ⟨_, _, _, _, .catching ?_, rfl⟩
      dsimp only
      split
      · exact .fail _
      · exact .plain (.addInt _ _) fun _ => .withConn (body_page ..)
  | createCharging r =>
      refine ⟨_, _, _, _, .validated _ fun hv => .catching (.newUuid fun u =>
        .withConn (.withWork (body_insertRow _ _ ?_))), rfl⟩
      exact .createCharging (List.mem_singleton_self u) hv
  | updateCharging r =>
      exact ⟨_, _, _, _, .validated _ fun hv =>
        .catching (body_updateRow _ _ (.updateCharging hv)), rfl⟩
  | deleteCharging r => exact ⟨_, _, _, _, .catching (body_deleteRow _ .deleteCharging), rfl⟩
  | listChargings r =>
      refine ⟨_, _, _, _, .catching ?_, rfl⟩
      dsimp only
      split
      · exact .fail _
      · exact .plain (.addInt _ _) fun _ => .withConn (body_page ..)
  | getConsumptionEfficiency r =>
      refine ⟨_, _, _, _, .catching (.withConn (.plain (.exec _) fun kmRows =>
        .plain (.exec _) fun kwhRows => .plain (.convert _) fun resp => .reply resp)), rfl⟩
  | getConsumption r | getCharging r => exact ⟨_, _, _, _, .catching (body_getRow ..), rfl⟩
  | getVehicleCostSummary r | getMonthlyReport r | getAnnualReport r =>
      exact ⟨_, _, _, _, .validated _ fun _ => .catching (body_gatedReport ..), rfl⟩
  | searchWeather r | searchSourceCategory r | getCostByChargerType r | getCostBySourceCategory r
  | getRangeAccuracy r | getTemperatureConsumptionCorrelation r =>
      exact ⟨_, _, _, _, .catching (body_readAll ..), rfl⟩
  | getDailyChargingReport r | getMonthlyChargingReport r | getAnnualChargingReport r =>
      exact ⟨_, _, _, _, .validated _ fun _ => .catching (body_readAll ..), rfl⟩

end EvGrpc
