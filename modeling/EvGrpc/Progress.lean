import EvGrpc.Lib.Bounded
import EvGrpc.Pool
import EvGrpc.Shapes

/-!
# Every call is answered

A handler performs at most twenty operations (`handle_within`), so the runs of the server
are short.  An operation can block on the pool, and on nothing else: a scope is open where
one is told or left (`handle_scoped`), and a connection is held where one is given back.

As long as one connection is kept out of the hands of `CreateVehicle`, a state in which no
call can take a step is therefore one in which all calls have returned and all connections
are back in the pool (`calls_complete`).
-/

namespace EvGrpc

open Lib

/-! ## How long a handler takes -/

section Within
variable {α β ρ : Type} {n : ℕ}

theorem within_attempt_bind {o : Op (Except Exn β)} {f : β → Rpc α}
    (hf : ∀ b, (f b).run.Within n) : (attempt o >>= f).run.Within (n + 1) := by
  refine Prog.within_op fun r => ?_
  cases r with
  | ok b => exact hf b
  | error e => trivial

theorem within_perform_bind {o : Op β} {f : β → Rpc α} (hf : ∀ b, (f b).run.Within n) :
    (perform o >>= f).run.Within (n + 1) :=
  Prog.within_op hf

theorem within_run_bind {m : Rpc α} {f : α → Rpc β} {k : ℕ} (hm : m.run.Within k)
    (hf : ∀ a, (f a).run.Within n) : (m >>= f).run.Within (k + n) := by
  rw [ExceptT.run_bind]
  refine hm.bind fun r => ?_
  cases r with
  | ok a => exact hf a
  | error e => trivial

theorem within_fail {s : Status} : (fail s : Rpc (Reply ρ)).run.Within (n + 1) :=
  Prog.within_op fun _ => trivial

theorem within_addInt {a b : ℤ} : (addInt a b).run.Within 1 := by
  unfold addInt
  split
  · exact Prog.within_op fun _ => trivial
  · trivial

theorem within_withConn {body : Rpc α} (h : body.run.Within n) :
    (withConn body).run.Within (n + 1 + 1) :=
  Prog.within_op fun _ => h.bind fun _ => Prog.within_op fun _ => trivial

theorem within_withWork {body : Rpc α} (h : body.run.Within n) :
    (withWork body).run.Within (n + 1 + 1) := by
  rw [run_withWork]
  refine Prog.within_op fun r => ?_
  cases r with
  | error e => trivial
  | ok => exact h.bind fun _ => Prog.within_op fun _ => trivial

theorem within_catching {body : Rpc (Reply ρ)} (h : body.run.Within n) :
    (catching body).Within (n + 1) := by
  refine h.bind fun r => ?_
  cases r with
  | ok r => trivial
  | error e => exact Prog.within_op fun _ => trivial

theorem within_validated {s : Status} {body : Prog Op (Reply ρ)} (h : body.Within (n + 1)) :
    (validated s body).Within (n + 1) := by
  unfold validated
  split
  · exact h
  · exact Prog.within_op fun _ => trivial

theorem within_authenticated {md : Metadata} {kMethod : String} {body : Prog Op (Reply ρ)}
    (h : body.Within (n + 1)) : (authenticated md kMethod body).Within (n + 1 + 1 + 1 + 1) :=
  Prog.within_op fun _ => Prog.within_op fun _ => (within_validated h).bind (n := 1) fun _ =>
    Prog.within_op fun _ => trivial

theorem within_firstRow {s : Status} {f : α → Rpc (Reply ρ)} (result : List α)
    (hf : ∀ r, (f r).run.Within (n + 1)) : (firstRow s f result).run.Within (n + 1) := by
  cases result with
  | nil => exact within_fail
  | cons r rs => exact hf r

theorem within_getRow {q : Database → Except Exn (List α)} {s : Status} {row : α → Except Exn ρ} :
    (getRow q s row).run.Within 4 :=
  within_withConn (within_attempt_bind (o := .query q) fun result => within_firstRow result
    fun r => within_attempt_bind (o := .convert (row r)) fun _ => trivial)

theorem within_convertAndCommit {r : Except Exn ρ} :
    (do
      let resp ← convert r
      commit
      return (.OK, some resp) : Rpc (Reply ρ)).run.Within 2 :=
  within_attempt_bind (o := .convert r) fun _ => within_attempt_bind (o := .commit) fun _ => trivial

theorem within_insertRow {w : Write Unit} {q : Database → Except Exn (List α)}
    {row : α → Except Exn ρ} : (insertRow w q row).run.Within 4 :=
  within_attempt_bind (o := .write w) fun _ => within_attempt_bind (o := .query q) fun inserted =>
    within_firstRow inserted fun _ => within_convertAndCommit

theorem within_updateRow {w : Write (List α)} {s : Status} {row : α → Except Exn ρ} :
    (updateRow w s row).run.Within 7 :=
  within_withConn (within_withWork (within_attempt_bind (o := .write w) fun result =>
    within_firstRow result fun _ => within_convertAndCommit))

theorem within_deleteRow {w : Write ℕ} {s : Status} : (deleteRow w s).run.Within 6 := by
  refine within_withConn (within_withWork (within_attempt_bind (o := .write w) fun affected => ?_))
  split
  · exact within_fail
  · exact within_attempt_bind (o := .commit) fun _ => trivial

theorem within_readAll {q : Database → Except Exn α} {f : α → Except Exn ρ} :
    (readAll q f).run.Within 4 :=
  within_withConn (within_attempt_bind (o := .query q) fun result =>
    within_attempt_bind (o := .convert (f result)) fun _ => trivial)

theorem within_gatedReport {e : Database → Except Exn Bool} {q : Database → Except Exn α}
    {f : α → ρ} : (gatedReport e q f).run.Within 5 := by
  refine within_withConn (within_attempt_bind (o := .query e) fun hasData => ?_)
  split
  · exact within_fail
  · exact within_attempt_bind (o := .query q) fun row =>
      within_attempt_bind (o := .convert (.ok (f row))) fun _ => trivial

theorem within_listPage {row : α → Except Exn β} {pageSize offset : ℤ} {result : List α} :
    (listPage row pageSize offset result).run.Within 2 := by
  refine within_attempt_bind (o := .convert _) fun page => ?_
  dsimp only
  split
  · exact within_run_bind (k := 1) (n := 0) (within_run_bind (k := 1) (n := 0) within_addInt
      fun _ => trivial) fun _ => trivial
  · trivial

theorem within_page {q : Database → Except Exn (List α)} {row : α → Except Exn β}
    {pageSize offset : ℤ} {f : List β × String → ρ} :
    (do
      let result ← exec q
      let page ← listPage row pageSize offset result
      return (.OK, some (f page)) : Rpc (Reply ρ)).run.Within 3 :=
  within_attempt_bind (o := .query q) fun _ =>
    within_run_bind (k := 2) (n := 0) within_listPage fun _ => trivial

theorem within_createLookup {kMethod : String} {insert : List Param → Write Unit}
    {message : String → String → ρ} {md : Metadata} {name : String} :
    (createLookup kMethod insert message md name).Within 11 :=
  within_authenticated (within_catching (within_withConn (within_withWork
    (within_perform_bind (o := .newUuid) fun _ => within_attempt_bind (o := .write (insert _))
      fun _ => within_attempt_bind (o := .commit) fun _ => trivial))))

theorem within_createVehicle {md : Metadata} {r : CreateVehicleRequest} :
    (createVehicle md r).Within 20 := by
  refine within_authenticated (within_catching (within_withConn (within_withWork
    (within_perform_bind (o := .newUuid) fun u => within_attempt_bind (o := .write _) fun _ =>
      within_attempt_bind (o := .commit) fun _ => ?_))))
  -- The nested call has its own prologue.
  have hget : (callHandler (getVehicle md ⟨uuidOut u⟩)).run.Within 8 :=
    (within_authenticated (within_catching within_getRow)).bind (n := 0) fun _ => trivial
  refine within_run_bind (k := 8) (n := 1) hget fun read => ?_
  split
  · exact within_fail
  · trivial

theorem within_respond {f : ρ → Response} {p : Prog Op (Reply ρ)} (h : p.Within n) :
    (respond f p).Within n :=
  h.bind (n := 0) fun _ => trivial

end Within

/-- A handler performs at most twenty operations. -/
theorem handle_within (call : Call) : (handle call).Within 20 := by
  obtain ⟨md, req⟩ := call
  cases req with
  | createVehicle r => exact within_respond within_createVehicle
  | getVehicle r | getConsumption r | getCharging r =>
      refine Prog.Within.mono (m := 8) (within_respond ?_) (by decide)
      exact within_authenticated (within_catching within_getRow)
  | updateVehicle r =>
      refine Prog.Within.mono (m := 11) (within_respond ?_) (by decide)
      exact within_authenticated (within_catching within_updateRow)
  | updateConsumption r | updateCharging r =>
      refine Prog.Within.mono (m := 11) (within_respond ?_) (by decide)
      exact within_authenticated (within_validated (within_catching within_updateRow))
  | deleteVehicle r | deleteConsumption r | deleteCharging r =>
      refine Prog.Within.mono (m := 10) (within_respond ?_) (by decide)
      exact within_authenticated (within_catching within_deleteRow)
  | createWeather r | createSourceCategory r =>
      exact (within_respond within_createLookup).mono (by decide)
  | createConsumption r =>
      refine Prog.Within.mono (m := 13) (within_respond ?_) (by decide)
      exact within_authenticated (within_validated (within_catching (within_withConn
        (within_withWork (within_perform_bind (o := .newUuid) fun _ => within_insertRow)))))
  | createCharging r =>
      refine Prog.Within.mono (m := 13) (within_respond ?_) (by decide)
      exact within_authenticated (within_validated (within_catching
        (within_perform_bind (o := .newUuid) fun _ => within_withConn
          (within_withWork within_insertRow))))
  | listVehicles r =>
      refine Prog.Within.mono (m := 10) (within_respond ?_) (by decide)
      refine within_authenticated (within_catching (n := 6) ?_)
      dsimp only
      split
      · exact within_fail
      · exact within_withConn (within_run_bind within_addInt fun _ => within_page)
  | listConsumptions r | listChargings r =>
      refine Prog.Within.mono (m := 10) (within_respond ?_) (by decide)
      refine within_authenticated (within_catching (n := 6) ?_)
      dsimp only
      split
      · exact within_fail
      · exact within_run_bind within_addInt fun _ => within_withConn within_page
  | searchWeather r | searchSourceCategory r | getCostByChargerType r | getCostBySourceCategory r
  | getRangeAccuracy r | getTemperatureConsumptionCorrelation r =>
      refine Prog.Within.mono (m := 8) (within_respond ?_) (by decide)
      exact within_authenticated (within_catching within_readAll)
  | getDailyChargingReport r | getMonthlyChargingReport r | getAnnualChargingReport r =>
      refine Prog.Within.mono (m := 8) (within_respond ?_) (by decide)
      exact within_authenticated (within_validated (within_catching within_readAll))
  | getVehicleCostSummary r | getMonthlyReport r | getAnnualReport r =>
      refine Prog.Within.mono (m := 9) (within_respond ?_) (by decide)
      exact within_authenticated (within_validated (within_catching within_gatedReport))
  | getConsumptionEfficiency r =>
      refine Prog.Within.mono (m := 9) (within_respond ?_) (by decide)
      exact within_authenticated (within_catching (within_withConn
        (within_attempt_bind (o := .query (efficiencyKm r)) fun _ =>
          within_attempt_bind (o := .query (efficiencyKwh r)) fun _ =>
            within_attempt_bind (o := .convert _) fun _ => trivial)))

/-! ## Open scopes -/

/-- A protocol that counts the open log scopes. -/
def scoping : Protocol Op ℕ where
  pre
    | .setStatus _, n | .leave, n => 0 < n
    | _, _ => True
  next
    | .enter _ _ _, _, n => n + 1
    | .leave, _, n => n - 1
    | _, _, n => n

/-- With `n` scopes open, the program tells and leaves only open scopes, and ends with `n`. -/
def Scoped (n : ℕ) {α : Type} (p : Prog Op α) : Prop := p.Meets scoping n fun _ m => m = n

section Scoped
variable {α β ρ : Type} {n : ℕ}

theorem Scoped.bind {p : Prog Op α} {f : α → Prog Op β} (hp : Scoped n p)
    (hf : ∀ a, Scoped n (f a)) : Scoped n (p >>= f) := by
  unfold Scoped
  rw [Prog.meets_bind]
  refine hp.mono fun a m hm => ?_
  subst hm
  exact hf a

/-- The operations that neither open nor leave a scope. -/
def Op.scopeless {β : Type} : Op β → Bool
  | .enter _ _ _ | .leave | .setStatus _ => false
  | _ => true

theorem scoped_call {o : Op β} (ho : o.scopeless = true) : Scoped n (Prog.call o) := by
  cases o with
  | enter | leave | setStatus => cases ho
  | _ => exact ⟨trivial, fun _ => rfl⟩

theorem scoped_setStatus {s : Status} {a : α} :
    Scoped (n + 1) (Prog.call (.setStatus s) >>= fun _ => .done a) :=
  ⟨Nat.succ_pos n, fun _ => rfl⟩

theorem Scoped.run_bind {m : Rpc α} {f : α → Rpc β} (hm : Scoped n m.run)
    (hf : ∀ a, Scoped n (f a).run) : Scoped n (m >>= f).run := by
  rw [ExceptT.run_bind]
  refine hm.bind fun r => ?_
  cases r with
  | ok a => exact hf a
  | error e => exact rfl

theorem scoped_perform {o : Op β} (ho : o.scopeless = true) : Scoped n (perform o).run :=
  (scoped_call ho).bind fun _ => rfl

theorem Plain.scoped {m : Rpc α} (h : Plain m) : Scoped n m.run := by
  induction h with
  | pure a => exact rfl
  | exec q => exact scoped_call (o := .query q) rfl
  | convert r => exact scoped_call (o := .convert r) rfl
  | addInt a b =>
      unfold EvGrpc.addInt
      split
      · exact (scoped_perform (o := .undefined) rfl).run_bind fun _ => rfl
      · exact rfl
  | bind _ _ ihm ihf => exact ihm.run_bind ihf

theorem scoped_withConn {body : Rpc α} (h : Scoped n body.run) : Scoped n (withConn body).run := by
  have hrun : (withConn body).run = (Prog.call .acquire >>= fun _ => body.run >>= fun r =>
      Prog.call .release >>= fun _ => .done r) := rfl
  rw [hrun]
  exact (scoped_call rfl).bind fun _ => h.bind fun r => (scoped_call rfl).bind fun _ => rfl

theorem scoped_withWork {body : Rpc α} (h : Scoped n body.run) : Scoped n (withWork body).run := by
  rw [run_withWork]
  refine (scoped_call rfl).bind fun r => ?_
  cases r with
  | error e => exact rfl
  | ok => exact h.bind fun r => (scoped_call rfl).bind fun _ => rfl

theorem Body.scoped {req : Request} {ids : List Uuid} {b : Rpc (Reply ρ)} (h : Body req ids b) :
    Scoped (n + 1) b.run := by
  induction h with
  | fail s => exact scoped_setStatus
  | reply resp => exact rfl
  | commit resp => exact Scoped.run_bind (scoped_call (o := .commit) rfl) fun _ => rfl
  | plain hm _ ih => exact hm.scoped.run_bind ih
  | @write _ _ w _ _ _ ih => exact Scoped.run_bind (scoped_call (o := .write w) rfl) ih
  | newUuid _ ih => exact (scoped_perform (o := .newUuid) rfl).run_bind ih
  | withConn _ ih => exact scoped_withConn ih
  | withWork _ ih => exact scoped_withWork ih

theorem scoped_catching {body : Rpc (Reply ρ)} (h : Scoped (n + 1) body.run) :
    Scoped (n + 1) (catching body) := by
  refine h.bind fun r => ?_
  cases r with
  | ok r => exact rfl
  | error e => exact scoped_setStatus

theorem scoped_validated {s : Status} {body : Prog Op (Reply ρ)}
    (h : s.ok = true → Scoped (n + 1) body) : Scoped (n + 1) (validated s body) := by
  unfold validated
  by_cases hs : s.ok = true
  · rw [if_pos hs]
    exact h hs
  · rw [if_neg hs]
    exact scoped_setStatus

theorem Handler.scoped {req : Request} {p : Prog Op (Reply ρ)} (h : Handler req p) :
    Scoped (n + 1) p := by
  induction h with
  | catching hb => exact scoped_catching hb.scoped
  | validated s _ ih => exact scoped_validated ih

/-- The scope of a call is open behind the door, and no longer. -/
theorem scoped_authenticated {md : Metadata} {kMethod : String} {body : Prog Op (Reply ρ)}
    (h : Scoped (n + 1) body) : Scoped n (authenticated md kMethod body) := by
  refine ⟨trivial, fun a => ⟨trivial, fun _ => ?_⟩⟩
  refine (Prog.meets_bind (validated a.status body) _ _).mpr
    ((scoped_validated fun _ => h).mono fun r m hm => ?_)
  subst hm
  exact ⟨Nat.succ_pos n, fun _ => rfl⟩

theorem scoped_getVehicle {md : Metadata} {r : GetVehicleRequest} :
    Scoped n (getVehicle md r) := by
  have hbody : Body (.getVehicle r) [] (getRow (selectVehicle r.id) vehicleNotFound rowToVehicle) :=
    body_getRow ..
  exact scoped_authenticated (scoped_catching hbody.scoped)

theorem scoped_createVehicle {md : Metadata} {r : CreateVehicleRequest} :
    Scoped n (createVehicle md r) := by
  refine scoped_authenticated (scoped_catching (scoped_withConn (scoped_withWork ?_)))
  refine (scoped_perform (o := .newUuid) rfl).run_bind fun u => ?_
  refine Scoped.run_bind (scoped_call (o := .write _) rfl) fun _ => ?_
  refine Scoped.run_bind (scoped_call (o := .commit) rfl) fun _ => ?_
  refine Scoped.run_bind (m := callHandler _) (scoped_getVehicle.bind fun _ => rfl) fun read => ?_
  split
  · exact scoped_setStatus
  · exact rfl

theorem handle_scoped (call : Call) : Scoped 0 (handle call) := by
  by_cases hnests : call.req.nests = true
  · obtain ⟨md, req⟩ := call
    cases req with
    | createVehicle r => exact scoped_createVehicle.bind fun _ => rfl
    | _ => cases hnests
  · obtain ⟨ρ, f, kMethod, b, hb, he⟩ := handle_shape call (by simpa using hnests)
    rw [he]
    exact (scoped_authenticated hb.scoped).bind fun _ => rfl

end Scoped

/-- The open scopes of a call are what the protocol counts. -/
theorem machine_shows_scopes : machine.Shows scoping fun t => t.scopes.length := by
  intro β o c w t b w' t' h
  cases o with
  | enter method subject reqId =>
      cases h
      rfl
  | setStatus s | leave =>
      simp only [machine] at h
      split at h
      · cases h
      · rename_i hscopes
        cases h
        simp [scoping, hscopes]
  | _ =>
      simp only [machine] at h
      repeat' split at h
      all_goals cases h
      all_goals rfl

/-- Every call tells and leaves only scopes it has open. -/
theorem Server.Reached.scoped {Ok : Server → ServerAction → Prop} {s₀ s : Server}
    (h : Server.Reached Ok s₀ s) (h₀ : s₀.tasks = []) :
    ∀ x ∈ s.tasks, x.prog.Meets scoping x.loc.scopes.length fun _ m => m = 0 := by
  let J : Task Op Call Local (Reply Response) → Prop := fun x =>
    x.prog.Meets scoping x.loc.scopes.length fun _ m => m = 0
  refine tasks_invariant (J := J) h (by simp [h₀]) ?_ ?_
  · exact fun call => handle_scoped call
  · intro call t β o k c w b w' t' hJ hs
    have hshows : t'.scopes.length = scoping.next o b t.scopes.length :=
      machine_shows_scopes β o c w t b w' t' hs
    simp only [J, hshows]
    exact hJ.2 b

/-! ## No call is stuck -/

/-- The handler stands at a signed overflow. -/
def atOverflow {α : Type} : Prog Op α → Bool
  | .op .undefined _ => true
  | _ => false

/-- No call can take a step that leaves a spare connection. -/
def Server.Stuck (n : ℕ) (s : Server) : Prop :=
  ∀ i c, LeavesSpare n s (.step i c) → Server.act s (.step i c) = none

section Progress
variable {β : Type} {o : Op β} {w : World} {t : Local} {req : Request} {α : Type}
  {k : β → Prog Op α}

/-- Nothing but the pool can block a handler. -/
theorem exists_step (hscopes : scoping.pre o t.scopes.length)
    (hconns : (discipline req).pre o t.account) (hu : ∃ u, u ∉ w.issued)
    (hidle : atAcquire (.op o k) = true → w.idle ≠ []) (hover : atOverflow (.op o k) = false) :
    ∃ c r, machine.step o c w t = some r := by
  obtain ⟨u, hu⟩ := hu
  refine ⟨{ uuid := u }, ?_⟩
  cases o with
  | undefined => cases hover
  | acquire =>
      obtain ⟨x, xs, hcons⟩ := List.exists_cons_of_ne_nil (hidle rfl)
      simp [machine, hcons]
  | release =>
      have hpos : t.conns ≠ [] := List.length_pos_iff.mp hconns
      obtain ⟨x, xs, hcons⟩ := List.exists_cons_of_ne_nil hpos
      simp [machine, hcons]
  | setStatus s =>
      obtain ⟨x, xs, hcons⟩ := List.exists_cons_of_ne_nil (List.length_pos_iff.mp hscopes)
      simp [machine, hcons]
  | leave =>
      obtain ⟨x, xs, hcons⟩ := List.exists_cons_of_ne_nil (List.length_pos_iff.mp hscopes)
      simp [machine, hcons]
  | newUuid => simp [machine, hu]
  | query q => cases hreplay : replay w.db t.pending <;> simp [machine, hreplay, Choice.view]
  | write q =>
      cases hreplay : replay w.db t.pending with
      | none => simp [machine, hreplay]
      | some v => cases hrun : q.run v <;> simp [machine, hreplay, hrun]
  | commit => cases hreplay : replay w.db t.pending <;> simp [machine, hreplay]
  | _ => simp [machine]

end Progress

section Runs
variable {db : Database} {n : ℕ} {issued : List Uuid} {s : Server} {past : Past}

/-- A call that has returned holds nothing. -/
theorem Server.Reached.returned_holds_nothing {Ok : Server → ServerAction → Prop}
    (h : Server.Reached Ok (Server.start db n issued) s)
    {x : Task Op Call Local (Reply Response)} (hx : x ∈ s.tasks) {reply : Reply Response}
    (hdone : x.prog = .done reply) : x.loc.conns = [] ∧ x.loc.scopes = [] := by
  have hheld := (h.disciplined rfl x hx).meets
  have hopen := h.scoped rfl x hx
  rw [hdone] at hheld hopen
  exact ⟨List.length_eq_zero_iff.mp hheld, List.length_eq_zero_iff.mp hopen⟩

/-- A call that has not returned waits for a connection, when nobody can take a step; and if
there is one, the call is a `CreateVehicle` that is not let in. -/
theorem Server.Stuck.waits (h : Server.Reached (LeavesSpare n) (Server.start db n issued) s)
    (hstuck : s.Stuck n) (hu : ∃ u, u ∉ s.world.issued)
    (hover : ∀ x ∈ s.tasks, atOverflow x.prog = false)
    {x : Task Op Call Local (Reply Response)} (hx : x ∈ s.tasks)
    (hno : ∀ reply, x.prog ≠ .done reply) :
    atAcquire x.prog = true ∧
      (s.world.idle ≠ [] → x.loc.conns = [] ∧ ¬ s.nesting + 1 < n) := by
  obtain ⟨i, hi⟩ := List.mem_iff_getElem?.mp hx
  obtain ⟨call, t, p⟩ := x
  cases p with
  | done reply => exact absurd rfl (hno reply)
  | op o k =>
      have hscopes := (h.scoped rfl _ hx).1
      have hconns := (h.disciplined rfl _ hx).meets.1
      -- A step that is possible is one that the rule forbids.
      have hforbidden : (atAcquire (.op o k) = true → s.world.idle ≠ []) →
          ∃ c, ¬ LeavesSpare n s (.step i c) := by
        intro hidle
        obtain ⟨c, ⟨b, w', t'⟩, hstep⟩ := exists_step hscopes hconns hu hidle (hover _ hx)
        refine ⟨c, fun hleaves => ?_⟩
        have hnone := hstuck i c hleaves
        simp [Server.act, State.act, hi, hstep] at hnone
      have hstarts : ∀ c, ¬ LeavesSpare n s (.step i c) →
          (t.conns = [] ∧ atAcquire (.op o k) = true) ∧ ¬ s.nesting + 1 < n := by
        intro c hc
        simp only [LeavesSpare, Server.startsNesting, hi] at hc
        simp only [Bool.and_eq_true, decide_eq_true_eq, Classical.not_imp] at hc
        exact ⟨⟨hc.1.1.2, hc.1.2⟩, hc.2⟩
      by_cases hacq : atAcquire (.op o k) = true
      · refine ⟨hacq, fun hidle => ?_⟩
        obtain ⟨c, hc⟩ := hforbidden fun _ => hidle
        exact ⟨(hstarts c hc).1.1, (hstarts c hc).2⟩
      · obtain ⟨c, hc⟩ := hforbidden fun h => absurd h hacq
        exact absurd (hstarts c hc).1.2 hacq

/-- When nobody can take a step, everybody has returned. -/
theorem Server.Stuck.returned (hn : 2 ≤ n)
    (h : Server.Reached (LeavesSpare n) (Server.start db n issued) s) (hstuck : s.Stuck n)
    (hu : ∃ u, u ∉ s.world.issued) (hover : ∀ x ∈ s.tasks, atOverflow x.prog = false) :
    ∀ x ∈ s.tasks, ∃ reply, x.prog = .done reply := by
  have hheld : ∀ x ∈ s.tasks, x.loc.conns ≠ [] → ∀ reply, x.prog ≠ .done reply :=
    fun x hx hconns reply hdone => hconns (h.returned_holds_nothing hx hdone).1
  intro x hx
  by_contra hreturned
  have hno : ∀ reply, x.prog ≠ .done reply := fun reply hdone => hreturned ⟨reply, hdone⟩
  by_cases hidle : s.world.idle = []
  · -- Every holder waits for a second connection, which the rule excludes.
    refine not_deadlocked (by omega) h ⟨hidle, fun y hy hconns => ?_⟩
    exact (hstuck.waits h hu hover hy (hheld y hy hconns)).1
  · -- The call is kept out on account of a holder, which itself could go on.
    obtain ⟨-, hspare⟩ := (hstuck.waits h hu hover hx hno).2 hidle
    have hpos : 0 < s.nesting := by omega
    obtain ⟨y, hy, hholder⟩ := List.countP_pos_iff.mp hpos
    simp only [nestingHolder, Bool.and_eq_true, decide_eq_true_eq] at hholder
    exact hholder.2 ((hstuck.waits h hu hover hy (hheld y hy hholder.2)).2 hidle).1

/-- In a run that keeps one connection out of the hands of `CreateVehicle`, there are at most
twenty-one actions for each call; and when no call can take another step, and none stands at an
overflow, all calls have returned, hold nothing, and the pool is full. -/
theorem calls_complete (hn : 2 ≤ n) (h : Server.Run db n issued past s)
    (hrule : ∀ y ∈ past, LeavesSpare n y.1 y.2) :
    past.length ≤ 21 * s.tasks.length ∧
      (s.Stuck n → (∃ u, u ∉ s.world.issued) → (∀ x ∈ s.tasks, atOverflow x.prog = false) →
        (∀ x ∈ s.tasks, (∃ reply, x.prog = .done reply) ∧ x.loc.conns = [] ∧ x.loc.scopes = []) ∧
        s.world.idle.Perm (List.range n)) := by
  have hreach : Server.Reached (LeavesSpare n) (Server.start db n issued) s :=
    Lib.Run.reach h hrule
  refine ⟨Run.length_le h rfl handle_within, fun hstuck hu hover => ?_⟩
  have hall : ∀ x ∈ s.tasks,
      (∃ reply, x.prog = .done reply) ∧ x.loc.conns = [] ∧ x.loc.scopes = [] := by
    intro x hx
    obtain ⟨reply, hdone⟩ := hstuck.returned hn hreach hu hover x hx
    exact ⟨⟨reply, hdone⟩, hreach.returned_holds_nothing hx hdone⟩
  refine ⟨hall, ?_⟩
  have hnone : (s.tasks.flatMap fun x => x.loc.conns) = [] :=
    List.flatMap_eq_nil_iff.mpr fun x hx => (hall x hx).2.1
  have hconserved := hreach.conns_conserved
  rwa [hnone, List.append_nil] at hconserved

/-- A call that has returned takes no step. -/
theorem Server.stuck_of_returned (h : ∀ x ∈ s.tasks, (returned? x.prog).isSome = true) :
    s.Stuck n := by
  intro i c _
  cases hi : s.tasks[i]? with
  | none => simp [Server.act, State.act, hi]
  | some x =>
      obtain ⟨reply, hreply⟩ := Option.isSome_iff_exists.mp (h x (List.mem_of_getElem? hi))
      obtain ⟨call, t, p⟩ := x
      have hdone : p = .done reply := returned?_eq_some hreply
      subst hdone
      simp [Server.act, State.act, hi]

end Runs

end EvGrpc
