import EvGrpc.Reports.OneState
import EvGrpc.Services.Written

/-!
# Calls that depend on one moment

What a call has been told about the rows when it is somewhere in its handler (`Stage`), and
the rule that it is never told anything about two different moments (`moment`).  A call may
send the statements of its transaction as it likes, because the commit applies them again;
what it reads on the way has to follow from these statements.  A question outside a
transaction, a statement that throws, and a transaction that is given up are told about a
moment, and after that the call asks no more.

All handlers keep the rule but the four reports that ask twice (`handle_moment`).
`CreateVehicle` keeps it up to its commit and reads after it, which the rule lets it do.
-/

namespace EvGrpc

open Lib

/-! ## The rule -/

/-- What a call has been told about the rows. -/
inductive Stage
  /-- how the statements of its transaction were answered, and nothing else -/
  | stated (ps : List Pending)
  /-- something about one moment -/
  | told
  /-- that it has no access, or that an operation threw -/
  | failed
  /-- that its transaction was committed -/
  | committed

/-- What the statement finds follows from the statements of the transaction. -/
def Determined {ρ : Type} (ps : List Pending) (q : Database → Except Exn ρ) : Prop :=
  ∀ d v x d' v' x', replay d ps = some v → v.SameRows x → replay d' ps = some v' →
    v'.SameRows x' → q x = q x'

namespace Stage

/-- Only the statements of the transaction are known. -/
def isStated : Stage → Prop
  | .stated _ => True
  | _ => False

/-- A question may be asked that stands alone, or follows from the statements; `nests` is set
for the call that reads after its commit. -/
def mayAsk (nests : Bool) {ρ : Type} (q : Database → Except Exn ρ) : Stage → Prop
  | .stated ps => ps = [] ∨ Determined ps q
  | .committed => nests = true
  | _ => False

/-- Text may be read from a result. -/
def mayConvert (nests : Bool) : Stage → Prop
  | .stated _ | .told => True
  | .committed => nests = true
  | .failed => False

/-- After a commit or a failure nothing else is learned. -/
def turn (st st' : Stage) : Stage :=
  match st with
  | .committed => .committed
  | .failed => .failed
  | _ => st'

/-- An answer, or an exception. -/
def answered {ρ : Type} (f : ρ → Stage) : Except Exn ρ → Stage
  | .error _ => .failed
  | .ok a => f a

/-- A question was answered. -/
def asked : Stage → Stage
  | .stated [] => .told
  | st => st

/-- A statement was answered. -/
def wrote {ρ : Type} (w : Write ρ) (st : Stage) (r : ρ) : Stage :=
  match st with
  | .stated ps => .stated (ps ++ [⟨w, r⟩])
  | st => st

/-- The transaction was given up. -/
def ended : Stage → Stage
  | .stated (_ :: _) => .told
  | st => st

end Stage

/-- The rule, as a protocol. -/
def moment (nests : Bool) : Protocol Op Stage where
  pre
    | .auth _ _, st => st = .stated [] ∨ (st = .committed ∧ nests = true)
    | .beginWork, st => st = .stated []
    | .query q, st => st.mayAsk nests q
    | .write _, st | .commit, st => st.isStated
    | .undefined, st => st ≠ .committed
    | .convert _, st => st.mayConvert nests
    | .enter _ _ _, _ | .setStatus _, _ | .leave, _ | .acquire, _ | .release, _ | .endWork, _
    | .newUuid, _ => True
  next
    | .auth _ _, a, st => st.turn (if a.status.ok then st else .failed)
    | .beginWork, r, st => st.turn (Stage.answered (fun _ => st) r)
    | .query _, r, st => st.turn (Stage.answered (fun _ => st.asked) r)
    | .write w, r, st => st.turn (Stage.answered (st.wrote w) r)
    | .commit, r, st => st.turn (Stage.answered (fun _ => .committed) r)
    | .convert _, r, st => st.turn (Stage.answered (fun _ => st) r)
    | .endWork, _, st => st.ended
    | .enter _ _ _, _, st | .setStatus _, _, st | .leave, _, st | .acquire, _, st
    | .release, _, st | .newUuid, _, st | .undefined, _, st => st

/-- A reply after a failure is not OK. -/
def RefusesFailed {ρ : Type} (r : Reply ρ) (st : Stage) : Prop := st = .failed → r.1.ok = false

/-- A `try` block that has failed ends by throwing. -/
def ThrowsFailed {α : Type} : Except Exn α → Stage → Prop
  | .ok _, st => st ≠ .failed
  | .error _, _ => True

/-! ## Rules for the shapes -/

section Shapes
variable {nests : Bool} {st : Stage} {α β ρ : Type}

theorem moment_pure {a : α} (h : st ≠ .failed) :
    (pure a : Rpc α).run.Meets (moment nests) st ThrowsFailed := h

/-- An operation that may throw. -/
theorem moment_attempt_bind {o : Op (Except Exn β)} {f : β → Rpc α} (hpre : (moment nests).pre o st)
    (hf : ∀ b, (f b).run.Meets (moment nests) ((moment nests).next o (.ok b) st) ThrowsFailed) :
    (attempt o >>= f).run.Meets (moment nests) st ThrowsFailed := by
  refine ⟨hpre, fun r => ?_⟩
  cases r with
  | ok b => exact hf b
  | error e => exact trivial

/-- An operation that cannot throw. -/
theorem moment_perform_bind {o : Op β} {f : β → Rpc α} (hpre : (moment nests).pre o st)
    (hf : ∀ b, (f b).run.Meets (moment nests) ((moment nests).next o b st) ThrowsFailed) :
    (perform o >>= f).run.Meets (moment nests) st ThrowsFailed :=
  ⟨hpre, hf⟩

/-- A question that stands alone. -/
theorem moment_exec_bind {q : Database → Except Exn β} {f : β → Rpc α}
    (hf : ∀ b, (f b).run.Meets (moment nests) .told ThrowsFailed) :
    (exec q >>= f).run.Meets (moment nests) (.stated []) ThrowsFailed :=
  moment_attempt_bind (o := .query q) (.inl rfl) hf

theorem moment_convert_told {r : Except Exn β} {f : β → Rpc α}
    (hf : ∀ b, (f b).run.Meets (moment nests) .told ThrowsFailed) :
    (convert r >>= f).run.Meets (moment nests) .told ThrowsFailed :=
  moment_attempt_bind (o := .convert r) trivial hf

theorem moment_convert_stated {r : Except Exn β} {f : β → Rpc α} {ps : List Pending}
    (hf : ∀ b, (f b).run.Meets (moment nests) (.stated ps) ThrowsFailed) :
    (convert r >>= f).run.Meets (moment nests) (.stated ps) ThrowsFailed :=
  moment_attempt_bind (o := .convert r) trivial hf

theorem moment_execWrite_bind {w : Write β} {f : β → Rpc α} {ps : List Pending}
    (hf : ∀ b, (f b).run.Meets (moment nests) (.stated (ps ++ [⟨w, b⟩])) ThrowsFailed) :
    (execWrite w >>= f).run.Meets (moment nests) (.stated ps) ThrowsFailed :=
  moment_attempt_bind (o := .write w) trivial hf

theorem moment_commit_bind {f : Unit → Rpc α} {ps : List Pending}
    (hf : (f ()).run.Meets (moment nests) .committed ThrowsFailed) :
    (commit >>= f).run.Meets (moment nests) (.stated ps) ThrowsFailed :=
  moment_attempt_bind (o := .commit) trivial fun _ => hf

theorem moment_newUuid_bind {f : Uuid → Rpc α} {ps : List Pending}
    (hf : ∀ u, (f u).run.Meets (moment nests) (.stated ps) ThrowsFailed) :
    (newUuid >>= f).run.Meets (moment nests) (.stated ps) ThrowsFailed :=
  moment_perform_bind (o := .newUuid) trivial hf

theorem moment_fail {s : Status} (h : st ≠ .failed) :
    (fail s : Rpc (Reply ρ)).run.Meets (moment nests) st ThrowsFailed :=
  ⟨trivial, fun _ => h⟩

theorem moment_addInt_bind {a b : ℤ} {f : ℤ → Rpc α} (h : st ≠ .committed)
    (hf : ∀ n, (f n).run.Meets (moment nests) st ThrowsFailed) :
    (addInt a b >>= f).run.Meets (moment nests) st ThrowsFailed := by
  unfold addInt
  split
  · exact ⟨h, fun _ => hf (a + b)⟩
  · exact hf (a + b)

/-- Giving the connection back tells nothing. -/
theorem moment_withConn {body : Rpc α} (h : body.run.Meets (moment nests) st ThrowsFailed) :
    (withConn body).run.Meets (moment nests) st ThrowsFailed := by
  refine ⟨trivial, fun _ => ?_⟩
  exact (Prog.meets_bind (ExceptT.run body) _ _).mpr (h.mono fun r st' hr => ⟨trivial, fun _ => hr⟩)

theorem moment_withWork {body : Rpc α} (h : body.run.Meets (moment nests) (.stated []) ThrowsFailed) :
    (withWork body).run.Meets (moment nests) (.stated []) ThrowsFailed := by
  rw [run_withWork]
  refine ⟨rfl, fun r => ?_⟩
  cases r with
  | error e => exact trivial
  | ok =>
      refine (Prog.meets_bind (ExceptT.run body) _ _).mpr (h.mono fun r st hr => ⟨trivial, fun _ => ?_⟩)
      cases r with
      | error e => exact trivial
      | ok a =>
          cases st with
          | failed => exact absurd rfl hr
          | stated ps => cases ps <;> exact Stage.noConfusion
          | _ => exact hr

/-- What is thrown becomes a status that is not OK. -/
theorem moment_catching {body : Rpc (Reply ρ)}
    (h : body.run.Meets (moment nests) st ThrowsFailed) :
    (catching body).Meets (moment nests) st RefusesFailed := by
  refine (Prog.meets_bind (ExceptT.run body) _ _).mpr (h.mono fun r st hr => ?_)
  cases r with
  | ok r => exact fun hst => absurd hst hr
  | error e => exact ⟨trivial, fun _ _ => ok_toGrpcStatus e⟩

theorem moment_validated {s : Status} {body : Prog Op (Reply ρ)}
    (h : s.ok = true → body.Meets (moment nests) (.stated []) RefusesFailed) :
    (validated s body).Meets (moment nests) (.stated []) RefusesFailed := by
  unfold validated
  by_cases hs : s.ok = true
  · rw [if_pos hs]
    exact h hs
  · rw [if_neg hs]
    exact ⟨trivial, fun _ _ => by simpa using hs⟩

/-- The body is behind the door, and what is refused there is refused. -/
theorem moment_authenticated {md : Metadata} {kMethod : String} {body : Prog Op (Reply ρ)}
    (h : body.Meets (moment nests) (.stated []) RefusesFailed) :
    (authenticated md kMethod body).Meets (moment nests) (.stated []) RefusesFailed := by
  have hleave : ∀ (r : Reply ρ) (st : Stage), RefusesFailed r st →
      (Prog.call .leave >>= fun _ => .done r).Meets (moment nests) st RefusesFailed :=
    fun r st hr => ⟨trivial, fun _ => hr⟩
  have hprog : authenticated md kMethod body = (Prog.call (.auth md kMethod) >>= fun a =>
      Prog.call (.enter kMethod a.subject a.reqId) >>= fun _ => validated a.status body >>= fun r =>
        Prog.call .leave >>= fun _ => .done r) := rfl
  rw [hprog]
  refine ⟨.inl rfl, fun a => ⟨trivial, fun _ =>
    (Prog.meets_bind (validated a.status body) _ _).mpr ?_⟩⟩
  by_cases ha : a.status.ok = true
  · have hst : (moment nests).next (.enter kMethod a.subject a.reqId) ()
        ((moment nests).next (.auth md kMethod) a (.stated [])) = .stated [] := by
      simp [moment, Stage.turn, ha]
    rw [hst]
    exact (moment_validated fun _ => h).mono hleave
  · have hst : (moment nests).next (.enter kMethod a.subject a.reqId) ()
        ((moment nests).next (.auth md kMethod) a (.stated [])) = .failed := by
      simp [moment, Stage.turn, ha]
    rw [hst]
    unfold validated
    rw [if_neg ha]
    exact ⟨trivial, fun _ => hleave _ _ fun _ => by simpa using ha⟩

theorem moment_respond {f : ρ → Response} {p : Prog Op (Reply ρ)}
    (h : p.Meets (moment nests) st RefusesFailed) :
    (respond f p).Meets (moment nests) st RefusesFailed :=
  (Prog.meets_bind p _ _).mpr (h.mono fun _ _ hr => hr)

end Shapes

/-! ## Shared bodies -/

section Bodies
variable {nests : Bool} {α β ρ : Type}

theorem moment_firstRow {s : Status} {f : α → Rpc (Reply ρ)} {st : Stage} (h : st ≠ .failed)
    (hf : ∀ r, (f r).run.Meets (moment nests) st ThrowsFailed) (result : List α) :
    (firstRow s f result).run.Meets (moment nests) st ThrowsFailed := by
  cases result with
  | nil => exact moment_fail h
  | cons r rs => exact hf r

theorem moment_getRow {q : Database → Except Exn (List α)} {s : Status} {row : α → Except Exn ρ} :
    (getRow q s row).run.Meets (moment nests) (.stated []) ThrowsFailed := by
  refine moment_withConn (moment_exec_bind fun result => ?_)
  exact moment_firstRow Stage.noConfusion
    (fun r => moment_convert_told fun resp => moment_pure Stage.noConfusion) result

theorem moment_convertAndCommit {r : Except Exn ρ} {ps : List Pending} :
    (do
      let resp ← convert r
      commit
      return (.OK, some resp) : Rpc (Reply ρ)).run.Meets (moment nests) (.stated ps)
        ThrowsFailed :=
  moment_convert_stated fun _ => moment_commit_bind (moment_pure Stage.noConfusion)

/-- The row is read back before the commit, and the statement alone says what is found. -/
theorem moment_insertRow {w : Write Unit} {q : Database → Except Exn (List α)}
    {row : α → Except Exn ρ} (hq : Determined [⟨w, ()⟩] q) :
    (insertRow w q row).run.Meets (moment nests) (.stated []) ThrowsFailed := by
  refine moment_execWrite_bind fun _ => ?_
  refine moment_attempt_bind (o := .query q) (.inr hq) fun inserted => ?_
  exact moment_firstRow Stage.noConfusion (fun r => moment_convertAndCommit) inserted

theorem moment_updateRow {w : Write (List α)} {s : Status} {row : α → Except Exn ρ} :
    (updateRow w s row).run.Meets (moment nests) (.stated []) ThrowsFailed := by
  refine moment_withConn (moment_withWork (moment_execWrite_bind fun result => ?_))
  exact moment_firstRow Stage.noConfusion (fun r => moment_convertAndCommit) result

theorem moment_deleteRow {w : Write ℕ} {s : Status} :
    (deleteRow w s).run.Meets (moment nests) (.stated []) ThrowsFailed := by
  refine moment_withConn (moment_withWork (moment_execWrite_bind fun affected => ?_))
  by_cases h : affected = 0
  · rw [if_pos h]
    exact moment_fail Stage.noConfusion
  · rw [if_neg h]
    exact moment_commit_bind (moment_pure Stage.noConfusion)

theorem moment_readAll {q : Database → Except Exn α} {f : α → Except Exn ρ} :
    (readAll q f).run.Meets (moment nests) (.stated []) ThrowsFailed :=
  moment_withConn (moment_exec_bind fun _ => moment_convert_told fun _ =>
    moment_pure Stage.noConfusion)

/-- The three list RPCs make a page of what their one question found. -/
theorem moment_page {q : Database → Except Exn (List α)} {row : α → Except Exn β}
    {pageSize offset : ℤ} {f : List β × String → ρ} :
    (do
      let result ← exec q
      let page ← listPage row pageSize offset result
      return (.OK, some (f page)) : Rpc (Reply ρ)).run.Meets (moment nests) (.stated [])
        ThrowsFailed := by
  refine moment_exec_bind fun result => ?_
  unfold listPage
  rw [bind_assoc]
  refine moment_convert_told fun page => ?_
  dsimp only
  split
  · rw [map_eq_pure_bind, bind_assoc, bind_assoc]
    exact moment_addInt_bind Stage.noConfusion fun n => moment_pure Stage.noConfusion
  · exact moment_pure Stage.noConfusion

theorem moment_createLookup {kMethod : String} {insert : List Param → Write Unit}
    {message : String → String → ρ} {md : Metadata} {name : String} :
    (createLookup kMethod insert message md name).Meets (moment nests) (.stated [])
      RefusesFailed := by
  refine moment_authenticated (moment_catching (moment_withConn (moment_withWork ?_)))
  refine moment_newUuid_bind fun u => moment_execWrite_bind fun _ => ?_
  exact moment_commit_bind (moment_pure Stage.noConfusion)

end Bodies

/-! ## What is read back -/

section ReadBack
variable {ρ : Type}

/-- What is found is the same wherever the statements apply. -/
theorem determined_of {ps : List Pending} {q : Database → Except Exn ρ} (a : Except Exn ρ)
    (h : ∀ d v x, replay d ps = some v → v.SameRows x → q x = a) : Determined ps q := by
  intro d v x d' v' x' hv hx hv' hx'
  rw [h d v x hv hx, h d' v' x' hv' hx']

/-- The row that was inserted is read back. -/
theorem determined_selectConsumption (u : Uuid) (req : CreateConsumptionRequest) :
    Determined [⟨.insertConsumption (consumptionParams (uuidOut u) req), ()⟩]
      (selectConsumption (uuidOut u)) := by
  cases hrow : consumptionRow (consumptionColumn (uuidOut u) req) with
  | error e =>
      refine determined_of (.error e) fun d v x hv _ => ?_
      obtain ⟨v', hrun, -⟩ := (replay_cons ..).mp hv
      obtain ⟨row, -, hrow'⟩ := run_insertConsumption hrun
      rw [funext (placeholder_consumptionParams _ _), hrow] at hrow'
      cases hrow'
  | ok row =>
      refine determined_of (.ok [row]) fun d v x hv hx => ?_
      obtain ⟨v', hrun, hnil⟩ := (replay_cons ..).mp hv
      cases hnil
      obtain ⟨row', hmem, hrow'⟩ := run_insertConsumption hrun
      rw [funext (placeholder_consumptionParams _ _), hrow] at hrow'
      cases hrow'
      have hid : uuidIn (uuidOut u) = some row.id := asUuid_text (consumptionRow_ok hrow).id
      exact selectConsumption_eq (hx.2.2.2.1.mem_iff.mp hmem) hid

theorem determined_selectCharging (u : Uuid) (req : CreateChargingRequest) :
    Determined [⟨.insertCharging (chargeParams (uuidOut u) req), ()⟩]
      (selectCharging (uuidOut u)) := by
  cases hrow : chargingRow (chargingColumn (uuidOut u) req) with
  | error e =>
      refine determined_of (.error e) fun d v x hv _ => ?_
      obtain ⟨v', hrun, -⟩ := (replay_cons ..).mp hv
      obtain ⟨row, -, hrow'⟩ := run_insertCharging hrun
      rw [funext (placeholder_chargeParams _ _), hrow] at hrow'
      cases hrow'
  | ok row =>
      refine determined_of (.ok [row]) fun d v x hv hx => ?_
      obtain ⟨v', hrun, hnil⟩ := (replay_cons ..).mp hv
      cases hnil
      obtain ⟨row', hmem, hrow'⟩ := run_insertCharging hrun
      rw [funext (placeholder_chargeParams _ _), hrow] at hrow'
      cases hrow'
      have hid : uuidIn (uuidOut u) = some row.id := asUuid_text (chargingRow_ok hrow).id
      exact selectCharging_eq (hx.2.2.2.2.mem_iff.mp hmem) hid

end ReadBack

/-! ## Every handler -/

/-- After the commit a program that only asks stays where it is. -/
theorem Sends.committed {qs : List Statement} {m : ℕ} {α : Type} {p : Prog Op α}
    (h : Sends qs m p) : p.Meets (moment true) .committed fun _ st => st = .committed := by
  induction p generalizing m with
  | done a => rfl
  | op o k ih =>
      have hpre : (sending qs).pre o m := h.1
      cases o with
      | auth | query => exact ⟨by simp [moment, Stage.mayAsk], fun r => ih r (h.2 r)⟩
      | beginWork | endWork | newUuid | write | commit | undefined => cases hpre
      | _ => exact ⟨by simp [moment, Stage.mayConvert], fun r => ih r (h.2 r)⟩

theorem moment_createVehicle {md : Metadata} {r : CreateVehicleRequest} :
    (createVehicle md r).Meets (moment true) (.stated []) RefusesFailed := by
  refine moment_authenticated (moment_catching (moment_withConn (moment_withWork ?_)))
  refine moment_newUuid_bind fun u => moment_execWrite_bind fun _ => moment_commit_bind ?_
  -- The nested call only asks.
  have hget : Sends [⟨selectVehicle (uuidOut u)⟩] 0 (getVehicle md ⟨uuidOut u⟩) := by
    refine sends_authenticated (sends_catching (sends_withConn (sends_exec_bind rfl fun rows => ?_)))
    cases rows with
    | nil => exact sends_setStatus _ _
    | cons row rows => exact sends_convert_pure
  have hcall : (callHandler (getVehicle md ⟨uuidOut u⟩)).run.Meets (moment true) .committed
      fun _ st => st = .committed := by
    have hrun : (callHandler (getVehicle md ⟨uuidOut u⟩)).run =
        (getVehicle md ⟨uuidOut u⟩ >>= fun a => .done (.ok a)) := rfl
    rw [hrun, Prog.meets_bind]
    exact hget.committed
  rw [ExceptT.run_bind]
  refine (Prog.meets_bind _ _ _).mpr (hcall.mono fun read st hst => ?_)
  subst hst
  cases read with
  | error e => exact trivial
  | ok read =>
      dsimp only
      split
      · exact moment_fail Stage.noConfusion
      · exact moment_pure Stage.noConfusion

/-- Every handler depends on one moment, except for the reports that ask twice. -/
theorem handle_moment (call : Call) (h : call.req.statements.length ≤ 1) :
    (handle call).Meets (moment call.req.nests) (.stated []) RefusesFailed := by
  obtain ⟨md, req⟩ := call
  cases req with
  | createVehicle r => exact moment_respond moment_createVehicle
  | getVehicle r | getConsumption r | getCharging r =>
      exact moment_respond (moment_authenticated (moment_catching moment_getRow))
  | updateVehicle r =>
      exact moment_respond (moment_authenticated (moment_catching moment_updateRow))
  | updateConsumption r | updateCharging r =>
      exact moment_respond (moment_authenticated (moment_validated fun _ =>
        moment_catching moment_updateRow))
  | deleteVehicle r | deleteConsumption r | deleteCharging r =>
      exact moment_respond (moment_authenticated (moment_catching moment_deleteRow))
  | createWeather r | createSourceCategory r => exact moment_respond moment_createLookup
  | createConsumption r =>
      refine moment_respond (moment_authenticated (moment_validated fun _ => moment_catching
        (moment_withConn (moment_withWork (moment_newUuid_bind fun u => ?_)))))
      exact moment_insertRow (determined_selectConsumption u r)
  | createCharging r =>
      refine moment_respond (moment_authenticated (moment_validated fun _ => moment_catching
        (moment_newUuid_bind fun u => moment_withConn (moment_withWork ?_))))
      exact moment_insertRow (determined_selectCharging u r)
  | listVehicles r =>
      refine moment_respond (moment_authenticated (moment_catching ?_))
      dsimp only
      split
      · exact moment_fail Stage.noConfusion
      · exact moment_withConn (moment_addInt_bind Stage.noConfusion fun _ => moment_page)
  | listConsumptions r | listChargings r =>
      refine moment_respond (moment_authenticated (moment_catching ?_))
      dsimp only
      split
      · exact moment_fail Stage.noConfusion
      · exact moment_addInt_bind Stage.noConfusion fun _ => moment_withConn moment_page
  | searchWeather r | searchSourceCategory r | getCostByChargerType r | getCostBySourceCategory r
  | getRangeAccuracy r | getTemperatureConsumptionCorrelation r =>
      exact moment_respond (moment_authenticated (moment_catching moment_readAll))
  | getDailyChargingReport r | getMonthlyChargingReport r | getAnnualChargingReport r =>
      exact moment_respond (moment_authenticated (moment_validated fun _ =>
        moment_catching moment_readAll))
  | getVehicleCostSummary r | getMonthlyReport r | getAnnualReport r | getConsumptionEfficiency r =>
      simp [Request.statements] at h

end EvGrpc
