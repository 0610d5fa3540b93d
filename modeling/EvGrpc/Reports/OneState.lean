import EvGrpc.Lib.Notes
import EvGrpc.Pool
import EvGrpc.Reports.Period

/-!
# Reports and the state they are about

A report runs outside a transaction, so each of its statements meets the rows committed by
then.  Seven of the eleven reports ask one question, and their answer is about the rows
it met.  The other four ask twice (`Request.statements`): between the questions other calls
may commit, and the answer may be about rows that never were in the database together
(`deleted_in_between`).

Each call of a run is watched (`Watch`): the choices made in its steps, the databases that
existed during the call, and those its statements met.  A report reflects one of the
databases that existed during the call as soon as one of its statements answers alike on
the two databases they met (`display_reflects_one_state`).
-/

namespace EvGrpc

open Lib

/-! ## The statements of a report -/

/-- A statement that reads. -/
structure Statement where
  {Row : Type}
  answer : Database → Except Exn Row

/-- The statement may answer `b`: the rows have no order of their own. -/
def Statement.MayAnswer (q : Statement) (d : Database) (b : Except Exn q.Row) : Prop :=
  ∃ v, d.SameRows v ∧ q.answer v = b

/-- The statement has the same answers on two databases. -/
def Statement.Agrees (q : Statement) (d d' : Database) : Prop :=
  ∀ b, q.MayAnswer d b ↔ q.MayAnswer d' b

theorem Statement.Agrees.refl (q : Statement) (d : Database) : q.Agrees d d := fun _ => Iff.rfl

theorem Statement.Agrees.symm {q : Statement} {d d' : Database} (h : q.Agrees d d') :
    q.Agrees d' d := fun b => (h b).symm

/-- The statements of a report, in the order they are sent in. -/
def Request.statements : Request → List Statement
  | .getVehicleCostSummary r => [⟨costSummaryExists r⟩, ⟨costSummary r⟩]
  | .getMonthlyReport r =>
      [⟨periodExists (monthPeriod r.year r.month) r.vehicleId⟩,
        ⟨periodTotals (monthPeriod r.year r.month) r.vehicleId⟩]
  | .getAnnualReport r =>
      [⟨periodExists (inYear r.year) r.vehicleId⟩, ⟨periodTotals (inYear r.year) r.vehicleId⟩]
  | .getConsumptionEfficiency r => [⟨efficiencyKm r⟩, ⟨efficiencyKwh r⟩]
  | .getCostByChargerType r => [⟨costByChargerType r⟩]
  | .getCostBySourceCategory r => [⟨costBySourceCategory r⟩]
  | .getRangeAccuracy r => [⟨rangeAccuracy r⟩]
  | .getTemperatureConsumptionCorrelation r => [⟨temperatureBuckets r⟩]
  | .getDailyChargingReport r => [⟨dailyCharging r⟩]
  | .getMonthlyChargingReport r => [⟨monthlyCharging r⟩]
  | .getAnnualChargingReport r => [⟨annualCharging r⟩]
  | _ => []

theorem Request.statements_length_le (r : Request) : r.statements.length ≤ 2 := by
  cases r <;> simp [Request.statements]

/-- A protocol that lets a call send the given statements, one after the other. -/
def sending (qs : List Statement) : Protocol Op ℕ where
  pre
    | .auth _ _, _ | .enter _ _ _, _ | .setStatus _, _ | .leave, _ | .acquire, _ | .release, _
    | .convert _, _ => True
    | .query q, m => qs[m]? = some ⟨q⟩
    | .beginWork, _ | .endWork, _ | .newUuid, _ | .write _, _ | .commit, _ | .undefined, _ => False
  next
    | .query _, _, m => m + 1
    | _, _, m => m

/-- The program sends no statements but those from the `m`-th on, in their order. -/
def Sends (qs : List Statement) (m : ℕ) {α : Type} (p : Prog Op α) : Prop :=
  p.Meets (sending qs) m fun _ _ => True

section Sending
variable {qs : List Statement} {m : ℕ} {α β ρ : Type}

theorem sends_done (a : α) : Sends qs m (.done a : Prog Op α) := trivial

/-- Nothing is asked after the first program. -/
theorem Sends.bind {p : Prog Op α} {f : α → Prog Op β} (hp : Sends qs m p)
    (hf : ∀ a m, Sends qs m (f a)) : Sends qs m (p >>= f) := by
  unfold Sends
  rw [Prog.meets_bind]
  exact hp.mono fun a m' _ => hf a m'

/-- An operation that asks nothing. -/
theorem sends_call_bind {o : Op β} {f : β → Prog Op α} (ho : (sending qs).pre o m)
    (hnext : ∀ b, (sending qs).next o b m = m) (hf : ∀ b, Sends qs m (f b)) :
    Sends qs m (Prog.call o >>= f) := by
  refine ⟨ho, fun b => ?_⟩
  rw [hnext]
  exact hf b

/-- The next statement. -/
theorem sends_exec_bind {q : Database → Except Exn ρ} {f : ρ → Rpc α} (hq : qs[m]? = some ⟨q⟩)
    (hf : ∀ a, Sends qs (m + 1) (f a).run) : Sends qs m (exec q >>= f).run := by
  refine ⟨hq, fun b => ?_⟩
  cases b with
  | ok a => exact hf a
  | error e => exact sends_done _

theorem sends_convert_pure {r : Except Exn ρ} {f : ρ → α} :
    Sends qs m (convert r >>= fun b => pure (f b) : Rpc α).run := by
  refine ⟨trivial, fun b => ?_⟩
  cases b with
  | ok a => exact sends_done _
  | error e => exact sends_done _

theorem sends_setStatus (s : Status) (a : α) :
    Sends qs m (Prog.call (.setStatus s) >>= fun _ => .done a) :=
  sends_call_bind trivial (fun _ => rfl) fun _ => sends_done a

theorem sends_withConn {body : Rpc α} (h : Sends qs m body.run) : Sends qs m (withConn body).run :=
  sends_call_bind (o := .acquire) trivial (fun _ => rfl) fun _ => h.bind fun r _ =>
    sends_call_bind (o := .release) trivial (fun _ => rfl) fun _ => sends_done r

theorem sends_catching {body : Rpc (Reply ρ)} (h : Sends qs m body.run) : Sends qs m (catching body) := by
  refine h.bind fun r _ => ?_
  cases r with
  | ok r => exact sends_done r
  | error e => exact sends_setStatus _ _

theorem sends_validated {s : Status} {body : Prog Op (Reply ρ)} (h : Sends qs m body) :
    Sends qs m (validated s body) := by
  unfold validated
  split
  · exact h
  · exact sends_setStatus s _

theorem sends_authenticated {md : Metadata} {kMethod : String} {body : Prog Op (Reply ρ)}
    (h : Sends qs m body) : Sends qs m (authenticated md kMethod body) :=
  sends_call_bind (o := .auth md kMethod) trivial (fun _ => rfl) fun a =>
    sends_call_bind (o := .enter kMethod a.subject a.reqId) trivial (fun _ => rfl) fun _ =>
      (sends_validated h).bind fun r _ =>
        sends_call_bind (o := .leave) trivial (fun _ => rfl) fun _ => sends_done r

theorem sends_respond {f : ρ → Response} {p : Prog Op (Reply ρ)} (h : Sends qs m p) :
    Sends qs m (respond f p) :=
  h.bind fun _ _ => sends_done _

theorem sends_readAll {q : Database → Except Exn α} {f : α → Except Exn ρ} :
    Sends [⟨q⟩] 0 (readAll q f).run :=
  sends_withConn (sends_exec_bind rfl fun _ => sends_convert_pure)

/-- A question, and a second one behind the gate. -/
theorem sends_gatedReport {e : Database → Except Exn Bool} {q : Database → Except Exn α}
    {f : α → ρ} : Sends [⟨e⟩, ⟨q⟩] 0 (gatedReport e q f).run := by
  refine sends_withConn (sends_exec_bind rfl fun hasData => ?_)
  split
  · exact sends_setStatus _ _
  · exact sends_exec_bind rfl fun _ => sends_convert_pure

end Sending

/-- A report sends its statements and does nothing else to the database. -/
theorem handle_sends (call : Call) (h : call.req.display = true) :
    Sends call.req.statements 0 (handle call) := by
  obtain ⟨md, req⟩ := call
  cases req with
  | getVehicleCostSummary r =>
      exact sends_respond (sends_authenticated (sends_validated (sends_catching sends_gatedReport)))
  | getMonthlyReport r =>
      exact sends_respond (sends_authenticated (sends_validated (sends_catching sends_gatedReport)))
  | getAnnualReport r =>
      exact sends_respond (sends_authenticated (sends_validated (sends_catching sends_gatedReport)))
  | getConsumptionEfficiency r =>
      refine sends_respond (sends_authenticated (sends_catching (sends_withConn ?_)))
      exact sends_exec_bind rfl fun _ => sends_exec_bind rfl fun _ => sends_convert_pure
  | getCostByChargerType r =>
      exact sends_respond (sends_authenticated (sends_catching sends_readAll))
  | getCostBySourceCategory r =>
      exact sends_respond (sends_authenticated (sends_catching sends_readAll))
  | getRangeAccuracy r =>
      exact sends_respond (sends_authenticated (sends_catching sends_readAll))
  | getTemperatureConsumptionCorrelation r =>
      exact sends_respond (sends_authenticated (sends_catching sends_readAll))
  | getDailyChargingReport r =>
      exact sends_respond (sends_authenticated (sends_validated (sends_catching sends_readAll)))
  | getMonthlyChargingReport r =>
      exact sends_respond (sends_authenticated (sends_validated (sends_catching sends_readAll)))
  | getAnnualChargingReport r =>
      exact sends_respond (sends_authenticated (sends_validated (sends_catching sends_readAll)))
  | _ => cases h

/-! ## Watching the calls -/

/-- What is noted about a call: the choices made in its steps, the databases that existed from
its arrival to its return, and for each of its statements the database it met, or `none` if it
threw without an answer. -/
structure Watch where
  choices : List Choice
  seen : List Database
  asked : List (Option Database)

/-- The operation is a statement that reads. -/
def Op.asks {β : Type} : Op β → Bool
  | .query _ => true
  | _ => false

/-- The database a statement meets. -/
def Choice.met (c : Choice) (d : Database) : Option Database :=
  if c.fault.isNone then some d else none

/-- The notes about the calls of a run. -/
def watching : Notes Op World Choice Watch where
  start w := ⟨[], [w.db], []⟩
  own o c w w' g :=
    { choices := g.choices ++ [c]
      seen := g.seen ++ [w'.db]
      asked := if o.asks then g.asked ++ [c.met w.db] else g.asked }
  other _ w' g := { g with seen := g.seen ++ [w'.db] }

/-- A state of the server with notes about its calls, reached from the start. -/
def Server.Watched (db : Database) (n : ℕ) (issued : List Uuid) (s : Server) (gs : List Watch) :
    Prop :=
  Reach (State.actNoted machine handle Local.fresh watching) (fun _ _ => True)
    (Server.start db n issued, []) (s, gs)

/-- Every state that is reached can be watched. -/
theorem Server.Reached.exists_watched {db : Database} {n : ℕ} {issued : List Uuid} {s : Server}
    (h : Server.Reached (fun _ _ => True) (Server.start db n issued) s) :
    ∃ gs, Server.Watched db n issued s gs :=
  Reach.exists_noted [] h

/-- A choice without the order in which a query meets the rows. -/
def Choice.unordered (c : Choice) : Choice := { c with order := none }

/-- The reply is one the call would give alone if all its statements met one of the databases
that existed during the call.  What else was decided outside the server (the verdict on the
token, what fails) is decided as it was. -/
def ReflectsOneState (n : ℕ) (issued : List Uuid) (call : Call) (reply : Reply Response)
    (g : Watch) : Prop :=
  ∃ d ∈ g.seen, ∃ cs x, cs.map Choice.unordered = g.choices.map Choice.unordered ∧
    machine.run (handle call) cs (World.start d n issued, .fresh) = some (reply, x)

/-! ## The call and the same call alone -/

/-- A call among others, and the same call alone on the database `d` of a server with `n`
connections: the same scopes, and as many connections, though not the same ones. -/
structure Alike (n : ℕ) (d : Database) (t : Local) (w₁ : World) (t₁ : Local) : Prop where
  db : w₁.db = d
  pending : t.pending = []
  pending₁ : t₁.pending = []
  scopes : t₁.scopes = t.scopes
  conns : t₁.conns.length = t.conns.length
  total : w₁.idle.length + t₁.conns.length = n

section Alone
variable {n m : ℕ} {qs : List Statement} {d : Database} {β : Type} {o : Op β} {c : Choice}
  {w w' w₁ : World} {t t' t₁ : Local} {b : β}

/-- An answer can be had on another database on which the statement agrees, in the right
order. -/
theorem exists_order {ρ : Type} {q : Database → Except Exn ρ} {e v : Database}
    (h : (⟨q⟩ : Statement).Agrees e d) (hv : c.view e = some v) :
    ∃ v', ({ c with order := some v' } : Choice).view d = some v' ∧ q v' = q v := by
  obtain ⟨v', hsame, hq⟩ := (h (q v)).mp ⟨v, Choice.sameRows_view hv, rfl⟩
  exact ⟨v', if_pos hsame, hq⟩

/-- The step can be taken alone too, with the same answer, and the calls stay alike. -/
def Alike.Follows (n : ℕ) (d : Database) (o : Op β) (c : Choice) (w₁ : World) (t₁ : Local) (b : β)
    (t' : Local) : Prop :=
  ∃ c' w₁' t₁', c'.unordered = c.unordered ∧ machine.step o c' w₁ t₁ = some (b, w₁', t₁') ∧
    Alike n d t' w₁' t₁'

/-- There is a connection for the call alone, because the others hold none then. -/
theorem Alike.acquire {b : Unit} (h : Alike n d t w₁ t₁)
    (hs : machine.step .acquire c w t = some (b, w', t'))
    (hconns : w.idle ≠ [] → t.conns.length < n) : Follows n d .acquire c w₁ t₁ b t' := by
  obtain ⟨hd, hpending, hpending₁, hscopes, hlen, htotal⟩ := h
  simp only [Follows, machine] at hs ⊢
  split at hs
  · cases hs
  · rename_i x xs hidle
    cases hs
    have hlt := hconns (by rw [hidle]; exact List.cons_ne_nil x xs)
    obtain ⟨y, ys, hidle₁⟩ : ∃ y ys, w₁.idle = y :: ys := by
      apply List.exists_cons_of_ne_nil
      intro hnil
      rw [hnil, List.length_nil] at htotal
      omega
    rw [hidle₁] at htotal ⊢
    refine ⟨c, _, _, rfl, rfl, hd, hpending, hpending₁, hscopes, ?_, ?_⟩
    · simp [hlen]
    · simp only [List.length_cons] at htotal ⊢
      omega

theorem Alike.release {b : Unit} (h : Alike n d t w₁ t₁)
    (hs : machine.step .release c w t = some (b, w', t')) : Follows n d .release c w₁ t₁ b t' := by
  obtain ⟨hd, hpending, hpending₁, hscopes, hlen, htotal⟩ := h
  simp only [Follows, machine] at hs ⊢
  split at hs
  · cases hs
  · rename_i x xs hheld
    cases hs
    rw [hheld, List.length_cons] at hlen
    obtain ⟨y, ys, hheld₁⟩ : ∃ y ys, t₁.conns = y :: ys := by
      apply List.exists_cons_of_ne_nil
      intro hnil
      rw [hnil] at hlen
      cases hlen
    rw [hheld₁] at hlen htotal ⊢
    simp only [List.length_cons] at hlen htotal
    refine ⟨c, _, _, rfl, rfl, hd, hpending, hpending₁, hscopes, Nat.succ_inj.mp hlen, ?_⟩
    simp only [List.length_append, List.length_singleton]
    omega

/-- A statement that agrees on the two databases is answered alike. -/
theorem Alike.query {ρ : Type} {q : Database → Except Exn ρ} {b : Except Exn ρ}
    (h : Alike n d t w₁ t₁) (hs : machine.step (.query q) c w t = some (b, w', t'))
    (hdb : c.fault = none → (⟨q⟩ : Statement).Agrees w.db d) :
    Follows n d (.query q) c w₁ t₁ b t' := by
  obtain ⟨hd, hpending, hpending₁, hscopes, hlen, htotal⟩ := h
  simp only [Follows, machine] at hs ⊢
  cases hfault : c.fault with
  | some e =>
      simp only [hfault] at hs
      cases hs
      refine ⟨c, w₁, t₁, rfl, ?_, hd, hpending, hpending₁, hscopes, hlen, htotal⟩
      simp only [hfault]
  | none =>
      simp only [hfault, hpending, replay_nil] at hs
      split at hs
      · cases hs
      · rename_i v hv
        cases hs
        obtain ⟨v', hview, hq⟩ := exists_order (hdb hfault) hv
        refine ⟨{ c with order := some v' }, w₁, { t₁ with hasRead := true }, rfl, ?_, hd, rfl,
          hpending₁, hscopes, hlen, htotal⟩
        simp only [hfault] at hview
        simp only [hfault, hpending₁, replay_nil, hd, hview, hq]

/-- A step of a reporting call can be taken alone, if a statement that is answered agrees on
the database the call is alone on. -/
theorem Alike.step (h : Alike n d t w₁ t₁) (hpre : (sending qs).pre o m)
    (hs : machine.step o c w t = some (b, w', t'))
    (hdb : o.asks = true → c.fault = none → ∀ q, qs[m]? = some q → q.Agrees w.db d)
    (hconns : w.idle ≠ [] → t.conns.length < n) : Follows n d o c w₁ t₁ b t' := by
  have hsame := h
  obtain ⟨hd, hpending, hpending₁, hscopes, hlen, htotal⟩ := hsame
  cases o with
  | auth md method =>
      cases hs
      exact ⟨c, _, _, rfl, rfl, hd, hpending, hpending₁, hscopes, hlen, htotal⟩
  | enter method subject reqId =>
      cases hs
      exact ⟨c, _, _, rfl, rfl, hd, hpending, hpending₁, by simp [hscopes], hlen, htotal⟩
  | setStatus st =>
      simp only [Follows, machine] at hs ⊢
      rw [hscopes]
      split at hs
      · cases hs
      · cases hs
        exact ⟨c, _, _, rfl, rfl, hd, hpending, hpending₁, rfl, hlen, htotal⟩
  | leave =>
      simp only [Follows, machine] at hs ⊢
      rw [hscopes]
      split at hs
      · cases hs
      · cases hs
        exact ⟨c, _, _, rfl, rfl, hd, hpending, hpending₁, rfl, hlen, htotal⟩
  | acquire => exact h.acquire hs hconns
  | release => exact h.release hs
  | query q => exact h.query hs fun hfault => hdb rfl hfault _ hpre
  | convert r =>
      simp only [Follows, machine] at hs ⊢
      cases hfault : c.fault with
      | some e =>
          simp only [hfault] at hs
          cases hs
          refine ⟨c, w₁, t₁, rfl, ?_, hd, hpending, hpending₁, hscopes, hlen, htotal⟩
          simp only [hfault]
      | none =>
          simp only [hfault] at hs
          cases hs
          refine ⟨c, w₁, t₁, rfl, ?_, hd, hpending, hpending₁, hscopes, hlen, htotal⟩
          simp only [hfault]
  | beginWork | endWork | newUuid | write | commit | undefined => cases hpre

end Alone

/-! ## Runs -/

/-- Each statement that was answered agrees on the database it met and on `d`. -/
def AgreesOn (qs : List Statement) (asked : List (Option Database)) (d : Database) : Prop :=
  ∀ (i : ℕ) (a : Database) (q : Statement), asked[i]? = some (some a) → qs[i]? = some q →
    q.Agrees a d

section
variable {q : Statement} {qs : List Statement} {o : Option Database} {asked : List (Option Database)}
  {d : Database}

theorem agreesOn_nil : AgreesOn qs [] d := by
  rintro i a q ⟨⟩

theorem AgreesOn.cons (h : AgreesOn qs asked d) (ho : ∀ a, o = some a → q.Agrees a d) :
    AgreesOn (q :: qs) (o :: asked) d := by
  intro i a q' ha hq
  cases i with
  | zero =>
      cases hq
      exact ho a (Option.some.inj ha)
  | succ i => exact h i a q' ha hq

end

/-- What holds of a watched report: it sends the statements that are left; and on every
database on which the answers it had agree, the call alone would be where it is. -/
structure Explained (n : ℕ) (issued : List Uuid) (x : Task Op Call Local (Reply Response))
    (g : Watch) : Prop where
  left : Sends x.req.req.statements g.asked.length x.prog
  length_le : g.asked.length ≤ x.req.req.statements.length
  alone : ∀ d, AgreesOn x.req.req.statements g.asked d → ∃ cs w₁ t₁,
    cs.map Choice.unordered = g.choices.map Choice.unordered ∧
      machine.advance cs (handle x.req) (World.start d n issued, .fresh) =
        some (x.prog, w₁, t₁) ∧ Alike n d x.loc w₁ t₁
  asked_seen : ∀ a, some a ∈ g.asked → a ∈ g.seen
  seen_ne_nil : g.seen ≠ []

section Runs
variable {db : Database} {n : ℕ} {issued : List Uuid} {s : Server} {gs : List Watch}

/-- A call that comes in. -/
theorem explained_start (call : Call) (hcall : call.req.display = true) (w : World) :
    Explained n issued ⟨call, .fresh, handle call⟩ (watching.start w) where
  left := handle_sends call hcall
  length_le := Nat.zero_le _
  alone := by
    intro d _
    refine ⟨[], _, _, rfl, rfl, rfl, rfl, rfl, rfl, rfl, ?_⟩
    simp [World.start, Local.fresh]
  asked_seen := by simp [watching]
  seen_ne_nil := by simp [watching]

/-- A step that is no statement asks nothing. -/
theorem Sends.of_step {qs : List Statement} {m : ℕ} {α β : Type} {o : Op β} {f : β → Prog Op α}
    (h : Sends qs m (.op o f)) (b : β) : Sends qs (if o.asks then m + 1 else m) (f b) := by
  have hf : Sends qs ((sending qs).next o b m) (f b) := h.2 b
  cases o <;> exact hf

/-- The statement that is sent is one of the report's. -/
theorem Sends.lt_of_asks {qs : List Statement} {m : ℕ} {α β : Type} {o : Op β} {f : β → Prog Op α}
    (h : Sends qs m (.op o f)) (ho : o.asks = true) : m < qs.length := by
  have hpre : (sending qs).pre o m := h.1
  cases o with
  | query q => exact (List.getElem?_eq_some_iff.mp hpre).1
  | _ => cases ho

/-- A statement leaves the database alone. -/
theorem step_db_of_asks {β : Type} {o : Op β} {c : Choice} {w w' : World} {t t' : Local} {b : β}
    (h : machine.step o c w t = some (b, w', t')) (ho : o.asks = true) : w'.db = w.db := by
  cases o with
  | query q =>
      simp only [machine] at h
      repeat' split at h
      all_goals cases h
      all_goals rfl
  | _ => cases ho

/-- A step of the call itself. -/
theorem Explained.own {call : Call} {t t' : Local} {β : Type} {o : Op β}
    {f : β → Prog Op (Reply Response)} {c : Choice} {w w' : World} {b : β} {g : Watch}
    (h : Explained n issued ⟨call, t, .op o f⟩ g) (hs : machine.step o c w t = some (b, w', t'))
    (hconns : w.idle ≠ [] → t.conns.length < n) :
    Explained n issued ⟨call, t', f b⟩ (watching.own o c w w' g) := by
  obtain ⟨hleft, hlen, halone, hasked, hseen⟩ := h
  dsimp only at hleft hlen halone
  have hasked' : (watching.own o c w w' g).asked =
      if o.asks then g.asked ++ [c.met w.db] else g.asked := rfl
  have hkept : ∀ (i : ℕ) a, g.asked[i]? = some a → (watching.own o c w w' g).asked[i]? = some a := by
    intro i a hi
    rw [hasked']
    split
    · rw [List.getElem?_append_left (List.getElem?_eq_some_iff.mp hi).1]
      exact hi
    · exact hi
  refine ⟨?_, ?_, ?_, ?_, ?_⟩
  · have hnext := hleft.of_step b
    rw [hasked']
    split
    · rename_i ho
      rw [if_pos ho] at hnext
      rwa [List.length_append]
    · rename_i ho
      rwa [if_neg ho] at hnext
  · rw [hasked']
    split
    · rename_i ho
      rw [List.length_append]
      exact hleft.lt_of_asks ho
    · exact hlen
  · intro d hd
    have hold : AgreesOn call.req.statements g.asked d :=
      fun i a q hi hq => hd i a q (hkept i _ hi) hq
    have hmet : o.asks = true → c.fault = none → ∀ q,
        call.req.statements[g.asked.length]? = some q → q.Agrees w.db d := by
      intro ho hfault q hq
      refine hd g.asked.length w.db q ?_ hq
      rw [hasked', if_pos ho, List.getElem?_concat_length]
      simp [Choice.met, hfault]
    obtain ⟨cs, w₁, t₁, hcs, hadvance, halike⟩ := halone d hold
    obtain ⟨c', w₁', t₁', hc, hstep, halike'⟩ := halike.step hleft.1 hs hmet hconns
    refine ⟨cs ++ [c'], w₁', t₁', ?_, Machine.advance_concat hadvance hstep, halike'⟩
    change _ = (g.choices ++ [c]).map Choice.unordered
    rw [List.map_append, List.map_append, hcs, List.map_singleton, hc, List.map_singleton]
  · intro a ha
    rw [hasked'] at ha
    refine List.mem_append.mpr ?_
    split at ha
    · rename_i ho
      rcases List.mem_append.mp ha with ha | ha
      · exact .inl (hasked a ha)
      · -- The database the statement met is the one after the step.
        right
        have hmet : c.met w.db = some a := (List.mem_singleton.mp ha).symm
        unfold Choice.met at hmet
        split at hmet
        · cases hmet
          rw [step_db_of_asks hs ho]
          exact List.mem_singleton_self _
        · cases hmet
    · exact .inl (hasked a ha)
  · simp [watching]

/-- A step of another call. -/
theorem Explained.other {x : Task Op Call Local (Reply Response)} {g : Watch} (w w' : World)
    (h : Explained n issued x g) : Explained n issued x (watching.other w w' g) :=
  ⟨h.left, h.length_le, h.alone, fun a ha => List.mem_append_left _ (h.asked_seen a ha),
    by simp [watching]⟩

/-- A call that finds an idle connection does not hold all of them. -/
theorem Server.Reached.conns_lt {Ok : Server → ServerAction → Prop}
    (h : Server.Reached Ok (Server.start db n issued) s)
    {x : Task Op Call Local (Reply Response)} (hx : x ∈ s.tasks) (hidle : s.world.idle ≠ []) :
    x.loc.conns.length < n := by
  have hlen := h.conns_conserved.length_eq
  rw [List.length_append, List.length_range] at hlen
  have hone := ((List.singleton_sublist.mpr hx).flatMap fun x => x.loc.conns).length_le
  rw [List.flatMap_singleton] at hone
  have hpos := List.length_pos_iff.mpr hidle
  omega

/-- Every watched report is explained. -/
theorem Server.Watched.explained (h : Server.Watched db n issued s gs) {i : ℕ}
    {x : Task Op Call Local (Reply Response)} {g : Watch} (hx : s.tasks[i]? = some x)
    (hg : gs[i]? = some g) (hreport : x.req.req.display = true) : Explained n issued x g := by
  let J : Task Op Call Local (Reply Response) → Watch → Prop := fun x g =>
    x.req.req.display = true → Explained n issued x g
  refine (noted_invariant (fun _ _ => True) (J := J) h rfl ?_ ?_ ?_).2 i x g hx hg hreport
  · intro call w hcall
    exact explained_start call hcall w
  · intro s i c call t β o f b w' t' g hreach hi hJ hs hcall
    exact (hJ hcall).own hs (Server.Reached.conns_lt hreach (List.mem_of_getElem? hi))
  · intro x g w w' hJ hcall
    exact (hJ hcall).other w w'

/-- Where two statements were answered and one of them has the same answers on both of the
databases they met, there is a database on which all answers agree. -/
theorem Explained.exists_agreesOn {x : Task Op Call Local (Reply Response)} {g : Watch}
    (h : Explained n issued x g)
    (hsame : ∀ d₁ d₂, g.asked = [some d₁, some d₂] → ∃ q ∈ x.req.req.statements, q.Agrees d₁ d₂) :
    ∃ d ∈ g.seen, AgreesOn x.req.req.statements g.asked d := by
  have hlen := h.length_le
  have htwo := x.req.req.statements_length_le
  have hseen := h.asked_seen
  obtain ⟨d₀, hd₀⟩ := List.exists_mem_of_ne_nil _ h.seen_ne_nil
  generalize x.req.req.statements = qs at hlen htwo hsame ⊢
  generalize g.asked = asked at hlen hsame hseen ⊢
  match asked, qs with
  | [], _ => exact ⟨d₀, hd₀, agreesOn_nil⟩
  | [none], [q] | [none], [q, _] => exact ⟨d₀, hd₀, agreesOn_nil.cons (by simp)⟩
  | [some d], [q] | [some d], [q, _] =>
      exact ⟨d, hseen d (by simp), agreesOn_nil.cons (by simp [Statement.Agrees.refl])⟩
  | [none, none], [q₁, q₂] =>
      exact ⟨d₀, hd₀, (agreesOn_nil.cons (by simp)).cons (by simp)⟩
  | [none, some d], [q₁, q₂] =>
      refine ⟨d, hseen d (by simp), (agreesOn_nil.cons ?_).cons ?_⟩
      · simp [Statement.Agrees.refl]
      · simp
  | [some d, none], [q₁, q₂] =>
      refine ⟨d, hseen d (by simp), (agreesOn_nil.cons ?_).cons ?_⟩
      · simp
      · simp [Statement.Agrees.refl]
  | [some d₁, some d₂], [q₁, q₂] =>
      obtain ⟨q, hq, hagrees⟩ := hsame d₁ d₂ rfl
      rcases List.mem_pair.mp hq with rfl | rfl
      · -- The first statement would have answered the same on the second database.
        refine ⟨d₂, hseen d₂ (by simp), (agreesOn_nil.cons ?_).cons ?_⟩
        · simp [Statement.Agrees.refl]
        · simpa using hagrees
      · -- The second one would have answered the same on the first.
        refine ⟨d₁, hseen d₁ (by simp), (agreesOn_nil.cons ?_).cons ?_⟩
        · simpa using hagrees.symm
        · simp [Statement.Agrees.refl]
  | _ :: _, [] | _ :: _ :: _, [_] | _ :: _ :: _ :: _, [_, _] => simp at hlen
  | _, _ :: _ :: _ :: _ => simp at htwo

/-- A report reflects a database that existed during the call, in every interleaving with
other calls, as long as one of its two statements has the same answers on the databases the
two of them met. -/
theorem display_reflects_one_state (h : Server.Watched db n issued s gs) {i : ℕ}
    {x : Task Op Call Local (Reply Response)} {g : Watch} {reply : Reply Response}
    (hx : s.tasks[i]? = some x) (hg : gs[i]? = some g) (hreport : x.req.req.display = true)
    (hdone : x.prog = .done reply)
    (hsame : ∀ d₁ d₂, g.asked = [some d₁, some d₂] → ∃ q ∈ x.req.req.statements, q.Agrees d₁ d₂) :
    ReflectsOneState n issued x.req reply g := by
  have hexplained := h.explained hx hg hreport
  obtain ⟨d, hd, hagrees⟩ := hexplained.exists_agreesOn hsame
  obtain ⟨cs, w₁, t₁, hcs, hadvance, -⟩ := hexplained.alone d hagrees
  rw [hdone] at hadvance
  exact ⟨d, hd, cs, _, hcs, Machine.run_of_advance hadvance⟩

end Runs

/-! ## Two runs -/

/-- When nothing failed, a reply that reflects one state is one that the handler serves there. -/
theorem ReflectsOneState.serves {n : ℕ} {issued : List Uuid} {call : Call} {reply : Reply Response}
    {g : Watch} (h : ReflectsOneState n issued call reply g) (hclean : ∀ c ∈ g.choices, c.Clean) :
    ∃ d ∈ g.seen, ∃ d', Serves d (handle call) reply d' := by
  obtain ⟨d, hd, cs, x, hcs, hrun⟩ := h
  have hclean' : ∀ c ∈ cs, c.Clean := by
    intro c' hc'
    have hmem : c'.unordered ∈ g.choices.map Choice.unordered := hcs ▸ List.mem_map_of_mem hc'
    obtain ⟨c, hc, heq⟩ := List.mem_map.mp hmem
    obtain ⟨⟨subject, reason, hverdict⟩, hfault⟩ := hclean c hc
    have hverdict' : c.unordered.verdict = c'.unordered.verdict := congrArg Choice.verdict heq
    have hfault' : c.unordered.fault = c'.unordered.fault := congrArg Choice.fault heq
    exact ⟨⟨subject, reason, hverdict'.symm.trans hverdict⟩, hfault'.symm.trans hfault⟩
  have hyields : (handle call).Yields SoloStep (World.start d n issued, .fresh) reply x :=
    Machine.yields_run_where hclean' hrun
  exact ⟨d, hd, _, Serves.of_machine hyields rfl⟩

/-- The request of an annual report. -/
def Request.annualReport? : Request → Option GetAnnualReportRequest
  | .getAnnualReport r => some r
  | _ => none

theorem Request.annualReport?_eq_some {req : Request} {r : GetAnnualReportRequest}
    (h : req.annualReport? = some r) : req = .getAnnualReport r := by
  cases req with
  | getAnnualReport r' => exact congrArg _ (Option.some.inj h)
  | _ => cases h

/-- An annual report up to its second statement. -/
def reportUpToTotals : List ServerAction :=
  firstSteps 0 (.getAnnualReport ⟨2023, ""⟩) (someUuid 9) 4

/-- The rest of it. -/
def restOfReport : List ServerAction := List.replicate 4 (.step 0 {})

/-- The only charging of the year is deleted in between. -/
def deleteInBetween : List ServerAction :=
  reportUpToTotals ++ firstSteps 1 (.deleteCharging ⟨uuidOut (someUuid 2)⟩) (someUuid 9) 9 ++
    restOfReport

/-- The report whose gate let it pass, and that found nothing to add up. -/
def nothingAddedUp : Reply Response :=
  (.OK, some (.periodReport (periodReportOf 2023 0 "" ⟨.num 0, .num 0, 0⟩)))

/-- A charging is deleted between the two statements of an annual report.  The reply is an
annual report without costs: before, there were costs, and after, there is no report. -/
theorem deleted_in_between : ∃ (s : Server) (gs : List Watch) (i : ℕ)
    (x : Task Op Call Local (Reply Response)) (g : Watch) (reply : Reply Response),
    Server.Watched chargedOnce 4 [] s gs ∧
    s.tasks[i]? = some x ∧ gs[i]? = some g ∧ x.req.req.display = true ∧ x.prog = .done reply ∧
    ¬ ReflectsOneState 4 [] x.req reply g := by
  have hrun : ∃ y, Reach (State.actNoted machine handle Local.fresh watching) (fun _ _ => True)
      (Server.start chargedOnce 4 [], []) y ∧ ∃ z ∈ y.1.tasks.zip y.2,
        z.1.req.req.annualReport? = some ⟨2023, ""⟩ ∧ returned? z.1.prog = some nothingAddedUp ∧
        (∀ c ∈ z.2.choices, c.verdict = .accepted "" "ok" ∧ c.fault = none) ∧
        ∀ d ∈ z.2.seen, d.consumption = [] ∧ (d.charging = chargedOnce.charging ∨ d.charging = []) :=
    exists_reach deleteInBetween (by decide +kernel)
  obtain ⟨⟨s, gs⟩, hreach, ⟨x, g⟩, hz, hreq, hreply, hchoices, hseen⟩ := hrun
  obtain ⟨i, hi⟩ := List.mem_iff_getElem?.mp hz
  obtain ⟨hx, hg⟩ := List.getElem?_zip_eq_some.mp hi
  dsimp only at hx hg hreq hreply hchoices hseen
  have hreq' := Request.annualReport?_eq_some hreq
  refine ⟨s, gs, i, x, g, nothingAddedUp, hreach, hx, hg, by rw [hreq']; rfl,
    returned?_eq_some hreply, ?_⟩
  intro hreflects
  have hclean : ∀ c ∈ g.choices, c.Clean :=
    fun c hc => ⟨⟨_, _, (hchoices c hc).1⟩, (hchoices c hc).2⟩
  obtain ⟨d, hd, d', hserves⟩ := hreflects.serves hclean
  obtain ⟨⟨md, req⟩, t, p⟩ := x
  dsimp only at hreq' hserves
  subst hreq'
  obtain ⟨r, hr, hwrap⟩ := serves_respond.mp hserves
  obtain ⟨hconsumption, hcharging⟩ := hseen d hd
  have hfit : ∀ k ∈ d.consumption, FitsInt4 k.km := by simp [hconsumption]
  rw [serves_getAnnualReport hfit (by decide)] at hr
  rw [hr.2] at hwrap
  simp only [periodReply, totalsIn, hconsumption] at hwrap
  rcases hcharging with hcharging | hcharging
  · rw [hcharging] at hwrap
    revert hwrap
    decide +kernel
  · rw [hcharging] at hwrap
    revert hwrap
    decide +kernel

/-- The gate of a period report depends on the chargings alone. -/
theorem agrees_periodExists {period : Instant → Bool} {vehicleId : String} {d₁ d₂ : Database}
    (h : d₁.charging = d₂.charging) :
    (⟨periodExists period vehicleId⟩ : Statement).Agrees d₁ d₂ := by
  intro b
  constructor
  · rintro ⟨v, hv, rfl⟩
    refine ⟨d₂, .refl d₂, ?_⟩
    change periodExists period vehicleId d₂ = periodExists period vehicleId v
    rw [periodExists_eq hv, periodExists_eq (.refl d₂), h]
  · rintro ⟨v, hv, rfl⟩
    refine ⟨d₁, .refl d₁, ?_⟩
    change periodExists period vehicleId d₁ = periodExists period vehicleId v
    rw [periodExists_eq hv, periodExists_eq (.refl d₁), h]

/-- A weather is added between the two statements. -/
def weatherInBetween : List ServerAction :=
  reportUpToTotals ++ firstSteps 1 (.createWeather ⟨"rain"⟩) (someUuid 9) 10 ++ restOfReport

/-- The statements of the report meet different databases, and it reflects one of them. -/
theorem display_reflects_one_state_weather : ∃ (s : Server) (gs : List Watch) (i : ℕ)
    (x : Task Op Call Local (Reply Response)) (g : Watch) (reply : Reply Response),
    Server.Watched chargedOnce 4 [] s gs ∧ s.tasks[i]? = some x ∧ gs[i]? = some g ∧
    x.req.req.display = true ∧ x.prog = .done reply ∧
    (g.asked.map fun d => d.map fun d => d.weather.length) = [some 1, some 2] ∧
    ReflectsOneState 4 [] x.req reply g := by
  have hrun : ∃ y, Reach (State.actNoted machine handle Local.fresh watching) (fun _ _ => True)
      (Server.start chargedOnce 4 [], []) y ∧ ∃ z ∈ y.1.tasks.zip y.2,
        z.1.req.req.annualReport? = some ⟨2023, ""⟩ ∧ (returned? z.1.prog).isSome ∧
        (z.2.asked.map fun d => d.map fun d => d.weather.length) = [some 1, some 2] ∧
        z.2.asked.map (Option.map Database.charging) =
          [some chargedOnce.charging, some chargedOnce.charging] :=
    exists_reach weatherInBetween (by decide +kernel)
  obtain ⟨⟨s, gs⟩, hreach, ⟨x, g⟩, hz, hreq, hreply, hweather, hcharging⟩ := hrun
  obtain ⟨i, hi⟩ := List.mem_iff_getElem?.mp hz
  obtain ⟨hx, hg⟩ := List.getElem?_zip_eq_some.mp hi
  obtain ⟨reply, hreply⟩ := Option.isSome_iff_exists.mp hreply
  have hreq' := Request.annualReport?_eq_some hreq
  have hreport : x.req.req.display = true := by
    rw [hreq']
    rfl
  refine ⟨s, gs, i, x, g, reply, hreach, hx, hg, hreport, returned?_eq_some hreply, hweather, ?_⟩
  refine display_reflects_one_state hreach hx hg hreport (returned?_eq_some hreply) ?_
  intro d₁ d₂ hasked
  rw [hasked] at hcharging
  simp only [List.map_cons, List.map_nil, Option.map_some, List.cons.injEq, Option.some.injEq,
    and_true] at hcharging
  refine ⟨⟨periodExists (inYear 2023) ""⟩, ?_,
    agrees_periodExists (hcharging.1.trans hcharging.2.symm)⟩
  rw [hreq']
  exact List.mem_cons_self

end EvGrpc
