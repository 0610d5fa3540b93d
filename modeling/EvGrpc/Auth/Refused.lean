import EvGrpc.Auth.Authenticate
import EvGrpc.Shapes

/-!
# A call without a valid token

What is left of a handler once `Authenticate` has refused its call: it opens its scope,
tells it the status, closes it and returns.  This is the same for every RPC and every
request, so the call sends no statement, takes no connection and returns a status that
depends on nothing but its token.
-/

namespace EvGrpc

open Lib

/-! ## What is left of a refused handler -/

/-- The end of a refused call. -/
def leaveWith (s : Status) : Prog Op (Reply Response) := .op .leave fun _ => .done (s, none)

/-- Before that it tells its scope. -/
def tellAndLeave (s : Status) : Prog Op (Reply Response) :=
  .op (.setStatus s) fun _ => leaveWith s

/-- Behind the prologue of a refused call there is only this. -/
def refuse (kMethod : String) (a : AuthenticateRpcResult) : Prog Op (Reply Response) :=
  .op (.enter kMethod a.subject a.reqId) fun _ => tellAndLeave a.status

theorem respond_authenticated {ρ : Type} (f : ρ → Response) (md : Metadata) (kMethod : String)
    (b : Prog Op (Reply ρ)) : ∃ k, respond f (authenticated md kMethod b) = .op (.auth md kMethod) k ∧
      ∀ a : AuthenticateRpcResult, a.status.ok = false → k a = refuse kMethod a := by
  refine ⟨fun a => (Prog.call (.enter kMethod a.subject a.reqId) >>= fun _ =>
    validated a.status b >>= fun r => Prog.call .leave >>= fun _ => .done r) >>= fun r =>
      .done (Reply.wrap f r), rfl, fun a ha => ?_⟩
  have hrefused : validated a.status b =
      (Prog.call (.setStatus a.status) >>= fun _ => .done (a.status, none)) := by
    unfold validated
    rw [ha]
    rfl
  dsimp only
  rw [hrefused]
  rfl

/-- All thirty handlers start with the prologue, and go no further without a token. -/
theorem handle_prologue (call : Call) :
    ∃ kMethod k, handle call = .op (.auth call.md kMethod) k ∧
      ∀ a : AuthenticateRpcResult, a.status.ok = false → k a = refuse kMethod a := by
  by_cases h : call.req.nests = false
  · obtain ⟨ρ, f, kMethod, b, -, he⟩ := handle_shape call h
    rw [he]
    obtain ⟨k, hk, hrefuse⟩ := respond_authenticated f call.md kMethod b
    exact ⟨kMethod, k, hk, hrefuse⟩
  · obtain ⟨md, req⟩ := call
    cases req with
    | createVehicle r =>
        obtain ⟨k, hk, hrefuse⟩ := respond_authenticated .vehicle md _ _
        exact ⟨_, k, hk, hrefuse⟩
    | _ => exact absurd rfl h

/-! ## The stages of a refused call -/

/-- A call that holds nothing and has done nothing. -/
structure Local.Idle (t : Local) : Prop where
  conns : t.conns = []
  pending : t.pending = []
  ids : t.ids = []
  committed : t.committed = false
  hasRead : t.hasRead = false

/-- The call has taken `n` steps on its way to returning `s`. -/
def Refused (s : Status) (call : Call) (t : Local) (p : Prog Op (Reply Response)) : ℕ → Prop
  | 0 => p = handle call
  | 1 => ∃ kMethod a, a.status = s ∧ p = refuse kMethod a
  | 2 => p = tellAndLeave s ∧ t.scopes ≠ []
  | 3 => p = leaveWith s ∧ t.scopes ≠ []
  | 4 => p = .done (s, none)
  | _ => False

/-- The step left the database, the pool and the identifiers alone. -/
structure World.Untouched (w w' : World) : Prop where
  db : w'.db = w.db
  idle : w'.idle = w.idle
  issued : w'.issued = w.issued

/-- The operations that neither touch the database nor the pool. -/
def Op.harmless {β : Type} : Op β → Bool
  | .auth _ _ | .enter _ _ _ | .setStatus _ | .leave => true
  | _ => false

/-- A refused call that has not returned takes its next step, in any world. -/
theorem Refused.step {message reason : String} {call : Call} {t : Local}
    {p : Prog Op (Reply Response)} {n : ℕ}
    (h : Refused ⟨.UNAUTHENTICATED, message⟩ call t p n) (hn : n < 4) (ht : t.Idle) {c : Choice}
    (hc : c.verdict = .rejected message reason) (w : World) :
    ∃ (β : Type) (o : Op β) (k : β → Prog Op (Reply Response)) (b : β) (w' : World) (t' : Local),
      p = .op o k ∧ o.harmless = true ∧ machine.step o c w t = some (b, w', t') ∧
        Refused ⟨.UNAUTHENTICATED, message⟩ call t' (k b) (n + 1) ∧ t'.Idle ∧ w.Untouched w' := by
  match n, hn with
  | 0, _ =>
      obtain ⟨kMethod, k, hk, hrefuse⟩ := handle_prologue call
      refine ⟨_, _, k, _, _, _, h.trans hk, rfl, rfl, ⟨kMethod, _, ?_, hrefuse _ ?_⟩, ?_, ?_⟩
      · rw [hc]
        rfl
      · rw [hc]
        rfl
      · exact ⟨ht.conns, ht.pending, ht.ids, ht.committed, ht.hasRead⟩
      · exact ⟨rfl, rfl, rfl⟩
  | 1, _ =>
      obtain ⟨kMethod, a, ha, hp⟩ := h
      refine ⟨_, _, _, _, _, _, hp, rfl, rfl, ⟨by rw [ha], ?_⟩, ?_, ?_⟩
      · simp
      · exact ⟨ht.conns, ht.pending, ht.ids, ht.committed, ht.hasRead⟩
      · exact ⟨rfl, rfl, rfl⟩
  | 2, _ =>
      obtain ⟨hp, hscopes⟩ := h
      obtain ⟨x, xs, hx⟩ := List.exists_cons_of_ne_nil hscopes
      refine ⟨_, _, _, (), w,
        { t with scopes := { x with status := ⟨.UNAUTHENTICATED, message⟩ } :: xs }, hp, rfl, ?_,
        ⟨rfl, by simp⟩, ?_, ?_⟩
      · simp only [machine, hx]
      · exact ⟨ht.conns, ht.pending, ht.ids, ht.committed, ht.hasRead⟩
      · exact ⟨rfl, rfl, rfl⟩
  | 3, _ =>
      obtain ⟨hp, hscopes⟩ := h
      obtain ⟨x, xs, hx⟩ := List.exists_cons_of_ne_nil hscopes
      let line := LogLine.exit x.reqId x.method x.status.code.toNat
      refine ⟨_, _, _, (), { w with log := w.log ++ [line] },
        { t with scopes := xs, lines := t.lines ++ [line] }, hp, rfl, ?_, rfl, ?_, ?_⟩
      · simp only [machine, hx, line]
      · exact ⟨ht.conns, ht.pending, ht.ids, ht.committed, ht.hasRead⟩
      · exact ⟨rfl, rfl, rfl⟩

theorem Refused.of_done {s : Status} {call : Call} {t : Local} {r : Reply Response} {n : ℕ}
    (h : Refused s call t (.done r) n) : r = (s, none) := by
  match n with
  | 0 =>
      obtain ⟨kMethod, k, hk, -⟩ := handle_prologue call
      cases h.trans hk
  | 1 =>
      obtain ⟨kMethod, a, -, hp⟩ := h
      cases hp
  | 2 => cases h.1
  | 3 => cases h.1
  | 4 =>
      cases h
      rfl

/-! ## Runs -/

/-- In the run, the verdict on the `i`-th call is what `auth` finds out about its
metadata. -/
def Decides (i : ℕ) (auth : Metadata → AuthOutcome) (s : Server) : ServerAction → Prop
  | .spawn _ => True
  | .step j c =>
      match s.tasks[j]? with
      | none => True
      | some x => j = i → c.verdict = (auth x.req.md).verdict

instance (i : ℕ) (auth : Metadata → AuthOutcome) (s : Server) (a : ServerAction) :
    Decidable (Decides i auth s a) :=
  match a with
  | .spawn _ => inferInstanceAs (Decidable True)
  | .step j c =>
      match h : s.tasks[j]? with
      | none => .isTrue (by simp only [Decides, h])
      | some x =>
          decidable_of_iff (j = i → c.verdict = (auth x.req.md).verdict) (by simp only [Decides, h])

/-- The `i`-th call is on its way to returning the status of `o`. -/
def Server.Refuses (s : Server) (i n : ℕ) (o : AuthOutcome)
    (x : Task Op Call Local (Reply Response)) : Prop :=
  s.tasks[i]? = some x ∧ n ≤ 4 ∧ Refused o.status x.req x.loc x.prog n ∧ x.loc.Idle

section Runs
variable {o : AuthOutcome} {s s' : Server} {i n : ℕ} {x : Task Op Call Local (Reply Response)}

theorem AuthOutcome.verdict_eq (ho : o.status.code = .UNAUTHENTICATED) :
    o.status = ⟨.UNAUTHENTICATED, o.status.message⟩ ∧
      o.verdict = .rejected o.status.message o.reason := by
  have hok : o.status.ok = false := by rw [Status.ok, ho]; rfl
  refine ⟨?_, ?_⟩
  · rw [← ho]
  · rw [AuthOutcome.verdict, hok]
    rfl

/-- A refused call takes its next step, and that changes nothing. -/
theorem Server.Refuses.act (h : s.Refuses i n o x) (hn : n < 4)
    (ho : o.status.code = .UNAUTHENTICATED) {c : Choice} (hc : c.verdict = o.verdict) :
    ∃ s' x', s.act (.step i c) = some s' ∧ s'.Refuses i (n + 1) o x' ∧ x'.req = x.req ∧
      s.world.Untouched s'.world := by
  obtain ⟨hi, -, hrefused, hidle⟩ := h
  obtain ⟨hstatus, hverdict⟩ := o.verdict_eq ho
  rw [hstatus] at hrefused
  obtain ⟨β, op, k, b, w, t, hp, -, hstep, hnext, hidle', hw⟩ :=
    hrefused.step hn hidle (hc.trans hverdict) s.world
  obtain ⟨call, t₀, p⟩ := x
  cases hp
  have hlt := (List.getElem?_eq_some_iff.mp hi).1
  refine ⟨⟨w, s.tasks.set i ⟨call, t, k b⟩⟩, ⟨call, t, k b⟩, ?_, ⟨?_, hn, ?_, hidle'⟩, rfl, hw⟩
  · simp only [Server.act, State.act, hi, hstep]
  · exact List.getElem?_set_self hlt
  · rw [hstatus]
    exact hnext

/-- It has returned after the steps that are left. -/
theorem Server.Refuses.returns (h : s.Refuses i n o x) (ho : o.status.code = .UNAUTHENTICATED)
    {c : Choice} (hc : c.verdict = o.verdict) : ∃ s' x',
      runAll Server.act (fun _ _ => True) s (List.replicate (4 - n) (.step i c)) = some s' ∧
        s'.tasks[i]? = some x' ∧ x'.prog = .done (o.status, none) := by
  obtain ⟨k, hk⟩ : ∃ k, 4 - n = k := ⟨_, rfl⟩
  rw [hk]
  induction k generalizing n s x with
  | zero =>
      obtain ⟨hi, hle, hrefused, -⟩ := h
      obtain rfl : n = 4 := by omega
      exact ⟨s, x, rfl, hi, hrefused⟩
  | succ k ih =>
      obtain ⟨s₁, x₁, hact, hnext, -⟩ := h.act (by omega) ho hc
      obtain ⟨s', x', hrun, hdone⟩ := ih hnext (by omega)
      refine ⟨s', x', ?_, hdone⟩
      rw [List.replicate_succ, runAll, List.foldlM_cons, if_pos trivial, hact]
      exact hrun

end Runs

/-- The `i`-th call has nothing, does nothing to the database or the pool, and can return
nothing but the status of `o`; whatever the others do, four steps of its own are enough for
that. -/
structure LearnsNothing (i : ℕ) (o : AuthOutcome) (s : Server)
    (x : Task Op Call Local (Reply Response)) : Prop where
  holds : x.loc.Idle
  sends : ∀ (β : Type) (op : Op β) (k : β → Prog Op (Reply Response)),
    x.prog = .op op k → op.harmless = true
  changes : ∀ c s', c.verdict = o.verdict → s.act (.step i c) = some s' →
    s.world.Untouched s'.world
  replies : ∀ r, x.prog = .done r → r = (o.status, none)
  returns : ∀ c, c.verdict = o.verdict → ∃ k ≤ 4, ∃ s' x',
    runAll Server.act (fun _ _ => True) s (List.replicate k (.step i c)) = some s' ∧
      s'.tasks[i]? = some x' ∧ x'.prog = .done (o.status, none)

/-- Where a refused call stands, it learns nothing. -/
theorem Server.Refuses.learnsNothing {s : Server} {i n : ℕ} {o : AuthOutcome}
    {x : Task Op Call Local (Reply Response)} (h : s.Refuses i n o x)
    (ho : o.status.code = .UNAUTHENTICATED) : LearnsNothing i o s x := by
  have ⟨hi, hle, hrefused, hidle⟩ := h
  obtain ⟨hstatus, hverdict⟩ := o.verdict_eq ho
  refine ⟨hidle, ?_, ?_, ?_, fun c hc => ?_⟩
  · intro β op k hp
    rcases Nat.lt_or_eq_of_le hle with hn | rfl
    · rw [hstatus] at hrefused
      obtain ⟨_, _, _, _, _, _, hp', hharmless, -⟩ :=
        hrefused.step hn hidle (c := { verdict := o.verdict }) hverdict s.world
      rw [hp] at hp'
      cases hp'
      exact hharmless
    · cases hp.symm.trans hrefused
  · intro c s' hc hact
    rcases Nat.lt_or_eq_of_le hle with hn | rfl
    · obtain ⟨s₁, x₁, hact₁, -, -, hw⟩ := h.act hn ho hc
      rw [hact] at hact₁
      cases hact₁
      exact hw
    · have hdone : x.prog = .done (o.status, none) := hrefused
      obtain ⟨call, t, p⟩ := x
      cases hdone
      simp [Server.act, State.act, hi] at hact
  · intro r hr
    rw [hr] at hrefused
    exact hrefused.of_done
  · obtain ⟨s', x', hrun, hdone⟩ := h.returns ho hc
    exact ⟨4 - n, Nat.sub_le 4 n, s', x', hrun, hdone⟩

/-- In every state of such a run, a call whose metadata is refused is on its way out. -/
theorem Server.Reached.refuses {auth : Metadata → AuthOutcome} {i : ℕ} {s₀ s : Server}
    (h : Server.Reached (Decides i auth) s₀ s) (h₀ : s₀.tasks = []) :
    ∀ x, s.tasks[i]? = some x → (auth x.req.md).status.code = .UNAUTHENTICATED →
      ∃ n, s.Refuses i n (auth x.req.md) x := by
  refine h.rec_invariant (I := fun s : Server => ∀ x, s.tasks[i]? = some x →
    (auth x.req.md).status.code = .UNAUTHENTICATED → ∃ n, s.Refuses i n (auth x.req.md) x)
    (by simp [h₀]) ?_
  intro s a s' hI hdecides e x hx ho
  rcases State.act_cases e with ⟨call, -, rfl⟩ | ⟨j, c, call, t, β, op, k, b, w, t', rfl, hj, hs, rfl⟩
  · rw [List.getElem?_append] at hx
    split at hx
    · obtain ⟨n, hi, hrest⟩ := hI x hx ho
      refine ⟨n, ?_, hrest⟩
      rw [List.getElem?_append_left (List.getElem?_eq_some_iff.mp hi).1]
      exact hi
    · -- The call has just come in.
      have hnew := List.mem_singleton.mp (List.mem_of_getElem? hx)
      refine ⟨0, ?_, by omega, ?_, ?_⟩
      · rename_i hlen
        rw [List.getElem?_append_right (by omega)]
        exact hx
      · rw [hnew]
        rfl
      · rw [hnew]
        exact ⟨rfl, rfl, rfl, rfl, rfl⟩
  · by_cases hij : j = i
    · -- The call's own step is the one it had to take.
      subst hij
      have hlt := (List.getElem?_eq_some_iff.mp hj).1
      rw [List.getElem?_set_self hlt] at hx
      cases hx
      have hc : c.verdict = (auth call.md).verdict := by
        simp only [Decides, hj] at hdecides
        exact hdecides trivial
      obtain ⟨n, hrefuses⟩ := hI _ hj ho
      rcases Nat.lt_or_eq_of_le hrefuses.2.1 with hn | rfl
      · obtain ⟨s₁, x₁, hact, hnext, hreq, -⟩ := hrefuses.act hn ho hc
        rw [e] at hact
        cases hact
        have hx₁ := hnext.1
        rw [List.getElem?_set_self hlt] at hx₁
        cases hx₁
        exact ⟨n + 1, hnext⟩
      · cases hrefuses.2.2.1
    · rw [List.getElem?_set_ne hij] at hx
      obtain ⟨n, -, hrest⟩ := hI x hx ho
      exact ⟨n, by rw [List.getElem?_set_ne hij]; exact hx, hrest⟩

/-- `Authenticate` refuses with `UNAUTHENTICATED`. -/
theorem authenticate_refused {σ : Type} {jwt : JwtCpp} {v : JwtValidator}
    {resolveKey : String → σ → Option String × σ} {md : Metadata} {time : ℤ} {out : Claims} {k : σ}
    (h : (authenticate jwt v resolveKey md time out k).1.status.ok = false) :
    (authenticate jwt v resolveKey md time out k).1.status.code = .UNAUTHENTICATED := by
  by_cases hbypass : v.bypass = true
  · rw [authenticate, if_pos hbypass] at h
    cases h
  · have hbypass : v.bypass = false := by simpa using hbypass
    rcases @authenticate_cases σ jwt v resolveKey hbypass md time k with
      ⟨_, _, _, -, -, -, he⟩ | ⟨_, _, _, he⟩
    · rw [he] at h
      cases h
    · rw [he]

/-- **A call without a valid token neither changes nor learns anything.**  Two runs on any
two databases, and in each a call with the same metadata, of any RPC with any request.  If
`Authenticate` refuses the metadata, neither call touches a database or a pool, and both
return the status of `Authenticate`, which is `UNAUTHENTICATED`, with no response. -/
theorem unauthenticated_call_learns_nothing {σ : Type} (jwt : JwtCpp) (v : JwtValidator)
    (resolveKey : String → σ → Option String × σ) (time : ℤ) (out : Claims) (keys : σ)
    {i j : ℕ} {db₁ db₂ : Database} {n₁ n₂ : ℕ} {issued₁ issued₂ : List Uuid} {s₁ s₂ : Server}
    (h₁ : Server.Reached
      (Decides i fun md => (authenticate jwt v resolveKey md time out keys).1)
      (Server.start db₁ n₁ issued₁) s₁)
    (h₂ : Server.Reached
      (Decides j fun md => (authenticate jwt v resolveKey md time out keys).1)
      (Server.start db₂ n₂ issued₂) s₂)
    {x₁ x₂ : Task Op Call Local (Reply Response)} (hx₁ : s₁.tasks[i]? = some x₁)
    (hx₂ : s₂.tasks[j]? = some x₂) (hmd : x₂.req.md = x₁.req.md)
    (hreject : (authenticate jwt v resolveKey x₁.req.md time out keys).1.status.ok = false) :
    (authenticate jwt v resolveKey x₁.req.md time out keys).1.status.code = .UNAUTHENTICATED ∧
      LearnsNothing i (authenticate jwt v resolveKey x₁.req.md time out keys).1 s₁ x₁ ∧
      LearnsNothing j (authenticate jwt v resolveKey x₁.req.md time out keys).1 s₂ x₂ := by
  have hcode := authenticate_refused hreject
  obtain ⟨k₁, hrefuses₁⟩ := h₁.refuses rfl x₁ hx₁ hcode
  obtain ⟨k₂, hrefuses₂⟩ := h₂.refuses rfl x₂ hx₂ (hmd ▸ hcode)
  rw [hmd] at hrefuses₂
  exact ⟨hcode, hrefuses₁.learnsNothing hcode, hrefuses₂.learnsNothing hcode⟩

/-- A library that cannot read any token. -/
def noJwt : JwtCpp where
  Decoded := Unit
  decode _ := none
  hasKeyId _ := false
  getKeyId _ := none
  verify _ _ _ _ _ := false
  hasSubject _ := false
  getSubject _ := none
  hasIssuer _ := false
  getIssuer _ := none
  hasAudience _ := false
  getAudience _ := none

/-- `Authenticate` of a call, when no key is known. -/
def authenticateKeyless (md : Metadata) : AuthOutcome :=
  (authenticate noJwt ⟨"issuer", "audience", false⟩ (fun _ k => (none, k)) md 0 ⟨"", "", ""⟩ ()).1

/-- A call without metadata comes in and takes four steps. -/
def withoutToken (req : Request) : List ServerAction :=
  .spawn ⟨[], req⟩ ::
    List.replicate 4 (.step 0 { verdict := .rejected "missing authorization header" "missing_header" })

/-- `CreateWeather` and `GetVehicle` without a header, on a pool with no connection left and
on another with one. -/
theorem unauthenticated_call_learns_nothing_headerless :
    ∃ s₁ s₂ x₁ x₂,
      Server.Reached (Decides 0 authenticateKeyless) (Server.start .empty 0 []) s₁ ∧
      Server.Reached (Decides 0 authenticateKeyless) (Server.start .empty 1 []) s₂ ∧
      s₁.tasks[0]? = some x₁ ∧ s₂.tasks[0]? = some x₂ ∧
      LearnsNothing 0 (authenticateKeyless []) s₁ x₁ ∧
      LearnsNothing 0 (authenticateKeyless []) s₂ x₂ ∧
      x₁.prog = .done ((authenticateKeyless []).status, none) := by
  have hrun₁ : ∃ s, Server.Reached (Decides 0 authenticateKeyless) (Server.start .empty 0 []) s ∧
      ∃ x ∈ s.tasks[0]?, x.req.md = [] ∧
        returned? x.prog = some ((authenticateKeyless []).status, none) :=
    exists_reach (withoutToken (.createWeather ⟨"sunny"⟩)) (by decide +kernel)
  have hrun₂ : ∃ s, Server.Reached (Decides 0 authenticateKeyless) (Server.start .empty 1 []) s ∧
      ∃ x ∈ s.tasks[0]?, x.req.md = [] :=
    exists_reach (withoutToken (.getVehicle ⟨"none"⟩)) (by decide +kernel)
  obtain ⟨s₁, hreach₁, x₁, hx₁, hmd₁, hreply⟩ := hrun₁
  obtain ⟨s₂, hreach₂, x₂, hx₂, hmd₂⟩ := hrun₂
  have hnothing := unauthenticated_call_learns_nothing noJwt ⟨"issuer", "audience", false⟩
    (fun _ k => (none, k)) 0 ⟨"", "", ""⟩ () hreach₁ hreach₂ hx₁ hx₂ (hmd₂.trans hmd₁.symm)
    (by rw [hmd₁]; rfl)
  rw [hmd₁] at hnothing
  exact ⟨s₁, s₂, x₁, x₂, hreach₁, hreach₂, hx₁, hx₂, hnothing.2.1, hnothing.2.2,
    returned?_eq_some hreply⟩

end EvGrpc
