import EvGrpc.Lib.Rely
import EvGrpc.Shapes

/-!
# The audit log

Every invocation of a handler logs three lines: the outcome of its authentication, its
entry, and, from the destructor of its `RpcScope`, its exit with the status the scope was
told.  The scope starts with `OK`, so the exit line is right only if every way out of the
handler that returns something else has told it.

Assertions here are about the open scopes and the lines of a call.  Other calls cannot
touch them, so nothing is assumed about what others do, nor about what fails.
-/

namespace EvGrpc

open Lib

/-- The open scopes of a call and the lines it has logged. -/
structure Trail where
  scopes : List Scope
  lines : List LogLine

/-- What the log shows of a call. -/
def Local.trail (t : Local) (_ : World) : Trail := ⟨t.scopes, t.lines⟩

/-- Anything may happen. -/
def anywhere : Surroundings machine Local.trail where
  Rely _ _ _ := True
  Ok _ _ _ _ _ := True
  refl _ _ := trivial

theorem anywhere_stable (P : Trail → Prop) : anywhere.Stable P := fun _ _ _ hx _ => hx

/-! ## Operations -/

/-- The operations that have nothing to do with the log. -/
def Op.unlogged {β : Type} : Op β → Bool
  | .auth _ _ | .enter _ _ _ | .setStatus _ | .leave => false
  | _ => true

section Operations
variable {P : Trail → Prop} {α β ρ : Type}

theorem step_unlogged {o : Op β} {c : Choice} {w w' : World} {t t' : Local} {b : β}
    (ho : o.unlogged = true) (h : machine.step o c w t = some (b, w', t')) :
    t'.trail w' = t.trail w := by
  cases o with
  | auth | enter | setStatus | leave => cases ho
  | _ =>
      simp only [machine] at h
      repeat' split at h
      all_goals cases h
      all_goals rfl

theorem trail_unlogged {o : Op β} (ho : o.unlogged = true) :
    anywhere.Triple P (Prog.call o) fun _ => P := by
  refine Surroundings.triple_call (anywhere_stable _) (fun _ => anywhere_stable _) ?_
  intro c w t b w' t' hx _ hs
  rwa [step_unlogged ho hs]

theorem trail_done {a : α} {Q : α → Trail → Prop} (h : ∀ x, P x → Q a x) :
    anywhere.Triple P (.done a) Q :=
  Surroundings.triple_done (anywhere_stable _) h

theorem trail_perform {o : Op β} (ho : o.unlogged = true) :
    anywhere.Triple P (perform o).run fun _ => P :=
  (trail_unlogged ho).bind fun _ => trail_done fun _ hx => hx

theorem trail_run_bind {m : Rpc α} {f : α → Rpc β} {S : Except Exn α → Trail → Prop}
    {Q : Except Exn β → Trail → Prop} (hm : anywhere.Triple P m.run S)
    (herror : ∀ e x, S (.error e) x → Q (.error e) x)
    (hf : ∀ a, anywhere.Triple (S (.ok a)) (f a).run Q) : anywhere.Triple P (m >>= f).run Q := by
  rw [ExceptT.run_bind]
  refine hm.bind fun r => ?_
  cases r with
  | ok a => exact hf a
  | error e => exact trail_done (herror e)

/-- A scope is told a status. -/
theorem trail_setStatus {x : Scope} {xs : List Scope} {ls : List LogLine} (s : Status) :
    anywhere.Triple (· = ⟨x :: xs, ls⟩) (Prog.call (.setStatus s))
      fun _ v => v = ⟨{ x with status := s } :: xs, ls⟩ := by
  refine Surroundings.triple_call (anywhere_stable _) (fun _ => anywhere_stable _) ?_
  intro c w t b w' t' hx _ hs
  obtain ⟨hscopes, hlines⟩ := Trail.mk.inj hx
  simp only [machine, hscopes] at hs
  cases hs
  simp [Local.trail, hlines]

end Operations

/-! ## Bodies -/

section Bodies
variable {P : Trail → Prop} {α ρ : Type} {x : Scope} {xs : List Scope} {ls : List LogLine}

/-- Plain code logs nothing. -/
theorem Plain.trail {m : Rpc α} (h : Plain m) : anywhere.Triple P m.run fun _ => P := by
  induction h with
  | pure a => exact trail_done fun _ hx => hx
  | exec q => exact trail_unlogged (o := .query q) rfl
  | convert r => exact trail_unlogged (o := .convert r) rfl
  | addInt a b =>
      unfold EvGrpc.addInt
      split
      · exact trail_run_bind (trail_perform (o := .undefined) rfl) (fun _ _ hx => hx)
          fun _ => trail_done fun _ hx => hx
      · exact trail_done fun _ hx => hx
  | bind _ _ ihm ihf => exact trail_run_bind ihm (fun _ _ hx => hx) ihf

/-- The innermost scope has been told what is returned; `R` is what is known of the lines
logged since it was opened. -/
def Honest (R : Reply ρ → List LogLine → Prop) (x : Scope) (xs : List Scope) (ls : List LogLine)
    (reply : Reply ρ) (v : Trail) : Prop :=
  ∃ inner, R reply inner ∧ v = ⟨{ x with status := reply.1 } :: xs, ls ++ inner⟩

/-- The same of a `try` block.  When it throws the scope may have been told anything: the
`catch` will tell it. -/
def HonestRun (R : Reply ρ → List LogLine → Prop) (x : Scope) (xs : List Scope)
    (ls : List LogLine) : Except Exn (Reply ρ) → Trail → Prop
  | .ok reply, v => Honest R x xs ls reply v
  | .error e, v => ∃ s inner, R (toGrpcStatus e, none) inner ∧
      v = ⟨{ x with status := s } :: xs, ls ++ inner⟩

theorem trail_fail {R : Reply ρ → List LogLine → Prop} (s : Status) (hR : R (s, none) []) :
    anywhere.Triple (· = ⟨x :: xs, ls⟩) (fail s : Rpc (Reply ρ)).run (HonestRun R x xs ls) := by
  have hrun : (fail s : Rpc (Reply ρ)).run =
      (Prog.call (.setStatus s) >>= fun _ => .done (.ok (s, none))) := rfl
  rw [hrun]
  refine (trail_setStatus s).bind fun _ => trail_done ?_
  rintro v rfl
  exact ⟨[], hR, by rw [List.append_nil]⟩

theorem trail_withConn {body : Rpc α} {Q : Except Exn α → Trail → Prop}
    (h : anywhere.Triple P body.run Q) : anywhere.Triple P (withConn body).run Q := by
  have hrun : (withConn body).run = (Prog.call .acquire >>= fun _ => body.run >>= fun r =>
      Prog.call .release >>= fun _ => .done r) := rfl
  rw [hrun]
  refine (trail_unlogged rfl).bind fun _ => h.bind fun r => ?_
  exact (trail_unlogged rfl).bind fun _ => trail_done fun _ hv => hv

theorem trail_withWork {body : Rpc α} {Q : Except Exn α → Trail → Prop}
    (h : anywhere.Triple P body.run Q) (herror : ∀ e v, P v → Q (.error e) v) :
    anywhere.Triple P (withWork body).run Q := by
  rw [run_withWork]
  refine (trail_unlogged rfl).bind fun r => ?_
  cases r with
  | error e => exact trail_done (herror e)
  | ok =>
      exact h.bind fun r => (trail_unlogged rfl).bind fun _ => trail_done fun _ hv => hv

variable {R : Reply ρ → List LogLine → Prop}

/-- Nothing was told yet, and the block has thrown. -/
theorem honestRun_error (hR : ∀ s, R (s, none) []) (e : Exn) (v : Trail) (hv : v = ⟨x :: xs, ls⟩) :
    HonestRun R x xs ls (.error e) v :=
  ⟨x.status, [], hR _, by rw [hv, List.append_nil]⟩

/-- Nothing was told yet, and the block returns `OK`. -/
theorem honestRun_reply {resp : Option ρ} (hR : R (.OK, resp) []) (hx : x.status = .OK) (v : Trail)
    (hv : v = ⟨x :: xs, ls⟩) : HonestRun R x xs ls (.ok (.OK, resp)) v :=
  ⟨[], hR, by rw [hv, List.append_nil, ← hx]⟩

/-- Every way out of a `try` block has told the scope. -/
theorem Body.honest {req : Request} {ids : List Uuid} {b : Rpc (Reply ρ)} (h : Body req ids b)
    (hR : ∀ reply, R reply []) (hx : x.status = .OK) :
    anywhere.Triple (· = ⟨x :: xs, ls⟩) b.run (HonestRun R x xs ls) := by
  have herror : ∀ e v, v = ⟨x :: xs, ls⟩ → HonestRun R x xs ls (.error e) v :=
    honestRun_error fun s => hR (s, none)
  induction h with
  | fail s => exact trail_fail s (hR _)
  | reply resp => exact trail_done (honestRun_reply (hR _) hx)
  | commit resp =>
      exact trail_run_bind (trail_unlogged (o := .commit) rfl) herror
        fun _ => trail_done (honestRun_reply (hR _) hx)
  | plain hm _ ih => exact trail_run_bind hm.trail herror ih
  | @write _ _ w _ _ _ ih =>
      exact trail_run_bind (trail_unlogged (o := .write w) rfl) herror ih
  | newUuid _ ih => exact trail_run_bind (trail_perform (o := .newUuid) rfl) herror ih
  | withConn _ ih => exact trail_withConn ih
  | withWork _ ih => exact trail_withWork ih herror

/-- The `catch` tells the scope what it returns. -/
theorem trail_catching {b : Rpc (Reply ρ)} (hb : anywhere.Triple P b.run (HonestRun R x xs ls)) :
    anywhere.Triple P (catching b) (Honest R x xs ls) := by
  unfold catching
  refine hb.bind fun r => ?_
  cases r with
  | ok reply => exact trail_done fun _ hv => hv
  | error e =>
      refine Surroundings.triple_of_exists fun s => Surroundings.triple_of_exists fun inner => ?_
      refine Surroundings.triple_of_and fun hinner => ?_
      refine (trail_setStatus (toGrpcStatus e)).bind fun _ => trail_done ?_
      rintro v rfl
      exact ⟨inner, hinner, rfl⟩

theorem trail_validated {s : Status} {p : Prog Op (Reply ρ)} (hR : R (s, none) [])
    (h : s.ok = true → anywhere.Triple (· = ⟨x :: xs, ls⟩) p (Honest R x xs ls)) :
    anywhere.Triple (· = ⟨x :: xs, ls⟩) (validated s p) (Honest R x xs ls) := by
  unfold validated
  split
  · rename_i hs
    exact h hs
  · refine (trail_setStatus s).bind fun _ => trail_done ?_
    rintro v rfl
    exact ⟨[], hR, by rw [List.append_nil]⟩

/-- Behind the prologue, too, the scope has been told. -/
theorem Handler.honest {req : Request} {p : Prog Op (Reply ρ)} (h : Handler req p)
    (hR : ∀ reply, R reply []) (hx : x.status = .OK) :
    anywhere.Triple (· = ⟨x :: xs, ls⟩) p (Honest R x xs ls) := by
  induction h with
  | catching hb => exact trail_catching (hb.honest hR hx)
  | validated s _ ih => exact trail_validated (hR _) ih

end Bodies

/-! ## Invocations -/

/-- The lines of an invocation that returned `s`, around the lines logged inside it. -/
def invocation (method subject reason reqId : String) (s : Status) (inner : List LogLine) :
    List LogLine :=
  .auth method subject reason reqId ::
    .entry reqId method (if subject = "" then "<unknown>" else subject) ::
      inner ++ [.exit reqId method s.code.toNat]

/-- The lines are those of an invocation that returned `s`: one correlation id runs through
them, and the exit line has the code of `s`. -/
def Tells (s : Status) (inner lines : List LogLine) : Prop :=
  ∃ method subject reason reqId, lines = invocation method subject reason reqId s inner

section Invocations
variable {ρ : Type} {md : Metadata} {kMethod : String} {xs : List Scope} {ls : List LogLine}

theorem trail_auth :
    anywhere.Triple (· = ⟨xs, ls⟩) (Prog.call (.auth md kMethod)) fun a v =>
      a.reqId ≠ "" ∧ v = ⟨xs, ls ++ [.auth kMethod a.subject a.reason a.reqId]⟩ := by
  refine Surroundings.triple_call (anywhere_stable _) (fun _ => anywhere_stable _) ?_
  intro c w t b w' t' hx _ hs
  obtain ⟨hscopes, hlines⟩ := Trail.mk.inj hx
  simp only [machine] at hs
  cases hs
  refine ⟨?_, by simp [Local.trail, hscopes, hlines]⟩
  have hid : (authenticateRpcResult c.reqId c.verdict).reqId = c.reqId := by
    cases c.verdict <;> rfl
  rw [hid]
  exact newReqId_ne_empty _ _

/-- The scope keeps the correlation id it is given, as that is never empty. -/
theorem trail_enter {subject reqId : String} (hid : reqId ≠ "") :
    anywhere.Triple (· = ⟨xs, ls⟩) (Prog.call (.enter kMethod subject reqId)) fun _ v =>
      v = ⟨⟨reqId, kMethod, .OK⟩ :: xs,
        ls ++ [.entry reqId kMethod (if subject = "" then "<unknown>" else subject)]⟩ := by
  refine Surroundings.triple_call (anywhere_stable _) (fun _ => anywhere_stable _) ?_
  intro c w t b w' t' hx _ hs
  obtain ⟨hscopes, hlines⟩ := Trail.mk.inj hx
  simp only [machine, if_neg hid] at hs
  cases hs
  simp [Local.trail, hscopes, hlines]

theorem trail_leave {x : Scope} :
    anywhere.Triple (· = ⟨x :: xs, ls⟩) (Prog.call .leave) fun _ v =>
      v = ⟨xs, ls ++ [.exit x.reqId x.method x.status.code.toNat]⟩ := by
  refine Surroundings.triple_call (anywhere_stable _) (fun _ => anywhere_stable _) ?_
  intro c w t b w' t' hx _ hs
  obtain ⟨hscopes, hlines⟩ := Trail.mk.inj hx
  simp only [machine, hscopes] at hs
  cases hs
  simp [Local.trail, hlines]

/-- An invocation tells of what it returns, when what stands behind the prologue has told
the scope. -/
theorem trail_authenticated {body : Prog Op (Reply ρ)} {R : Reply ρ → List LogLine → Prop}
    (hR : ∀ s, R (s, none) [])
    (h : ∀ (x : Scope) (ls : List LogLine), x.status = .OK →
      anywhere.Triple (· = ⟨x :: xs, ls⟩) body (Honest R x xs ls)) :
    anywhere.Triple (· = ⟨xs, ls⟩) (authenticated md kMethod body) fun reply v =>
      ∃ inner lines, R reply inner ∧ Tells reply.1 inner lines ∧ v = ⟨xs, ls ++ lines⟩ := by
  have hprog : authenticated md kMethod body = (Prog.call (.auth md kMethod) >>= fun a =>
      Prog.call (.enter kMethod a.subject a.reqId) >>= fun _ => validated a.status body >>= fun r =>
        Prog.call .leave >>= fun _ => .done r) := rfl
  rw [hprog]
  refine trail_auth.bind fun a => Surroundings.triple_of_and fun hid => ?_
  refine (trail_enter hid).bind fun _ => ?_
  refine (trail_validated (hR _) fun _ => h _ _ rfl).bind fun reply => ?_
  refine Surroundings.triple_of_exists fun inner => Surroundings.triple_of_and fun hinner => ?_
  refine trail_leave.bind fun _ => trail_done ?_
  rintro v rfl
  refine ⟨inner, _, hinner, ⟨kMethod, a.subject, a.reason, a.reqId, rfl⟩, ?_⟩
  simp [invocation]

/-- A handler of the grammar logs its own three lines. -/
theorem trail_handler {req : Request} {body : Prog Op (Reply ρ)} (h : Handler req body) :
    anywhere.Triple (· = ⟨xs, ls⟩) (authenticated md kMethod body) fun reply v =>
      ∃ inner lines, inner = [] ∧ Tells reply.1 inner lines ∧ v = ⟨xs, ls ++ lines⟩ :=
  trail_authenticated (fun _ => rfl) fun _ _ hx => h.honest (fun _ => rfl) hx

/-- `GetVehicle`, from wherever it is called. -/
theorem trail_getVehicle (req : GetVehicleRequest) :
    anywhere.Triple (· = ⟨xs, ls⟩) (getVehicle md req) fun reply v =>
      ∃ inner lines, inner = [] ∧ Tells reply.1 inner lines ∧ v = ⟨xs, ls ++ lines⟩ := by
  have hbody : Handler (.getVehicle req)
      (catching (getRow (selectVehicle req.id) vehicleNotFound rowToVehicle)) :=
    .catching (body_getRow ..)
  exact trail_handler hbody

/-- Lines that were there before are among those logged since. -/
theorem HonestRun.append {x : Scope} {R : Reply ρ → List LogLine → Prop} {lines : List LogLine}
    {r : Except Exn (Reply ρ)} {v : Trail}
    (h : HonestRun (fun reply inner => R reply (lines ++ inner)) x xs (ls ++ lines) r v) :
    HonestRun R x xs ls r v := by
  cases r with
  | ok reply =>
      obtain ⟨inner, hinner, hv⟩ := h
      exact ⟨lines ++ inner, hinner, by rw [hv, List.append_assoc]⟩
  | error e =>
      obtain ⟨s, inner, hinner, hv⟩ := h
      exact ⟨s, lines ++ inner, hinner, by rw [hv, List.append_assoc]⟩

/-- Inside an invocation nothing was logged, or one invocation that returned the same
code. -/
def AtMostOneInside (reply : Reply ρ) (inner : List LogLine) : Prop :=
  inner = [] ∨ Tells reply.1 [] inner

theorem Tells.of_ok {s : Status} {inner lines : List LogLine} (h : Tells s inner lines)
    (hs : s.ok = true) : Tells .OK inner lines := by
  obtain ⟨method, subject, reason, reqId, rfl⟩ := h
  have hcode : s.code = .OK := by simpa [Status.ok] using hs
  exact ⟨method, subject, reason, reqId, by rw [invocation, hcode]; rfl⟩

/-- `CreateVehicle` returns the status of the `GetVehicle` it called. -/
theorem trail_createVehicle (req : CreateVehicleRequest) :
    anywhere.Triple (· = ⟨xs, ls⟩) (createVehicle md req) fun reply v =>
      ∃ inner lines, AtMostOneInside reply inner ∧ Tells reply.1 inner lines ∧
        v = ⟨xs, ls ++ lines⟩ := by
  refine trail_authenticated (fun _ => .inl rfl) fun x ls hx => trail_catching ?_
  have herror : ∀ e v, v = ⟨x :: xs, ls⟩ →
      HonestRun AtMostOneInside x xs ls (.error e : Except Exn (Reply Vehicle)) v :=
    honestRun_error fun s => .inl rfl
  refine trail_withConn (trail_withWork ?_ herror)
  refine trail_run_bind (trail_perform (o := .newUuid) rfl) herror fun u => ?_
  refine trail_run_bind (trail_unlogged (o := .write _) rfl) herror fun _ => ?_
  refine trail_run_bind (trail_unlogged (o := .commit) rfl) herror fun _ => ?_
  -- The nested invocation has a scope of its own, on top of this one.
  have hread : anywhere.Triple (· = ⟨x :: xs, ls⟩) (callHandler (getVehicle md ⟨uuidOut u⟩)).run
      fun r v => match r with
        | .ok read => ∃ inner lines, inner = [] ∧ Tells read.1 inner lines ∧
            v = ⟨x :: xs, ls ++ lines⟩
        | .error _ => False :=
    (trail_getVehicle _).bind fun read => trail_done fun _ hv => hv
  refine trail_run_bind hread (fun _ _ hv => hv.elim) fun read => ?_
  refine Surroundings.triple_of_exists fun inner => Surroundings.triple_of_exists fun lines => ?_
  refine Surroundings.triple_of_and ?_
  rintro rfl
  refine Surroundings.triple_of_and fun htells => ?_
  split
  · refine (trail_fail read.1 ?_).conseq (fun _ hv => hv) fun _ _ hv => hv.append
    exact .inr (by simpa using htells)
  · rename_i hok
    refine trail_done fun v hv => HonestRun.append (honestRun_reply ?_ hx v hv)
    exact .inr (by simpa using htells.of_ok (by simpa using hok))

/-- Every handler. -/
theorem trail_handle (call : Call) :
    anywhere.Triple (· = ⟨xs, ls⟩) (handle call) fun reply v =>
      ∃ inner lines, (call.req.nests = false → inner = []) ∧ AtMostOneInside reply inner ∧
        Tells reply.1 inner lines ∧ v = ⟨xs, ls ++ lines⟩ := by
  by_cases hnests : call.req.nests = false
  · obtain ⟨ρ, f, kMethod, b, hb, he⟩ := handle_shape call hnests
    rw [he]
    refine (trail_handler hb).bind fun reply => trail_done ?_
    rintro v ⟨inner, lines, rfl, htells, hv⟩
    exact ⟨[], lines, fun _ => rfl, .inl rfl, htells, hv⟩
  · obtain ⟨md, req⟩ := call
    cases req with
    | createVehicle r =>
        refine (trail_createVehicle r).bind fun reply => trail_done ?_
        rintro v ⟨inner, lines, hinner, htells, hv⟩
        exact ⟨inner, lines, fun h => absurd h hnests, hinner, htells, hv⟩
    | _ => exact absurd rfl hnests

end Invocations

/-! ## Runs -/

/-- A line that a step logs is logged for its call. -/
theorem step_log {β : Type} {o : Op β} {c : Choice} {w w' : World} {t t' : Local} {b : β}
    (h : machine.step o c w t = some (b, w', t')) :
    ∃ ls, w'.log = w.log ++ ls ∧ t'.lines = t.lines ++ ls := by
  cases o with
  | auth | enter =>
      simp only [machine] at h
      cases h
      exact ⟨_, rfl, rfl⟩
  | leave =>
      simp only [machine] at h
      split at h
      · cases h
      · cases h
        exact ⟨_, rfl, rfl⟩
  | _ =>
      simp only [machine] at h
      repeat' split at h
      all_goals cases h
      all_goals exact ⟨[], (List.append_nil _).symm, (List.append_nil _).symm⟩

/-- The lines of a call are in the log, in their order. -/
theorem Server.Reached.lines_sublist {Ok : Server → ServerAction → Prop} {s₀ s : Server}
    (h : Server.Reached Ok s₀ s) (h₀ : s₀.tasks = []) :
    ∀ x ∈ s.tasks, x.loc.lines.Sublist s.world.log := by
  refine h.rec_invariant (I := fun s : Server => ∀ x ∈ s.tasks, x.loc.lines.Sublist s.world.log)
    (by simp [h₀]) ?_
  intro s a s' hI _ e x hx
  rcases State.act_cases e with ⟨call, -, rfl⟩ | ⟨i, c, call, t, β, o, k, b, w, t', -, hi, hs, rfl⟩
  · rcases List.mem_append.mp hx with hx | hx
    · exact hI x hx
    · rw [List.mem_singleton.mp hx]
      exact List.nil_sublist _
  · obtain ⟨ls, hlog, hlines⟩ := step_log hs
    rcases List.mem_or_eq_of_mem_set hx with hx | rfl
    · exact (hI x hx).trans (hlog ▸ List.sublist_append_left _ _)
    · rw [hlog, hlines]
      exact (hI _ (List.mem_of_getElem? hi)).append (.refl _)

/-- **The audit log tells the truth.**  In every run, whatever fails: a call that has
returned has logged its authentication, its entry and its exit with one correlation id, and
the code of the exit line is the code it returned.  Nothing else is logged for it, but that
`CreateVehicle` may call `GetVehicle`, which is an invocation of its own with the same
guarantee, wherever it is called. -/
theorem audit_log_tells_the_truth {Ok : Server → ServerAction → Prop} {db : Database} {n : ℕ}
    {issued : List Uuid} {s : Server} (h : Server.Reached Ok (Server.start db n issued) s) :
    (∀ x ∈ s.tasks, ∀ reply, x.prog = .done reply →
      x.loc.lines.Sublist s.world.log ∧ ∃ inner, Tells reply.1 inner x.loc.lines ∧
        (x.req.req.nests = false → inner = []) ∧ (inner = [] ∨ Tells reply.1 [] inner)) ∧
    ∀ md req t w, (getVehicle md req).Sound machine (fun _ _ _ => True) (fun _ _ _ _ _ => True)
      (fun reply t' _ => ∃ lines, t'.lines = t.lines ++ lines ∧ Tells reply.1 [] lines) t w := by
  have hsound : ∀ x ∈ s.tasks, x.prog.Sound machine anywhere.Rely anywhere.Ok
      (fun reply t w => ∃ inner lines, (x.req.req.nests = false → inner = []) ∧
        AtMostOneInside reply inner ∧ Tells reply.1 inner lines ∧ t.trail w = ⟨[], [] ++ lines⟩)
      x.loc s.world := by
    refine tasks_sound (Q := fun call reply t w => ∃ inner lines, (call.req.nests = false → inner = []) ∧
        AtMostOneInside reply inner ∧ Tells reply.1 inner lines ∧ t.trail w = ⟨[], [] ++ lines⟩)
      (fun _ _ => trivial) (fun _ _ _ _ _ _ => trivial) h rfl ?_ ?_ ?_
    · exact fun s call _ => trail_handle call Local.fresh s.world rfl
    · intros
      trivial
    · intros
      trivial
  refine ⟨?_, ?_⟩
  · intro x hx reply hdone
    refine ⟨h.lines_sublist rfl x hx, ?_⟩
    have hpromise := hsound x hx
    rw [hdone] at hpromise
    obtain ⟨inner, lines, hnests, hinner, htells, htrail⟩ := hpromise s.world trivial
    have hlines : x.loc.lines = lines := (Trail.mk.inj htrail).2
    exact ⟨inner, hlines ▸ htells, hnests, hinner⟩
  · intro md req t w
    refine (trail_getVehicle req t w rfl).mono ?_
    rintro reply t' w' ⟨_, lines, rfl, htells, hv⟩
    exact ⟨lines, (Trail.mk.inj hv).2, htells⟩

/-- A `GetVehicle` with an id that is none. -/
theorem audit_log_tells_the_truth_failed :
    ∃ s, Server.Reached (fun _ _ => True) (Server.start .empty 1 []) s ∧
      ∃ x ∈ s.tasks, ∃ reply, x.prog = .done reply ∧ reply.1.ok = false ∧
        x.loc.lines.Sublist s.world.log ∧ ∃ inner, Tells reply.1 inner x.loc.lines := by
  have hrun : ∃ s, Server.Reached (fun _ _ => True) (Server.start .empty 1 []) s ∧
      ∃ x ∈ s.tasks, ∃ reply ∈ returned? x.prog, reply.1.ok = false :=
    exists_reach (firstSteps 0 (.getVehicle ⟨"none"⟩) (someUuid 0) 7) (by decide +kernel)
  obtain ⟨s, hreach, x, hx, reply, hreply, hfail⟩ := hrun
  have hdone := returned?_eq_some hreply
  obtain ⟨hsub, inner, htells, -⟩ := (audit_log_tells_the_truth hreach).1 x hx reply hdone
  exact ⟨s, hreach, x, hx, reply, hdone, hfail, hsub, inner, htells⟩

end EvGrpc
