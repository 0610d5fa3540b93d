import EvGrpc.Lib.Rely
import EvGrpc.Rpc.Session

/-!
# A call among others

What a handler achieves while other calls commit between its steps and its own operations
may fail.  `View` is the part of the machine an assertion is about, `Op.Effects` says
what an operation can do to it, and the rules below give the triples of the handlers'
shapes.
-/

namespace EvGrpc

open Lib

/-- What assertions about a call are about. -/
structure View where
  db : Database
  issued : List Uuid
  ids : List Uuid
  pending : List Pending
  committed : Bool
  hasRead : Bool

/-- What a call sees. -/
def Local.view (t : Local) (w : World) : View :=
  ⟨w.db, w.issued, t.ids, t.pending, t.committed, t.hasRead⟩

/-- What an operation can answer and do. -/
def Op.Effects (β : Type) (o : Op β) (c : Choice) (x : View) (b : β) (y : View) : Prop :=
  match o with
  | .auth _ _ => b = authenticateRpcResult c.reqId c.verdict ∧ y = x
  | .enter _ _ _ | .setStatus _ | .leave | .acquire | .release => y = x
  | .beginWork => (∃ e, b = .error e ∧ y = x) ∨ (b = .ok () ∧ y = { x with pending := [] })
  | .endWork => y = { x with pending := [] }
  | .newUuid => b ∉ x.issued ∧ y = { x with issued := b :: x.issued, ids := b :: x.ids }
  | .query q =>
      (∃ e, b = .error e ∧ y = x ∧ (c.fault.isSome = true ∨ replay x.db x.pending = none)) ∨
        ∃ v v', replay x.db x.pending = some v ∧ v.SameRows v' ∧ b = q v' ∧
          y = { x with hasRead := true }
  | .write s =>
      (∃ e, b = .error e ∧ y = x) ∨
        ∃ r v v', replay x.db x.pending = some v ∧ s.run v = .ok (r, v') ∧ b = .ok r ∧
          y = { x with pending := x.pending ++ [⟨s, r⟩] }
  | .commit =>
      (∃ e, b = .error e ∧ y = x) ∨
        ∃ v, replay x.db x.pending = some v ∧ b = .ok () ∧
          y = { x with db := v, pending := [], committed := true }
  | .convert r => (∃ e, b = .error e ∧ y = x ∧ c.fault.isSome = true) ∨ (b = r ∧ y = x)
  | .undefined => False

/-- A step of the machine. -/
theorem step_effects {β : Type} {o : Op β} {c : Choice} {w w' : World} {t t' : Local} {b : β}
    (h : machine.step o c w t = some (b, w', t')) :
    Op.Effects β o c (t.view w) b (t'.view w') := by
  cases o with
  | query q =>
      simp only [machine] at h
      split at h
      · rename_i e hfault
        cases h
        exact .inl ⟨e, rfl, rfl, .inl (by rw [hfault]; rfl)⟩
      · split at h
        · rename_i hreplay
          cases h
          exact .inl ⟨_, rfl, rfl, .inr hreplay⟩
        · rename_i v hreplay
          split at h
          · cases h
          · rename_i v' hview
            cases h
            exact .inr ⟨v, v', hreplay, Choice.sameRows_view hview, rfl, rfl⟩
  | write s =>
      simp only [machine] at h
      split at h
      · cases h
        exact .inl ⟨_, rfl, rfl⟩
      · split at h
        · cases h
          exact .inl ⟨_, rfl, rfl⟩
        · rename_i v hreplay
          split at h
          · cases h
            exact .inl ⟨_, rfl, rfl⟩
          · rename_i r v' hrun
            cases h
            exact .inr ⟨r, v, v', hreplay, hrun, rfl, rfl⟩
  | commit =>
      simp only [machine] at h
      split at h
      · cases h
        exact .inl ⟨_, rfl, rfl⟩
      · split at h
        · cases h
          exact .inl ⟨_, rfl, rfl⟩
        · rename_i v hreplay
          cases h
          exact .inr ⟨v, hreplay, rfl, rfl⟩
  | convert r =>
      simp only [machine] at h
      split at h
      · rename_i e hfault
        cases h
        exact .inl ⟨e, rfl, rfl, by rw [hfault]; rfl⟩
      · cases h
        exact .inr ⟨rfl, rfl⟩
  | beginWork =>
      simp only [machine] at h
      split at h
      · cases h
        exact .inl ⟨_, rfl, rfl⟩
      · cases h
        exact .inr ⟨rfl, rfl⟩
  | newUuid =>
      simp only [machine] at h
      split at h
      · cases h
      · rename_i hu
        cases h
        exact ⟨hu, rfl⟩
  | auth md method =>
      simp only [machine] at h
      cases h
      exact ⟨rfl, rfl⟩
  | _ =>
      simp only [machine] at h
      repeat' split at h
      all_goals cases h
      all_goals rfl

/-! ## Rules -/

section Rules
variable {E : Surroundings machine Local.view} {P : View → Prop} {α β ρ : Type}

/-- One operation, by its effects. -/
theorem triple_op {o : Op β} {Q : β → View → Prop} (hP : E.Stable P) (hQ : ∀ b, E.Stable (Q b))
    (h : ∀ c w t b y, P (t.view w) → E.Ok _ o c w t → Op.Effects β o c (t.view w) b y → Q b y) :
    E.Triple P (Prog.call o) Q :=
  Surroundings.triple_call hP hQ fun c w t b w' t' hx hok hs =>
    h c w t b (t'.view w') hx hok (step_effects hs)

/-- Operations that nobody sees. -/
def Op.silent {β : Type} : Op β → Bool
  | .enter _ _ _ | .setStatus _ | .leave | .acquire | .release => true
  | _ => false

theorem triple_silent {o : Op β} (ho : o.silent = true) (hP : E.Stable P) :
    E.Triple P (Prog.call o) fun _ => P := by
  refine triple_op hP (fun _ => hP) ?_
  intro c w t b y hx _ heff
  cases o with
  | enter | setStatus | leave | acquire | release =>
      cases heff
      exact hx
  | _ => cases ho

theorem triple_run_pure {a : α} {Q : Except Exn α → View → Prop} (hP : E.Stable P)
    (h : ∀ x, P x → Q (.ok a) x) : E.Triple P (pure a : Rpc α).run Q :=
  Surroundings.triple_done hP h

/-- A sequence inside a `try` block: an exception ends it. -/
theorem triple_run_bind {m : Rpc α} {f : α → Rpc β} {S : Except Exn α → View → Prop}
    {Q : Except Exn β → View → Prop} (hm : E.Triple P m.run S)
    (herror : ∀ e, E.Stable (S (.error e)) ∧ ∀ x, S (.error e) x → Q (.error e) x)
    (hf : ∀ a, E.Triple (S (.ok a)) (f a).run Q) : E.Triple P (m >>= f).run Q := by
  rw [ExceptT.run_bind]
  refine hm.bind fun r => ?_
  cases r with
  | ok a => exact hf a
  | error e => exact Surroundings.triple_done (herror e).1 (herror e).2

theorem triple_fail {st : Status} {Q : Except Exn (Reply ρ) → View → Prop} (hP : E.Stable P)
    (h : ∀ x, P x → Q (.ok (st, none)) x) : E.Triple P (fail st : Rpc (Reply ρ)).run Q := by
  have hrun : (fail st : Rpc (Reply ρ)).run =
      (Prog.call (.setStatus st) >>= fun _ => .done (.ok (st, none))) := rfl
  rw [hrun]
  exact (triple_silent rfl hP).bind fun _ => Surroundings.triple_done hP h

/-- A sum is computed, or nothing comes after it. -/
theorem triple_addInt {a b : ℤ} (hP : E.Stable P) :
    E.Triple P (addInt a b).run fun _ => P := by
  unfold addInt
  split
  · have hrun : (perform .undefined).run =
        (Prog.call .undefined >>= fun u => .done (.ok u)) := rfl
    have hundefined : E.Triple P (perform .undefined).run fun _ => P := by
      rw [hrun]
      refine Surroundings.Triple.bind (S := fun _ => P) ?_ fun _ =>
        Surroundings.triple_done hP fun _ hx => hx
      refine triple_op hP (fun _ => hP) ?_
      rintro c w t b y - - ⟨⟩
    exact triple_run_bind hundefined (fun _ => ⟨hP, fun _ hx => hx⟩) fun _ =>
      triple_run_pure hP fun _ hx => hx
  · exact triple_run_pure hP fun _ hx => hx

theorem triple_withConn {body : Rpc α} {Q : Except Exn α → View → Prop} (hP : E.Stable P)
    (hQ : ∀ r, E.Stable (Q r)) (h : E.Triple P body.run Q) :
    E.Triple P (withConn body).run Q := by
  have hrun : (withConn body).run = (Prog.call .acquire >>= fun _ => body.run >>= fun r =>
      Prog.call .release >>= fun _ => .done r) := rfl
  rw [hrun]
  refine (triple_silent rfl hP).bind fun _ => h.bind fun r => ?_
  exact (triple_silent rfl (hQ r)).bind fun _ => Surroundings.triple_done (hQ r) fun _ hx => hx

/-- What is left by opening a transaction: `S` if it opened, what the body leaves if not. -/
def BeginLeaves (S : View → Prop) (Q : Except Exn α → View → Prop) : Except Exn Unit → View → Prop
  | .error e, x => Q (.error e) x
  | .ok (), x => S x

/-- The transaction begins empty, and what it leaves at its end is dropped. -/
theorem triple_withWork {body : Rpc α} {S : View → Prop} {Q : Except Exn α → View → Prop}
    (hP : E.Stable P) (hS : E.Stable S) (hQ : ∀ r, E.Stable (Q r))
    (hbegin : ∀ x, P x → S { x with pending := [] }) (herror : ∀ e x, P x → Q (.error e) x)
    (hend : ∀ r x, Q r x → Q r { x with pending := [] }) (h : E.Triple S body.run Q) :
    E.Triple P (withWork body).run Q := by
  rw [run_withWork]
  have hopen : E.Triple P (Prog.call .beginWork) (BeginLeaves S Q) := by
    refine triple_op hP ?_ ?_
    · intro r
      cases r with
      | error e => exact hQ _
      | ok => exact hS
    · intro c w t b y hx _ heff
      rcases heff with ⟨e, rfl, rfl⟩ | ⟨rfl, rfl⟩
      · exact herror e _ hx
      · exact hbegin _ hx
  refine hopen.bind fun r => ?_
  cases r with
  | error e => exact Surroundings.triple_done (hQ _) fun _ hx => hx
  | ok =>
      refine h.bind fun r => Surroundings.Triple.bind (S := fun _ => Q r) ?_ fun _ =>
        Surroundings.triple_done (hQ r) fun _ hx => hx
      refine triple_op (hQ r) (fun _ => hQ r) ?_
      intro c w t b y hx _ heff
      cases heff
      exact hend r _ hx

theorem triple_catching {body : Rpc (Reply ρ)} {Q : Reply ρ → View → Prop}
    (hQ : ∀ r, E.Stable (Q r)) (h : E.Triple P body.run fun r => Q (settle r)) :
    E.Triple P (catching body) Q := by
  unfold catching
  refine h.bind fun r => ?_
  cases r with
  | ok r => exact Surroundings.triple_done (hQ r) fun _ hx => hx
  | error e =>
      exact (triple_silent rfl (hQ _)).bind fun _ =>
        Surroundings.triple_done (hQ _) fun _ hx => hx

/-- A check made before the `try` block. -/
theorem triple_validated {st : Status} {body : Prog Op (Reply ρ)} {Q : Reply ρ → View → Prop}
    (hok : st.ok = true → E.Triple P body Q)
    (hfail : st.ok ≠ true → ∀ x, P x → Q (st, none) x) (hP : E.Stable P) :
    E.Triple P (validated st body) Q := by
  unfold validated
  by_cases h : st.ok = true
  · rw [if_pos h]
    exact hok h
  · rw [if_neg h]
    exact (triple_silent rfl hP).bind fun _ => Surroundings.triple_done hP (hfail h)

/-- The prologue: the call goes on when its token is accepted. -/
theorem triple_authenticated {md : Metadata} {kMethod : String} {body : Prog Op (Reply ρ)}
    {Q : Reply ρ → View → Prop} (hP : E.Stable P) (hQ : ∀ r, E.Stable (Q r))
    (hreject : ∀ c w t message reason, P (t.view w) → E.Ok _ (.auth md kMethod) c w t →
      c.verdict = .rejected message reason → Q (⟨.UNAUTHENTICATED, message⟩, none) (t.view w))
    (h : E.Triple P body Q) : E.Triple P (authenticated md kMethod body) Q := by
  have hprog : authenticated md kMethod body = (Prog.call (.auth md kMethod) >>= fun a =>
      Prog.call (.enter kMethod a.subject a.reqId) >>= fun _ => validated a.status body >>= fun r =>
        Prog.call .leave >>= fun _ => .done r) := rfl
  -- After the verdict, the call is on its way to the body or to its reply.
  let S : AuthenticateRpcResult → View → Prop := fun a x =>
    if a.status.ok = true then P x else Q (a.status, none) x
  have hS : ∀ a, E.Stable (S a) := by
    intro a
    by_cases hok : a.status.ok = true
    · simp only [S, hok, if_true]
      exact hP
    · simp only [S, hok]
      exact hQ _
  have hauth : E.Triple P (Prog.call (.auth md kMethod)) S := by
    refine triple_op hP hS ?_
    rintro c w t b y hx hOk ⟨rfl, rfl⟩
    cases hverdict : c.verdict with
    | accepted subject reason => exact hx
    | rejected message reason => exact hreject c w t message reason hx hOk hverdict
  rw [hprog]
  refine hauth.bind fun a => (triple_silent rfl (hS a)).bind fun _ => ?_
  refine Surroundings.Triple.bind (S := Q) ?_ fun r =>
    (triple_silent rfl (hQ r)).bind fun _ => Surroundings.triple_done (hQ r) fun _ hx => hx
  refine triple_validated (fun hok => ?_) (fun hok x hx => ?_) (hS a)
  · simp only [S, hok, if_true]
    exact h
  · simpa only [S, if_neg hok] using hx

end Rules

end EvGrpc
