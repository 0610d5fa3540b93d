import EvGrpc.Rpc.Interference
import EvGrpc.Serial.Moment

/-!
# Strict serializability

In every interleaving, and whatever fails, the calls that take effect do so as if they had
been served one after the other, each alone, in an order in which no call comes before one
that had returned when it arrived (`strictly_serializable`).  The moment of a call that
commits is its commit; the moment of a call that only asks is its question.

`Placed` says where a call stands on its way there: as long as it only knows how its own
statements were answered, it could be alone on any database on which they are answered so;
from its moment on, it could be alone on the database of that moment.
-/

namespace EvGrpc

open Lib

/-- The `k`-th action of the run was a step of call `i`, and led from `d` to `d'`. -/
def StepAt (past : Past) (i k : ℕ) (d d' : Database) : Prop :=
  ∃ c t t', Took (State.act machine handle Local.fresh) past k t (.step i c) t' ∧
    t.world.db = d ∧ t'.world.db = d'

/-- No step of call `i` failed, or met rows on which the statements of its open transaction
would be answered differently. -/
def Unhurt (past : Past) (i : ℕ) : Prop :=
  ∀ k t c t', Took (State.act machine handle Local.fresh) past k t (.step i c) t' →
    c.Clean ∧ ∀ x, t.tasks[i]? = some x → (replay t.world.db x.loc.pending).isSome

section Past
variable {past : Past} {i k : ℕ} {d d' : Database} {y : Server × ServerAction}

theorem StepAt.mono (h : StepAt past i k d d') : StepAt (past ++ [y]) i k d d' := by
  obtain ⟨c, t, t', htook, hd, hd'⟩ := h
  exact ⟨c, t, t', htook.mono _, hd, hd'⟩

/-- A step of another call is none of this one. -/
theorem StepAt.of_other (hy : ∀ c, y.2 ≠ .step i c) (h : StepAt (past ++ [y]) i k d d') :
    StepAt past i k d d' := by
  obtain ⟨c, t, t', htook, hd, hd'⟩ := h
  rcases htook.of_concat with hold | ⟨-, rfl, -⟩
  · exact ⟨c, t, t', hold, hd, hd'⟩
  · exact absurd rfl (hy c)

theorem stepAt_concat {s s' : Server} {c : Choice} (past : Past)
    (e : State.act machine handle Local.fresh s (.step i c) = some s') :
    StepAt (past ++ [(s, .step i c)]) i past.length s.world.db s'.world.db :=
  ⟨c, s, s', took_concat e, rfl, rfl⟩

/-- The steps of a longer run. -/
theorem StepAt.of_concat {s s' : Server} {c : Choice}
    (e : State.act machine handle Local.fresh s (.step i c) = some s')
    (h : StepAt (past ++ [(s, .step i c)]) i k d d') :
    StepAt past i k d d' ∨ (k = past.length ∧ d = s.world.db ∧ d' = s'.world.db) := by
  obtain ⟨c', t, t', htook, hd, hd'⟩ := h
  rcases htook.of_concat with hold | ⟨hk, heq, he⟩
  · exact .inl ⟨c', t, t', hold, hd, hd'⟩
  · cases heq
    rw [e] at he
    cases he
    exact .inr ⟨hk, hd.symm, hd'.symm⟩

theorem Unhurt.of_concat (h : Unhurt (past ++ [y]) i) : Unhurt past i :=
  fun k t c t' htook => h k t c t' (htook.mono _)

theorem Unhurt.last {s s' : Server} {c : Choice} {x : Task Op Call Local (Reply Response)}
    (e : State.act machine handle Local.fresh s (.step i c) = some s') (hx : s.tasks[i]? = some x)
    (h : Unhurt (past ++ [(s, .step i c)]) i) :
    c.Clean ∧ (replay s.world.db x.loc.pending).isSome := by
  obtain ⟨hclean, hreplay⟩ := h _ _ _ _ (took_concat e)
  exact ⟨hclean, hreplay x hx⟩

end Past

/-! ## One step, alone -/

/-- The operation failed: access was denied, or it threw. -/
def Op.threw {β : Type} : Op β → β → Bool
  | .auth _ _, a => !a.status.ok
  | .beginWork, r | .commit, r => !r.isOk
  | .query _, r | .write _, r | .convert _, r => !r.isOk
  | _, _ => false

/-- The operation is a commit. -/
def Op.commits {β : Type} : Op β → Bool
  | .commit => true
  | _ => false

/-- What a call sees, as a session. -/
def View.session (x : View) : Session := ⟨x.db, x.pending⟩

section Step
variable {β : Type} {o : Op β} {c : Choice} {w w' : World} {t t' : Local} {b : β} {x y : View}

theorem Op.Effects.answers (h : o.Effects β c x b y) (hb : o.threw b = false) :
    o.Answers β x.session b y.session := by
  cases o with
  | auth md method =>
      obtain ⟨-, rfl⟩ := h
      exact ⟨by simpa [Op.threw] using hb, rfl⟩
  | beginWork =>
      rcases h with ⟨e, rfl, -⟩ | ⟨rfl, rfl⟩
      · cases hb
      · exact ⟨rfl, rfl⟩
  | endWork =>
      cases h
      rfl
  | newUuid =>
      obtain ⟨-, rfl⟩ := h
      rfl
  | query q =>
      rcases h with ⟨e, rfl, -, -⟩ | ⟨v, v', hv, hsame, rfl, rfl⟩
      · cases hb
      · exact ⟨v, v', hv, hsame, rfl, rfl⟩
  | write q =>
      rcases h with ⟨e, rfl, -⟩ | ⟨r, v, v', hv, hrun, rfl, rfl⟩
      · cases hb
      · exact ⟨v, hv, .inr ⟨r, v', hrun, rfl, rfl⟩⟩
  | commit =>
      rcases h with ⟨e, rfl, -⟩ | ⟨v, hv, rfl, rfl⟩
      · cases hb
      · exact ⟨v, hv, rfl, rfl⟩
  | convert r =>
      rcases h with ⟨e, rfl, -, -⟩ | ⟨rfl, rfl⟩
      · cases hb
      · exact ⟨rfl, rfl⟩
  | undefined => exact h.elim
  | _ =>
      cases h
      rfl

/-- An operation that did not fail was answered as it would have been alone. -/
theorem step_answers (h : machine.step o c w t = some (b, w', t')) (hb : o.threw b = false) :
    o.Answers β ⟨w.db, t.pending⟩ b ⟨w'.db, t'.pending⟩ :=
  (step_effects h).answers hb

/-- And so was one that failed through no fault of its surroundings. -/
theorem step_answers_of_clean (h : machine.step o c w t = some (b, w', t')) (hc : c.Clean)
    (hv : (replay w.db t.pending).isSome) :
    o.Answers β ⟨w.db, t.pending⟩ b ⟨w'.db, t'.pending⟩ := by
  have hsolo : SoloStep β o (w, t) b (w', t') := ⟨c, hc, h⟩
  obtain ⟨x, ⟨rfl, -⟩, hx⟩ := SoloStep.answers ⟨rfl, hv⟩ hsolo
  exact hx

/-- Only a commit changes the rows, and only when it succeeds. -/
theorem Op.Effects.db_eq (h : o.Effects β c x b y) (ho : o.commits = false ∨ o.threw b = true) :
    y.db = x.db := by
  cases o with
  | commit =>
      rcases h with ⟨e, -, rfl⟩ | ⟨v, -, rfl, rfl⟩
      · rfl
      · rcases ho with ho | ho <;> cases ho
  | auth md method =>
      obtain ⟨-, rfl⟩ := h
      rfl
  | beginWork =>
      rcases h with ⟨e, -, rfl⟩ | ⟨-, rfl⟩
      · rfl
      · rfl
  | newUuid =>
      obtain ⟨-, rfl⟩ := h
      rfl
  | query q =>
      rcases h with ⟨e, -, rfl, -⟩ | ⟨v, v', -, -, -, rfl⟩
      · rfl
      · rfl
  | write q =>
      rcases h with ⟨e, -, rfl⟩ | ⟨r, v, v', -, -, -, rfl⟩
      · rfl
      · rfl
  | convert r =>
      rcases h with ⟨e, -, rfl, -⟩ | ⟨-, rfl⟩
      · rfl
      · rfl
  | undefined => exact h.elim
  | _ =>
      cases h
      rfl

theorem step_db_eq (h : machine.step o c w t = some (b, w', t'))
    (ho : o.commits = false ∨ o.threw b = true) : w'.db = w.db :=
  (step_effects h).db_eq ho

/-- The operation asks about the rows, or changes them. -/
def Op.touches {β : Type} : Op β → Bool
  | .query _ | .write _ | .commit => true
  | _ => false

/-- An operation that does not touch the rows is answered alike on all of them. -/
theorem Op.Answers.transfer {d d₁ e : Database} {ps ps' : List Pending} (ho : o.touches = false)
    (h : o.Answers β ⟨d, ps⟩ b ⟨d₁, ps'⟩) : o.Answers β ⟨e, ps⟩ b ⟨e, ps'⟩ := by
  cases o with
  | query | write | commit => cases ho
  | auth | beginWork | convert =>
      obtain ⟨hb, hs⟩ := h
      cases hs
      exact ⟨hb, rfl⟩
  | undefined => exact h
  | _ =>
      cases h
      rfl

end Step

/-! ## Where a call stands -/

/-- Alone on the rows of `d`, the call can get to where `p` is left of it. -/
def Alone (call : Call) (d : Database) (p : Prog Op (Reply Response)) (s : Session) : Prop :=
  (handle call).Leads Op.Answers ⟨d, []⟩ p s

/-- Where call `i` stands, by what it has been told. -/
inductive Placed (past : Past) (i : ℕ) (call : Call) (t : Local) (p : Prog Op (Reply Response)) :
    Prop
  /-- It could be alone wherever its statements are answered as they were. -/
  | stated (hp : p.Meets (moment call.req.nests) (.stated t.pending) RefusesFailed)
      (halone : ∀ d, (replay d t.pending).isSome → Alone call d p ⟨d, t.pending⟩)
      (hseen : (p = handle call ∧ t.pending = []) ∨
        ∃ k d, StepAt past i k d d ∧ (replay d t.pending).isSome)
      (hquiet : ∀ k d d', StepAt past i k d d' → d' = d)
  /-- It could be alone at its moment. -/
  | told (k : ℕ) (d : Database) (st : Stage) (hst : st = .told ∨ st = .failed)
      (hp : p.Meets (moment call.req.nests) st RefusesFailed) (hk : StepAt past i k d d)
      (halone : Alone call d p ⟨d, t.pending⟩)
      (hquiet : ∀ k d d', StepAt past i k d d' → d' = d)
  /-- It could have been alone at its commit. -/
  | committed (k : ℕ) (d d' : Database)
      (hp : p.Meets (moment call.req.nests) .committed RefusesFailed) (hk : StepAt past i k d d')
      (hserves : ∃ reply, Serves d (handle call) reply d')
      (halone : call.req.nests = false → Alone call d p ⟨d', t.pending⟩)
      (hquiet : ∀ k' e e', StepAt past i k' e e' → k' ≠ k → e' = e)
  /-- It will refuse. -/
  | failed (hp : p.Meets (moment call.req.nests) .failed RefusesFailed)
      (hhurt : ¬ Unhurt past i) (hquiet : ∀ k d d', StepAt past i k d d' → d' = d)

/-- Every handler begins at the door. -/
theorem handle_auth (call : Call) : ∃ method f, handle call = .op (.auth call.md method) f := by
  obtain ⟨md, req⟩ := call
  cases req <;> exact ⟨_, _, rfl⟩

/-- A call that comes in. -/
theorem placed_start {past : Past} {i : ℕ} (call : Call) (h : call.req.statements.length ≤ 1)
    (hi : ∀ k d d', ¬ StepAt past i k d d') : Placed past i call .fresh (handle call) :=
  .stated (handle_moment call h) (fun _ _ => .refl) (.inl ⟨rfl, rfl⟩)
    fun k d d' hk => absurd hk (hi k d d')

/-- A step of another call. -/
theorem Placed.other {past : Past} {i : ℕ} {call : Call} {t : Local} {p : Prog Op (Reply Response)}
    {y : Server × ServerAction} (hy : ∀ c, y.2 ≠ .step i c) (h : Placed past i call t p) :
    Placed (past ++ [y]) i call t p := by
  cases h with
  | stated hp halone hseen hquiet =>
      refine .stated hp halone ?_ fun k d d' hk => hquiet k d d' (hk.of_other hy)
      rcases hseen with hstart | ⟨k, d, hk, hreplay⟩
      · exact .inl hstart
      · exact .inr ⟨k, d, hk.mono, hreplay⟩
  | told k d st hst hp hk halone hquiet =>
      exact .told k d st hst hp hk.mono halone fun k d d' hk => hquiet k d d' (hk.of_other hy)
  | committed k d d' hp hk hserves halone hquiet =>
      exact .committed k d d' hp hk.mono hserves halone
        fun k' e e' hk' => hquiet k' e e' (hk'.of_other hy)
  | failed hp hhurt hquiet =>
      exact .failed hp (fun hunhurt => hhurt hunhurt.of_concat)
        fun k d d' hk => hquiet k d d' (hk.of_other hy)

/-! ## A step of the call -/

/-- A failure before the commit is the end of it. -/
theorem moment_next_threw {nests : Bool} {β : Type} {o : Op β} {b : β} {st : Stage}
    (hb : o.threw b = true) (hst : st.isStated ∨ st = .told) : (moment nests).next o b st = .failed := by
  have hturn : ∀ st' : Stage, st.turn st' = st' := by
    intro st'
    cases st with
    | stated | told => rfl
    | _ => simp [Stage.isStated] at hst
  cases o with
  | auth md method =>
      have hno : b.status.ok = false := by simpa [Op.threw] using hb
      simp [moment, hturn, hno]
  | beginWork | commit | query | write | convert =>
      cases b with
      | ok r => cases hb
      | error e => exact hturn _
  | _ => cases hb

/-- After a commit or a failure nothing is learned. -/
theorem moment_next_stays {nests : Bool} {β : Type} {o : Op β} {b : β} {st : Stage}
    (hst : st = .committed ∨ st = .failed) : (moment nests).next o b st = st := by
  rcases hst with rfl | rfl <;> cases o <;> rfl

/-- A program that meets the rule after its commit can come to its end, and leaves the rows
alone. -/
theorem exists_yields_of_committed {nests : Bool} {α : Type} {Q : α → Stage → Prop} {p : Prog Op α}
    (h : p.Meets (moment nests) .committed Q) (d : Database) :
    ∃ reply, p.Yields Op.Answers ⟨d, []⟩ reply ⟨d, []⟩ := by
  induction p with
  | done a => exact ⟨a, rfl, rfl⟩
  | op o k ih =>
      have hpre : (moment nests).pre o .committed := h.1
      have hrest : ∀ b, (k b).Meets (moment nests) .committed Q := by
        intro b
        have hb := h.2 b
        rwa [moment_next_stays (.inl rfl)] at hb
      have hanswer : ∃ b, o.Answers _ ⟨d, []⟩ b ⟨d, []⟩ := by
        cases o with
        | auth md method => exact ⟨⟨"", "", "", .OK⟩, rfl, rfl⟩
        | query q => exact ⟨q d, d, d, rfl, .refl d, rfl, rfl⟩
        | convert r => exact ⟨r, rfl, rfl⟩
        | newUuid => exact ⟨Uuid.nil, rfl⟩
        | beginWork | write | commit => cases hpre
        | undefined => exact absurd rfl hpre
        | _ => exact ⟨(), rfl⟩
      obtain ⟨b, hb⟩ := hanswer
      obtain ⟨reply, hreply⟩ := ih b (hrest b)
      exact ⟨reply, b, _, hb, hreply⟩

/-- A call that has been told about its moment, or has failed, does not touch the rows. -/
theorem touches_of_told {nests : Bool} {β : Type} {o : Op β} {st : Stage}
    (hst : st = .told ∨ st = .failed) (hpre : (moment nests).pre o st) : o.touches = false := by
  cases o with
  | query | write | commit =>
      rcases hst with rfl | rfl
      · exact absurd hpre (by simp [moment, Stage.mayAsk, Stage.isStated])
      · exact absurd hpre (by simp [moment, Stage.mayAsk, Stage.isStated])
  | _ => rfl

theorem moment_next_told {nests : Bool} {β : Type} {o : Op β} {b : β} {st : Stage}
    (hst : st = .told ∨ st = .failed) (hpre : (moment nests).pre o st) :
    (moment nests).next o b st = .told ∨ (moment nests).next o b st = .failed := by
  rcases hst with rfl | rfl
  · by_cases hb : o.threw b = true
    · exact .inr (moment_next_threw hb (.inr rfl))
    · left
      have ho := touches_of_told (.inl rfl) hpre
      cases o with
      | query | write | commit => cases ho
      | auth md method =>
          have hok : b.status.ok = true := by simpa [Op.threw] using hb
          simp [moment, Stage.turn, hok]
      | beginWork | convert =>
          cases b with
          | ok r => rfl
          | error e => exact absurd rfl hb
      | _ => rfl
  · exact .inr (moment_next_stays (.inr rfl))

section Own
variable {past : Past} {s s' : Server} {i : ℕ} {c : Choice} {call : Call} {t t' : Local} {β : Type}
  {o : Op β} {f : β → Prog Op (Reply Response)} {b : β}

/-- A step that leaves the rows alone adds nothing to what the call did to them. -/
theorem quiet_concat (e : State.act machine handle Local.fresh s (.step i c) = some s')
    (hquiet : ∀ k d d', StepAt past i k d d' → d' = d) (hdb : s'.world.db = s.world.db) :
    ∀ k d d', StepAt (past ++ [(s, .step i c)]) i k d d' → d' = d := by
  intro k d d' hk
  rcases hk.of_concat e with hold | ⟨-, rfl, rfl⟩
  · exact hquiet k d d' hold
  · exact hdb

/-- An operation that does not touch the rows leaves them. -/
theorem step_db_eq_of_touches (hs : machine.step o c s.world t = some (b, s'.world, t'))
    (ho : o.touches = false) : s'.world.db = s.world.db := by
  refine step_db_eq hs (.inl ?_)
  cases o with
  | commit => cases ho
  | _ => rfl

/-- A step after the moment of the call. -/
theorem placed_told_step (hi : s.tasks[i]? = some ⟨call, t, .op o f⟩)
    (hs : machine.step o c s.world t = some (b, s'.world, t'))
    (e : State.act machine handle Local.fresh s (.step i c) = some s') {k : ℕ} {d : Database}
    {st : Stage} (hst : st = .told ∨ st = .failed)
    (hp : (Prog.op o f).Meets (moment call.req.nests) st RefusesFailed) (hk : StepAt past i k d d)
    (halone : Alone call d (.op o f) ⟨d, t.pending⟩)
    (hquiet : ∀ k d d', StepAt past i k d d' → d' = d) :
    Placed (past ++ [(s, .step i c)]) i call t' (f b) := by
  have ho := touches_of_told hst hp.1
  have hdb := step_db_eq_of_touches hs ho
  have hquiet' := quiet_concat e hquiet hdb
  -- If the step would have gone the same way alone, the call is still alone at its moment.
  have hgo : o.Answers β ⟨s.world.db, t.pending⟩ b ⟨s'.world.db, t'.pending⟩ →
      Placed (past ++ [(s, .step i c)]) i call t' (f b) := fun hans =>
    .told k d _ (moment_next_told hst hp.1) (hp.2 b) hk.mono (halone.step (hans.transfer ho)) hquiet'
  by_cases hb : o.threw b = true
  · by_cases hclean : c.Clean ∧ (replay s.world.db t.pending).isSome
    · exact hgo (step_answers_of_clean hs hclean.1 hclean.2)
    · have hnext : (moment call.req.nests).next o b st = .failed := by
        rcases hst with rfl | rfl
        · exact moment_next_threw hb (.inr rfl)
        · exact moment_next_stays (.inr rfl)
      refine .failed (hnext ▸ hp.2 b) (fun hunhurt => ?_) hquiet'
      exact hclean (hunhurt.last e hi)
  · exact hgo (step_answers hs (by simpa using hb))

/-- A step after the commit. -/
theorem placed_committed_step (hs : machine.step o c s.world t = some (b, s'.world, t'))
    (e : State.act machine handle Local.fresh s (.step i c) = some s') {k : ℕ} {d d' : Database}
    (hp : (Prog.op o f).Meets (moment call.req.nests) .committed RefusesFailed)
    (hk : StepAt past i k d d') (hserves : ∃ reply, Serves d (handle call) reply d')
    (halone : call.req.nests = false → Alone call d (.op o f) ⟨d', t.pending⟩)
    (hquiet : ∀ k' e e', StepAt past i k' e e' → k' ≠ k → e' = e) :
    Placed (past ++ [(s, .step i c)]) i call t' (f b) := by
  have hp' : (f b).Meets (moment call.req.nests) .committed RefusesFailed := by
    have hb := hp.2 b
    rwa [moment_next_stays (.inl rfl)] at hb
  have hpre : (moment call.req.nests).pre o .committed := hp.1
  refine .committed k d d' hp' hk.mono hserves ?_ ?_
  · intro hnests
    rw [hnests] at hpre
    have hmute : o.touches = false ∧ o.threw b = false := by
      cases o with
      | auth | query | convert =>
          exact absurd hpre (by simp [moment, Stage.mayAsk, Stage.mayConvert])
      | beginWork | write | commit => cases hpre
      | undefined => exact absurd rfl hpre
      | _ => exact ⟨rfl, rfl⟩
    exact (halone hnests).step ((step_answers hs hmute.2).transfer hmute.1)
  · have hdb : s'.world.db = s.world.db := by
      refine step_db_eq hs (.inl ?_)
      cases o with
      | commit => cases hpre
      | _ => rfl
    intro k' e₁ e₁' hk' hne
    rcases hk'.of_concat e with hold | ⟨-, rfl, rfl⟩
    · exact hquiet k' e₁ e₁' hold hne
    · exact hdb

/-- A step of a call that will refuse. -/
theorem placed_failed_step (hs : machine.step o c s.world t = some (b, s'.world, t'))
    (e : State.act machine handle Local.fresh s (.step i c) = some s')
    (hp : (Prog.op o f).Meets (moment call.req.nests) .failed RefusesFailed)
    (hhurt : ¬ Unhurt past i) (hquiet : ∀ k d d', StepAt past i k d d' → d' = d) :
    Placed (past ++ [(s, .step i c)]) i call t' (f b) := by
  have ho := touches_of_told (.inr rfl) hp.1
  have hdb := step_db_eq_of_touches hs ho
  have hp' : (f b).Meets (moment call.req.nests) .failed RefusesFailed := by
    have hb := hp.2 b
    rwa [moment_next_stays (.inr rfl)] at hb
  exact .failed hp' (fun hunhurt => hhurt hunhurt.of_concat) (quiet_concat e hquiet hdb)

/-- The call has only made statements: it could be alone wherever these are answered as they
were. -/
structure Stating (past : Past) (i : ℕ) (call : Call) (t : Local) (p : Prog Op (Reply Response)) :
    Prop where
  meets : p.Meets (moment call.req.nests) (.stated t.pending) RefusesFailed
  alone : ∀ d, (replay d t.pending).isSome → Alone call d p ⟨d, t.pending⟩
  seen : t.pending = [] ∨ ∃ k d, StepAt past i k d d ∧ (replay d t.pending).isSome
  quiet : ∀ k d d', StepAt past i k d d' → d' = d

/-- A step that fails before the moment of the call. -/
theorem Stating.threw (h : Stating past i call t (.op o f))
    (hi : s.tasks[i]? = some ⟨call, t, .op o f⟩)
    (hs : machine.step o c s.world t = some (b, s'.world, t'))
    (e : State.act machine handle Local.fresh s (.step i c) = some s') (hb : o.threw b = true) :
    Placed (past ++ [(s, .step i c)]) i call t' (f b) := by
  have hdb := step_db_eq hs (.inr hb)
  have hquiet := quiet_concat e h.quiet hdb
  have hp : (f b).Meets (moment call.req.nests) .failed RefusesFailed := by
    have hp := h.meets.2 b
    have hnext : (moment call.req.nests).next o b (.stated t.pending) = .failed :=
      moment_next_threw hb (.inl trivial)
    rwa [hnext] at hp
  by_cases hclean : c.Clean ∧ (replay s.world.db t.pending).isSome
  · -- It would have failed alone, at this moment.
    have hans := step_answers_of_clean hs hclean.1 hclean.2
    have hk := stepAt_concat past e
    rw [hdb] at hans hk
    exact .told past.length s.world.db .failed (.inr rfl) hp hk ((h.alone _ hclean.2).step hans)
      hquiet
  · exact .failed hp (fun hunhurt => hclean (hunhurt.last e hi)) hquiet

/-- A step that touches neither the rows nor the statements. -/
theorem Stating.still (h : Stating past i call t (.op o f))
    (hs : machine.step o c s.world t = some (b, s'.world, t'))
    (e : State.act machine handle Local.fresh s (.step i c) = some s') (hb : o.threw b = false)
    (ho : o.touches = false) (hpending : t'.pending = t.pending)
    (hnext : (moment call.req.nests).next o b (.stated t.pending) = .stated t.pending) :
    Placed (past ++ [(s, .step i c)]) i call t' (f b) := by
  have hdb := step_db_eq_of_touches hs ho
  have hk := stepAt_concat past e
  have hp := h.meets.2 b
  rw [hnext, ← hpending] at hp
  refine .stated hp (fun d hd => ?_) (.inr ?_) (quiet_concat e h.quiet hdb)
  · rw [hpending] at hd
    exact (h.alone d hd).step ((step_answers hs hb).transfer ho)
  · rw [hpending]
    rw [hdb] at hk
    rcases h.seen with hnil | ⟨k, d, hold, hreplay⟩
    · exact ⟨_, _, hk, by simp [hnil]⟩
    · exact ⟨k, d, hold.mono, hreplay⟩

/-- The transaction is given up: what it was told held at its last statement. -/
theorem Stating.giveUp {f : Unit → Prog Op (Reply Response)}
    (h : Stating past i call t (.op .endWork f))
    (e : State.act machine handle Local.fresh s (.step i c) = some s')
    (hans : Op.Answers Unit .endWork ⟨s.world.db, t.pending⟩ () ⟨s'.world.db, t'.pending⟩)
    (hne : t.pending ≠ []) : Placed (past ++ [(s, .step i c)]) i call t' (f ()) := by
  have hdb : s'.world.db = s.world.db := congrArg Session.db hans
  obtain ⟨k, d, hold, hreplay⟩ := h.seen.resolve_left hne
  have hnext : (moment call.req.nests).next .endWork () (.stated t.pending) = .told := by
    cases hps : t.pending with
    | nil => exact absurd hps hne
    | cons p ps => simp [moment, Stage.ended]
  have hp := h.meets.2 ()
  rw [hnext] at hp
  refine .told k d .told (.inl rfl) hp hold.mono ?_ (quiet_concat e h.quiet hdb)
  exact (h.alone d hreplay).step (hans.transfer rfl)

/-- A query without statements before it is the moment of the call; after statements its answer
follows from them. -/
theorem Stating.query {α : Type} {q : Database → Except Exn α} {r : α}
    {f : Except Exn α → Prog Op (Reply Response)} (h : Stating past i call t (.op (.query q) f))
    (e : State.act machine handle Local.fresh s (.step i c) = some s')
    (hans : Op.Answers _ (.query q) ⟨s.world.db, t.pending⟩ (.ok r) ⟨s'.world.db, t'.pending⟩) :
    Placed (past ++ [(s, .step i c)]) i call t' (f (.ok r)) := by
  obtain ⟨v, v', hv, hsame, hq, hsession⟩ := hans
  have hpending : t'.pending = t.pending := congrArg Session.pending hsession
  have hdb : s'.world.db = s.world.db := congrArg Session.db hsession
  have hquiet := quiet_concat e h.quiet hdb
  have hk := stepAt_concat past e
  have hp := h.meets.2 (.ok r)
  rw [hdb] at hk
  cases hps : t.pending with
  | nil =>
      have hnext : (moment call.req.nests).next (.query q) (.ok r) (.stated t.pending) = .told := by
        simp [moment, Stage.turn, Stage.answered, Stage.asked, hps]
      rw [hnext] at hp
      refine .told past.length s.world.db .told (.inl rfl) hp hk ?_ hquiet
      rw [hpending]
      exact (h.alone _ (Option.isSome_iff_exists.mpr ⟨v, hv⟩)).step ⟨v, v', hv, hsame, hq, rfl⟩
  | cons p ps =>
      have hdetermined : Determined t.pending q := by
        refine h.meets.1.resolve_left ?_
        rw [hps]
        exact List.cons_ne_nil p ps
      have hnext : (moment call.req.nests).next (.query q) (.ok r) (.stated t.pending) =
          .stated t'.pending := by
        simp [moment, Stage.turn, Stage.answered, Stage.asked, hps, hpending]
      rw [hnext] at hp
      refine .stated hp (fun d hd => ?_) (.inr ⟨_, _, hk, ?_⟩) hquiet
      · rw [hpending] at hd ⊢
        obtain ⟨u, hu⟩ := Option.isSome_iff_exists.mp hd
        refine (h.alone d hd).step ⟨u, u, hu, .refl u, ?_, rfl⟩
        rw [hq]
        exact hdetermined _ _ _ _ _ _ hv hsame hu (.refl u)
      · rw [hpending, hv]
        rfl

/-- One more statement. -/
theorem Stating.write {α : Type} {q : Write α} {r : α}
    {f : Except Exn α → Prog Op (Reply Response)} (h : Stating past i call t (.op (.write q) f))
    (e : State.act machine handle Local.fresh s (.step i c) = some s')
    (hans : Op.Answers _ (.write q) ⟨s.world.db, t.pending⟩ (.ok r) ⟨s'.world.db, t'.pending⟩) :
    Placed (past ++ [(s, .step i c)]) i call t' (f (.ok r)) := by
  obtain ⟨v, hv, ⟨x, -, hx, -⟩ | ⟨r', v', hrun, hr, hsession⟩⟩ := hans
  · cases hx
  cases hr
  have hpending : t'.pending = t.pending ++ [⟨q, r⟩] := congrArg Session.pending hsession
  have hdb : s'.world.db = s.world.db := congrArg Session.db hsession
  have hk := stepAt_concat past e
  have hp := h.meets.2 (.ok r)
  have hnext : (moment call.req.nests).next (.write q) (.ok r) (.stated t.pending) =
      .stated t'.pending := by
    simp [moment, Stage.turn, Stage.answered, Stage.wrote, hpending]
  rw [hdb] at hk
  rw [hnext] at hp
  refine .stated hp (fun d hd => ?_) (.inr ⟨_, _, hk, ?_⟩) (quiet_concat e h.quiet hdb)
  · rw [hpending] at hd ⊢
    obtain ⟨u, hu⟩ := Option.isSome_iff_exists.mp hd
    obtain ⟨u', hu', hrun'⟩ := (replay_append ..).mp hu
    exact (h.alone d (Option.isSome_iff_exists.mpr ⟨u', hu'⟩)).step
      ⟨u', hu', .inr ⟨r, u, hrun', rfl, rfl⟩⟩
  · rw [hpending]
    exact Option.isSome_iff_exists.mpr ⟨v', (replay_append ..).mpr ⟨v, hv, hrun⟩⟩

/-- The commit is the moment of the call. -/
theorem Stating.commit {f : Except Exn Unit → Prog Op (Reply Response)}
    (h : Stating past i call t (.op .commit f))
    (e : State.act machine handle Local.fresh s (.step i c) = some s')
    (hans : Op.Answers _ .commit ⟨s.world.db, t.pending⟩ (.ok ()) ⟨s'.world.db, t'.pending⟩) :
    Placed (past ++ [(s, .step i c)]) i call t' (f (.ok ())) := by
  obtain ⟨v, hv, -, hsession⟩ := hans
  have hpending : t'.pending = [] := congrArg Session.pending hsession
  have hp : (f (.ok ())).Meets (moment call.req.nests) .committed RefusesFailed :=
    h.meets.2 (.ok ())
  have halone : Alone call s.world.db (f (.ok ())) ⟨s'.world.db, t'.pending⟩ :=
    (h.alone _ (Option.isSome_iff_exists.mpr ⟨v, hv⟩)).step ⟨v, hv, rfl, hsession⟩
  refine .committed past.length s.world.db s'.world.db hp (stepAt_concat past e) ?_
    (fun _ => halone) ?_
  · obtain ⟨reply, hreply⟩ := exists_yields_of_committed hp s'.world.db
    rw [hpending] at halone
    exact ⟨reply, [], halone.yields hreply⟩
  · intro k' d d' hk' hne
    rcases hk'.of_concat e with hold | ⟨hlast, -⟩
    · exact h.quiet k' d d' hold
    · exact absurd hlast hne

/-- A step before the moment of the call. -/
theorem Stating.step (h : Stating past i call t (.op o f))
    (hi : s.tasks[i]? = some ⟨call, t, .op o f⟩)
    (hs : machine.step o c s.world t = some (b, s'.world, t'))
    (e : State.act machine handle Local.fresh s (.step i c) = some s') :
    Placed (past ++ [(s, .step i c)]) i call t' (f b) := by
  by_cases hb : o.threw b = true
  · exact h.threw hi hs e hb
  have hb : o.threw b = false := by simpa using hb
  have hans := step_answers hs hb
  cases o with
  | auth md method =>
      obtain ⟨hok, hsame⟩ := hans
      exact h.still hs e hb rfl (congrArg Session.pending hsame) (by simp [moment, Stage.turn, hok])
  | beginWork =>
      obtain ⟨rfl, hsame⟩ := hans
      have hnil : t.pending = [] := by simpa [moment] using h.meets.1
      exact h.still hs e hb rfl ((congrArg Session.pending hsame).trans hnil.symm) rfl
  | convert r =>
      obtain ⟨rfl, hsame⟩ := hans
      cases b with
      | error x => cases hb
      | ok r => exact h.still hs e hb rfl (congrArg Session.pending hsame) rfl
  | enter | setStatus | leave | acquire | release | newUuid =>
      exact h.still hs e hb rfl (congrArg Session.pending hans) rfl
  | undefined => exact hans.elim
  | endWork =>
      by_cases hps : t.pending = []
      · refine h.still hs e hb rfl ((congrArg Session.pending hans).trans hps.symm) ?_
        simp [moment, Stage.ended, hps]
      · exact h.giveUp e hans hps
  | query q =>
      cases b with
      | error x => cases hb
      | ok r => exact h.query e hans
  | write q =>
      cases b with
      | error x => cases hb
      | ok r => exact h.write e hans
  | commit =>
      cases b with
      | error x => cases hb
      | ok r => exact h.commit e hans

/-- A step of the call. -/
theorem Placed.own (hi : s.tasks[i]? = some ⟨call, t, .op o f⟩)
    (hs : machine.step o c s.world t = some (b, s'.world, t'))
    (e : State.act machine handle Local.fresh s (.step i c) = some s')
    (h : Placed past i call t (.op o f)) : Placed (past ++ [(s, .step i c)]) i call t' (f b) := by
  cases h with
  | stated hp halone hseen hquiet =>
      exact Stating.step ⟨hp, halone, hseen.imp_left And.right, hquiet⟩ hi hs e
  | told k d st hst hp hk halone hquiet =>
      exact placed_told_step hi hs e hst hp hk halone hquiet
  | committed k d d' hp hk hserves halone hquiet =>
      exact placed_committed_step hs e hp hk hserves halone hquiet
  | failed hp hhurt hquiet => exact placed_failed_step hs e hp hhurt hquiet

/-- A report commits nothing. -/
theorem Sends.step_db {qs : List Statement} {m : ℕ} {α : Type} {g : β → Prog Op α}
    (h : Sends qs m (.op o g)) {w w' : World} (hs : machine.step o c w t = some (b, w', t')) :
    w'.db = w.db := by
  refine step_db_eq hs (.inl ?_)
  have hpre : (sending qs).pre o m := h.1
  cases o with
  | commit => cases hpre
  | _ => rfl

end Own

/-! ## Runs -/

section Runs
variable {db : Database} {n : ℕ} {issued : List Uuid} {past : Past} {s : Server} {i : ℕ}
  {x : Task Op Call Local (Reply Response)}

/-- A call that comes in has taken no steps. -/
theorem Server.Run.not_stepAt (h : Server.Run db n issued past s) (k : ℕ) (d d' : Database) :
    ¬ StepAt past s.tasks.length k d d' := by
  rintro ⟨c, t, t', htook, -⟩
  exact lt_irrefl _ (h.step_lt htook)

/-- Every call that depends on one moment has its place. -/
theorem Server.Run.placed (h : Server.Run db n issued past s) (hx : s.tasks[i]? = some x)
    (hlen : x.req.req.statements.length ≤ 1) : Placed past i x.req x.loc x.prog := by
  let J : Past → ℕ → Task Op Call Local (Reply Response) → Prop := fun past i x =>
    x.req.req.statements.length ≤ 1 → Placed past i x.req x.loc x.prog
  refine h.tasks_invariant (J := J) rfl ?_ ?_ ?_ i x hx hlen
  · intro past s call hrun hlen
    exact placed_start call hlen (Server.Run.not_stepAt hrun)
  · intro past s s' i c call t β o f b w' t' hrun hi hJ hs hw e hlen
    subst hw
    exact (hJ hlen).own hi hs e
  · intro past i x y hy hJ hlen
    exact (hJ hlen).other hy

/-- The other calls, which are reports, leave the rows alone. -/
theorem Server.Run.quiet (h : Server.Run db n issued past s) (hx : s.tasks[i]? = some x)
    (hlen : ¬ x.req.req.statements.length ≤ 1) :
    ∀ k d d', StepAt past i k d d' → d' = d := by
  let J : Past → ℕ → Task Op Call Local (Reply Response) → Prop := fun past i x =>
    x.req.req.display = true → (∃ m, Sends x.req.req.statements m x.prog) ∧
      ∀ k d d', StepAt past i k d d' → d' = d
  have hdisplay : x.req.req.display = true := by
    generalize x.req.req = req at hlen
    cases req <;> simp_all [Request.statements, Request.display]
  refine (h.tasks_invariant (J := J) rfl ?_ ?_ ?_ i x hx hdisplay).2
  · intro past s call hrun hdisplay
    exact ⟨⟨0, handle_sends call hdisplay⟩,
      fun k d d' hk => absurd hk (Server.Run.not_stepAt hrun k d d')⟩
  · intro past s s' i c call t β o f b w' t' hrun hi hJ hs hw e hdisplay
    obtain ⟨⟨m, hm⟩, hquiet⟩ := hJ hdisplay
    subst hw
    exact ⟨⟨_, hm.2 b⟩, quiet_concat e hquiet (hm.step_db hs)⟩
  · intro past i x y hy hJ hdisplay
    obtain ⟨hm, hquiet⟩ := hJ hdisplay
    exact ⟨hm, fun k d d' hk => hquiet k d d' (hk.of_other hy)⟩

/-- The moment at which a call takes effect, if it does, and the reply it gives alone then. -/
structure Pointed (past : Past) (i : ℕ) (x : Task Op Call Local (Reply Response))
    (o : Option (ℕ × Reply Response)) : Prop where
  served : ∀ k a, o = some (k, a) → ∃ d d', StepAt past i k d d' ∧ Serves d (handle x.req) a d'
  still : ∀ k d d', StepAt past i k d d' → (∀ a, o ≠ some (k, a)) → d' = d
  there : ∀ reply, x.prog = .done reply → x.req.req.statements.length ≤ 1 →
    reply.1.ok = true ∨ Unhurt past i → ∃ k a, o = some (k, a)
  reply_eq : ∀ reply, x.prog = .done reply → x.req.req.nests = false →
    ∀ k a, o = some (k, a) → a = reply

/-- A call without a moment. -/
theorem pointed_none (hquiet : ∀ k d d', StepAt past i k d d' → d' = d)
    (h : ∀ reply, x.prog = .done reply → x.req.req.statements.length ≤ 1 →
      ¬ (reply.1.ok = true ∨ Unhurt past i)) : Pointed past i x none where
  served := by simp
  still k d d' hk _ := hquiet k d d' hk
  there reply hdone hlen hor := absurd hor (h reply hdone hlen)
  reply_eq := by simp

/-- A call that has returned and took effect at a moment, with its own reply. -/
theorem pointed_done {k : ℕ} {d d' : Database} {reply : Reply Response} {ps : List Pending}
    (hdone : x.prog = .done reply) (hk : StepAt past i k d d')
    (halone : Alone x.req d x.prog ⟨d', ps⟩)
    (hquiet : ∀ k' e e', StepAt past i k' e e' → k' ≠ k → e' = e) :
    Pointed past i x (some (k, reply)) where
  served k' a ho := by
    cases ho
    rw [hdone] at halone
    exact ⟨d, d', hk, ps, halone.yields ⟨rfl, rfl⟩⟩
  still k' e e' hk' hne := hquiet k' e e' hk' fun heq => hne reply (by rw [heq])
  there _ _ _ _ := ⟨k, reply, rfl⟩
  reply_eq reply' hdone' _ k' a ho := by
    cases ho
    rw [hdone] at hdone'
    exact Prog.done.inj hdone'

theorem Server.Run.exists_pointed (h : Server.Run db n issued past s)
    (hx : s.tasks[i]? = some x) : ∃ o, Pointed past i x o := by
  by_cases hlen : x.req.req.statements.length ≤ 1
  · have hplaced := h.placed hx hlen
    cases hret : returned? x.prog with
    | none =>
        have hno : ∀ reply, x.prog ≠ .done reply := by
          intro reply hdone
          rw [hdone] at hret
          cases hret
        cases hplaced with
        | stated _ _ _ hquiet | told _ _ _ _ _ _ _ hquiet | failed _ _ hquiet =>
            exact ⟨none, pointed_none hquiet fun reply hdone => absurd hdone (hno reply)⟩
        | committed k d d' _ hk hserves _ hquiet =>
            obtain ⟨reply, hreply⟩ := hserves
            refine ⟨some (k, reply), ?_, ?_, ?_, ?_⟩
            · rintro k' a ho
              cases ho
              exact ⟨d, d', hk, hreply⟩
            · exact fun k' e e' hk' hne => hquiet k' e e' hk' fun heq => hne reply (by rw [heq])
            · exact fun reply hdone => absurd hdone (hno reply)
            · exact fun reply hdone => absurd hdone (hno reply)
    | some reply =>
        have hdone := returned?_eq_some hret
        cases hplaced with
        | stated _ halone hseen hquiet =>
            rcases hseen with ⟨hstart, -⟩ | ⟨k, d, hk, hreplay⟩
            · obtain ⟨method, f, hauth⟩ := handle_auth x.req
              rw [hdone, hauth] at hstart
              cases hstart
            · exact ⟨_, pointed_done hdone hk (halone d hreplay)
                fun k' e e' hk' _ => hquiet k' e e' hk'⟩
        | told k d _ _ _ hk halone hquiet =>
            exact ⟨_, pointed_done hdone hk halone fun k' e e' hk' _ => hquiet k' e e' hk'⟩
        | committed k d d' _ hk hserves halone hquiet =>
            by_cases hnests : x.req.req.nests = true
            · obtain ⟨reply', hreply'⟩ := hserves
              refine ⟨some (k, reply'), ?_, ?_, ?_, ?_⟩
              · rintro k' a ho
                cases ho
                exact ⟨d, d', hk, hreply'⟩
              · exact fun k' e e' hk' hne => hquiet k' e e' hk' fun heq => hne reply' (by rw [heq])
              · exact fun _ _ _ _ => ⟨k, reply', rfl⟩
              · intro _ _ hno
                rw [hnests] at hno
                cases hno
            · exact ⟨_, pointed_done hdone hk (halone (by simpa using hnests)) hquiet⟩
        | failed hp hhurt hquiet =>
            refine ⟨none, pointed_none hquiet fun reply' hdone' _ hor => ?_⟩
            rcases hor with hok | hunhurt
            · rw [hdone'] at hp
              have hno : reply'.1.ok = false := hp rfl
              rw [hok] at hno
              cases hno
            · exact hhurt hunhurt
  · exact ⟨none, pointed_none (h.quiet hx hlen) fun _ _ hlen' => absurd hlen' hlen⟩

/-- The calls that take effect, in the order they do, with the rows seen through `view`. -/
theorem Server.Run.exists_order (h : Server.Run db n issued past s) {D : Type}
    (view : Database → D) (serve : Call → Reply Response → D → D → Prop)
    (hview : ∀ call a d d', Serves d (handle call) a d' → serve call a (view d) (view d')) :
    ∃ order : List (ℕ × Reply Response),
      InTurn (fun e d d' => ∃ x, s.tasks[e.1]? = some x ∧ serve x.req e.2 d d') (view db) order
        (view s.world.db) ∧
      (order.map Prod.fst).Nodup ∧ (order.Pairwise fun e e' => ¬ Precedes past e'.1 e.1) ∧
      ∀ i x reply, s.tasks[i]? = some x → x.prog = .done reply →
        (x.req.req.statements.length ≤ 1 → reply.1.ok = true ∨ Unhurt past i →
          ∃ a, (i, a) ∈ order) ∧
        (x.req.req.nests = false → ∀ a, (i, a) ∈ order → a = reply) := by
  have hchoice : ∀ i, ∃ o, (∀ x, s.tasks[i]? = some x → Pointed past i x o) ∧
      (s.tasks[i]? = none → o = none) := by
    intro i
    cases hx : s.tasks[i]? with
    | none => exact ⟨none, by simp, fun _ => rfl⟩
    | some x =>
        obtain ⟨o, ho⟩ := h.exists_pointed hx
        exact ⟨o, fun x' hx' => Option.some.inj hx' ▸ ho, by simp⟩
  choose point hpoint hnone using hchoice
  have hpoints : Points machine handle Local.fresh (fun w => view w.db) serve past s point := by
    constructor
    · intro i k a ho
      cases hx : s.tasks[i]? with
      | none =>
          rw [hnone i hx] at ho
          cases ho
      | some x =>
          obtain ⟨d, d', ⟨c, t, t', htook, rfl, rfl⟩, hserves⟩ := (hpoint i x hx).served k a ho
          exact ⟨x, c, t, t', rfl, htook, hview _ _ _ _ hserves⟩
    · intro k t i c t' htook hne
      obtain ⟨x, hx⟩ : ∃ x, s.tasks[i]? = some x :=
        ⟨_, List.getElem?_eq_getElem (Run.step_lt h htook)⟩
      exact congrArg view ((hpoint i x hx).still k _ _ ⟨c, t, t', htook, rfl, rfl⟩ hne)
  refine ⟨serialOrder past point, inTurn_serialOrder h hpoints, nodup_serialOrder,
    pairwise_serialOrder h hpoints, ?_⟩
  intro i x reply hx hdone
  constructor
  · intro hlen hor
    obtain ⟨k, a, ho⟩ := (hpoint i x hx).there reply hdone hlen hor
    exact ⟨a, (mem_serialOrder hpoints).mpr ⟨k, ho⟩⟩
  · intro hnests a ha
    obtain ⟨k, ho⟩ := (mem_serialOrder hpoints).mp ha
    exact (hpoint i x hx).reply_eq reply hdone hnests k a ho

/-- **Strict serializability.**  In every run there is an order of calls such that

* served alone, one after the other, they lead from the first rows to the last;
* no call is served twice, and none before one that had returned when it arrived;
* every call that has returned OK is among them, and so is every other one that nothing
  failed for, except that the reports that ask twice are left out;
* a call that has returned gave the reply it gives when served, except that `CreateVehicle`
  looks for its row afterwards. -/
theorem strictly_serializable (h : Server.Run db n issued past s) :
    ∃ order : List (ℕ × Reply Response),
      InTurn (fun e d d' => ∃ x, s.tasks[e.1]? = some x ∧ Serves d (handle x.req) e.2 d') db order
        s.world.db ∧
      (order.map Prod.fst).Nodup ∧ (order.Pairwise fun e e' => ¬ Precedes past e'.1 e.1) ∧
      ∀ i x reply, s.tasks[i]? = some x → x.prog = .done reply →
        (x.req.req.statements.length ≤ 1 → reply.1.ok = true ∨ Unhurt past i →
          ∃ a, (i, a) ∈ order) ∧
        (x.req.req.nests = false → ∀ a, (i, a) ∈ order → a = reply) :=
  h.exists_order id (fun call a d d' => Serves d (handle call) a d') fun _ _ _ _ hserves => hserves

end Runs

/-- A weather is created while somebody searches for it: the search asks between the statement
and the commit of the other call.  When both have returned there is another search. -/
def searchDuringCreate : List ServerAction :=
  .spawn ⟨[], .createWeather ⟨"sunny"⟩⟩ :: .spawn ⟨[], .searchWeather ⟨"", 0⟩⟩ ::
    List.replicate 6 (.step 0 {}) ++ List.replicate 4 (.step 1 {}) ++
      List.replicate 4 (.step 0 {}) ++ List.replicate 3 (.step 1 {}) ++
        .spawn ⟨[], .searchWeather ⟨"s", 5⟩⟩ :: List.replicate 7 (.step 2 {})

/-- Whether a call had returned before another came in, as the run shows it. -/
def returnedBefore (past : Past) (i j : ℕ) : Bool :=
  past.any fun e =>
    (e.1.tasks[i]?.bind fun x => returned? x.prog).isSome && decide (e.1.tasks.length ≤ j)

theorem precedes_of_returnedBefore {past : Past} {i j : ℕ} (h : returnedBefore past i j = true) :
    Precedes past i j := by
  obtain ⟨⟨t, a⟩, hmem, hboth⟩ := List.any_eq_true.mp h
  rw [Bool.and_eq_true, decide_eq_true_eq] at hboth
  obtain ⟨reply, hreply⟩ := Option.isSome_iff_exists.mp hboth.1
  obtain ⟨x, hx, hret⟩ := Option.bind_eq_some_iff.mp hreply
  exact ⟨t, a, x, reply, hmem, hx, returned?_eq_some hret, hboth.2⟩

/-- All three calls take effect, the last after the two that had returned. -/
theorem strictly_serializable_search : ∃ past s, Server.Run .empty 2 [] past s ∧
    (Precedes past 0 2 ∧ Precedes past 1 2) ∧ ∃ order : List (ℕ × Reply Response),
      InTurn (fun e d d' => ∃ x, s.tasks[e.1]? = some x ∧ Serves d (handle x.req) e.2 d') .empty
        order s.world.db ∧
      (order.map Prod.fst).Nodup ∧ (order.Pairwise fun e e' => ¬ Precedes past e'.1 e.1) ∧
      ∀ i < 3, ∃ a, (i, a) ∈ order := by
  have hrun : ∃ past s, Server.Run .empty 2 [] past s ∧ (s.tasks.length = 3 ∧
      ∀ x ∈ s.tasks, x.req.req.statements.length ≤ 1 ∧
        ((returned? x.prog).any fun r => r.1.ok) = true) ∧
      returnedBefore past 0 2 = true ∧ returnedBefore past 1 2 = true :=
    exists_run searchDuringCreate (by decide +kernel)
  obtain ⟨past, s, h, ⟨hlen, htasks⟩, h₀, h₁⟩ := hrun
  obtain ⟨order, hturn, hnodup, hpairwise, hall⟩ := strictly_serializable h
  refine ⟨past, s, h, ⟨precedes_of_returnedBefore h₀, precedes_of_returnedBefore h₁⟩, order, hturn,
    hnodup, hpairwise, fun i hi => ?_⟩
  have hx : s.tasks[i]? = some s.tasks[i] := List.getElem?_eq_getElem (hlen ▸ hi)
  obtain ⟨hstatements, hreply⟩ := htasks _ (List.mem_of_getElem? hx)
  obtain ⟨reply, hret, hok⟩ := (Option.any_eq_true _ _).mp hreply
  exact (hall i _ reply hx (returned?_eq_some hret)).1 hstatements (.inl hok)

end EvGrpc
