import EvGrpc.Rpc.Machine

/-!
# One call at a time

The meaning of a handler when nothing else runs: its token is accepted, no
operation fails for reasons outside the server, and nobody else touches the
database.  `Op.Answers` says what an operation may then answer; what is left open is
the identifier drawn and the order in which a query meets the rows.

`Serves db p reply db'` is the result: on the rows of `db` the handler may give this
reply and leave the rows of `db'`.  `Serves.of_machine` says that this is what the
machine does with the handler alone on it.

The rules below compute `Serves` of the handlers' shapes.
-/

namespace EvGrpc

open Lib

/-- The rows, and the statements of the open transaction. -/
structure Session where
  db : Database
  pending : List Pending

/-- What an operation may answer when all goes well. -/
def Op.Answers (β : Type) (o : Op β) (s : Session) (b : β) (s' : Session) : Prop :=
  match o with
  | .auth _ _ => b.status.ok = true ∧ s' = s
  | .enter _ _ _ | .setStatus _ | .leave | .acquire | .release | .newUuid => s' = s
  | .beginWork => b = .ok () ∧ s' = { s with pending := [] }
  | .endWork => s' = { s with pending := [] }
  | .query q => ∃ v v', replay s.db s.pending = some v ∧ v.SameRows v' ∧ b = q v' ∧ s' = s
  | .write w =>
      ∃ v, replay s.db s.pending = some v ∧
        ((∃ e, w.run v = .error e ∧ b = .error e ∧ s' = s) ∨
          ∃ r v', w.run v = .ok (r, v') ∧ b = .ok r ∧
            s' = { s with pending := s.pending ++ [⟨w, r⟩] })
  | .commit => ∃ v, replay s.db s.pending = some v ∧ b = .ok () ∧ s' = ⟨v, []⟩
  | .convert r => b = r ∧ s' = s
  | .undefined => False

/-- On the rows of `db` the handler may give this reply and leave the rows of `db'`. -/
def Serves {α : Type} (db : Database) (p : Prog Op α) (reply : α) (db' : Database) : Prop :=
  ∃ ps, p.Yields Op.Answers ⟨db, []⟩ reply ⟨db', ps⟩

/-! ## The machine with one handler on it -/

/-- A choice under which all goes well. -/
def Choice.Clean (c : Choice) : Prop :=
  (∃ subject reason, c.verdict = .accepted subject reason) ∧ c.fault = none

theorem clean_replicate (n : ℕ) : ∀ c ∈ List.replicate n ({} : Choice), c.Clean := by
  intro c hc
  rw [List.eq_of_mem_replicate hc]
  exact ⟨⟨_, _, rfl⟩, rfl⟩

/-- A step of a handler that is alone on the machine, when all goes well. -/
def SoloStep (β : Type) (o : Op β) (s : World × Local) (b : β) (s' : World × Local) : Prop :=
  ∃ c : Choice, c.Clean ∧ machine.step o c s.1 s.2 = some (b, s'.1, s'.2)

/-- The machine's state seen as a session.  The open transaction has not lost a
conflict: the rows have not changed since its statements ran. -/
def InSession (s : World × Local) (x : Session) : Prop :=
  x = ⟨s.1.db, s.2.pending⟩ ∧ (replay s.1.db s.2.pending).isSome

theorem SoloStep.answers {β : Type} {o : Op β} {s s' : World × Local} {b : β} {x : Session}
    (hx : InSession s x) (h : SoloStep β o s b s') :
    ∃ x', InSession s' x' ∧ Op.Answers β o x b x' := by
  obtain ⟨w, t⟩ := s
  obtain ⟨w', t'⟩ := s'
  obtain ⟨c, ⟨⟨subject, reason, hverdict⟩, hfault⟩, hstep⟩ := h
  obtain ⟨rfl, hview⟩ := hx
  obtain ⟨v, hv⟩ := Option.isSome_iff_exists.mp hview
  dsimp only at hstep hv hview
  refine ⟨⟨w'.db, t'.pending⟩, ⟨rfl, ?_⟩, ?_⟩
  · -- The transaction still replays.
    cases o with
    | write q =>
        simp only [machine, hfault, hv] at hstep
        split at hstep
        · cases hstep; exact hview
        · rename_i r v' he
          cases hstep
          exact Option.isSome_iff_exists.mpr ⟨v', (replay_append ..).mpr ⟨v, hv, he⟩⟩
    | _ =>
        simp only [machine, hfault, hv] at hstep
        repeat' split at hstep
        all_goals cases hstep
        all_goals first | exact hview | rfl
  · -- The answer is one a session allows.
    cases o with
    | query q =>
        simp only [machine, hfault, hv] at hstep
        split at hstep
        · cases hstep
        · rename_i v' hv'
          cases hstep
          exact ⟨v, v', hv, Choice.sameRows_view hv', rfl, rfl⟩
    | write q =>
        simp only [machine, hfault, hv] at hstep
        split at hstep
        · rename_i e he
          cases hstep
          exact ⟨v, hv, .inl ⟨e, he, rfl, rfl⟩⟩
        · rename_i r v' he
          cases hstep
          exact ⟨v, hv, .inr ⟨r, v', he, rfl, rfl⟩⟩
    | auth md method =>
        simp only [machine, hverdict] at hstep
        cases hstep
        exact ⟨rfl, rfl⟩
    | commit =>
        simp only [machine, hfault, hv] at hstep
        cases hstep
        exact ⟨v, hv, rfl, rfl⟩
    | _ =>
        simp only [machine, hfault] at hstep
        repeat' split at hstep
        all_goals cases hstep
        all_goals first | rfl | exact ⟨rfl, rfl⟩

/-- What the machine does with a handler that is alone on it is what `Serves` says. -/
theorem Serves.of_machine {α : Type} {p : Prog Op α} {w w' : World} {t t' : Local} {reply : α}
    (h : p.Yields SoloStep (w, t) reply (w', t')) (ht : t.pending = []) :
    Serves w.db p reply w'.db := by
  have hstart : InSession (w, t) ⟨w.db, []⟩ := by simp [InSession, ht]
  have hsim : ∀ (β : Type) (o : Op β) (s : World × Local) (b : β) (s' : World × Local)
      (x : Session), InSession s x → SoloStep β o s b s' →
      ∃ x', InSession s' x' ∧ Op.Answers β o x b x' := fun _ _ _ _ _ _ => SoloStep.answers
  obtain ⟨x, ⟨rfl, -⟩, hx⟩ := h.simulate hsim hstart
  exact ⟨t'.pending, hx⟩

/-- A run of the machine that can be computed shows that a handler serves. -/
theorem Serves.exists_run {α : Type} {p : Prog Op α} {db : Database} {P : α → Database → Prop}
    [∀ a db, Decidable (P a db)] (n : ℕ) (cs : List Choice) (hcs : ∀ c ∈ cs, c.Clean)
    (h : (machine.run p cs (World.start db n [], .fresh)).any
      (fun x => decide (P x.1 x.2.1.db)) = true) :
    ∃ reply db', Serves db p reply db' ∧ P reply db' := by
  cases e : machine.run p cs (World.start db n [], .fresh) with
  | none => simp [e] at h
  | some x =>
      have hrun : p.Yields SoloStep (World.start db n [], .fresh) x.1 x.2 :=
        Machine.yields_run_where hcs e
      exact ⟨x.1, x.2.1.db, Serves.of_machine hrun rfl, by simpa [e] using h⟩

/-! ## Rules for the shapes -/

section Rules
variable {s s' : Session} {α β ρ : Type}

@[simp] theorem yields_call {o : Op β} {b : β} :
    (Prog.call o).Yields Op.Answers s b s' ↔ Op.Answers β o s b s' := by
  simp only [Prog.call, Prog.yields_op, Prog.yields_done]
  constructor
  · rintro ⟨b', t, h, rfl, rfl⟩
    exact h
  · intro h
    exact ⟨b, s', h, rfl, rfl⟩

/-- An operation without a result that leaves the session alone. -/
theorem yields_silent {o : Op Unit} {f : Unit → Prog Op α} {r : α}
    (ho : ∀ s s', Op.Answers Unit o s () s' ↔ s' = s) :
    (Prog.call o >>= f).Yields Op.Answers s r s' ↔ (f ()).Yields Op.Answers s r s' := by
  simp only [Prog.call_bind, Prog.yields_op]
  constructor
  · rintro ⟨b, t, h, hf⟩
    rw [(ho s t).mp h] at hf
    exact hf
  · intro h
    exact ⟨(), s, (ho s s).mpr rfl, h⟩

theorem yields_run_pure {a : α} {x : Except Exn α} :
    (pure a : Rpc α).run.Yields Op.Answers s x s' ↔ x = .ok a ∧ s' = s := Iff.rfl

/-- A sequence in a `try` block ends where its first half throws, or goes on. -/
theorem yields_run_bind {m : Rpc α} {f : α → Rpc β} {x : Except Exn β} :
    (m >>= f).run.Yields Op.Answers s x s' ↔
      (∃ e, m.run.Yields Op.Answers s (.error e) s' ∧ x = .error e) ∨
        ∃ a t, m.run.Yields Op.Answers s (.ok a) t ∧ (f a).run.Yields Op.Answers t x s' := by
  rw [ExceptT.run_bind, Prog.yields_bind]
  constructor
  · rintro ⟨y, t, hm, hf⟩
    cases y with
    | error e =>
        obtain ⟨rfl, rfl⟩ := hf
        exact .inl ⟨e, hm, rfl⟩
    | ok a => exact .inr ⟨a, t, hm, hf⟩
  · rintro (⟨e, hm, rfl⟩ | ⟨a, t, hm, hf⟩)
    · exact ⟨.error e, s', hm, rfl, rfl⟩
    · exact ⟨.ok a, t, hm, hf⟩

/-- A first half that cannot throw and leaves the session alone only hands its value on. -/
theorem yields_run_bind_of_ok {m : Rpc α} {f : α → Rpc β} {a : α} {x : Except Exn β}
    (hm : ∀ y t, m.run.Yields Op.Answers s y t ↔ y = .ok a ∧ t = s) :
    (m >>= f).run.Yields Op.Answers s x s' ↔ (f a).run.Yields Op.Answers s x s' := by
  rw [yields_run_bind]
  simp only [hm]
  constructor
  · rintro (⟨e, ⟨he, -⟩, -⟩ | ⟨b, t, ⟨hb, rfl⟩, hf⟩)
    · cases he
    · cases hb
      exact hf
  · intro hf
    exact .inr ⟨a, s, ⟨rfl, rfl⟩, hf⟩

/-- A query outside a transaction meets the committed rows in some order. -/
theorem yields_exec {q : Database → Except Exn ρ} {db : Database} {x : Except Exn ρ} :
    (exec q).run.Yields Op.Answers ⟨db, []⟩ x s' ↔
      ∃ v, db.SameRows v ∧ x = q v ∧ s' = ⟨db, []⟩ := by
  have hcall : (exec q).run = Prog.call (.query q) := rfl
  rw [hcall, yields_call]
  constructor
  · rintro ⟨v, v', hv, hsame, rfl, rfl⟩
    cases hv
    exact ⟨v', hsame, rfl, rfl⟩
  · rintro ⟨v, hsame, rfl, rfl⟩
    exact ⟨db, v, rfl, hsame, rfl, rfl⟩

theorem yields_convert {r x : Except Exn ρ} :
    (convert r).run.Yields Op.Answers s x s' ↔ x = r ∧ s' = s := by
  have hcall : (convert r).run = Prog.call (.convert r) := rfl
  rw [hcall, yields_call]
  exact Iff.rfl

theorem yields_fail {st : Status} {x : Except Exn (Reply ρ)} :
    (fail st : Rpc (Reply ρ)).run.Yields Op.Answers s x s' ↔ x = .ok (st, none) ∧ s' = s := by
  have hrun : (fail st : Rpc (Reply ρ)).run =
      (Prog.call (.setStatus st) >>= fun _ => .done (.ok (st, none))) := rfl
  rw [hrun, yields_silent (fun _ _ => Iff.rfl)]
  exact Iff.rfl

theorem yields_addInt {a b : ℤ} {x : Except Exn ℤ} :
    (addInt a b).run.Yields Op.Answers s x s' ↔ isInt (a + b) = true ∧ x = .ok (a + b) ∧ s' = s := by
  unfold addInt
  by_cases h : isInt (a + b) = true
  · simp only [h, Bool.not_true, Bool.false_eq_true, if_false, true_and]
    exact yields_run_pure
  · simp only [h, Bool.not_false, if_true, Bool.false_eq_true, false_and, iff_false]
    rintro ⟨b, t, hundef, -⟩
    exact hundef

theorem yields_withConn {body : Rpc α} {x : Except Exn α} :
    (withConn body).run.Yields Op.Answers s x s' ↔ body.run.Yields Op.Answers s x s' := by
  have hrun : (withConn body).run = (Prog.call .acquire >>= fun _ => body.run >>= fun r =>
      Prog.call .release >>= fun _ => .done r) := rfl
  rw [hrun, yields_silent (fun _ _ => Iff.rfl), Prog.yields_bind]
  constructor
  · rintro ⟨y, t, hbody, hrest⟩
    rw [yields_silent (fun _ _ => Iff.rfl)] at hrest
    obtain ⟨rfl, rfl⟩ := hrest
    exact hbody
  · intro hbody
    refine ⟨x, s', hbody, ?_⟩
    rw [yields_silent (fun _ _ => Iff.rfl)]
    exact ⟨rfl, rfl⟩

/-- What `catch` makes of the end of a `try` block. -/
def settle : Except Exn (Reply ρ) → Reply ρ
  | .ok r => r
  | .error e => (toGrpcStatus e, none)

theorem yields_catching {body : Rpc (Reply ρ)} {r : Reply ρ} :
    (catching body).Yields Op.Answers s r s' ↔
      ∃ x, body.run.Yields Op.Answers s x s' ∧ r = settle x := by
  unfold catching
  rw [Prog.yields_bind]
  constructor
  · rintro ⟨x, t, hbody, hrest⟩
    cases x with
    | ok a =>
        obtain ⟨rfl, rfl⟩ := hrest
        exact ⟨_, hbody, rfl⟩
    | error e =>
        obtain ⟨b, t', ht, rfl, rfl⟩ := hrest
        cases ht
        exact ⟨_, hbody, rfl⟩
  · rintro ⟨x, hbody, rfl⟩
    cases x with
    | ok a => exact ⟨_, s', hbody, rfl, rfl⟩
    | error e => exact ⟨_, s', hbody, (), s', rfl, rfl, rfl⟩

theorem yields_validated {st : Status} {body : Prog Op (Reply ρ)} {r : Reply ρ} :
    (validated st body).Yields Op.Answers s r s' ↔
      if st.ok = true then body.Yields Op.Answers s r s' else r = (st, none) ∧ s' = s := by
  unfold validated
  by_cases h : st.ok = true
  · rw [if_pos h, if_pos h]
  · rw [if_neg h, if_neg h, yields_silent (fun _ _ => Iff.rfl)]
    exact Iff.rfl

/-- An accepted call does what its body does. -/
theorem yields_authenticated {md : Metadata} {kMethod : String} {body : Prog Op (Reply ρ)}
    {r : Reply ρ} :
    (authenticated md kMethod body).Yields Op.Answers s r s' ↔ body.Yields Op.Answers s r s' := by
  have hprog : authenticated md kMethod body = (Prog.call (.auth md kMethod) >>= fun a =>
      Prog.call (.enter kMethod a.subject a.reqId) >>= fun _ => validated a.status body >>= fun r =>
        Prog.call .leave >>= fun _ => .done r) := rfl
  rw [hprog, Prog.yields_bind]
  constructor
  · rintro ⟨a, t, ha, hrest⟩
    obtain ⟨hok, rfl⟩ := yields_call.mp ha
    rw [yields_silent (fun _ _ => Iff.rfl), Prog.yields_bind] at hrest
    obtain ⟨r', t', hbody, hleave⟩ := hrest
    rw [yields_silent (fun _ _ => Iff.rfl)] at hleave
    obtain ⟨rfl, rfl⟩ := hleave
    rw [yields_validated, if_pos hok] at hbody
    exact hbody
  · intro hbody
    refine ⟨⟨"", "", "", .OK⟩, s, yields_call.mpr ⟨rfl, rfl⟩, ?_⟩
    rw [yields_silent (fun _ _ => Iff.rfl), Prog.yields_bind]
    refine ⟨r, s', yields_validated.mpr (by simpa using hbody), ?_⟩
    rw [yields_silent (fun _ _ => Iff.rfl)]
    exact ⟨rfl, rfl⟩

end Rules

/-! ## Reading handlers -/

section Reading
variable {db db' : Database} {md : Metadata} {kMethod : String} {α ρ : Type} {r : Reply ρ}

/-- The reply to a question that was answered, or threw. -/
def answer : Except Exn ρ → Reply ρ
  | .ok b => (.OK, some b)
  | .error e => (toGrpcStatus e, none)

theorem settle_answer (x : Except Exn ρ) : settle (x >>= fun b => .ok (.OK, some b)) = answer x := by
  cases x <;> rfl

/-- A question and what is made of its result, in a `try` block. -/
theorem yields_question {q : Database → Except Exn α} {f : α → Except Exn ρ} {s' : Session}
    {x : Except Exn (Reply ρ)} :
    (do
      let result ← exec q
      let resp ← convert (f result)
      return (.OK, some resp) : Rpc (Reply ρ)).run.Yields Op.Answers ⟨db, []⟩ x s' ↔
      s' = ⟨db, []⟩ ∧ ∃ v, db.SameRows v ∧ x = (q v >>= f) >>= fun b => .ok (.OK, some b) := by
  rw [yields_run_bind]
  simp only [yields_exec, yields_run_bind, yields_convert, yields_run_pure]
  constructor
  · rintro (⟨e, ⟨v, hv, hq, rfl⟩, rfl⟩ | ⟨a, t, ⟨v, hv, hq, rfl⟩, hrest⟩)
    · refine ⟨rfl, v, hv, ?_⟩
      rw [← hq]
      rfl
    · rcases hrest with ⟨e, ⟨he, rfl⟩, rfl⟩ | ⟨b, t, ⟨hb, rfl⟩, rfl, rfl⟩
      · refine ⟨rfl, v, hv, ?_⟩
        rw [← hq]
        change _ = f a >>= _
        rw [← he]
        rfl
      · refine ⟨rfl, v, hv, ?_⟩
        rw [← hq]
        change _ = f a >>= _
        rw [← hb]
        rfl
  · rintro ⟨rfl, v, hv, rfl⟩
    cases hq : q v with
    | error e => exact .inl ⟨e, ⟨v, hv, hq.symm, rfl⟩, rfl⟩
    | ok a =>
        refine .inr ⟨a, _, ⟨v, hv, hq.symm, rfl⟩, ?_⟩
        change (∃ e, (_ = f a ∧ _) ∧ f a >>= _ = _) ∨ ∃ b t, (_ = f a ∧ _) ∧ f a >>= _ = _ ∧ _
        cases f a with
        | error e => exact .inl ⟨e, ⟨rfl, rfl⟩, rfl⟩
        | ok b => exact .inr ⟨b, _, ⟨rfl, rfl⟩, rfl, rfl⟩

/-- A handler that asks one question. -/
theorem serves_readAll {q : Database → Except Exn α} {f : α → Except Exn ρ} :
    Serves db (authenticated md kMethod (catching (readAll q f))) r db' ↔
      db' = db ∧ ∃ v, db.SameRows v ∧ r = answer (q v >>= f) := by
  unfold Serves readAll
  simp only [yields_authenticated, yields_catching, yields_withConn, yields_question]
  constructor
  · rintro ⟨ps, x, ⟨hs, v, hv, rfl⟩, rfl⟩
    cases hs
    exact ⟨rfl, v, hv, settle_answer _⟩
  · rintro ⟨rfl, v, hv, rfl⟩
    exact ⟨[], _, ⟨rfl, v, hv, rfl⟩, (settle_answer _).symm⟩

end Reading

end EvGrpc
