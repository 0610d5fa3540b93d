import EvGrpc.Services.Written

/-!
# What a call comes to

`Ends` says that code, run alone, comes to exactly one end.  The shapes of the writing
handlers do once their statement's result is known, so what such a call comes to is an
equation (`serves_updateRow`, `serves_deleteRow`, `serves_insertRow`, …): the statement is
refused, or it is undone because the reply is not OK, or its rows stay.
-/

namespace EvGrpc

open Lib

variable {db db' v : Database} {md : Metadata} {kMethod : String} {α β ρ : Type} {r : Reply ρ}
variable {s t : Session}

/-! ## Code with one end -/

/-- From this session the code ends in one way. -/
def Ends (m : Rpc α) (s : Session) (x : Except Exn α) (t : Session) : Prop :=
  ∀ y s', m.run.Yields Op.Answers s y s' ↔ y = x ∧ s' = t

theorem ends_pure (a : α) : Ends (pure a) s (.ok a) s := fun _ _ => yields_run_pure

theorem ends_convert (x : Except Exn ρ) : Ends (convert x) s x s := fun _ _ => yields_convert

theorem ends_fail (st : Status) : Ends (fail st : Rpc (Reply ρ)) s (.ok (st, none)) s :=
  fun _ _ => yields_fail

/-- The first half ends, and then the second. -/
theorem Ends.bind {m : Rpc α} {f : α → Rpc β} {a : α} {x : Except Exn β} {s' : Session}
    (hm : Ends m s (.ok a) t) (hf : Ends (f a) t x s') : Ends (m >>= f) s x s' := by
  intro y u
  rw [yields_run_bind]
  constructor
  · intro h
    rcases h with ⟨e, he, -⟩ | ⟨b, t', hb, hrest⟩
    · cases ((hm _ _).mp he).1
    · obtain ⟨hab, rfl⟩ := (hm _ _).mp hb
      cases hab
      exact (hf _ _).mp hrest
  · intro h
    exact .inr ⟨a, t, (hm _ _).mpr ⟨rfl, rfl⟩, (hf _ _).mpr h⟩

/-- The first half throws. -/
theorem Ends.throw {m : Rpc α} {e : Exn} (hm : Ends m s (.error e) t) (f : α → Rpc β) :
    Ends (m >>= f) s (.error e) t := by
  intro y u
  rw [yields_run_bind]
  constructor
  · intro h
    rcases h with ⟨e', he, rfl⟩ | ⟨b, t', hb, -⟩
    · obtain ⟨hee, rfl⟩ := (hm _ _).mp he
      cases hee
      exact ⟨rfl, rfl⟩
    · cases ((hm _ _).mp hb).1
  · intro ⟨hy, hu⟩
    exact .inl ⟨e, (hm _ _).mpr ⟨rfl, hu⟩, hy⟩

theorem Ends.withConn {m : Rpc α} {x : Except Exn α} (h : Ends m s x t) :
    Ends (withConn m) s x t := fun y s' => yields_withConn.trans (h y s')

/-- What was not committed is undone. -/
theorem Ends.withWork {m : Rpc α} {x : Except Exn α} (h : Ends m ⟨db, []⟩ x t) :
    Ends (withWork m) ⟨db, []⟩ x ⟨t.db, []⟩ := by
  intro y s'
  rw [yields_withWork]
  constructor
  · intro ⟨u, hu, hs⟩
    obtain ⟨rfl, rfl⟩ := (h _ _).mp hu
    exact ⟨rfl, hs⟩
  · intro ⟨hy, hs⟩
    exact ⟨t, (h _ _).mpr ⟨hy, rfl⟩, hs⟩

/-! Statements. -/

theorem ends_execWrite_error {w : Write α} {e : Exn} (h : w.run db = .error e) :
    Ends (execWrite w) ⟨db, []⟩ (.error e) ⟨db, []⟩ := by
  intro y s'
  have hcall : (execWrite w).run = Prog.call (.write w) := rfl
  rw [hcall, yields_call]
  constructor
  · intro ⟨v, hv, hor⟩
    cases hv
    rcases hor with ⟨e', he, hy, hs⟩ | ⟨r, v', hok, -⟩
    · rw [h] at he
      cases he
      exact ⟨hy, hs⟩
    · rw [h] at hok
      cases hok
  · intro ⟨hy, hs⟩
    exact ⟨db, rfl, .inl ⟨e, h, hy, hs⟩⟩

theorem ends_execWrite_ok {w : Write α} {a : α} (h : w.run db = .ok (a, v)) :
    Ends (execWrite w) ⟨db, []⟩ (.ok a) ⟨db, [⟨w, a⟩]⟩ := by
  intro y s'
  have hcall : (execWrite w).run = Prog.call (.write w) := rfl
  rw [hcall, yields_call]
  constructor
  · intro ⟨u, hu, hor⟩
    cases hu
    rcases hor with ⟨e', he, -⟩ | ⟨r, v', hok, hy, hs⟩
    · rw [h] at he
      cases he
    · rw [h] at hok
      cases hok
      exact ⟨hy, hs⟩
  · intro ⟨hy, hs⟩
    exact ⟨db, rfl, .inr ⟨a, v, h, hy, hs⟩⟩

theorem replay_one {w : Write β} {b : β} {u : Database} (h : w.run db = .ok (b, v)) :
    replay db [⟨w, b⟩] = some u ↔ v = u := by
  rw [replay_cons, h]
  simp

/-- A question whose answer is the same in whatever order it meets the rows. -/
theorem ends_exec {q : Database → Except Exn ρ} {x : Except Exn ρ} {w : Write β} {b : β}
    (h : w.run db = .ok (b, v)) (hq : ∀ v', v.SameRows v' → q v' = x) :
    Ends (exec q) ⟨db, [⟨w, b⟩]⟩ x ⟨db, [⟨w, b⟩]⟩ := by
  intro y s'
  have hcall : (exec q).run = Prog.call (.query q) := rfl
  rw [hcall, yields_call]
  constructor
  · intro ⟨u, v', hu, hsame, hy, hs⟩
    obtain rfl := (replay_one h).mp hu
    exact ⟨hy.trans (hq v' hsame), hs⟩
  · intro ⟨hy, hs⟩
    exact ⟨v, v, (replay_one h).mpr rfl, .refl v, hy.trans (hq v (.refl v)).symm, hs⟩

theorem ends_commit {w : Write β} {b : β} (h : w.run db = .ok (b, v)) :
    Ends commit ⟨db, [⟨w, b⟩]⟩ (.ok ()) ⟨v, []⟩ := by
  intro y s'
  have hcall : commit.run = Prog.call .commit := rfl
  rw [hcall, yields_call]
  constructor
  · intro ⟨u, hu, hy, hs⟩
    obtain rfl := (replay_one h).mp hu
    exact ⟨hy, hs⟩
  · intro ⟨hy, hs⟩
    exact ⟨v, (replay_one h).mpr rfl, hy, hs⟩

/-- A call whose `try` block comes to one end. -/
theorem Ends.yields {body : Rpc (Reply ρ)} {x : Except Exn (Reply ρ)} (h : Ends body s x t)
    {s' : Session} :
    (authenticated md kMethod (catching body)).Yields Op.Answers s r s' ↔
      r = settle x ∧ s' = t := by
  rw [yields_authenticated, yields_catching]
  constructor
  · intro ⟨y, hy, hr⟩
    obtain ⟨rfl, ht⟩ := (h _ _).mp hy
    exact ⟨hr, ht⟩
  · intro ⟨hr, ht⟩
    exact ⟨x, (h _ _).mpr ⟨rfl, ht⟩, hr⟩

theorem Ends.serves {body : Rpc (Reply ρ)} {x : Except Exn (Reply ρ)}
    (h : Ends body ⟨db, []⟩ x t) :
    Serves db (authenticated md kMethod (catching body)) r db' ↔ (r, db') = (settle x, t.db) := by
  rw [Prod.mk.injEq]
  constructor
  · intro ⟨ps, hps⟩
    obtain ⟨hr, ht⟩ := h.yields.mp hps
    exact ⟨hr, congrArg Session.db ht⟩
  · intro ⟨hr, hdb⟩
    exact ⟨t.pending, h.yields.mpr ⟨hr, by rw [hdb]⟩⟩

/-! ## Outcomes -/

/-- What the result of its statement makes of a call: it is refused, or undone because the
reply is not OK, or its rows stay. -/
def concluding {D : Type} (x : Except Exn (β × D)) (d : D) (f : β → D → Reply ρ) : Reply ρ × D :=
  match x with
  | .error e => ((toGrpcStatus e, none), d)
  | .ok (b, d') => (f b d', if (f b d').1.ok then d' else d)

/-- The message of the first row, if there is one. -/
def firstOf (notFound : Status) (message : α → ρ) : List α → Reply ρ
  | [] => (notFound, none)
  | a :: _ => (.OK, some (message a))

/-- The reply to a lookup. -/
def sought (notFound : Status) (message : α → ρ) : Except Exn (List α) → Reply ρ
  | .error e => (toGrpcStatus e, none)
  | .ok rows => firstOf notFound message rows

/-- Outcomes on one level are outcomes on another. -/
theorem map_concluding {D E : Type} (f : ρ → Response) (g : D → E) {x : Except Exn (β × D)} {d : D}
    {F : β → D → Reply ρ} {G : β → E → Reply Response}
    (h : ∀ b d, Reply.wrap f (F b d) = G b (g d)) :
    Prod.map (Reply.wrap f) g (concluding x d F) =
      concluding (x.map fun y => (y.1, g y.2)) (g d) G := by
  cases x with
  | error e => rfl
  | ok y =>
      obtain ⟨b, d'⟩ := y
      simp [concluding, Except.map, ← h, Reply.wrap, apply_ite g]

theorem wrap_firstOf {f : ρ → Response} {notFound : Status} {message : α → ρ}
    (rows : List α) :
    Reply.wrap f (firstOf notFound message rows) = firstOf notFound (fun a => f (message a)) rows := by
  cases rows <;> rfl

section Outcomes
variable {w : Write β} {b : β} {notFound : Status} {row : α → Except Exn ρ} {message : α → ρ}

/-- A row that came back is converted, and the call commits. -/
theorem ends_firstRow (notFound : Status) (h : w.run db = .ok (b, v)) (hnf : notFound.ok = false)
    (hrow : ∀ a, row a = .ok (message a)) (rows : List α) :
    ∃ ps, Ends (firstRow notFound (fun x => do
      let resp ← convert (row x)
      commit
      return (.OK, some resp)) rows) ⟨db, [⟨w, b⟩]⟩ (.ok (firstOf notFound message rows))
        ⟨if (firstOf notFound message rows).1.ok then v else db, ps⟩ := by
  cases rows with
  | nil =>
      refine ⟨[⟨w, b⟩], ?_⟩
      simp only [firstOf, hnf]
      exact ends_fail notFound
  | cons a rows =>
      have hconvert : Ends (convert (row a)) ⟨db, [⟨w, b⟩]⟩ (.ok (message a)) ⟨db, [⟨w, b⟩]⟩ :=
        hrow a ▸ ends_convert (row a)
      exact ⟨[], hconvert.bind ((ends_commit h).bind (ends_pure _))⟩

/-- A lookup. -/
theorem ends_getRow (notFound : Status) {q : Database → Except Exn (List α)}
    {rows : Except Exn (List α)} (hq : ∀ v, db.SameRows v → q v = rows) (hrow : ∀ a, row a = .ok (message a)) :
    ∃ x, Ends (getRow q notFound row) ⟨db, []⟩ x ⟨db, []⟩ ∧
      settle x = sought notFound message rows := by
  have hexec : Ends (exec q) ⟨db, []⟩ rows ⟨db, []⟩ := by
    intro y s'
    rw [yields_exec]
    constructor
    · intro ⟨v, hv, hy, hs⟩
      exact ⟨hy.trans (hq v hv), hs⟩
    · intro ⟨hy, hs⟩
      exact ⟨db, .refl db, hy.trans (hq db (.refl db)).symm, hs⟩
  cases rows with
  | error e => exact ⟨.error e, (hexec.throw _).withConn, rfl⟩
  | ok rows =>
      cases rows with
      | nil => exact ⟨.ok (notFound, none), (hexec.bind (ends_fail notFound)).withConn, rfl⟩
      | cons a rows =>
          have hconvert : Ends (convert (row a)) ⟨db, []⟩ (.ok (message a)) ⟨db, []⟩ :=
            hrow a ▸ ends_convert (row a)
          have hanswer := hconvert.bind (f := fun m => pure ((.OK, some m) : Reply ρ)) (ends_pure _)
          exact ⟨.ok (.OK, some (message a)), (hexec.bind hanswer).withConn, rfl⟩

/-- An `UPDATE`. -/
theorem serves_updateRow {w : Write (List α)} (hnf : notFound.ok = false)
    (hrow : ∀ a, row a = .ok (message a)) :
    Serves db (authenticated md kMethod (catching (updateRow w notFound row))) r db' ↔
      (r, db') = concluding (w.run db) db fun rows _ => firstOf notFound message rows := by
  cases h : w.run db with
  | error e => exact ((ends_execWrite_error h).throw _).withWork.withConn.serves
  | ok y =>
      obtain ⟨rows, v⟩ := y
      obtain ⟨ps, hps⟩ := ends_firstRow notFound h hnf hrow rows
      exact ((ends_execWrite_ok h).bind hps).withWork.withConn.serves

/-- A `DELETE`. -/
theorem serves_deleteRow {w : Write ℕ} {r : Reply Unit} (hnf : notFound.ok = false) :
    Serves db (authenticated md kMethod (catching (deleteRow w notFound))) r db' ↔
      (r, db') = concluding (w.run db) db fun n _ =>
        if n = 0 then (notFound, none) else (.OK, some ()) := by
  cases h : w.run db with
  | error e => exact ((ends_execWrite_error h).throw _).withWork.withConn.serves
  | ok y =>
      obtain ⟨n, v⟩ := y
      have hwrite := ends_execWrite_ok h
      by_cases hn : n = 0
      · have hend : Ends (if n = 0 then fail notFound else do
            commit
            return (.OK, some ())) ⟨db, [⟨w, n⟩]⟩ (.ok (notFound, none)) ⟨db, [⟨w, n⟩]⟩ := by
          rw [if_pos hn]
          exact ends_fail notFound
        refine ((hwrite.bind hend).withWork.withConn.serves).trans ?_
        simp [concluding, hn, hnf, settle]
      · have hend : Ends (if n = 0 then fail notFound else do
            commit
            return (.OK, some ())) ⟨db, [⟨w, n⟩]⟩ (.ok (.OK, some ())) ⟨v, []⟩ := by
          rw [if_neg hn]
          exact (ends_commit h).bind (ends_pure _)
        refine ((hwrite.bind hend).withWork.withConn.serves).trans ?_
        simp [concluding, hn, settle, Status.ok, Status.OK]

/-- An `INSERT` that is read back. -/
theorem serves_insertRow {w : Write Unit} {q : Database → Except Exn (List α)}
    (look : Database → List α)
    (hq : ∀ v, w.run db = .ok ((), v) → ∀ v', v.SameRows v' → q v' = .ok (look v))
    (hrow : ∀ a, row a = .ok (message a)) :
    Serves db (authenticated md kMethod (catching (withConn (withWork (insertRow w q row))))) r
        db' ↔
      (r, db') = concluding (w.run db) db fun _ d =>
        firstOf ⟨.INTERNAL, "INSERT returned no row"⟩ message (look d) := by
  cases h : w.run db with
  | error e => exact ((ends_execWrite_error h).throw _).withWork.withConn.serves
  | ok y =>
      obtain ⟨⟨⟩, v⟩ := y
      obtain ⟨ps, hps⟩ := ends_firstRow ⟨.INTERNAL, "INSERT returned no row"⟩ h rfl hrow (look v)
      have hread := (ends_exec h (hq v h)).bind hps
      have hwrite := (ends_execWrite_ok h).bind (f := fun _ => exec q >>= _) hread
      exact hwrite.withWork.withConn.serves

/-- An `INSERT` that is answered from the request. -/
theorem serves_insertAndAnswer {w : Write Unit} {m : ρ} :
    Serves db (authenticated md kMethod (catching (withConn (withWork (do
      execWrite w
      commit
      return (.OK, some m)))))) r db' ↔
      (r, db') = concluding (w.run db) db fun _ _ => (.OK, some m) := by
  cases h : w.run db with
  | error e => exact ((ends_execWrite_error h).throw _).withWork.withConn.serves
  | ok y =>
      obtain ⟨⟨⟩, v⟩ := y
      have hcommit := (ends_commit h).bind (f := fun _ => pure ((.OK, some m) : Reply ρ))
        (ends_pure ((.OK, some m) : Reply ρ))
      have hwrite := (ends_execWrite_ok h).bind (f := fun _ => commit >>= _) hcommit
      exact hwrite.withWork.withConn.serves

/-- An `INSERT` after which another handler is called, which succeeds. -/
theorem serves_insertAndCall {w : Write Unit} {p : Prog Op (Reply ρ)} {reply : Database → Reply ρ}
    (hp : ∀ v, w.run db = .ok ((), v) → (reply v).1 = .OK ∧
      ∀ a t, p.Yields Op.Answers ⟨v, []⟩ a t ↔ a = reply v ∧ t = ⟨v, []⟩) :
    Serves db (authenticated md kMethod (catching (withConn (withWork (do
      execWrite w
      commit
      let read ← callHandler p
      if !read.1.ok then fail read.1
      else return (.OK, read.2)))))) r db' ↔
      (r, db') = concluding (w.run db) db fun _ d => reply d := by
  cases h : w.run db with
  | error e => exact ((ends_execWrite_error h).throw _).withWork.withConn.serves
  | ok y =>
      obtain ⟨⟨⟩, v⟩ := y
      obtain ⟨hok, hyields⟩ := hp v h
      have hcall : Ends (callHandler p) ⟨v, []⟩ (.ok (reply v)) ⟨v, []⟩ := by
        intro y s'
        rw [yields_callHandler]
        simp only [hyields]
        constructor
        · intro ⟨a, ⟨ha, hs⟩, hy⟩
          exact ⟨ha ▸ hy, hs⟩
        · intro ⟨hy, hs⟩
          exact ⟨_, ⟨rfl, hs⟩, hy⟩
      have hend : Ends (if !(reply v).1.ok then fail (reply v).1 else pure (.OK, (reply v).2))
          ⟨v, []⟩ (.ok (reply v)) ⟨v, []⟩ := by
        have hreply : reply v = (.OK, (reply v).2) := by rw [← hok]
        rw [hreply]
        exact ends_pure _
      have hread := hcall.bind
        (f := fun read : Reply ρ => if !read.1.ok then fail read.1 else pure (.OK, read.2)) hend
      have hcommit := (ends_commit h).bind (f := fun _ => callHandler p >>= _) hread
      have hwrite := (ends_execWrite_ok h).bind (f := fun _ => commit >>= _) hcommit
      refine hwrite.withWork.withConn.serves.trans ?_
      simp [concluding, settle, hok, Status.ok, Status.OK]

end Outcomes

/-! ## Identifiers -/

/-- Code that draws an identifier ends as it does for one of them. -/
theorem yields_draw {f : Uuid → Rpc α} {x : Except Exn α} :
    (newUuid >>= f).run.Yields Op.Answers s x t ↔ ∃ u, (f u).run.Yields Op.Answers s x t := by
  rw [yields_run_bind]
  simp only [yields_newUuid]
  constructor
  · intro h
    rcases h with ⟨e, ⟨u, he, -⟩, -⟩ | ⟨a, s', ⟨u, ha, rfl⟩, hf⟩
    · cases he
    · cases ha
      exact ⟨a, hf⟩
  · intro ⟨u, hf⟩
    exact .inr ⟨u, s, ⟨u, rfl, rfl⟩, hf⟩

/-- The identifier is drawn before the connection is taken. -/
theorem serves_draw {f : Uuid → Rpc (Reply ρ)} :
    Serves db (authenticated md kMethod (catching (newUuid >>= f))) r db' ↔
      ∃ u, Serves db (authenticated md kMethod (catching (f u))) r db' := by
  unfold Serves
  simp only [yields_authenticated, yields_catching, yields_draw]
  constructor
  · intro ⟨ps, x, ⟨u, hu⟩, hr⟩
    exact ⟨u, ps, x, hu, hr⟩
  · intro ⟨u, ps, x, hu, hr⟩
    exact ⟨ps, x, ⟨u, hu⟩, hr⟩

/-- The identifier is drawn inside the transaction. -/
theorem serves_drawInWork {f : Uuid → Rpc (Reply ρ)} :
    Serves db (authenticated md kMethod (catching (withConn (withWork (newUuid >>= f))))) r db' ↔
      ∃ u, Serves db (authenticated md kMethod (catching (withConn (withWork (f u))))) r db' := by
  unfold Serves
  simp only [yields_authenticated, yields_catching, yields_withConn, yields_withWork, yields_draw]
  constructor
  · intro ⟨ps, x, ⟨t, ⟨u, hu⟩, ht⟩, hr⟩
    exact ⟨u, ps, x, ⟨t, hu, ht⟩, hr⟩
  · intro ⟨u, ps, x, ⟨t, hu, ht⟩, hr⟩
    exact ⟨ps, x, ⟨t, ⟨u, hu⟩, ht⟩, hr⟩

/-! ## Every call -/

/-- The call comes to one of these, by the identifier that is drawn. -/
def Means (db : Database) (p : Prog Op (Reply ρ)) (outcome : Uuid → Reply ρ × Database) : Prop :=
  ∀ r db', Serves db p r db' ↔ ∃ u, (r, db') = outcome u

theorem means_of_iff {p : Prog Op (Reply ρ)} {y : Reply ρ × Database}
    (h : ∀ r db', Serves db p r db' ↔ (r, db') = y) : Means db p fun _ => y := by
  intro r db'
  rw [h]
  exact ⟨fun hy => ⟨Uuid.nil, hy⟩, fun ⟨_, hy⟩ => hy⟩

theorem means_draw {f : Uuid → Rpc (Reply ρ)} {y : Uuid → Reply ρ × Database}
    (h : ∀ u r db', Serves db (authenticated md kMethod (catching (f u))) r db' ↔ (r, db') = y u) :
    Means db (authenticated md kMethod (catching (newUuid >>= f))) y := by
  intro r db'
  rw [serves_draw]
  exact exists_congr fun u => h u r db'

theorem means_drawInWork {f : Uuid → Rpc (Reply ρ)} {y : Uuid → Reply ρ × Database}
    (h : ∀ u r db',
      Serves db (authenticated md kMethod (catching (withConn (withWork (f u))))) r db' ↔
        (r, db') = y u) :
    Means db (authenticated md kMethod (catching (withConn (withWork (newUuid >>= f))))) y := by
  intro r db'
  rw [serves_drawInWork]
  exact exists_congr fun u => h u r db'

theorem means_getRow {q : Database → Except Exn (List α)} {notFound : Status}
    {row : α → Except Exn ρ} {message : α → ρ} {rows : Except Exn (List α)}
    (hq : ∀ v, db.SameRows v → q v = rows) (hrow : ∀ a, row a = .ok (message a)) :
    Means db (authenticated md kMethod (catching (getRow q notFound row)))
      fun _ => (sought notFound message rows, db) := by
  obtain ⟨x, hx, hsettle⟩ := ends_getRow notFound hq hrow
  exact means_of_iff fun r db' => hsettle ▸ hx.serves

/-- The arguments are checked first. -/
theorem Means.validated {st : Status} {body : Prog Op (Reply ρ)} {y : Uuid → Reply ρ × Database}
    (h : Means db (authenticated md kMethod body) y) :
    Means db (authenticated md kMethod (validated st body)) fun u =>
      if st.ok then y u else ((st, none), db) := by
  intro r db'
  rw [serves_validated]
  by_cases hst : st.ok = true
  · simp only [hst, if_true]
    exact h r db'
  · simp only [hst, Bool.false_eq_true, if_false, Prod.mk.injEq]
    exact ⟨fun hy => ⟨Uuid.nil, hy⟩, fun ⟨_, hy⟩ => hy⟩

end EvGrpc
