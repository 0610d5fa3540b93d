import EvGrpc.Serial.Order
import EvGrpc.Store.Meaning

/-!
# The server is a store

Rows have no order that a call could find out: databases with the same records serve the
same calls in the same way (`Serves.sameStore`).  So a call, served alone, is a step from
store to store (`Store.Does`), and the server in all its interleavings goes through such
steps one after the other.
-/

namespace EvGrpc

open Lib

section SameStore
variable {a b a' v : Database} {ρ α : Type}

/-- A statement cannot tell databases with the same records apart. -/
theorem stored_congr (h : a.store = b.store) (w : Write ρ) : stored (w.run a) = stored (w.run b) := by
  rw [stored_run, stored_run, h]

theorem run_sameStore {w : Write ρ} {r : ρ} (h : a.store = b.store)
    (hrun : w.run a = .ok (r, a')) : ∃ b', a'.store = b'.store ∧ w.run b = .ok (r, b') := by
  have hcongr := stored_congr h w
  rw [hrun] at hcongr
  cases hb : w.run b with
  | error e => rw [hb] at hcongr; cases hcongr
  | ok y =>
      obtain ⟨r', b'⟩ := y
      rw [hb, stored_ok, stored_ok, Except.ok.injEq, Prod.mk.injEq] at hcongr
      exact ⟨b', hcongr.2, by rw [hcongr.1]⟩

theorem run_error_sameStore {w : Write ρ} {e : Exn} (h : a.store = b.store)
    (hrun : w.run a = .error e) : w.run b = .error e := by
  have hcongr := stored_congr h w
  rw [hrun] at hcongr
  cases hb : w.run b with
  | error e' => rw [hb] at hcongr; cases hcongr; rfl
  | ok y => rw [hb] at hcongr; cases hcongr

theorem replay_sameStore {ps : List Pending} (h : a.store = b.store)
    (hreplay : replay a ps = some v) : ∃ v', v.store = v'.store ∧ replay b ps = some v' := by
  induction ps generalizing a b with
  | nil =>
      cases hreplay
      exact ⟨b, h, rfl⟩
  | cons p ps ih =>
      obtain ⟨w, r⟩ := p
      obtain ⟨a₁, hrun, hrest⟩ := (replay_cons ..).mp hreplay
      obtain ⟨b₁, hstore, hrun'⟩ := run_sameStore h hrun
      obtain ⟨v', hv, hrest'⟩ := ih hstore hrest
      exact ⟨v', hv, (replay_cons ..).mpr ⟨b₁, hrun', hrest'⟩⟩

/-- The same records, and the same open transaction. -/
def Session.Same (s s₁ : Session) : Prop := s.db.store = s₁.db.store ∧ s.pending = s₁.pending

/-- No operation can tell the order of rows. -/
theorem answers_sameStore {β : Type} {o : Op β} {s s' s₁ : Session} {x : β} (h : s.Same s₁)
    (ho : Op.Answers β o s x s') : ∃ s₁', s'.Same s₁' ∧ Op.Answers β o s₁ x s₁' := by
  obtain ⟨d, ps⟩ := s
  obtain ⟨d₁, ps₁⟩ := s₁
  obtain ⟨hd, rfl⟩ : d.store = d₁.store ∧ ps = ps₁ := h
  cases o with
  | query q =>
      obtain ⟨v, v', hv, hsame, hx, rfl⟩ := ho
      obtain ⟨v₁, hstore, hv₁⟩ := replay_sameStore hd hv
      have hv' : v₁.SameRows v' := store_eq_iff.mp (hstore ▸ store_eq_iff.mpr hsame)
      exact ⟨⟨d₁, ps⟩, ⟨hd, rfl⟩, v₁, v', hv₁, hv', hx, rfl⟩
  | write w =>
      obtain ⟨v, hv, hor⟩ := ho
      obtain ⟨v₁, hstore, hv₁⟩ := replay_sameStore hd hv
      rcases hor with ⟨e, hrun, hx, rfl⟩ | ⟨r, v', hrun, hx, rfl⟩
      · exact ⟨⟨d₁, ps⟩, ⟨hd, rfl⟩, v₁, hv₁, .inl ⟨e, run_error_sameStore hstore hrun, hx, rfl⟩⟩
      · obtain ⟨v₁', -, hrun₁⟩ := run_sameStore hstore hrun
        exact ⟨⟨d₁, ps ++ [⟨w, r⟩]⟩, ⟨hd, rfl⟩, v₁, hv₁, .inr ⟨r, v₁', hrun₁, hx, rfl⟩⟩
  | commit =>
      obtain ⟨v, hv, hx, rfl⟩ := ho
      obtain ⟨v₁, hstore, hv₁⟩ := replay_sameStore hd hv
      exact ⟨⟨v₁, []⟩, ⟨hstore, rfl⟩, v₁, hv₁, hx, rfl⟩
  | auth md method | convert r =>
      obtain ⟨hx, rfl⟩ := ho
      exact ⟨⟨d₁, ps⟩, ⟨hd, rfl⟩, hx, rfl⟩
  | beginWork =>
      obtain ⟨hx, rfl⟩ := ho
      exact ⟨⟨d₁, []⟩, ⟨hd, rfl⟩, hx, rfl⟩
  | endWork =>
      obtain rfl : s' = _ := ho
      exact ⟨⟨d₁, []⟩, ⟨hd, rfl⟩, rfl⟩
  | undefined => exact ho.elim
  | _ =>
      obtain rfl : s' = _ := ho
      exact ⟨⟨d₁, ps⟩, ⟨hd, rfl⟩, rfl⟩

/-- Databases with the same records serve the same calls in the same way. -/
theorem Serves.sameStore {p : Prog Op α} {r : α} (h : Serves a p r a') (hab : a.store = b.store) :
    ∃ b', a'.store = b'.store ∧ Serves b p r b' := by
  obtain ⟨ps, hps⟩ := h
  have hsim : ∀ (β : Type) (o : Op β) (s : Session) (x : β) (s' s₁ : Session), s.Same s₁ →
      Op.Answers β o s x s' → ∃ s₁', s'.Same s₁' ∧ Op.Answers β o s₁ x s₁' :=
    fun _ _ _ _ _ _ => answers_sameStore
  have hstart : Session.Same ⟨a, []⟩ ⟨b, []⟩ := ⟨hab, rfl⟩
  obtain ⟨⟨b', ps'⟩, ⟨hstore, -⟩, hps'⟩ := hps.simulate hsim hstart
  exact ⟨b', hstore, ps', hps'⟩

end SameStore

/-! ## Steps from store to store -/

section Does
variable {db db' : Database} {call : Call} {x : Reply Response}

/-- A call about no record sends no statement that writes, so what it commits is nothing. -/
theorem serves_read (h : call.req.ofRecord = false) (hserves : Serves db (handle call) x db') :
    db' = db := by
  obtain ⟨ps, hps⟩ := hserves
  have hmeets := handle_orderly call [] (List.Subset.refl [])
  have hstep : ∀ (β : Type) (o : Op β) (a : Account) (s : Session) (b : β) (s' : Session),
      (discipline call.req).pre o a → s.db = db ∧ s.pending = [] → Op.Answers β o s b s' →
      s'.db = db ∧ s'.pending = [] := by
    intro β o a s b s' hpre hs ho
    obtain ⟨d, ps⟩ := s
    obtain ⟨rfl, rfl⟩ : d = db ∧ ps = [] := hs
    cases o with
    | write w =>
        have hno : ∀ (req : Request) (ids : List Uuid), Permitted req ids w →
            req.ofRecord = true := by
          intro req ids hw
          cases hw <;> rfl
        rw [hno _ _ hpre] at h
        cases h
    | query q =>
        obtain ⟨v, v', -, -, -, rfl⟩ := ho
        exact ⟨rfl, rfl⟩
    | commit =>
        obtain ⟨v, hv, -, rfl⟩ := ho
        cases hv
        exact ⟨rfl, rfl⟩
    | auth md method | convert r | beginWork =>
        obtain ⟨-, rfl⟩ := ho
        exact ⟨rfl, rfl⟩
    | undefined => exact ho.elim
    | _ =>
        obtain rfl : s' = _ := ho
        exact ⟨rfl, rfl⟩
  obtain ⟨-, -, hdb, -⟩ := hmeets.yields hstep hps ⟨rfl, rfl⟩
  exact hdb

/-- A call, served alone, on the level of the store: a request about a record comes to one of
the outcomes it may have, and any other reads the records, in some order. -/
def Store.Does (σ : Store) (call : Call) (x : Reply Response) (σ' : Store) : Prop :=
  if call.req.ofRecord then ∃ u, σ.perform u call.req = some (x, σ')
  else σ' = σ ∧ ∃ db, db.store = σ ∧ Serves db (handle call) x db

/-- What a call does to the rows is what it does to the store, and the other way round. -/
theorem serves_iff_does {σ' : Store} :
    (∃ db', db'.store = σ' ∧ Serves db (handle call) x db') ↔ db.store.Does call x σ' := by
  by_cases h : call.req.ofRecord = true
  · obtain ⟨z, hz, hperforms⟩ := performs_handle db call h
    rw [hperforms, Store.Does, if_pos h]
    simp only [hz, Option.some.injEq]
    exact exists_congr fun u => eq_comm
  · have h' : call.req.ofRecord = false := by simpa using h
    rw [Store.Does, if_neg h]
    constructor
    · intro ⟨db', hdb, hserves⟩
      obtain rfl := serves_read h' hserves
      exact ⟨hdb.symm, db', rfl, hserves⟩
    · intro ⟨hσ, d, hd, hserves⟩
      obtain ⟨db', hstore, hserves'⟩ := hserves.sameStore hd
      exact ⟨db', by rw [← hstore, hd, hσ], hserves'⟩

end Does

/-- A request about a record is no report. -/
theorem Request.statements_of_ofRecord {req : Request} (h : req.ofRecord = true) :
    req.statements = [] := by
  cases req <;> first | rfl | cases h

/-- **The server is a store.**  In every run there is an order of calls such that the
records go, from the first to the last, through one step of `Store.Does` for each of them;
no call takes two steps, and none takes its step before a call that had returned when it
arrived.  A request about a record has its step in the order if it has returned OK, or if
nothing failed for it, and its reply is the reply of the step, except that `CreateVehicle`
looks for its record afterwards. -/
theorem linearizable {db : Database} {n : ℕ} {issued : List Uuid} {past : Past} {s : Server}
    (h : Server.Run db n issued past s) :
    ∃ order : List (ℕ × Reply Response),
      InTurn (fun e σ σ' => ∃ x, s.tasks[e.1]? = some x ∧ σ.Does x.req e.2 σ') db.store order
        s.world.db.store ∧
      (order.map Prod.fst).Nodup ∧ (order.Pairwise fun e e' => ¬ Precedes past e'.1 e.1) ∧
      ∀ i x reply, s.tasks[i]? = some x → x.prog = .done reply → x.req.req.ofRecord = true →
        (reply.1.ok = true ∨ Unhurt past i → ∃ a, (i, a) ∈ order) ∧
        (x.req.req.nests = false → ∀ a, (i, a) ∈ order → a = reply) := by
  obtain ⟨order, hturn, hnodup, hpairwise, hall⟩ :=
    h.exists_order Database.store (fun call x σ σ' => σ.Does call x σ')
      fun _ _ d d' hserves => serves_iff_does.mp ⟨d', rfl, hserves⟩
  refine ⟨order, hturn, hnodup, hpairwise, fun i x reply hx hdone hrecord => ?_⟩
  have hlen : x.req.req.statements.length ≤ 1 := by
    simp [Request.statements_of_ofRecord hrecord]
  exact ⟨(hall i x reply hx hdone).1 hlen, (hall i x reply hx hdone).2⟩

/-- A weather is created, and then a source category. -/
def createInTurn : List ServerAction :=
  firstSteps 0 (.createWeather ⟨"sunny"⟩) (someUuid 0) 10 ++
    firstSteps 1 (.createSourceCategory ⟨"home"⟩) (someUuid 1) 10

/-- Both calls have their step, and not in the other order. -/
theorem linearizable_creates : ∃ past s, Server.Run .empty 2 [] past s ∧ Precedes past 0 1 ∧
    ∃ order : List (ℕ × Reply Response),
      InTurn (fun e σ σ' => ∃ x, s.tasks[e.1]? = some x ∧ σ.Does x.req e.2 σ')
        Database.empty.store order s.world.db.store ∧
      (order.map Prod.fst).Nodup ∧ (order.Pairwise fun e e' => ¬ Precedes past e'.1 e.1) ∧
      ∀ i < 2, ∃ x reply, s.tasks[i]? = some x ∧ x.prog = .done reply ∧ (i, reply) ∈ order := by
  have hrun : ∃ past s, Server.Run .empty 2 [] past s ∧ (s.tasks.length = 2 ∧
      ∀ x ∈ s.tasks, x.req.req.ofRecord = true ∧ x.req.req.nests = false ∧
        ((returned? x.prog).any fun r => r.1.ok) = true) ∧
      returnedBefore past 0 1 = true :=
    exists_run createInTurn (by decide +kernel)
  obtain ⟨past, s, h, ⟨hlen, htasks⟩, hbefore⟩ := hrun
  obtain ⟨order, hturn, hnodup, hpairwise, hall⟩ := linearizable h
  refine ⟨past, s, h, precedes_of_returnedBefore hbefore, order, hturn, hnodup, hpairwise,
    fun i hi => ?_⟩
  have hx : s.tasks[i]? = some s.tasks[i] := List.getElem?_eq_getElem (hlen ▸ hi)
  obtain ⟨hrecord, hnests, hreply⟩ := htasks _ (List.mem_of_getElem? hx)
  obtain ⟨reply, hret, hok⟩ := (Option.any_eq_true _ _).mp hreply
  have hdone := returned?_eq_some hret
  obtain ⟨hthere, hsame⟩ := hall i _ reply hx hdone hrecord
  obtain ⟨a, ha⟩ := hthere (.inl hok)
  exact ⟨_, reply, hx, hdone, hsame hnests a ha ▸ ha⟩

end EvGrpc
