import EvGrpc.Server

/-!
# What the reports answer

One equation for each report: the replies it may give on the rows of a database, when
nothing fails and nobody else writes.  A reply depends on the database only through
the report's statements, which may meet the rows in any order.
-/

namespace EvGrpc

open Lib

section Shapes
variable {db db' : Database} {md : Metadata} {kMethod : String} {α ρ : Type} {r : Reply ρ}

theorem serves_respond {f : ρ → Response} {p : Prog Op (Reply ρ)} {x : Reply Response} :
    Serves db (respond f p) x db' ↔ ∃ r, Serves db p r db' ∧ x = Reply.wrap f r := by
  unfold Serves respond
  constructor
  · rintro ⟨ps, h⟩
    obtain ⟨r, t, hp, rfl, rfl⟩ := (Prog.yields_bind ..).mp h
    exact ⟨r, ⟨ps, hp⟩, rfl⟩
  · rintro ⟨r, ⟨ps, hp⟩, rfl⟩
    exact ⟨ps, (Prog.yields_bind ..).mpr ⟨r, _, hp, rfl, rfl⟩⟩

/-- A call whose arguments are checked first. -/
theorem serves_validated {st : Status} {body : Prog Op (Reply ρ)} :
    Serves db (authenticated md kMethod (validated st body)) r db' ↔
      if st.ok = true then Serves db (authenticated md kMethod body) r db'
      else r = (st, none) ∧ db' = db := by
  unfold Serves
  simp only [yields_authenticated, yields_validated]
  by_cases h : st.ok = true
  · simp only [h, if_true]
  · simp only [h, Bool.false_eq_true, if_false]
    constructor
    · rintro ⟨ps, rfl, hs⟩
      cases hs
      exact ⟨rfl, rfl⟩
    · rintro ⟨rfl, rfl⟩
      exact ⟨[], rfl, rfl⟩

/-- The reply of a report behind the gate. -/
def gated : Except Exn Bool → Except Exn ρ → Reply ρ
  | .error e, _ => (toGrpcStatus e, none)
  | .ok false, _ => (noAggregateRow, none)
  | .ok true, x => answer x

/-- A report behind the gate. -/
theorem serves_gated {e : Database → Except Exn Bool} {q : Database → Except Exn α}
    {f : α → ρ} :
    Serves db (authenticated md kMethod (catching (gatedReport e q f))) r db' ↔
      db' = db ∧ ∃ v v', db.SameRows v ∧ db.SameRows v' ∧ r = gated (e v) (f <$> q v') := by
  unfold Serves gatedReport ifExists
  simp only [yields_authenticated, yields_catching, yields_withConn, yields_run_bind (m := exec e),
    yields_exec]
  constructor
  · rintro ⟨ps, x, ⟨y, ⟨v, hv, hy, hs⟩, rfl⟩ | ⟨b, t, ⟨v, hv, hb, rfl⟩, hrest⟩, rfl⟩
    · cases hs
      exact ⟨rfl, v, v, hv, hv, by rw [← hy]; rfl⟩
    · cases b with
      | false =>
          obtain ⟨rfl, hs⟩ := yields_fail.mp hrest
          cases hs
          exact ⟨rfl, v, v, hv, hv, by rw [← hb]; rfl⟩
      | true =>
          obtain ⟨hs, v', hv', rfl⟩ := (yields_question (f := fun a => .ok (f a))).mp hrest
          cases hs
          refine ⟨rfl, v, v', hv, hv', ?_⟩
          rw [← hb, settle_answer]
          rfl
  · rintro ⟨rfl, v, v', hv, hv', rfl⟩
    cases he : e v with
    | error y => exact ⟨[], .error y, .inl ⟨y, ⟨v, hv, he.symm, rfl⟩, rfl⟩, rfl⟩
    | ok b =>
        cases b with
        | false => exact ⟨[], _, .inr ⟨false, _, ⟨v, hv, he.symm, rfl⟩, yields_fail.mpr ⟨rfl, rfl⟩⟩, rfl⟩
        | true =>
            refine ⟨[], _, .inr ⟨true, _, ⟨v, hv, he.symm, rfl⟩,
              (yields_question (f := fun a => .ok (f a))).mpr ⟨rfl, v', hv', rfl⟩⟩, ?_⟩
            rw [settle_answer]
            rfl

/-- `GetConsumptionEfficiency` asks two questions. -/
theorem serves_getConsumptionEfficiency {req : WindowRequest}
    {r : Reply (List ConsumptionEfficiency)} :
    Serves db (getConsumptionEfficiency md req) r db' ↔
      db' = db ∧ ∃ v v', db.SameRows v ∧ db.SameRows v' ∧
        r = answer (efficiencyKm req v >>= fun kmRows =>
          (fun kwhRows => kmRows.map (consumptionEfficiencyOf kwhRows)) <$> efficiencyKwh req v') := by
  unfold Serves getConsumptionEfficiency
  simp only [yields_authenticated, yields_catching, yields_withConn,
    yields_run_bind (m := exec (efficiencyKm req)), yields_exec]
  constructor
  · rintro ⟨ps, x, ⟨y, ⟨v, hv, hy, hs⟩, rfl⟩ | ⟨kmRows, t, ⟨v, hv, hkm, rfl⟩, hrest⟩, rfl⟩
    · cases hs
      refine ⟨rfl, v, v, hv, hv, ?_⟩
      rw [← hy]
      rfl
    · obtain ⟨hs, v', hv', rfl⟩ := (yields_question (q := efficiencyKwh req)
        (f := fun kwhRows => .ok (kmRows.map (consumptionEfficiencyOf kwhRows)))).mp hrest
      cases hs
      refine ⟨rfl, v, v', hv, hv', ?_⟩
      rw [← hkm, settle_answer]
      rfl
  · rintro ⟨rfl, v, v', hv, hv', rfl⟩
    cases hkm : efficiencyKm req v with
    | error y => exact ⟨[], .error y, .inl ⟨y, ⟨v, hv, hkm.symm, rfl⟩, rfl⟩, rfl⟩
    | ok kmRows =>
        refine ⟨[], _, .inr ⟨kmRows, _, ⟨v, hv, hkm.symm, rfl⟩,
          (yields_question (q := efficiencyKwh req)
            (f := fun kwhRows => .ok (kmRows.map (consumptionEfficiencyOf kwhRows)))).mpr
              ⟨rfl, v', hv', rfl⟩⟩, ?_⟩
        rw [settle_answer]
        rfl

/-! ## Every reply -/

/-- On these rows the handler answers; every reply it can give satisfies `Q`, and the
rows stay as they are. -/
def Replies (db : Database) (p : Prog Op (Reply ρ)) (Q : Reply ρ → Prop) : Prop :=
  (∃ r, Serves db p r db) ∧ ∀ r db', Serves db p r db' → db' = db ∧ Q r

theorem Replies.mono {p : Prog Op (Reply ρ)} {Q Q' : Reply ρ → Prop} (h : Replies db p Q)
    (hQ : ∀ r, Q r → Q' r) : Replies db p Q' :=
  ⟨h.1, fun r db' hserves => (h.2 r db' hserves).imp_right (hQ r)⟩

theorem replies_readAll {q : Database → Except Exn α} {f : α → Except Exn ρ}
    {Q : Reply ρ → Prop} (h : ∀ v, db.SameRows v → Q (answer (q v >>= f))) :
    Replies db (authenticated md kMethod (catching (readAll q f))) Q := by
  refine ⟨⟨_, serves_readAll.mpr ⟨rfl, db, .refl db, rfl⟩⟩, ?_⟩
  intro r db' hserves
  obtain ⟨rfl, v, hv, rfl⟩ := serves_readAll.mp hserves
  exact ⟨rfl, h v hv⟩

theorem replies_gated {e : Database → Except Exn Bool} {q : Database → Except Exn α} {f : α → ρ}
    {Q : Reply ρ → Prop}
    (h : ∀ v v', db.SameRows v → db.SameRows v' → Q (gated (e v) (f <$> q v'))) :
    Replies db (authenticated md kMethod (catching (gatedReport e q f))) Q := by
  refine ⟨⟨_, serves_gated.mpr ⟨rfl, db, db, .refl db, .refl db, rfl⟩⟩, ?_⟩
  intro r db' hserves
  obtain ⟨rfl, v, v', hv, hv', rfl⟩ := serves_gated.mp hserves
  exact ⟨rfl, h v v' hv hv'⟩

/-- The checks pass. -/
theorem Replies.validated {st : Status} {body : Prog Op (Reply ρ)} {Q : Reply ρ → Prop}
    (h : Replies db (authenticated md kMethod body) Q) (hst : st.ok = true) :
    Replies db (authenticated md kMethod (validated st body)) Q := by
  unfold Replies
  simp only [serves_validated, if_pos hst]
  exact h

theorem Replies.respond {f : ρ → Response} {p : Prog Op (Reply ρ)} {Q : Reply ρ → Prop}
    {Q' : Reply Response → Prop} (h : Replies db p Q) (hQ : ∀ r, Q r → Q' (Reply.wrap f r)) :
    Replies db (respond f p) Q' := by
  obtain ⟨⟨r, hr⟩, hall⟩ := h
  refine ⟨⟨_, serves_respond.mpr ⟨r, hr, rfl⟩⟩, ?_⟩
  intro x db' hx
  obtain ⟨y, hy, rfl⟩ := serves_respond.mp hx
  exact ⟨(hall y db' hy).1, hQ y (hall y db' hy).2⟩

/-- The efficiency report, from what its two statements give. -/
theorem replies_getConsumptionEfficiency {req : WindowRequest}
    {Q : Reply (List ConsumptionEfficiency) → Prop}
    (h : ∀ v v', db.SameRows v → db.SameRows v' → Q (answer (efficiencyKm req v >>= fun kmRows =>
      (fun kwhRows => kmRows.map (consumptionEfficiencyOf kwhRows)) <$> efficiencyKwh req v'))) :
    Replies db (getConsumptionEfficiency md req) Q := by
  refine ⟨⟨_, serves_getConsumptionEfficiency.mpr ⟨rfl, db, db, .refl db, .refl db, rfl⟩⟩, ?_⟩
  intro r db' hserves
  obtain ⟨rfl, v, v', hv, hv', rfl⟩ := serves_getConsumptionEfficiency.mp hserves
  exact ⟨rfl, h v v' hv hv'⟩

end Shapes

/-! ## The rows of a window -/

section Windows
variable {db v : Database} {lo hi : Option Instant}

/-! A statement meets the rows of a window in some order. -/

theorem chargingsIn_perm (vehicleId : String) (h : db.SameRows v) :
    (chargingsIn vehicleId lo hi v).Perm (chargingsIn vehicleId lo hi db) :=
  h.2.2.2.2.symm.filter _

theorem consumptionsIn_perm (vehicleId : String) (h : db.SameRows v) :
    (consumptionsIn vehicleId lo hi v).Perm (consumptionsIn vehicleId lo hi db) :=
  h.2.2.2.1.symm.filter _

/-- What holds of every consumption holds of those a statement meets. -/
theorem forall_consumptionsIn {P : ConsumptionRow → Prop} (hv : db.SameRows v)
    (h : ∀ k ∈ db.consumption, P k) (vehicleId : String) :
    ∀ k ∈ consumptionsIn vehicleId lo hi v, P k := by
  intro k hk
  exact h k (hv.2.2.2.1.mem_iff.mpr (List.mem_filter.mp hk).1)

end Windows

end EvGrpc
