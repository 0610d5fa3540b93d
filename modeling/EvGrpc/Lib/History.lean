import EvGrpc.Lib.System
import Mathlib.Data.List.Range

/-!
# Runs with their past, and serial orders

`Run act s₀ past s` is a run from `s₀` to `s` that remembers everything: `past` has its
actions in their order, each with the state it was taken in.

A run of tasks is strictly serializable when each task takes effect at one moment of its
own.  `Points` says so: at its point a task does to the shared value what its request
allows with some reply, and at all other moments the value stays as it is.  The tasks
that have a point, served one after the other in the order of their points, then lead
from the first value to the last (`inTurn_serialOrder`), and none of them is served before a
task that had returned when it came in (`pairwise_serialOrder`).

## Main definitions

* `Run`, `Took` — runs, and their actions one by one.
* `InTurn` — requests served one after the other.
* `Points`, `serialOrder` — where the tasks take effect, and the serial order.
* `Precedes` — a task had returned before another one came in.
-/

namespace EvGrpc.Lib

universe u v w x y

/-! ## Runs -/

section Run
variable {S : Type u} {A : Type v} {act : S → A → Option S} {s₀ s : S} {past : List (S × A)}

/-- A run, with the actions taken and the states they were taken in. -/
inductive Run (act : S → A → Option S) (s₀ : S) : List (S × A) → S → Prop
  | init : Run act s₀ [] s₀
  | step {past : List (S × A)} {s s' : S} {a : A} (h : Run act s₀ past s)
      (e : act s a = some s') : Run act s₀ (past ++ [(s, a)]) s'

/-- A run of admitted actions reaches the state it ends in. -/
theorem Run.reach {Ok : S → A → Prop} (h : Run act s₀ past s) (hOk : ∀ y ∈ past, Ok y.1 y.2) :
    Reach act Ok s₀ s := by
  induction h with
  | init => exact .init
  | @step past s s' a _ e ih =>
      have hlast : Ok s a := hOk (s, a) (by simp)
      exact .step (ih fun y hy => hOk y (List.mem_append_left _ hy)) hlast e

/-- The `k`-th action of the run was `a`, and led from `t` to `t'`. -/
def Took (act : S → A → Option S) (past : List (S × A)) (k : ℕ) (t : S) (a : A) (t' : S) : Prop :=
  past[k]? = some (t, a) ∧ act t a = some t'

theorem Took.lt {k : ℕ} {t t' : S} {a : A} (h : Took act past k t a t') : k < past.length :=
  (List.getElem?_eq_some_iff.mp h.1).1

/-- What happened stays. -/
theorem Took.mono {k : ℕ} {t t' : S} {a : A} (more : List (S × A)) (h : Took act past k t a t') :
    Took act (past ++ more) k t a t' :=
  ⟨by rw [List.getElem?_append_left h.lt]; exact h.1, h.2⟩

/-- The last action. -/
theorem took_concat {t t' : S} {a : A} (e : act t a = some t') :
    Took act (past ++ [(t, a)]) past.length t a t' :=
  ⟨List.getElem?_concat_length, e⟩

/-- An action of a longer run is one of the old ones or the last one. -/
theorem Took.of_concat {k : ℕ} {t t' : S} {a : A} {y : S × A}
    (h : Took act (past ++ [y]) k t a t') :
    Took act past k t a t' ∨ (k = past.length ∧ y = (t, a) ∧ act t a = some t') := by
  obtain ⟨hk, e⟩ := h
  by_cases hlt : k < past.length
  · rw [List.getElem?_append_left hlt] at hk
    exact .inl ⟨hk, e⟩
  · have hlen := (List.getElem?_eq_some_iff.mp hk).1
    simp only [List.length_append, List.length_singleton] at hlen
    have hk' : k = past.length := by omega
    rw [hk', List.getElem?_concat_length] at hk
    exact .inr ⟨hk', Option.some.inj hk, e⟩

/-- The state in which the `k`-th action was taken; the last state comes after all of them. -/
def stateAt (past : List (S × A)) (s : S) (k : ℕ) : S := (past[k]?.map Prod.fst).getD s

theorem stateAt_length (past : List (S × A)) (s : S) : stateAt past s past.length = s := by
  simp [stateAt]

/-- One more action leaves the states before it where they were. -/
theorem stateAt_concat {past : List (S × A)} {s s' : S} {a : A} {k : ℕ} (hk : k ≤ past.length) :
    stateAt (past ++ [(s, a)]) s' k = stateAt past s k := by
  by_cases hlt : k < past.length
  · simp only [stateAt, List.getElem?_append_left hlt]
    simp [List.getElem?_eq_getElem hlt]
  · have hk' : k = past.length := by omega
    simp [stateAt, hk']

/-- Every action led to the next state. -/
theorem Run.took (h : Run act s₀ past s) {k : ℕ} {t : S} {a : A} (hk : past[k]? = some (t, a)) :
    Took act past k t a (stateAt past s (k + 1)) := by
  induction h with
  | init => simp at hk
  | @step past s s' a' h e ih =>
      have hlen := (List.getElem?_eq_some_iff.mp hk).1
      simp only [List.length_append, List.length_singleton] at hlen
      by_cases hlt : k < past.length
      · rw [List.getElem?_append_left hlt] at hk
        rw [stateAt_concat (show k + 1 ≤ past.length by omega)]
        exact (ih hk).mono _
      · have hk' : k = past.length := by omega
        subst hk'
        rw [List.getElem?_concat_length] at hk
        cases hk
        have hend : stateAt (past ++ [(t, a)]) s' (past.length + 1) = s' := by simp [stateAt]
        rw [hend]
        exact took_concat e

theorem Run.stateAt_zero (h : Run act s₀ past s) : stateAt past s 0 = s₀ := by
  induction h with
  | init => rfl
  | step h e ih => rw [stateAt_concat (Nat.zero_le _), ih]

/-- The states of a run are reached from one another. -/
theorem Run.reach_stateAt (h : Run act s₀ past s) {j k : ℕ} (hjk : j ≤ k)
    (hk : k ≤ past.length) :
    Reach act (fun _ _ => True) (stateAt past s j) (stateAt past s k) := by
  induction k, hjk using Nat.le_induction with
  | base => exact .init
  | succ k _ ih =>
      obtain ⟨t, ht⟩ : ∃ t, past[k]? = some t := ⟨_, List.getElem?_eq_getElem hk⟩
      have hstep := (h.took ht).2
      have hat : stateAt past s k = t.1 := by simp [stateAt, ht]
      rw [← hat] at hstep
      exact .step (ih (by omega)) trivial hstep

/-- Take a list of actions in order, remembering them. -/
def runPast (act : S → A → Option S) : List (S × A) → S → List A → Option (List (S × A) × S)
  | past, s, [] => some (past, s)
  | past, s, a :: as =>
      match act s a with
      | some s' => runPast act (past ++ [(s, a)]) s' as
      | none => none

theorem run_runPast (as : List A) {past' : List (S × A)} {s' : S} (h : Run act s₀ past s)
    (e : runPast act past s as = some (past', s')) : Run act s₀ past' s' := by
  induction as generalizing past s with
  | nil =>
      cases e
      exact h
  | cons a as ih =>
      simp only [runPast] at e
      split at e
      · rename_i t ht
        exact ih (.step h ht) e
      · cases e

/-- A run that can be computed shows that there is a run with a given property. -/
theorem exists_run {P : List (S × A) → S → Prop} [∀ past s, Decidable (P past s)] (as : List A)
    (h : (runPast act [] s₀ as).any (fun x => decide (P x.1 x.2)) = true) :
    ∃ past s, Run act s₀ past s ∧ P past s := by
  cases e : runPast act [] s₀ as with
  | none => simp [e] at h
  | some x => exact ⟨x.1, x.2, run_runPast as .init e, by simpa [e] using h⟩

end Run

/-! ## Runs of tasks -/

section Tasks
variable {F : Type → Type u} {R : Type v} {W : Type w} {T : Type x} {C : Type y} {α : Type}
variable {M : Machine F W T C} {handle : R → Prog F α} {fresh : T}
variable {s₀ s s' : State F R W T α} {past : List (State F R W T α × Action R C)}

/-- A task keeps its place and its request, and a task that has returned stays as it is. -/
theorem Reach.getElem?_tasks {Ok : State F R W T α → Action R C → Prop}
    (h : Reach (State.act M handle fresh) Ok s s') {i : ℕ} {x : Task F R T α}
    (hx : s.tasks[i]? = some x) :
    ∃ x', s'.tasks[i]? = some x' ∧ x'.req = x.req ∧ ∀ a, x.prog = .done a → x' = x := by
  refine h.rec_invariant (I := fun s' => ∃ x', s'.tasks[i]? = some x' ∧ x'.req = x.req ∧
    ∀ a, x.prog = .done a → x' = x) ⟨x, hx, rfl, fun _ _ => rfl⟩ ?_
  rintro t a t' ⟨x', hx', hreq, hdone⟩ - e
  rcases State.act_cases e with ⟨r, -, rfl⟩ | ⟨j, c, r, l, β, o, k, b, w, l', -, hj, hs, rfl⟩
  · refine ⟨x', ?_, hreq, hdone⟩
    rw [List.getElem?_append_left (List.getElem?_eq_some_iff.mp hx').1]
    exact hx'
  · by_cases hij : j = i
    · subst hij
      rw [hj] at hx'
      cases hx'
      refine ⟨⟨r, l', k b⟩, List.getElem?_set_self (List.getElem?_eq_some_iff.mp hj).1, hreq, ?_⟩
      intro a ha
      have := hdone a ha
      rw [← this] at ha
      cases ha
    · exact ⟨x', by rw [List.getElem?_set_ne hij]; exact hx', hreq, hdone⟩

/-- A task that takes a step is there and has not returned. -/
theorem Took.task {k i : ℕ} {t t' : State F R W T α} {c : C}
    (h : Took (State.act M handle fresh) past k t (.step i c) t') :
    ∃ x, t.tasks[i]? = some x ∧ ∀ a, x.prog ≠ .done a := by
  rcases State.act_cases h.2 with ⟨r, hr, -⟩ | ⟨j, c', r, l, β, o, f, b, w, l', hj, hi, -, -⟩
  · cases hr
  · cases hj
    exact ⟨_, hi, by simp⟩

/-- The tasks that take steps have come in. -/
theorem Run.step_lt (h : Run (State.act M handle fresh) s₀ past s) {k i : ℕ}
    {t t' : State F R W T α} {c : C}
    (ht : Took (State.act M handle fresh) past k t (.step i c) t') : i < s.tasks.length := by
  obtain ⟨x, hx, -⟩ := ht.task
  have hat : stateAt past s k = t := by simp [stateAt, ht.1]
  have hreach := h.reach_stateAt (le_of_lt ht.lt) (le_refl past.length)
  rw [hat, stateAt_length] at hreach
  obtain ⟨x', hx', -⟩ := hreach.getElem?_tasks hx
  exact (List.getElem?_eq_some_iff.mp hx').1

/-- What holds of a task and the past of its run when it comes in, and survives its own steps
and the actions that are not, holds of every task. -/
theorem Run.tasks_invariant {J : List (State F R W T α × Action R C) → ℕ → Task F R T α → Prop}
    (h : Run (State.act M handle fresh) s₀ past s) (h₀ : s₀.tasks = [])
    (hspawn : ∀ past s r, Run (State.act M handle fresh) s₀ past s →
      J past s.tasks.length ⟨r, fresh, handle r⟩)
    (hown : ∀ (past : List (State F R W T α × Action R C)) (s s' : State F R W T α) (i : ℕ) (c : C)
      (r : R) (t : T) (β : Type) (o : F β) (k : β → Prog F α) (b : β) (w' : W) (t' : T),
      Run (State.act M handle fresh) s₀ past s → s.tasks[i]? = some ⟨r, t, .op o k⟩ →
      J past i ⟨r, t, .op o k⟩ → M.step o c s.world t = some (b, w', t') → s'.world = w' →
      State.act M handle fresh s (.step i c) = some s' →
      J (past ++ [(s, .step i c)]) i ⟨r, t', k b⟩)
    (hother : ∀ past i x y, (∀ c, y.2 ≠ Action.step i c) → J past i x → J (past ++ [y]) i x) :
    ∀ (i : ℕ) (x : Task F R T α), s.tasks[i]? = some x → J past i x := by
  induction h with
  | init => simp [h₀]
  | @step past s s' a h e ih =>
      intro j x hx
      rcases State.act_cases e with
        ⟨r, rfl, rfl⟩ | ⟨i, c, r, t, β, o, k, b, w', t', rfl, hi, hs, rfl⟩
      · refine hother past j x _ (by simp) ?_
        by_cases hj : j < s.tasks.length
        · rw [List.getElem?_append_left hj] at hx
          exact ih j x hx
        · have hlen := (List.getElem?_eq_some_iff.mp hx).1
          simp only [List.length_append, List.length_singleton] at hlen
          have hj' : j = s.tasks.length := by omega
          subst hj'
          rw [List.getElem?_concat_length] at hx
          cases hx
          exact hspawn past s r h
      · by_cases hij : i = j
        · subst hij
          rw [List.getElem?_set_self (List.getElem?_eq_some_iff.mp hi).1] at hx
          cases hx
          exact hown past s _ i c r t β o k b w' t' h hi (ih i _ hi) hs rfl e
        · rw [List.getElem?_set_ne hij] at hx
          refine hother past j x _ ?_ (ih j x hx)
          intro c' hc
          cases hc
          exact hij rfl

end Tasks

/-! ## Serial orders -/

/-- The requests are served one after the other, and lead from the first value to the last. -/
inductive InTurn {ι : Type u} {D : Type v} (serve : ι → D → D → Prop) : D → List ι → D → Prop
  | nil (d : D) : InTurn serve d [] d
  | cons {d d₁ d' : D} {e : ι} {es : List ι} (h : serve e d d₁) (hes : InTurn serve d₁ es d') :
      InTurn serve d (e :: es) d'

section InTurn
variable {ι : Type u} {D : Type v} {serve : ι → D → D → Prop} {d d₁ d' : D} {e : ι} {es : List ι}

theorem InTurn.concat (h : InTurn serve d es d₁) (he : serve e d₁ d') :
    InTurn serve d (es ++ [e]) d' := by
  induction h with
  | nil d => exact .cons he (.nil d')
  | cons h _ ih => exact .cons h (ih he)

/-- What is served can be divided. -/
theorem inTurn_append {es' : List ι} :
    InTurn serve d (es ++ es') d' ↔ ∃ d₁, InTurn serve d es d₁ ∧ InTurn serve d₁ es' d' := by
  constructor
  · intro h
    induction es generalizing d with
    | nil => exact ⟨d, .nil d, h⟩
    | cons e es ih =>
        cases h with
        | cons he hes =>
            obtain ⟨d₁, hleft, hright⟩ := ih hes
            exact ⟨d₁, .cons he hleft, hright⟩
  · intro ⟨d₁, hleft, hright⟩
    induction hleft with
    | nil => exact hright
    | cons he _ ih => exact .cons he (ih hright)

theorem inTurn_cons : InTurn serve d (e :: es) d' ↔ ∃ d₁, serve e d d₁ ∧ InTurn serve d₁ es d' := by
  constructor
  · intro h
    cases h with
    | cons he hes => exact ⟨_, he, hes⟩
  · intro ⟨d₁, he, hes⟩
    exact .cons he hes

/-- What each of the requests keeps holds at the end. -/
theorem InTurn.invariant {I : D → Prop} (h : InTurn serve d es d')
    (hI : ∀ e ∈ es, ∀ d d', serve e d d' → I d → I d') (hd : I d) : I d' := by
  induction h with
  | nil => exact hd
  | cons he _ ih =>
      exact ih (fun e hmem => hI e (List.mem_cons_of_mem _ hmem)) (hI _ List.mem_cons_self _ _ he hd)

/-- Values along a line, with a request wherever the value may change. -/
theorem inTurn_filterMap (serve : ι → D → D → Prop) (value : ℕ → D) (pick : ℕ → Option ι) (n : ℕ)
    (hserved : ∀ k e, pick k = some e → serve e (value k) (value (k + 1)))
    (hstill : ∀ k < n, pick k = none → value (k + 1) = value k) :
    InTurn serve (value 0) ((List.range n).filterMap pick) (value n) := by
  induction n with
  | zero => exact .nil _
  | succ n ih =>
      have hn := ih fun k hk => hstill k (Nat.lt_succ_of_lt hk)
      rw [List.range_succ, List.filterMap_append]
      cases hpick : pick n with
      | none =>
          rw [hstill n (Nat.lt_succ_self n) hpick]
          simpa [hpick] using hn
      | some e => simpa [hpick] using hn.concat (hserved n e hpick)

end InTurn

section Order
variable {F : Type → Type u} {R : Type v} {W : Type w} {T : Type x} {C : Type y} {α D : Type}
variable {M : Machine F W T C} {handle : R → Prog F α} {fresh : T}
variable {s₀ s : State F R W T α} {past : List (State F R W T α × Action R C)}
variable {view : W → D} {serve : R → α → D → D → Prop} {point : ℕ → Option (ℕ × α)}

/-- At its point, a step of its own, a task does to the shared value what its request allows
with some reply; all other steps leave the value as it is. -/
structure Points (M : Machine F W T C) (handle : R → Prog F α) (fresh : T) (view : W → D)
    (serve : R → α → D → D → Prop) (past : List (State F R W T α × Action R C))
    (s : State F R W T α) (point : ℕ → Option (ℕ × α)) : Prop where
  served : ∀ i k a, point i = some (k, a) → ∃ x c t t', s.tasks[i]? = some x ∧
    Took (State.act M handle fresh) past k t (.step i c) t' ∧
    serve x.req a (view t.world) (view t'.world)
  still : ∀ k t i c t', Took (State.act M handle fresh) past k t (.step i c) t' →
    (∀ a, point i ≠ some (k, a)) → view t'.world = view t.world

/-- The task whose point is the `k`-th action, and its reply. -/
def pointAt (past : List (State F R W T α × Action R C)) (point : ℕ → Option (ℕ × α)) (k : ℕ) :
    Option (ℕ × α) :=
  match past[k]? with
  | some (_, .step i _) =>
      match point i with
      | some (k', a) => if k' = k then some (i, a) else none
      | none => none
  | _ => none

theorem pointAt_eq_some {k i : ℕ} {a : α} :
    pointAt past point k = some (i, a) ↔
      point i = some (k, a) ∧ ∃ t c, past[k]? = some (t, .step i c) := by
  unfold pointAt
  split
  · rename_i t j c hk
    simp only [hk, Option.some.injEq, Prod.mk.injEq, Action.step.injEq]
    split
    · rename_i k' b hj
      by_cases hk' : k' = k
      · subst hk'
        simp only [if_true, Option.some.injEq, Prod.mk.injEq]
        constructor
        · rintro ⟨rfl, rfl⟩
          exact ⟨hj, t, c, rfl, rfl, rfl⟩
        · rintro ⟨hi, _, _, -, rfl, -⟩
          rw [hj] at hi
          cases hi
          exact ⟨rfl, rfl⟩
      · simp only [if_neg hk', reduceCtorEq, false_iff]
        rintro ⟨hi, _, _, -, rfl, -⟩
        rw [hj] at hi
        cases hi
        exact hk' rfl
    · rename_i hj
      simp only [reduceCtorEq, false_iff]
      rintro ⟨hi, _, _, -, rfl, -⟩
      rw [hj] at hi
      cases hi
  · rename_i hno
    simp only [reduceCtorEq, false_iff]
    rintro ⟨-, t, c, hk⟩
    exact hno t i c hk

/-- The tasks that have a point, in the order of their points, with their replies. -/
def serialOrder (past : List (State F R W T α × Action R C)) (point : ℕ → Option (ℕ × α)) :
    List (ℕ × α) :=
  (List.range past.length).filterMap (pointAt past point)

/-- A task is in the order if it has a point. -/
theorem mem_serialOrder (h : Points M handle fresh view serve past s point) {i : ℕ} {a : α} :
    (i, a) ∈ serialOrder past point ↔ ∃ k, point i = some (k, a) := by
  simp only [serialOrder, List.mem_filterMap, List.mem_range, pointAt_eq_some]
  constructor
  · rintro ⟨k, -, hk, -⟩
    exact ⟨k, hk⟩
  · rintro ⟨k, hk⟩
    obtain ⟨x, c, t, t', -, htook, -⟩ := h.served i k a hk
    exact ⟨k, htook.lt, hk, t, c, htook.1⟩

/-- Served one after the other, the tasks lead from the first value to the last. -/
theorem inTurn_serialOrder (hrun : Run (State.act M handle fresh) s₀ past s)
    (h : Points M handle fresh view serve past s point) :
    InTurn (fun e d d' => ∃ x, s.tasks[e.1]? = some x ∧ serve x.req e.2 d d') (view s₀.world)
      (serialOrder past point) (view s.world) := by
  have hserved : ∀ k e, pointAt past point k = some e → ∃ x, s.tasks[e.1]? = some x ∧
      serve x.req e.2 (view (stateAt past s k).world) (view (stateAt past s (k + 1)).world) := by
    intro k e hpick
    obtain ⟨hpoint, t, c, hk⟩ := pointAt_eq_some.mp hpick
    obtain ⟨x, c', u, u', hx, htook, hserve⟩ := h.served e.1 k e.2 hpoint
    have hnext := hrun.took htook.1
    have hat : stateAt past s k = u := by simp [stateAt, htook.1]
    have hu : u' = stateAt past s (k + 1) := Option.some.inj (htook.2.symm.trans hnext.2)
    rw [hu] at hserve
    rw [← hat] at hserve
    exact ⟨x, hx, hserve⟩
  have hstill : ∀ k < past.length, pointAt past point k = none →
      view (stateAt past s (k + 1)).world = view (stateAt past s k).world := by
    intro k hlt hpick
    obtain ⟨⟨t, a⟩, hk⟩ : ∃ y, past[k]? = some y := ⟨_, List.getElem?_eq_getElem hlt⟩
    have hnext := hrun.took hk
    have hat : stateAt past s k = t := by simp [stateAt, hk]
    rw [hat]
    cases a with
    | spawn r =>
        have hact := hnext.2
        simp only [State.act, Option.some.injEq] at hact
        rw [← hact]
    | step i c =>
        refine h.still k t i c _ hnext fun a ha => ?_
        have := pointAt_eq_some.mpr ⟨ha, t, c, hk⟩
        rw [hpick] at this
        cases this
  have hall := inTurn_filterMap
    (fun e d d' => ∃ x, s.tasks[e.1]? = some x ∧ serve x.req e.2 d d')
    (fun k => view (stateAt past s k).world) (pointAt past point) past.length hserved hstill
  rwa [hrun.stateAt_zero, stateAt_length] at hall

/-- No task is served twice. -/
theorem nodup_serialOrder : ((serialOrder past point).map Prod.fst).Nodup := by
  rw [serialOrder, List.map_filterMap]
  refine List.Pairwise.filterMap _ ?_ (List.pairwise_lt_range (n := past.length))
  intro k k' hlt i hi i' hi' heq
  simp only [Option.map_eq_some_iff] at hi hi'
  obtain ⟨⟨j, a⟩, hj, rfl⟩ := hi
  obtain ⟨⟨j', a'⟩, hj', rfl⟩ := hi'
  obtain rfl : j = j' := heq
  have h := (pointAt_eq_some.mp hj).1
  rw [(pointAt_eq_some.mp hj').1] at h
  cases h
  exact lt_irrefl _ hlt

/-- In some state of the run task `i` has returned, and task `j` has not come in. -/
def Precedes (past : List (State F R W T α × Action R C)) (i j : ℕ) : Prop :=
  ∃ t a x b, (t, a) ∈ past ∧ t.tasks[i]? = some x ∧ x.prog = .done b ∧ t.tasks.length ≤ j

/-- A task is served after all those that had returned when it came in. -/
theorem pairwise_serialOrder (hrun : Run (State.act M handle fresh) s₀ past s)
    (h : Points M handle fresh view serve past s point) :
    (serialOrder past point).Pairwise fun e e' => ¬ Precedes past e'.1 e.1 := by
  refine List.Pairwise.filterMap _ ?_ (List.pairwise_lt_range (n := past.length))
  intro k k' hlt e he e' he'
  obtain ⟨hpoint, -⟩ := pointAt_eq_some.mp he
  obtain ⟨hpoint', -⟩ := pointAt_eq_some.mp he'
  obtain ⟨-, c, t, t', -, htook, -⟩ := h.served e.1 k e.2 hpoint
  obtain ⟨-, c', u, u', -, htook', -⟩ := h.served e'.1 k' e'.2 hpoint'
  rintro ⟨v, a, x, b, hv, hx, hdone, hlen⟩
  obtain ⟨m, hm⟩ := List.mem_iff_getElem?.mp hv
  have hmlt := (List.getElem?_eq_some_iff.mp hm).1
  have hatv : stateAt past s m = v := by simp [stateAt, hm]
  have hatt : stateAt past s k = t := by simp [stateAt, htook.1]
  have hatu : stateAt past s k' = u := by simp [stateAt, htook'.1]
  by_cases hmk : m ≤ k'
  · -- The task that is served later had returned, and takes no step any more.
    have hreach := hrun.reach_stateAt hmk (le_of_lt htook'.lt)
    rw [hatv, hatu] at hreach
    obtain ⟨x', hx', -, hstays⟩ := hreach.getElem?_tasks hx
    obtain ⟨y, hy, hnot⟩ := htook'.task
    rw [hy] at hx'
    cases hx'
    rw [hstays b hdone] at hnot
    exact hnot b hdone
  · -- The task that is served first has come in before.
    have hreach := hrun.reach_stateAt (show k ≤ m by omega) (le_of_lt hmlt)
    rw [hatt, hatv] at hreach
    obtain ⟨y, hy, -⟩ := htook.task
    obtain ⟨y', hy', -⟩ := hreach.getElem?_tasks hy
    have := (List.getElem?_eq_some_iff.mp hy').1
    omega

end Order

end EvGrpc.Lib
