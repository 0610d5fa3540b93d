import EvGrpc.Lib.Prog
import Mathlib.Data.List.Basic

/-!
# Any number of programs, interleaved on one machine

A machine gives operations their meaning.  `Machine.step` is a function: what the
surroundings may decide (a failure, a fresh identifier, the order of rows) is an
explicit `choice`, so a run is a list of scheduler actions and can be executed.
The world is shared, the local state belongs to one task, and an operation that
cannot be performed now (`none`) blocks its task and nobody else.

Three rules carry results from programs to runs.

* `Reach.rec_invariant` — what holds initially and survives every admitted action
  holds in every state reached.
* `tasks_invariant` — what holds of every task that starts and survives every step of
  it holds of all tasks of all states reached.
* `resources_conserved` — what steps only move between the pool and a task is never
  lost or duplicated.

## Main definitions

* `Machine` — the meaning of the operations.
* `State`, `Action`, `State.act` — tasks, scheduler actions, one action's effect.
* `Reach act Ok` — states reached by runs all of whose actions are admitted.
* `Machine.Steps`, `Machine.run` — one task alone on the machine.
-/

namespace EvGrpc.Lib

universe u v w x y

/-! ## Runs -/

section Reach
variable {S : Type u} {A : Type v}

/-- `s` is reached from `s₀` by actions that `Ok` admits in the states they are
taken in. -/
inductive Reach (act : S → A → Option S) (Ok : S → A → Prop) (s₀ : S) : S → Prop
  | init : Reach act Ok s₀ s₀
  | step {s s' : S} {a : A} (h : Reach act Ok s₀ s) (ok : Ok s a) (e : act s a = some s') :
      Reach act Ok s₀ s'

/-- Fewer actions reach fewer states. -/
theorem Reach.mono {act : S → A → Option S} {Ok Ok' : S → A → Prop} {s₀ s : S}
    (h : Reach act Ok s₀ s) (hOk : ∀ s a, Ok s a → Ok' s a) : Reach act Ok' s₀ s := by
  induction h with
  | init => exact .init
  | step _ hok e ih => exact .step ih (hOk _ _ hok) e

/-- The invariant rule. -/
theorem Reach.rec_invariant {act : S → A → Option S} {Ok : S → A → Prop} {s₀ s : S}
    {I : S → Prop} (h : Reach act Ok s₀ s) (h₀ : I s₀)
    (hstep : ∀ s a s', I s → Ok s a → act s a = some s' → I s') : I s := by
  induction h with
  | init => exact h₀
  | step _ ok e ih => exact hstep _ _ _ ih ok e

/-- An invariant proved first may be assumed when a second one is proved. -/
theorem Reach.rec_invariant_of {act : S → A → Option S} {Ok : S → A → Prop} {s₀ s : S}
    {I J : S → Prop} (h : Reach act Ok s₀ s) (hI : ∀ s, Reach act Ok s₀ s → I s) (h₀ : J s₀)
    (hstep : ∀ s a s', I s → J s → Ok s a → act s a = some s' → J s') : J s := by
  induction h with
  | init => exact h₀
  | step h ok e ih => exact hstep _ _ _ (hI _ h) ih ok e

/-- Take a list of actions in order; `none` when one of them is impossible or not
admitted. -/
def runAll (act : S → A → Option S) (Ok : S → A → Prop) [∀ s a, Decidable (Ok s a)] (s : S)
    (as : List A) : Option S :=
  as.foldlM (fun s a => if Ok s a then act s a else none) s

/-- A list of actions that can be taken reaches the state it ends in. -/
theorem reach_runAll {act : S → A → Option S} {Ok : S → A → Prop} [∀ s a, Decidable (Ok s a)]
    {s₀ : S} (as : List A) {s s' : S} (h : Reach act Ok s₀ s) (e : runAll act Ok s as = some s') :
    Reach act Ok s₀ s' := by
  induction as generalizing s with
  | nil => cases e; exact h
  | cons a as ih =>
      obtain ⟨t, ht, he⟩ := Option.bind_eq_some_iff.mp e
      dsimp only at ht
      split at ht
      · rename_i hok
        exact ih (.step h hok ht) he
      · cases ht

/-- A run that can be computed shows that a state with a given property is reached. -/
theorem exists_reach {act : S → A → Option S} {Ok : S → A → Prop} [∀ s a, Decidable (Ok s a)]
    {s₀ : S} {P : S → Prop} [DecidablePred P] (as : List A)
    (h : (runAll act Ok s₀ as).any (fun s => decide (P s)) = true) :
    ∃ s, Reach act Ok s₀ s ∧ P s := by
  cases e : runAll act Ok s₀ as with
  | none => simp [e] at h
  | some s => exact ⟨s, reach_runAll as .init e, by simpa [e] using h⟩

end Reach

/-! ## Tasks on a machine -/

/-- The meaning of the operations `F` over a world `W`, a local state `T` per task
and choices `C` that are not the program's to make. -/
structure Machine (F : Type → Type u) (W : Type v) (T : Type w) (C : Type x) where
  /-- Perform one operation: its reply, the new world and the new local state, or
  `none` while the operation is blocked. -/
  step : {β : Type} → F β → C → W → T → Option (β × W × T)

/-- A running program: the request it serves, its local state, what is left to do. -/
structure Task (F : Type → Type u) (R : Type v) (T : Type w) (α : Type) where
  req : R
  loc : T
  prog : Prog F α

/-- A machine with its tasks. -/
structure State (F : Type → Type u) (R : Type v) (W : Type w) (T : Type x) (α : Type) where
  world : W
  tasks : List (Task F R T α)

/-- What a scheduler can do: start serving a request, or let a task take a step. -/
inductive Action (R : Type u) (C : Type v)
  | spawn (r : R)
  | step (i : ℕ) (c : C)

section System
variable {F : Type → Type u} {R : Type v} {W : Type w} {T : Type x} {C : Type y} {α β : Type}
variable (M : Machine F W T C) (handle : R → Prog F α) (fresh : T)

/-- The effect of one scheduler action. -/
def State.act (s : State F R W T α) : Action R C → Option (State F R W T α)
  | .spawn r => some { s with tasks := s.tasks ++ [⟨r, fresh, handle r⟩] }
  | .step i c =>
      match s.tasks[i]? with
      | some ⟨r, t, .op o k⟩ =>
          match M.step o c s.world t with
          | some (b, w, t') => some ⟨w, s.tasks.set i ⟨r, t', k b⟩⟩
          | none => none
      | _ => none

variable {M handle fresh}

/-- Everything an action can have done. -/
theorem State.act_cases {s s' : State F R W T α} {a : Action R C}
    (h : s.act M handle fresh a = some s') :
    (∃ r, a = .spawn r ∧ s' = { s with tasks := s.tasks ++ [⟨r, fresh, handle r⟩] }) ∨
    (∃ (i : ℕ) (c : C) (r : R) (t : T) (β : Type) (o : F β) (k : β → Prog F α) (b : β) (w : W)
        (t' : T), a = .step i c ∧ s.tasks[i]? = some ⟨r, t, .op o k⟩ ∧
      M.step o c s.world t = some (b, w, t') ∧ s' = ⟨w, s.tasks.set i ⟨r, t', k b⟩⟩) := by
  cases a with
  | spawn r => exact .inl ⟨r, rfl, by simpa [State.act] using h.symm⟩
  | step i c =>
      right
      simp only [State.act] at h
      split at h
      · rename_i r t β o k hi
        split at h
        · rename_i b w t' hs
          exact ⟨i, c, r, t, β, o, k, b, w, t', rfl, hi, hs, by simpa using h.symm⟩
        · cases h
      · cases h

/-- A property of the tasks one by one, kept by spawning and by every step a task
takes, holds of all tasks of all states reached. -/
theorem tasks_invariant {Ok : State F R W T α → Action R C → Prop} {s₀ s : State F R W T α}
    {J : Task F R T α → Prop}
    (h : Reach (State.act M handle fresh) Ok s₀ s) (h₀ : ∀ x ∈ s₀.tasks, J x)
    (hspawn : ∀ r, J ⟨r, fresh, handle r⟩)
    (hstep : ∀ (r : R) (t : T) (β : Type) (o : F β) (k : β → Prog F α) (c : C) (w : W) (b : β)
      (w' : W) (t' : T), J ⟨r, t, .op o k⟩ → M.step o c w t = some (b, w', t') →
      J ⟨r, t', k b⟩) :
    ∀ x ∈ s.tasks, J x := by
  refine h.rec_invariant (I := fun s => ∀ x ∈ s.tasks, J x) h₀ ?_
  intro s a s' hJ _ e x hx
  rcases State.act_cases e with ⟨r, -, rfl⟩ | ⟨i, c, r, t, β, o, k, b, w, t', -, hi, hs, rfl⟩
  · rcases List.mem_append.mp hx with hx | hx
    · exact hJ x hx
    · rw [List.mem_singleton.mp hx]
      exact hspawn r
  · rcases List.mem_or_eq_of_mem_set hx with hx | rfl
    · exact hJ x hx
    · exact hstep r t β o k c s.world b w t' (hJ _ (List.mem_of_getElem? hi)) hs

/-! ## One task alone -/

/-- A step of a task that is alone on the machine, under some choice. -/
def Machine.Steps (M : Machine F W T C) (β : Type) (o : F β) (s : W × T) (b : β) (s' : W × T) :
    Prop :=
  ∃ c, M.step o c s.1 s.2 = some (b, s'.1, s'.2)

/-- Run a program alone under the given choices. -/
def Machine.run (M : Machine F W T C) : Prog F α → List C → W × T → Option (α × W × T)
  | .done a, _, s => some (a, s)
  | .op _ _, [], _ => none
  | .op o k, c :: cs, s =>
      match M.step o c s.1 s.2 with
      | some (b, s') => M.run (k b) cs s'
      | none => none

/-- A run that can be computed is a run, in which only the given choices were made. -/
theorem Machine.yields_run_where {P : C → Prop} {p : Prog F α} {cs : List C} {s : W × T} {a : α}
    {s' : W × T} (hcs : ∀ c ∈ cs, P c) (h : M.run p cs s = some (a, s')) :
    p.Yields (fun _ o s b s' => ∃ c, P c ∧ M.step o c s.1 s.2 = some (b, s'.1, s'.2)) s a s' := by
  induction p generalizing cs s with
  | done b =>
      cases h
      exact ⟨rfl, rfl⟩
  | op o k ih =>
      cases cs with
      | nil => cases h
      | cons c cs =>
          simp only [Machine.run] at h
          split at h
          · rename_i b t hs
            exact ⟨b, t, ⟨c, hcs c (by simp), hs⟩, ih b (fun x hx => hcs x (by simp [hx])) h⟩
          · cases h

theorem Machine.yields_run {p : Prog F α} {cs : List C} {s : W × T} {a : α} {s' : W × T}
    (h : M.run p cs s = some (a, s')) : p.Yields M.Steps s a s' := by
  have hrun := Machine.yields_run_where (P := fun _ => True) (fun _ _ => trivial) h
  have hsim : ∀ (β : Type) (o : F β) (s : W × T) (b : β) (t s₁ : W × T), s = s₁ →
      (∃ c, True ∧ M.step o c s.1 s.2 = some (b, t.1, t.2)) → ∃ t₁, t = t₁ ∧ M.Steps β o s₁ b t₁ := by
    rintro β o s b t _ rfl ⟨c, -, hs⟩
    exact ⟨t, rfl, c, hs⟩
  obtain ⟨s₁, rfl, hsteps⟩ := hrun.simulate hsim rfl
  exact hsteps

/-- A run that can be computed shows that a task alone can end in a given way. -/
theorem Machine.exists_yields {p : Prog F α} {s : W × T} {P : α → W × T → Prop}
    [∀ a s, Decidable (P a s)] (cs : List C)
    (h : (M.run p cs s).any (fun x => decide (P x.1 x.2)) = true) :
    ∃ a s', p.Yields M.Steps s a s' ∧ P a s' := by
  cases e : M.run p cs s with
  | none => simp [e] at h
  | some x => exact ⟨x.1, x.2, Machine.yields_run e, by simpa [e] using h⟩

/-! ## Protocols -/

/-- The local state shows the protocol's state: every step moves it the way the
protocol says. -/
def Machine.Shows (M : Machine F W T C) {σ : Type*} (P : Protocol F σ) (view : T → σ) : Prop :=
  ∀ (β : Type) (o : F β) (c : C) (w : W) (t : T) (b : β) (w' : W) (t' : T),
    M.step o c w t = some (b, w', t') → view t' = P.next o b (view t)

/-! ## Resources -/

/-- A change to one element and to what is free, seen from the whole. -/
theorem perm_flatMap_set {A B : Type*} (f : A → List B) {free free' : List B} {l : List A}
    {i : ℕ} {x y : A} (hi : l[i]? = some x) (h : (free' ++ f y).Perm (free ++ f x)) :
    (free' ++ (l.set i y).flatMap f).Perm (free ++ l.flatMap f) := by
  obtain ⟨hlt, rfl⟩ := List.getElem?_eq_some_iff.mp hi
  have hl : l = l.take i ++ l[i] :: l.drop (i + 1) := by simp
  have hset : l.set i y = l.take i ++ y :: l.drop (i + 1) := by
    rw [List.set_eq_take_append_cons_drop, if_pos hlt]
  rw [hset]
  conv_rhs => rw [hl]
  simp only [List.flatMap_append, List.flatMap_cons]
  -- Bring what the step touched to the front; the rest is the same on both sides.
  have move : ∀ (a b c d : List B), (a ++ (b ++ (c ++ d))).Perm ((a ++ c) ++ (b ++ d)) := by
    intro a b c d
    rw [List.append_assoc]
    exact ((List.perm_append_comm_assoc b c d)).append_left a
  exact (move ..).trans ((h.append_right _).trans (move ..).symm)

/-- Resources that a step only moves between the shared pool and its task are never
lost or duplicated. -/
theorem resources_conserved {Ok : State F R W T α → Action R C → Prop} {s₀ s : State F R W T α}
    {B : Type*} (free : W → List B) (held : T → List B) (hfresh : held fresh = [])
    (hstep : ∀ (β : Type) (o : F β) (c : C) (w : W) (t : T) (b : β) (w' : W) (t' : T),
      M.step o c w t = some (b, w', t') → (free w' ++ held t').Perm (free w ++ held t))
    (h : Reach (State.act M handle fresh) Ok s₀ s) :
    (free s.world ++ s.tasks.flatMap fun x => held x.loc).Perm
      (free s₀.world ++ s₀.tasks.flatMap fun x => held x.loc) := by
  refine h.rec_invariant (I := fun s => (free s.world ++ s.tasks.flatMap fun x => held x.loc).Perm
      (free s₀.world ++ s₀.tasks.flatMap fun x => held x.loc)) (.refl _) ?_
  intro s a s' hI _ e
  rcases State.act_cases e with ⟨r, -, rfl⟩ | ⟨i, c, r, t, β, o, k, b, w, t', -, hi, hs, rfl⟩
  · simpa [hfresh] using hI
  · exact (perm_flatMap_set (fun x : Task F R T α => held x.loc) hi
      (hstep β o c s.world t b w t' hs)).trans hI

end System

end EvGrpc.Lib
