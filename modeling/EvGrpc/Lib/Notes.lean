import EvGrpc.Lib.System

/-!
# Notes about the tasks of a run

A state of a run does not tell what happened before it.  Here each task gets notes that are
kept along the run and that nothing in the run depends on: made when the task comes in,
extended by every step of its own, and by every step of another task until it has
returned.  What relates a task to its past is then an invariant of tasks and notes
(`noted_invariant`), and a run with notes can be executed like any other.

`Machine.advance` follows a program alone on the machine through some choices, so that
notes of the choices a task made can be compared with what it would have done alone.

## Main definitions

* `Notes` — what is noted about a task.
* `State.actNoted` — one action of a run with notes.
* `Machine.advance` — what is left of a program after some steps of its own.
-/

namespace EvGrpc.Lib

universe u v w x y z

/-- What is noted about a task: at its start, after a step of its own, and after a step of
another task. -/
structure Notes (F : Type → Type u) (W : Type w) (C : Type y) (G : Type z) where
  start : W → G
  own : {β : Type} → F β → C → W → W → G → G
  other : W → W → G → G

section Noted
variable {F : Type → Type u} {R : Type v} {W : Type w} {T : Type x} {C : Type y} {G : Type z}
  {α : Type}
variable (M : Machine F W T C) (handle : R → Prog F α) (fresh : T) (N : Notes F W C G)

/-- The notes after an action that led from `s` to the world `w'`.  Nothing is noted about a
task that has returned. -/
def Notes.update (s : State F R W T α) (w' : W) (gs : List G) : Action R C → List G
  | .spawn _ => gs ++ [N.start s.world]
  | .step i c => gs.mapIdx fun j g =>
      match s.tasks[j]? with
      | some ⟨_, _, .op o _⟩ => if j = i then N.own o c s.world w' g else N.other s.world w' g
      | _ => g

/-- One action, with notes about the tasks. -/
def State.actNoted (x : State F R W T α × List G) (a : Action R C) :
    Option (State F R W T α × List G) :=
  (x.1.act M handle fresh a).map fun s' => (s', N.update x.1 s'.world x.2 a)

variable {M handle fresh N} {Ok : State F R W T α → Action R C → Prop} {s₀ s : State F R W T α}
  {gs₀ gs : List G}

theorem State.actNoted_eq_some {x x' : State F R W T α × List G} {a : Action R C}
    (h : State.actNoted M handle fresh N x a = some x') :
    x.1.act M handle fresh a = some x'.1 ∧ x'.2 = N.update x.1 x'.1.world x.2 a := by
  obtain ⟨s', hs', rfl⟩ := Option.map_eq_some_iff.mp h
  exact ⟨hs', rfl⟩

/-- Without its notes a run is a run. -/
theorem Reach.of_noted
    (h : Reach (State.actNoted M handle fresh N) (fun x => Ok x.1) (s₀, gs₀) (s, gs)) :
    Reach (State.act M handle fresh) Ok s₀ s := by
  obtain ⟨x, hx⟩ : ∃ x, x = (s, gs) := ⟨_, rfl⟩
  rw [← hx] at h
  have hs : s = x.1 := by rw [hx]
  rw [hs]
  clear hs hx
  induction h with
  | init => exact .init
  | step _ ok e ih => exact .step ih ok (State.actNoted_eq_some e).1

/-- Notes can be kept along every run. -/
theorem Reach.exists_noted (gs₀ : List G) (h : Reach (State.act M handle fresh) Ok s₀ s) :
    ∃ gs, Reach (State.actNoted M handle fresh N) (fun x => Ok x.1) (s₀, gs₀) (s, gs) := by
  induction h with
  | init => exact ⟨gs₀, .init⟩
  | @step s s' a _ ok e ih =>
      obtain ⟨gs, hgs⟩ := ih
      have he : State.actNoted M handle fresh N (s, gs) a =
          some (s', N.update s s'.world gs a) := by
        unfold State.actNoted
        rw [e]
        rfl
      exact ⟨_, .step hgs ok he⟩

/-- What holds of a task and its notes when it comes in, and survives its own steps and those
of the others, holds of every task and its notes. -/
theorem noted_invariant (Ok : State F R W T α → Action R C → Prop) {J : Task F R T α → G → Prop}
    (h : Reach (State.actNoted M handle fresh N) (fun x => Ok x.1) (s₀, []) (s, gs))
    (h₀ : s₀.tasks = []) (hspawn : ∀ r w, J ⟨r, fresh, handle r⟩ (N.start w))
    (hown : ∀ (s : State F R W T α) (i : ℕ) (c : C) (r : R) (t : T) (β : Type) (o : F β)
      (k : β → Prog F α) (b : β) (w' : W) (t' : T) (g : G),
      Reach (State.act M handle fresh) Ok s₀ s → s.tasks[i]? = some ⟨r, t, .op o k⟩ →
      J ⟨r, t, .op o k⟩ g → M.step o c s.world t = some (b, w', t') →
      J ⟨r, t', k b⟩ (N.own o c s.world w' g))
    (hother : ∀ x g w w', J x g → J x (N.other w w' g)) :
    s.tasks.length = gs.length ∧
      ∀ (i : ℕ) (x : Task F R T α) (g : G), s.tasks[i]? = some x → gs[i]? = some g → J x g := by
  let I : State F R W T α × List G → Prop := fun y => y.1.tasks.length = y.2.length ∧
    ∀ (i : ℕ) (x : Task F R T α) (g : G), y.1.tasks[i]? = some x → y.2[i]? = some g → J x g
  refine h.rec_invariant_of (I := fun y => Reach (State.act M handle fresh) Ok s₀ y.1) (J := I)
    (fun y hy => Reach.of_noted hy) (by simp [I, h₀]) ?_
  rintro ⟨s, gs⟩ a ⟨s', gs'⟩ hreach ⟨hlen, hJ⟩ - e
  obtain ⟨hact, hgs⟩ := State.actNoted_eq_some e
  dsimp only at hreach hlen hJ hact hgs
  subst hgs
  rcases State.act_cases hact with
    ⟨r, rfl, rfl⟩ | ⟨i, c, r, t, β, o, k, b, w', t', rfl, hi, hs, rfl⟩
  · refine ⟨by simp [Notes.update, hlen], ?_⟩
    intro j x g hx hg
    simp only [Notes.update] at hx hg
    by_cases hj : j < s.tasks.length
    · rw [List.getElem?_append_left hj] at hx
      rw [List.getElem?_append_left (hlen ▸ hj)] at hg
      exact hJ j x g hx hg
    · have hj' : j = s.tasks.length := by
        have := (List.getElem?_eq_some_iff.mp hx).1
        simp only [List.length_append, List.length_singleton] at this
        omega
      subst hj'
      rw [List.getElem?_concat_length] at hx
      rw [hlen, List.getElem?_concat_length] at hg
      cases hx
      cases hg
      exact hspawn r s.world
  · refine ⟨by simp [Notes.update, hlen], ?_⟩
    intro j x g hx hg
    simp only [Notes.update, List.getElem?_mapIdx, Option.map_eq_some_iff] at hg
    obtain ⟨g₀, hg₀, rfl⟩ := hg
    by_cases hij : i = j
    · -- The task that took the step.
      subst hij
      have hlt : i < s.tasks.length := (List.getElem?_eq_some_iff.mp hi).1
      rw [List.getElem?_set_self hlt] at hx
      cases hx
      simp only [hi, if_true]
      exact hown s i c r t β o k b w' t' g₀ hreach hi (hJ i _ g₀ hi hg₀) hs
    · -- Another task: something is noted if it has not returned.
      rw [List.getElem?_set_ne hij] at hx
      have hJx := hJ j x g₀ hx hg₀
      obtain ⟨r', t₁, p⟩ := x
      cases p with
      | done a => simpa only [hx] using hJx
      | op o' k' =>
          simp only [hx, if_neg (Ne.symm hij)]
          exact hother _ _ _ _ hJx

end Noted

/-! ## A program alone, step by step -/

section Advance
variable {F : Type → Type u} {W : Type w} {T : Type x} {C : Type y} {α : Type}

/-- What is left of a program that makes the given choices, alone on the machine. -/
def Machine.advance (M : Machine F W T C) : List C → Prog F α → W × T → Option (Prog F α × W × T)
  | [], p, s => some (p, s)
  | _ :: _, .done _, _ => none
  | c :: cs, .op o k, s =>
      match M.step o c s.1 s.2 with
      | some (b, s') => M.advance cs (k b) s'
      | none => none

variable {M : Machine F W T C}

/-- One more step. -/
theorem Machine.advance_concat {β : Type} {p : Prog F α} {cs : List C} {s s' s'' : W × T} {c : C}
    {o : F β} {k : β → Prog F α} {b : β} (h : M.advance cs p s = some (.op o k, s'))
    (hs : M.step o c s'.1 s'.2 = some (b, s'')) : M.advance (cs ++ [c]) p s = some (k b, s'') := by
  induction cs generalizing p s with
  | nil =>
      cases h
      simp only [List.nil_append, Machine.advance, hs]
  | cons c' cs ih =>
      cases p with
      | done a => cases h
      | op o' k' =>
          simp only [List.cons_append, Machine.advance] at h ⊢
          split at h
          · exact ih h
          · cases h

/-- A program of which nothing is left has run. -/
theorem Machine.run_of_advance {p : Prog F α} {cs : List C} {s s' : W × T} {a : α}
    (h : M.advance cs p s = some (.done a, s')) : M.run p cs s = some (a, s') := by
  induction cs generalizing p s with
  | nil =>
      cases h
      rfl
  | cons c cs ih =>
      cases p with
      | done b => cases h
      | op o k =>
          simp only [Machine.advance] at h
          simp only [Machine.run]
          cases hstep : M.step o c s.1 s.2 with
          | none => simp [hstep] at h
          | some r =>
              simp only [hstep] at h ⊢
              exact ih h

end Advance

end EvGrpc.Lib
