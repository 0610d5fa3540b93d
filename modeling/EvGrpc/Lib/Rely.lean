import EvGrpc.Lib.System

/-!
# Programs among others

What a program achieves while other tasks change the world between its steps.
`Prog.Sound` is partial correctness against interference: `Rely` is what the others may
do, `Ok` what the surroundings may do to the program's own steps, and the promise holds
of every value the program can return.  `tasks_sound` carries it to runs: a program that
keeps its promise against every interference in `Rely` keeps it in every state of a run
in which the others cause no other interference.

The promise of a composite program is put together from triples.  An assertion is about
what a task sees of the world, and it has to be stable: interference does not
invalidate it.

## Main definitions

* `Prog.Sound` — partial correctness against interference.
* `Surroundings` — what a task has to put up with.
* `Surroundings.Triple P p Q` — from `P`, the program returns only with `Q`.
-/

namespace EvGrpc.Lib

universe u v w x y

section Sound
variable {F : Type → Type u} {R : Type v} {W : Type w} {T : Type x} {C : Type y} {α β : Type}
variable {M : Machine F W T C} {handle : R → Prog F α} {fresh : T}

/-- Against interference from `Rely`, and as long as the task's own steps are
admitted by `Ok`, the program can only return values that satisfy `Q`. -/
def Prog.Sound (M : Machine F W T C) (Rely : T → W → W → Prop)
    (Ok : (β : Type) → F β → C → W → T → Prop) (Q : α → T → W → Prop) :
    Prog F α → T → W → Prop
  | .done a, t, w => ∀ w', Rely t w w' → Q a t w'
  | .op o k, t, w => ∀ w', Rely t w w' → ∀ c b w'' t', Ok _ o c w' t →
      M.step o c w' t = some (b, w'', t') → Prog.Sound M Rely Ok Q (k b) t' w''

/-- Interference that has already happened is accounted for. -/
theorem Prog.Sound.stable {Rely : T → W → W → Prop}
    {Ok : (β : Type) → F β → C → W → T → Prop} {Q : α → T → W → Prop} {p : Prog F α} {t : T}
    {w w' : W} (htrans : ∀ t a b c, Rely t a b → Rely t b c → Rely t a c)
    (h : p.Sound M Rely Ok Q t w) (hr : Rely t w w') : p.Sound M Rely Ok Q t w' := by
  cases p with
  | done a => exact fun v hv => h v (htrans _ _ _ _ hr hv)
  | op o k => exact fun v hv => h v (htrans _ _ _ _ hr hv)

/-- A promise may be weakened. -/
theorem Prog.Sound.mono {Rely : T → W → W → Prop} {Ok : (β : Type) → F β → C → W → T → Prop}
    {Q Q' : α → T → W → Prop} {p : Prog F α} {t : T} {w : W} (h : p.Sound M Rely Ok Q t w)
    (hQ : ∀ a t w, Q a t w → Q' a t w) : p.Sound M Rely Ok Q' t w := by
  induction p generalizing t w with
  | done a => exact fun w' hr => hQ _ _ _ (h w' hr)
  | op o k ih => exact fun w' hr c b w'' t' hok hs => ih b (h w' hr c b w'' t' hok hs)

/-- A program with nothing to promise keeps its promise. -/
theorem Prog.sound_trivial {Rely : T → W → W → Prop}
    {Ok : (β : Type) → F β → C → W → T → Prop} (p : Prog F α) (t : T) (w : W) :
    p.Sound M Rely Ok (fun _ _ _ => True) t w := by
  induction p generalizing t w with
  | done a => exact fun _ _ => trivial
  | op o k ih => exact fun _ _ _ _ _ _ _ _ => ih _ _ _

/-- The promise of a sequence is the promise of its first half to bring the second
half where it keeps its own. -/
theorem Prog.Sound.bind {Rely : T → W → W → Prop}
    {Ok : (β : Type) → F β → C → W → T → Prop} {Q : β → T → W → Prop} {p : Prog F α}
    {f : α → Prog F β} {t : T} {w : W} (hrefl : ∀ t w, Rely t w w)
    (h : p.Sound M Rely Ok (fun a t w => (f a).Sound M Rely Ok Q t w) t w) :
    (p >>= f).Sound M Rely Ok Q t w := by
  induction p generalizing t w with
  | done a => exact h w (hrefl t w)
  | op o k ih => exact fun w' hr c b w'' t' hok hs => ih b (h w' hr c b w'' t' hok hs)

/-- A program that is alone on the machine keeps its promise. -/
theorem Prog.Sound.yields {Rely : T → W → W → Prop} {Q : α → T → W → Prop} {p : Prog F α} {t t' : T}
    {w w' : W} {a : α} (hrefl : ∀ t w, Rely t w w)
    (h : p.Sound M Rely (fun _ _ _ _ _ => True) Q t w)
    (hy : p.Yields M.Steps (w, t) a (w', t')) : Q a t' w' := by
  induction p generalizing t w with
  | done b =>
      obtain ⟨rfl, hs⟩ := hy
      cases hs
      exact h _ (hrefl _ _)
  | op o k ih =>
      obtain ⟨b, s, ⟨c, hstep⟩, hk⟩ := hy
      exact ih b (h w (hrefl t w) c b s.1 s.2 trivial hstep) hk

/-- Every task keeps its promise in every state reached, when its own steps are
admitted and the steps of the others are interference it puts up with. -/
theorem tasks_sound {Adm : State F R W T α → Action R C → Prop} {s₀ s : State F R W T α}
    {Rely : T → W → W → Prop} {Ok : (β : Type) → F β → C → W → T → Prop}
    {Q : R → α → T → W → Prop}
    (hrefl : ∀ t w, Rely t w w) (htrans : ∀ t a b c, Rely t a b → Rely t b c → Rely t a c)
    (h : Reach (State.act M handle fresh) Adm s₀ s) (h₀ : s₀.tasks = [])
    (hspawn : ∀ s r, Reach (State.act M handle fresh) Adm s₀ s →
      (handle r).Sound M Rely Ok (Q r) fresh s.world)
    (hown : ∀ (s : State F R W T α) (i : ℕ) (c : C) (r : R) (t : T) (β : Type) (o : F β)
      (k : β → Prog F α), Reach (State.act M handle fresh) Adm s₀ s → Adm s (.step i c) →
      s.tasks[i]? = some ⟨r, t, .op o k⟩ → Ok β o c s.world t)
    (hrely : ∀ (s : State F R W T α) (i : ℕ) (c : C) (r : R) (t : T) (β : Type) (o : F β)
      (k : β → Prog F α) (b : β) (w : W) (t' : T) (j : ℕ) (x : Task F R T α),
      Reach (State.act M handle fresh) Adm s₀ s → Adm s (.step i c) →
      s.tasks[i]? = some ⟨r, t, .op o k⟩ → M.step o c s.world t = some (b, w, t') →
      j ≠ i → s.tasks[j]? = some x → Rely x.loc s.world w) :
    ∀ x ∈ s.tasks, x.prog.Sound M Rely Ok (Q x.req) x.loc s.world := by
  refine h.rec_invariant_of (I := fun s => Reach (State.act M handle fresh) Adm s₀ s)
    (J := fun s => ∀ x ∈ s.tasks, x.prog.Sound M Rely Ok (Q x.req) x.loc s.world)
    (fun _ h => h) (by simp [h₀]) ?_
  intro s a s' hreach hJ hadm e x hx
  rcases State.act_cases e with ⟨r, -, rfl⟩ | ⟨i, c, r, t, β, o, k, b, w, t', rfl, hi, hs, rfl⟩
  · rcases List.mem_append.mp hx with hx | hx
    · exact hJ x hx
    · rw [List.mem_singleton.mp hx]
      exact hspawn s r hreach
  · obtain ⟨j, hj, rfl⟩ := List.getElem_of_mem hx
    by_cases hij : i = j
    · -- The task that took the step: its promise at the operation gives the next one.
      subst hij
      rw [List.getElem_set_self]
      exact hJ _ (List.mem_of_getElem? hi) s.world (hrefl t s.world) c b w t'
        (hown s i c r t β o k hreach hadm hi) hs
    · -- Another task: the step was interference.
      have hj' : j < s.tasks.length := by simpa using hj
      rw [List.getElem_set_ne hij]
      exact (hJ _ (List.getElem_mem hj')).stable htrans
        (hrely s i c r t β o k b w t' j _ hreach hadm hi hs (fun e => hij e.symm)
          (List.getElem?_eq_getElem hj'))

end Sound

/-! ## Triples -/

/-- What a task on the machine is up against: the interference it has to put up with, and
what may happen to its own steps.  `see` is what assertions are about. -/
structure Surroundings {F : Type → Type u} {W : Type w} {T : Type x} {C : Type y} {V : Type v}
    (M : Machine F W T C) (see : T → W → V) where
  Rely : T → W → W → Prop
  Ok : (β : Type) → F β → C → W → T → Prop
  refl : ∀ t w, Rely t w w

namespace Surroundings
variable {F : Type → Type u} {W : Type w} {T : Type x} {C : Type y} {V : Type v} {α β : Type}
variable {M : Machine F W T C} {see : T → W → V} (E : Surroundings M see)

/-- Interference does not invalidate the assertion. -/
def Stable (P : V → Prop) : Prop := ∀ t w w', P (see t w) → E.Rely t w w' → P (see t w')

/-- Started where `P` holds, the program returns only where `Q` holds of its value. -/
def Triple (P : V → Prop) (p : Prog F α) (Q : α → V → Prop) : Prop :=
  ∀ t w, P (see t w) → p.Sound M E.Rely E.Ok (fun a t w => Q a (see t w)) t w

variable {E} {P : V → Prop}

theorem triple_done {a : α} {Q : α → V → Prop} (hP : E.Stable P) (h : ∀ x, P x → Q a x) :
    E.Triple P (.done a) Q :=
  fun t w hx w' hr => h _ (hP t w w' hx hr)

/-- One operation: what a step of it does to an assertion. -/
theorem triple_call {o : F β} {Q : β → V → Prop} (hP : E.Stable P) (hQ : ∀ b, E.Stable (Q b))
    (h : ∀ c w t b w' t', P (see t w) → E.Ok _ o c w t →
      M.step o c w t = some (b, w', t') → Q b (see t' w')) :
    E.Triple P (Prog.call o) Q := by
  intro t w hx w₁ hr c b w₂ t' hok hs w₃ hr'
  exact hQ b t' w₂ w₃ (h c w₁ t b w₂ t' (hP t w w₁ hx hr) hok hs) hr'

/-- The first half establishes what the second half starts from. -/
theorem Triple.bind {p : Prog F α} {f : α → Prog F β} {S : α → V → Prop} {Q : β → V → Prop}
    (hp : E.Triple P p S) (hf : ∀ a, E.Triple (S a) (f a) Q) : E.Triple P (p >>= f) Q := by
  intro t w hx
  exact Prog.Sound.bind E.refl ((hp t w hx).mono fun a t' w' ha => hf a t' w' ha)

/-- A fact that holds at the start may be assumed. -/
theorem triple_of_and {p : Prog F α} {φ : Prop} {Q : α → V → Prop} (h : φ → E.Triple P p Q) :
    E.Triple (fun x => φ ∧ P x) p Q :=
  fun t w hx => h hx.1 t w hx.2

/-- What exists at the start may be given a name. -/
theorem triple_of_exists {ι : Sort*} {P : ι → V → Prop} {p : Prog F α} {Q : α → V → Prop}
    (h : ∀ i, E.Triple (P i) p Q) : E.Triple (fun x => ∃ i, P i x) p Q := by
  rintro t w ⟨i, hx⟩
  exact h i t w hx

theorem Triple.conseq {p : Prog F α} {P' : V → Prop} {Q Q' : α → V → Prop}
    (h : E.Triple P' p Q) (hP : ∀ x, P x → P' x) (hQ : ∀ a x, Q a x → Q' a x) :
    E.Triple P p Q' :=
  fun t w hx => (h t w (hP _ hx)).mono fun a _ _ ha => hQ a _ ha

end Surroundings

end EvGrpc.Lib
