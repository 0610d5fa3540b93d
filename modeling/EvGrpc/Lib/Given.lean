import EvGrpc.Lib.System

/-!
# Protocols with replies that are given

`Prog.Meets` holds whatever the replies are.  Some programs keep to a protocol only because
not every reply comes: `Prog.MeetsGiven` is the same for the replies a relation admits.  In
a run it is enough that the machine gives no others in the worlds the run goes through
(`tasks_meetsGiven`).

That a program does not keep to a protocol is shown by a run of it alone (`Comes`), which is a
run of the system (`Comes.reach`).
-/

namespace EvGrpc.Lib

universe u v w x y

/-- The replies that may come to an operation, by the state of a protocol. -/
abbrev Admits (F : Type → Type u) (σ : Type v) := (β : Type) → F β → σ → β → Prop

namespace Prog
variable {F : Type → Type u} {σ : Type v} {α β γ : Type} {P : Protocol F σ} {may : Admits F σ}

/-- Started in `s`, the program performs only operations the protocol allows, as long as the
replies are among those that may come. -/
def MeetsGiven (P : Protocol F σ) (may : Admits F σ) : Prog F α → σ → Prop
  | .done _, _ => True
  | .op o k, s => P.pre o s ∧ ∀ r, may _ o s r → MeetsGiven P may (k r) (P.next o r s)

variable {s : σ}

/-- The second half of a sequence may be started in any state. -/
theorem MeetsGiven.bind {p : Prog F α} {f : α → Prog F β} (hp : p.MeetsGiven P may s)
    (hf : ∀ a s, (f a).MeetsGiven P may s) : (p >>= f).MeetsGiven P may s := by
  induction p generalizing s with
  | done a => exact hf a s
  | op o k ih => exact ⟨hp.1, fun r hr => ih r (hp.2 r hr)⟩

end Prog

section Runs
variable {F : Type → Type u} {R : Type v} {W : Type w} {T : Type x} {C : Type y} {σ : Type}
  {α : Type} {M : Machine F W T C} {handle : R → Prog F α} {fresh : T} {P : Protocol F σ}
  {may : Admits F σ} {view : T → σ}

/-- The tasks keep to the protocol in every state reached through worlds in which the machine
gives only the replies that may come. -/
theorem tasks_meetsGiven {Ok : State F R W T α → Action R C → Prop} {s₀ s : State F R W T α}
    {K : W → Prop} (hshows : M.Shows P view)
    (hmay : ∀ (β : Type) (o : F β) (c : C) (w : W) (t : T) (b : β) (w' : W) (t' : T), K w →
      M.step o c w t = some (b, w', t') → may β o (view t) b)
    (h : Reach (State.act M handle fresh) Ok s₀ s) (hK : ∀ s a, Ok s a → K s.world)
    (h₀ : s₀.tasks = []) (hspawn : ∀ r, (handle r).MeetsGiven P may (view fresh)) :
    ∀ x ∈ s.tasks, x.prog.MeetsGiven P may (view x.loc) := by
  refine h.rec_invariant (I := fun s => ∀ x ∈ s.tasks, x.prog.MeetsGiven P may (view x.loc))
    (by simp [h₀]) ?_
  intro s a s' hall hok e x hx
  rcases State.act_cases e with ⟨r, -, rfl⟩ | ⟨i, c, r, t, β, o, k, b, w, t', -, hi, hs, rfl⟩
  · rcases List.mem_append.mp hx with hx | hx
    · exact hall x hx
    · rw [List.mem_singleton.mp hx]
      exact hspawn r
  · rcases List.mem_or_eq_of_mem_set hx with hx | rfl
    · exact hall x hx
    · have hstep := (hall _ (List.mem_of_getElem? hi)).2 b
        (hmay β o c s.world t b w t' (hK s a hok) hs)
      rwa [← hshows β o c s.world t b w t' hs] at hstep

end Runs

/-! ## Where a program comes to -/

section Comes
variable {F : Type → Type u} {R : Type v} {W : Type w} {T : Type x} {C : Type y} {α β : Type}
  {M : Machine F W T C} {handle : R → Prog F α} {fresh : T} {K : W → Prop}

/-- Alone on the machine, through worlds in which `K` holds, the program can come to a point at
which `Q` holds of what is left of it. -/
inductive Comes (M : Machine F W T C) (K : W → Prop) (Q : Prog F α → Prop) :
    Prog F α → W → T → Prop
  | here {p : Prog F α} {w : W} {t : T} (h : Q p) : Comes M K Q p w t
  | step {β : Type} {o : F β} {k : β → Prog F α} {c : C} {w w' : W} {t t' : T} {b : β} (hw : K w)
      (hs : M.step o c w t = some (b, w', t')) (h : Comes M K Q (k b) w' t') :
      Comes M K Q (.op o k) w t

variable {Q : Prog F α → Prop} {p : Prog F α} {w : W} {t : T}

/-- What the first half of a sequence comes to, the sequence does. -/
theorem Comes.bind {Q' : Prog F β → Prop} {f : α → Prog F β} (h : Comes M K Q p w t)
    (hQ : ∀ p, Q p → Q' (p >>= f)) : Comes M K Q' (p >>= f) w t := by
  induction h with
  | here h => exact .here (hQ _ h)
  | step hw hs _ ih => exact .step hw hs ih

/-- What a task comes to alone, it comes to in a run. -/
theorem Comes.reach {Ok : State F R W T α → Action R C → Prop} {s₀ : State F R W T α}
    {tasks : List (Task F R T α)} {r : R} (h : Comes M K Q p w t)
    (hok : ∀ s a, K s.world → Ok s a)
    (hreach : Reach (State.act M handle fresh) Ok s₀ ⟨w, tasks ++ [⟨r, t, p⟩]⟩) :
    ∃ s, Reach (State.act M handle fresh) Ok s₀ s ∧ ∃ x ∈ s.tasks, Q x.prog := by
  induction h with
  | @here p w t h => exact ⟨_, hreach, ⟨r, t, p⟩, by simp, h⟩
  | @step β o k c w w' t t' b hw hs _ ih =>
      refine ih (hreach.step (a := .step tasks.length c) (hok _ _ hw) ?_)
      simp [State.act, hs]

end Comes

end EvGrpc.Lib
