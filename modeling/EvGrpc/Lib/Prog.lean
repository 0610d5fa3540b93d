import Mathlib.Init

/-!
# Programs that ask their surroundings

A `Prog F α` is a computation that performs operations of the signature `F` and
ends with a value of `α`.  An operation is a request to the surroundings: the
program names it and continues with whatever reply comes back.  Nothing is said
here about which replies are possible; that is the business of a machine, and of
the scheduler that interleaves several programs on it.

What a program does with its own operations can be settled without a machine.  A
`Protocol` is an automaton that watches the operations and their replies, and
`Prog.Meets` says that a program never performs an operation the automaton
refuses, whatever the replies are.  `meets_bind` is an equivalence, so the
obligation of a composite program is computed by rewriting.  `Prog.Yields` is the
meaning of a program on its own: the values it can return when an operation may be
answered as a given relation allows.

## Main definitions

* `Prog F α` — a program over the operations `F`.
* `Protocol F σ` — an automaton over operations and replies.
* `Prog.Meets` — the program respects the automaton and ends as promised.
* `Prog.Yields` — the program can return this value.
* `Prog.Leads` — the program can get this far.
-/

namespace EvGrpc.Lib

universe u v w

/-- A program: a value, or an operation with a continuation for each reply. -/
inductive Prog (F : Type → Type u) (α : Type) : Type (max 1 u)
  /-- The program has returned. -/
  | done (a : α)
  /-- The program performs `o` and goes on with the reply. -/
  | op {β : Type} (o : F β) (k : β → Prog F α)

namespace Prog

variable {F : Type → Type u} {α β γ : Type}

/-- Run `p`, then the continuation on its value. -/
def bind : Prog F α → (α → Prog F β) → Prog F β
  | .done a, f => f a
  | .op o k, f => .op o fun r => (k r).bind f

instance : Monad (Prog F) where
  pure := .done
  bind := bind

/-- Perform one operation and return its reply. -/
def call (o : F β) : Prog F β := .op o .done

@[simp] theorem pure_eq (a : α) : (pure a : Prog F α) = .done a := rfl
@[simp] theorem done_bind (a : α) (f : α → Prog F β) : (Prog.done a >>= f) = f a := rfl
@[simp] theorem op_bind (o : F γ) (k : γ → Prog F α) (f : α → Prog F β) :
    (Prog.op o k >>= f) = .op o fun r => k r >>= f := rfl
@[simp] theorem call_bind (o : F γ) (f : γ → Prog F β) : (call o >>= f) = .op o f := rfl

theorem bind_assoc (p : Prog F α) (f : α → Prog F β) (g : β → Prog F γ) :
    ((p >>= f) >>= g) = (p >>= fun a => f a >>= g) := by
  induction p with
  | done a => rfl
  | op o k ih => simp only [op_bind, ih]

theorem bind_done (p : Prog F α) : (p >>= .done) = p := by
  induction p with
  | done a => rfl
  | op o k ih => simp only [op_bind, ih]

instance : LawfulMonad (Prog F) :=
  LawfulMonad.mk' (Prog F) (fun p => bind_done p) (fun _ _ => rfl) bind_assoc

end Prog

/-- An automaton over operations and replies: which operations it lets through in
a state, and where a reply takes it. -/
structure Protocol (F : Type → Type u) (σ : Type v) where
  /-- The operation is allowed in this state. -/
  pre : {β : Type} → F β → σ → Prop
  /-- The state after the operation was answered. -/
  next : {β : Type} → F β → β → σ → σ

namespace Prog

variable {F : Type → Type u} {σ : Type v} {α β γ : Type}

/-- Started in `s`, the program performs only operations the protocol allows,
whatever the replies, and returns only values and states that satisfy `Q`. -/
def Meets (P : Protocol F σ) : Prog F α → σ → (α → σ → Prop) → Prop
  | .done a, s, Q => Q a s
  | .op o k, s, Q => P.pre o s ∧ ∀ r, Meets P (k r) (P.next o r s) Q

variable {P : Protocol F σ} {s : σ}

@[simp] theorem meets_done (a : α) (Q : α → σ → Prop) :
    (Prog.done a : Prog F α).Meets P s Q ↔ Q a s := Iff.rfl

@[simp] theorem meets_op (o : F β) (k : β → Prog F α) (Q : α → σ → Prop) :
    (Prog.op o k).Meets P s Q ↔ P.pre o s ∧ ∀ r, (k r).Meets P (P.next o r s) Q := Iff.rfl

/-- The obligation of a sequence is the obligation of its first half, with the
second half's obligation as the promise. -/
theorem meets_bind (p : Prog F α) (f : α → Prog F β) (Q : β → σ → Prop) :
    (p >>= f).Meets P s Q ↔ p.Meets P s fun a s' => (f a).Meets P s' Q := by
  induction p generalizing s with
  | done a => rfl
  | op o k ih => simp only [op_bind, meets_op, ih]

/-- A promise may be weakened. -/
theorem Meets.mono {p : Prog F α} {Q Q' : α → σ → Prop} (h : p.Meets P s Q)
    (hQ : ∀ a s, Q a s → Q' a s) : p.Meets P s Q' := by
  induction p generalizing s with
  | done a => exact hQ a s h
  | op o k ih => exact ⟨h.1, fun r => ih r (h.2 r)⟩

/-! ## One program on its own -/

/-- Started in `s`, with operations answered as `R` allows, the program can return
`a` and leave `s'` behind. -/
def Yields (R : (β : Type) → F β → σ → β → σ → Prop) : Prog F α → σ → α → σ → Prop
  | .done a, s, r, s' => r = a ∧ s' = s
  | .op o k, s, r, s' => ∃ b t, R _ o s b t ∧ Yields R (k b) t r s'

variable {R : (β : Type) → F β → σ → β → σ → Prop} {s s' : σ}

@[simp] theorem yields_done (a r : α) :
    (Prog.done a : Prog F α).Yields R s r s' ↔ r = a ∧ s' = s := Iff.rfl

@[simp] theorem yields_op (o : F β) (k : β → Prog F α) (r : α) :
    (Prog.op o k).Yields R s r s' ↔ ∃ b t, R _ o s b t ∧ (k b).Yields R t r s' := Iff.rfl

/-- A sequence returns what its second half returns on what the first half did. -/
theorem yields_bind (p : Prog F α) (f : α → Prog F β) (r : β) :
    (p >>= f).Yields R s r s' ↔ ∃ a t, p.Yields R s a t ∧ (f a).Yields R t r s' := by
  induction p generalizing s with
  | done a => simp [and_assoc]
  | op o k ih =>
      simp only [op_bind, yields_op, ih]
      constructor
      · rintro ⟨b, t, hR, a, t', hk, hf⟩
        exact ⟨a, t', ⟨b, t, hR, hk⟩, hf⟩
      · rintro ⟨a, t', ⟨b, t, hR, hk⟩, hf⟩
        exact ⟨b, t, hR, a, t', hk, hf⟩

/-- Surroundings that can follow every answer of others see the same results. -/
theorem Yields.simulate {τ : Type w} {R' : (β : Type) → F β → τ → β → τ → Prop}
    {Sim : σ → τ → Prop}
    (hsim : ∀ (β : Type) (o : F β) (s : σ) (b : β) (t : σ) (s₁ : τ), Sim s s₁ → R β o s b t →
      ∃ t₁, Sim t t₁ ∧ R' β o s₁ b t₁)
    {p : Prog F α} {r : α} {s₁ : τ} (h : p.Yields R s r s') (hs : Sim s s₁) :
    ∃ s₁', Sim s' s₁' ∧ p.Yields R' s₁ r s₁' := by
  induction p generalizing s s₁ with
  | done a =>
      obtain ⟨rfl, rfl⟩ := h
      exact ⟨s₁, hs, rfl, rfl⟩
  | op o k ih =>
      obtain ⟨b, t, ho, hk⟩ := h
      obtain ⟨t₁, ht, ho'⟩ := hsim _ o s b t s₁ hs ho
      obtain ⟨s₁', hs', hk'⟩ := ih b hk ht
      exact ⟨s₁', hs', b, t₁, ho', hk'⟩

/-- What every answer to an allowed operation keeps holds when the program returns. -/
theorem Meets.yields {τ : Type w} {P : Protocol F σ} {Q : α → σ → Prop}
    {R' : (β : Type) → F β → τ → β → τ → Prop} {I : σ → τ → Prop}
    (hI : ∀ (β : Type) (o : F β) (a : σ) (t : τ) (b : β) (t' : τ), P.pre o a → I a t →
      R' β o t b t' → I (P.next o b a) t')
    {p : Prog F α} {a : σ} {t t' : τ} {r : α} (hp : p.Meets P a Q) (h : p.Yields R' t r t')
    (ht : I a t) : ∃ a', Q r a' ∧ I a' t' := by
  induction p generalizing a t with
  | done x =>
      obtain ⟨rfl, rfl⟩ := h
      exact ⟨a, hp, ht⟩
  | op o k ih =>
      obtain ⟨b, t₁, ho, hk⟩ := h
      exact ih b (hp.2 b) hk (hI _ o a t b t₁ hp.1 ht ho)

/-- Started as `p` in `s`, with operations answered as `R` allows, the program can get to
where `p'` is left of it, in `s'`. -/
inductive Leads (R : (β : Type) → F β → σ → β → σ → Prop) (p : Prog F α) (s : σ) :
    Prog F α → σ → Prop
  | refl : Leads R p s p s
  | step {β : Type} {o : F β} {k : β → Prog F α} {t t' : σ} {b : β}
      (h : Leads R p s (.op o k) t) (ho : R β o t b t') : Leads R p s (k b) t'

/-- A program returns what is returned by a program it gets to. -/
theorem Leads.yields {p p' : Prog F α} {t : σ} {r : α} (h : p.Leads R s p' t)
    (hp' : p'.Yields R t r s') : p.Yields R s r s' := by
  induction h with
  | refl => exact hp'
  | step _ ho ih => exact ih ⟨_, _, ho, hp'⟩

end Prog

end EvGrpc.Lib
