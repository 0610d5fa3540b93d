import EvGrpc.Lib.History
import Mathlib.Algebra.Ring.Nat

/-!
# Programs that end, and runs that are short

`Prog.Within n` says that a program performs at most `n` operations, whatever the replies
are.  When every request's program does, a run in which `m` requests came in has at most
`(n + 1) * m` actions (`Run.length_le`), so that no schedule goes on for ever.
-/

namespace EvGrpc.Lib

universe u v w x y

namespace Prog

variable {F : Type → Type u} {α β : Type}

/-- The program performs at most `n` operations. -/
def Within : Prog F α → ℕ → Prop
  | .done _, _ => True
  | .op _ k, n => 0 < n ∧ ∀ r, (k r).Within (n - 1)

@[simp] theorem within_done (a : α) (n : ℕ) : (Prog.done a : Prog F α).Within n := trivial

theorem within_op {o : F β} {k : β → Prog F α} {n : ℕ} (h : ∀ r, (k r).Within n) :
    (Prog.op o k).Within (n + 1) :=
  ⟨Nat.succ_pos n, h⟩

theorem Within.mono {p : Prog F α} {m n : ℕ} (h : p.Within m) (hmn : m ≤ n) : p.Within n := by
  induction p generalizing m n with
  | done a => trivial
  | op o k ih =>
      obtain ⟨hm, hk⟩ := h
      exact ⟨by omega, fun r => ih r (hk r) (by omega)⟩

/-- A sequence performs the operations of its halves. -/
theorem Within.bind {p : Prog F α} {f : α → Prog F β} {m n : ℕ} (hp : p.Within m)
    (hf : ∀ a, (f a).Within n) : (p >>= f).Within (m + n) := by
  induction p generalizing m with
  | done a => exact (hf a).mono (by omega)
  | op o k ih =>
      obtain ⟨hm, hk⟩ := hp
      exact ⟨by omega, fun r => (ih r (hk r)).mono (by omega)⟩

end Prog

section Runs
variable {F : Type → Type u} {R : Type v} {W : Type w} {T : Type x} {C : Type y} {α : Type}
variable {M : Machine F W T C} {handle : R → Prog F α} {fresh : T}

/-- The tasks have at most so many operations left. -/
structure Budgets (s : State F R W T α) (bs : List ℕ) : Prop where
  length_eq : bs.length = s.tasks.length
  within : ∀ (i : ℕ) (x : Task F R T α) (b : ℕ), s.tasks[i]? = some x → bs[i]? = some b →
    x.prog.Within b

/-- Spending one of a list of budgets. -/
theorem sum_set_pred {bs : List ℕ} {i b : ℕ} (hi : bs[i]? = some b) (hb : 0 < b) :
    (bs.set i (b - 1)).sum + 1 = bs.sum := by
  induction bs generalizing i with
  | nil => cases hi
  | cons c bs ih =>
      cases i with
      | zero =>
          cases hi
          simp only [List.set_cons_zero, List.sum_cons]
          omega
      | succ i =>
          have := ih hi
          simp only [List.set_cons_succ, List.sum_cons]
          omega

/-- An action is paid for: a step by the budget of its task. -/
theorem Budgets.act {s s' : State F R W T α} {a : Action R C} {bs : List ℕ} {N : ℕ}
    (hN : ∀ r, (handle r).Within N) (h : Budgets s bs) (e : s.act M handle fresh a = some s') :
    ∃ bs', Budgets s' bs' ∧
      bs'.sum + 1 + (N + 1) * s.tasks.length ≤ bs.sum + (N + 1) * s'.tasks.length := by
  obtain ⟨hlen, hwithin⟩ := h
  rcases State.act_cases e with ⟨r, -, rfl⟩ | ⟨i, c, r, t, β, o, k, b, w, t', -, hi, -, rfl⟩
  · refine ⟨bs ++ [N], ⟨by simp [hlen], ?_⟩, ?_⟩
    · intro j x b hx hb
      by_cases hj : j < s.tasks.length
      · rw [List.getElem?_append_left hj] at hx
        rw [List.getElem?_append_left (hlen ▸ hj)] at hb
        exact hwithin j x b hx hb
      · have hj' : j = s.tasks.length := by
          have := (List.getElem?_eq_some_iff.mp hx).1
          simp only [List.length_append, List.length_singleton] at this
          omega
        subst hj'
        rw [List.getElem?_concat_length] at hx
        rw [← hlen, List.getElem?_concat_length] at hb
        cases hx
        cases hb
        exact hN r
    · simp only [List.sum_append, List.sum_singleton, List.length_append, List.length_singleton,
        Nat.mul_add]
      omega
  · have hlt := (List.getElem?_eq_some_iff.mp hi).1
    obtain ⟨n, hn⟩ : ∃ n, bs[i]? = some n := ⟨_, List.getElem?_eq_getElem (hlen ▸ hlt)⟩
    obtain ⟨hpos, hk⟩ := hwithin i _ n hi hn
    refine ⟨bs.set i (n - 1), ⟨by simp [hlen], ?_⟩, ?_⟩
    · intro j x m hx hm
      by_cases hij : i = j
      · subst hij
        rw [List.getElem?_set_self hlt] at hx
        rw [List.getElem?_set_self (hlen ▸ hlt)] at hm
        cases hx
        cases hm
        exact hk b
      · rw [List.getElem?_set_ne hij] at hx hm
        exact hwithin j x m hx hm
    · have hsum := sum_set_pred hn hpos
      simp only [List.length_set]
      omega

/-- A run in which `m` requests came in has at most `(N + 1) * m` actions. -/
theorem Run.length_le {s₀ s : State F R W T α} {past : List (State F R W T α × Action R C)} {N : ℕ}
    (h : Run (State.act M handle fresh) s₀ past s) (h₀ : s₀.tasks = [])
    (hN : ∀ r, (handle r).Within N) : past.length ≤ (N + 1) * s.tasks.length := by
  have hpaid : ∃ bs, Budgets s bs ∧ past.length + bs.sum ≤ (N + 1) * s.tasks.length := by
    induction h with
    | init => exact ⟨[], ⟨by simp [h₀], by simp [h₀]⟩, by simp⟩
    | step _ e ih =>
        obtain ⟨bs, hbs, hsum⟩ := ih
        obtain ⟨bs', hbs', hle⟩ := hbs.act hN e
        refine ⟨bs', hbs', ?_⟩
        simp only [List.length_append, List.length_singleton]
        omega
  obtain ⟨bs, -, hsum⟩ := hpaid
  omega

end Runs

end EvGrpc.Lib
