import EvGrpc.Lib.Prog
import Mathlib.Order.Basic

/-!
# Programs whose operations are answered

When every operation has its answer, a program has one run: it returns a value
(`Prog.result`) and performs a list of operations (`Prog.performed`).  Both are computed along
the program, and those of a sequence from those of its halves.

A program that throws is an `ExceptT` over programs; `result_try` and `performed_try` are the
same for these.

`Prog.Staged` is an order on what is performed: some operations belong to stages, and every
stage comes at most once and in its turn.
-/

namespace EvGrpc.Lib

universe u

/-- An answer to each operation. -/
abbrev Answers (F : Type → Type u) := (β : Type) → F β → β

namespace Prog
variable {F : Type → Type u} {α β γ ε : Type} (answer : Answers F)

/-- What the program returns. -/
def result : Prog F α → α
  | .done a => a
  | .op o k => (k (answer _ o)).result

/-- The operations of the program, in order. -/
def performed : Prog F α → List (Sigma F)
  | .done _ => []
  | .op o k => ⟨_, o⟩ :: (k (answer _ o)).performed

@[simp] theorem result_done (a : α) : (Prog.done a : Prog F α).result answer = a := rfl
@[simp] theorem result_op (o : F β) (k : β → Prog F α) :
    (Prog.op o k).result answer = (k (answer _ o)).result answer := rfl
@[simp] theorem performed_done (a : α) : (Prog.done a : Prog F α).performed answer = [] := rfl
@[simp] theorem performed_op (o : F β) (k : β → Prog F α) :
    (Prog.op o k).performed answer = ⟨_, o⟩ :: (k (answer _ o)).performed answer := rfl

@[simp] theorem result_bind (p : Prog F α) (f : α → Prog F β) :
    (p >>= f).result answer = (f (p.result answer)).result answer := by
  induction p with
  | done a => rfl
  | op o k ih => simp only [op_bind, result_op, ih]

@[simp] theorem performed_bind (p : Prog F α) (f : α → Prog F β) :
    (p >>= f).performed answer = p.performed answer ++ (f (p.result answer)).performed answer := by
  induction p with
  | done a => rfl
  | op o k ih => simp only [op_bind, performed_op, result_op, ih, List.cons_append]

@[simp] theorem result_call (o : F β) : (call o).result answer = answer _ o := rfl
@[simp] theorem performed_call (o : F β) : (call o).performed answer = [⟨_, o⟩] := rfl

/-! ## Programs that throw -/

/-- A sequence returns what its second half returns, unless its first half throws. -/
theorem result_try (m : ExceptT ε (Prog F) α) (f : α → ExceptT ε (Prog F) β) :
    (m >>= f).run.result answer =
      (match m.run.result answer with
        | .error e => .error e
        | .ok a => (f a).run.result answer) := by
  rw [ExceptT.run_bind, result_bind]
  cases m.run.result answer <;> rfl

theorem performed_try (m : ExceptT ε (Prog F) α) (f : α → ExceptT ε (Prog F) β) :
    (m >>= f).run.performed answer = m.run.performed answer ++
      (match m.run.result answer with
        | .error _ => []
        | .ok a => (f a).run.performed answer) := by
  rw [ExceptT.run_bind, performed_bind]
  cases m.run.result answer <;> rfl

/-! ## Stages -/

section Stages
variable {ι : Type} [Preorder ι] {answer} {stage : Sigma F → Option ι} {lo mid hi : ι}

/-- The operations that belong to a stage come in the order of their stages, each once; the
stages lie between `lo` and `hi`, without `hi`. -/
structure Staged (answer : Answers F) (stage : Sigma F → Option ι) (lo hi : ι) (p : Prog F α) :
    Prop where
  ordered : ((p.performed answer).filterMap stage).Pairwise (· < ·)
  within : ∀ x ∈ (p.performed answer).filterMap stage, lo ≤ x ∧ x < hi

/-- A program without operations that belong to a stage. -/
theorem staged_of_unstaged {p : Prog F α} (h : ∀ o ∈ p.performed answer, stage o = none) :
    Staged answer stage lo hi p := by
  have hnone : (p.performed answer).filterMap stage = [] := List.filterMap_eq_nil_iff.mpr h
  constructor <;> simp [hnone]

theorem staged_done (a : α) : Staged answer stage lo hi (Prog.done a : Prog F α) :=
  staged_of_unstaged (by simp)

/-- The stages of a program may be looked for further. -/
theorem Staged.mono {p : Prog F α} {lo' hi' : ι} (h : Staged answer stage lo hi p) (hlo : lo' ≤ lo)
    (hhi : hi ≤ hi') : Staged answer stage lo' hi' p where
  ordered := h.ordered
  within := fun x hx => ⟨hlo.trans (h.within x hx).1, (h.within x hx).2.trans_le hhi⟩

/-- The second half of a sequence begins where the first half ends. -/
theorem Staged.bind {p : Prog F α} {f : α → Prog F β} (hp : Staged answer stage lo mid p)
    (hf : Staged answer stage mid hi (f (p.result answer))) (hlo : lo ≤ mid) (hhi : mid ≤ hi) :
    Staged answer stage lo hi (p >>= f) where
  ordered := by
    rw [performed_bind, List.filterMap_append, List.pairwise_append]
    refine ⟨hp.ordered, hf.ordered, ?_⟩
    intro x hx y hy
    exact (hp.within x hx).2.trans_le (hf.within y hy).1
  within := by
    intro x hx
    rw [performed_bind, List.filterMap_append, List.mem_append] at hx
    rcases hx with hx | hx
    · exact ⟨(hp.within x hx).1, (hp.within x hx).2.trans_le hhi⟩
    · exact ⟨hlo.trans (hf.within x hx).1, (hf.within x hx).2⟩

/-- The second half of a sequence that throws is not there. -/
theorem Staged.try {m : ExceptT ε (Prog F) α} {f : α → ExceptT ε (Prog F) β}
    (hm : Staged answer stage lo mid m.run)
    (hf : ∀ a, m.run.result answer = .ok a → Staged answer stage mid hi (f a).run) (hlo : lo ≤ mid)
    (hhi : mid ≤ hi) : Staged answer stage lo hi (m >>= f).run := by
  rw [ExceptT.run_bind]
  refine hm.bind ?_ hlo hhi
  cases h : m.run.result answer with
  | error e => exact staged_done _
  | ok a => exact hf a h

end Stages

end Prog

end EvGrpc.Lib
