import EvGrpc.Discipline

/-!
# The connection pool

The server is deadlocked when no connection is idle and every call that holds one
waits inside `PgPool::acquire` for another.  Only `CreateVehicle` asks for a
connection while it holds one, so it takes as many of these calls as there are
connections, each with its first connection in hand: four of them stop the server
for good (`deadlock_reached`).

As long as one connection is kept out of the hands of `CreateVehicle`, no
interleaving of any calls gets there (`not_deadlocked`).  The count behind it is
`Server.Reached.conns_conserved`: idle and held connections are together the
connections the pool opened.
-/

namespace EvGrpc

open Lib

/-- The handler waits inside `PgPool::acquire`. -/
def atAcquire {α : Type} : Prog Op α → Bool
  | .op .acquire _ => true
  | _ => false

/-- All connections are out, and every call that holds one waits for another. -/
def Server.Deadlocked (s : Server) : Prop :=
  s.world.idle = [] ∧ ∀ x ∈ s.tasks, x.loc.conns ≠ [] → atAcquire x.prog = true

instance (s : Server) : Decidable s.Deadlocked := inferInstanceAs (Decidable (_ ∧ _))

/-! ## Conservation -/

/-- Idle and held connections are the connections of the pool, each once. -/
theorem Server.Reached.conns_conserved {Ok : Server → ServerAction → Prop} {db : Database} {n : ℕ}
    {issued : List Uuid} {s : Server} (h : Server.Reached Ok (Server.start db n issued) s) :
    (s.world.idle ++ s.tasks.flatMap fun x => x.loc.conns).Perm (List.range n) := by
  have := resources_conserved World.idle Local.conns rfl
    (fun _ _ _ _ _ _ _ _ => step_conns) h
  simpa [Server.start, World.start] using this

/-! ## Calls that nest -/

/-- The call is a `CreateVehicle` with a connection. -/
def nestingHolder (x : Task Op Call Local (Reply Response)) : Bool :=
  x.req.req.nests && decide (x.loc.conns ≠ [])

/-- The number of `CreateVehicle` calls that hold a connection. -/
def Server.nesting (s : Server) : ℕ := s.tasks.countP nestingHolder

/-- The action lets a `CreateVehicle` call take its first connection. -/
def Server.startsNesting (s : Server) : ServerAction → Bool
  | .spawn _ => false
  | .step i _ =>
      match s.tasks[i]? with
      | some x => x.req.req.nests && decide (x.loc.conns = []) && atAcquire x.prog
      | none => false

/-- A `CreateVehicle` call takes its first connection only while another one is left
for the second: fewer than `n - 1` calls of this kind hold a connection. -/
def LeavesSpare (n : ℕ) (s : Server) (a : ServerAction) : Prop :=
  s.startsNesting a = true → s.nesting + 1 < n

instance (n : ℕ) (s : Server) (a : ServerAction) : Decidable (LeavesSpare n s a) :=
  inferInstanceAs (Decidable (_ → _))

/-- A step gives a handler its first connection only in `acquire`. -/
theorem step_first_conn {β α : Type} {o : Op β} {k : β → Prog Op α} {c : Choice} {w w' : World}
    {t t' : Local} {b : β} (h : machine.step o c w t = some (b, w', t')) (ht : t.conns = [])
    (ht' : t'.conns ≠ []) : atAcquire (.op o k) = true := by
  cases o with
  | acquire => rfl
  | release => simp [machine, ht] at h
  | _ =>
      exfalso
      simp only [machine] at h
      repeat' split at h
      all_goals cases h
      all_goals exact ht' ht

/-- Under the rule, fewer `CreateVehicle` calls hold connections than there are
connections. -/
theorem nesting_lt {db : Database} {n : ℕ} {issued : List Uuid} {s : Server} (hn : 1 ≤ n)
    (h : Server.Reached (LeavesSpare n) (Server.start db n issued) s) : s.nesting < n := by
  refine h.rec_invariant (I := fun s : Server => s.nesting < n) hn ?_
  intro s a s' hI hok e
  rcases State.act_cases e with ⟨call, -, rfl⟩ | ⟨i, c, call, t, β, o, k, b, w, t', rfl, hi, hs, rfl⟩
  · simpa [Server.nesting, nestingHolder, Local.fresh] using hI
  · obtain ⟨hlt, hx⟩ := List.getElem?_eq_some_iff.mp hi
    have hcount : Server.nesting ⟨w, s.tasks.set i ⟨call, t', k b⟩⟩ =
        s.nesting - (if nestingHolder ⟨call, t, .op o k⟩ then 1 else 0) +
          (if nestingHolder ⟨call, t', k b⟩ then 1 else 0) := by
      simp only [Server.nesting, List.countP_set hlt, hx]
    rw [hcount]
    by_cases hnew : nestingHolder ⟨call, t', k b⟩ = true
    · by_cases hold : nestingHolder ⟨call, t, .op o k⟩ = true
      · simp only [hnew, hold, if_true]
        have : 0 < s.nesting := List.countP_pos_iff.mpr ⟨_, List.mem_of_getElem? hi, hold⟩
        omega
      · -- The call has just taken its first connection, so the rule was in force.
        simp only [nestingHolder, Bool.and_eq_true, decide_eq_true_eq] at hnew hold
        have ht : t.conns = [] := by
          by_contra hne
          exact hold ⟨hnew.1, hne⟩
        have hstart : s.startsNesting (.step i c) = true := by
          simp [Server.startsNesting, hi, hnew.1, ht, step_first_conn (k := k) hs ht hnew.2]
        have := hok hstart
        split <;> split <;> omega
    · simp only [if_neg hnew]
      have : s.nesting < n := hI
      omega

/-! ## Deadlock -/

/-- A call that waits with a connection in hand is a `CreateVehicle` with one. -/
theorem waiting_holder {x : Task Op Call Local (Reply Response)} (hd : Disciplined x)
    (hwait : atAcquire x.prog = true) (hconn : x.loc.conns ≠ []) :
    x.loc.conns.length = 1 ∧ nestingHolder x = true := by
  obtain ⟨call, t, p⟩ := x
  cases p with
  | done a => cases hwait
  | op o k =>
      cases o with
      | acquire =>
          have hacq : MayAcquire call.req t.conns.length := hd.meets.1
          rcases hacq with h | ⟨h, hnests⟩
          · exact absurd (List.length_eq_zero_iff.mp h) hconn
          · exact ⟨h, by simp [nestingHolder, hnests, hconn]⟩
      | _ => cases hwait

private theorem sum_indicator_eq_countP {α : Type*} (p : α → Bool) (l : List α) :
    (l.map fun x => if p x then 1 else 0).sum = l.countP p := by
  induction l with
  | nil => rfl
  | cons a l ih => rw [List.map_cons, List.sum_cons, ih, List.countP_cons, Nat.add_comm]

/-- In a deadlock every connection is in the hands of a `CreateVehicle` call of its
own. -/
theorem Server.Deadlocked.nesting_eq {Ok : Server → ServerAction → Prop} {db : Database} {n : ℕ}
    {issued : List Uuid} {s : Server} (h : Server.Reached Ok (Server.start db n issued) s)
    (hdead : s.Deadlocked) : s.nesting = n := by
  have hlen := h.conns_conserved.length_eq
  rw [hdead.1, List.nil_append, List.length_range, List.length_flatMap] at hlen
  -- Each call holds one connection if it is counted and none if it is not.
  have hone : ∀ x ∈ s.tasks, x.loc.conns.length = if nestingHolder x then 1 else 0 := by
    intro x hx
    by_cases hconn : x.loc.conns = []
    · simp [nestingHolder, hconn]
    · obtain ⟨h1, h2⟩ := waiting_holder (h.disciplined rfl x hx) (hdead.2 x hx hconn) hconn
      simp [h1, h2]
  rw [List.map_congr_left hone, sum_indicator_eq_countP] at hlen
  exact hlen

/-- While one connection is kept from the `CreateVehicle` calls, no interleaving of
any calls deadlocks the server. -/
theorem not_deadlocked {n : ℕ} (hn : 1 ≤ n) {db : Database} {issued : List Uuid} {s : Server}
    (h : Server.Reached (LeavesSpare n) (Server.start db n issued) s) : ¬ s.Deadlocked := by
  intro hdead
  have hlt := nesting_lt hn h
  have heq := hdead.nesting_eq h
  omega

/-! ## Two runs -/

/-- The `i`-th call creates a vehicle and stops where the nested `GetVehicle` asks for
a connection: prologue, `acquire`, transaction, id, statement, commit, prologue. -/
def createUpToRead (i : ℕ) (licensePlate : String) (n : Fin 256) : List ServerAction :=
  firstSteps i (.createVehicle (someVehicle licensePlate)) (someUuid n) 9

/-- Four clients create a vehicle each, and the server with its four connections never
answers again. -/
theorem deadlock_reached :
    ∃ s, Server.Reached (fun _ _ => True) (Server.start .empty 4 []) s ∧ s.Deadlocked :=
  exists_reach (createUpToRead 0 "A" 0 ++ createUpToRead 1 "B" 1 ++ createUpToRead 2 "C" 2 ++
    createUpToRead 3 "D" 3) (by decide +kernel)

/-- With two connections, one `CreateVehicle` at a time gets both and is not stuck. -/
theorem not_deadlocked_two : ∃ s, Server.Reached (LeavesSpare 2) (Server.start .empty 2 []) s ∧
    s.world.idle = [] ∧ ¬ s.Deadlocked := by
  have hrun : ∃ s, Server.Reached (LeavesSpare 2) (Server.start .empty 2 []) s ∧
      s.world.idle = [] :=
    exists_reach (createUpToRead 0 "A" 0 ++ [.step 0 {}]) (by decide +kernel)
  obtain ⟨s, hreach, hidle⟩ := hrun
  exact ⟨s, hreach, hidle, not_deadlocked (by decide) hreach⟩

end EvGrpc
