import EvGrpc.Lib.System
import Mathlib.Data.Int.Notation
import Mathlib.Data.List.Nodup
import Mathlib.Data.List.Perm.Basic

/-!
# The connection pool

`db/pool.cc`: the queue of idle connections and the `PgConn` handles, at the granularity
of single moves of a `unique_ptr`.  A connection is in the queue, in a live handle, or in
the hands of a running call: the local variable of an `acquire` that has left its critical
section and has not built its handle yet, or the argument of a `release` that has not
entered its own.  Any number of threads run, and the steps of their calls interleave.

Every connection that is handed out gets a number of its own (`Lease.ticket`), so that
"released exactly once" can be said of the single acquisition.
-/

namespace EvGrpc.PgPool

open Lib

/-! ## The constructor -/

/-- A connection, with the time zone of its session. -/
structure Connection where
  id : ℕ
  timeZone : String
  deriving DecidableEq

/-- `SET TIME ZONE …` -/
def Connection.setTimeZone (c : Connection) (tz : String) : Connection := { c with timeZone := tz }

/-- `PgPool::PgPool`: `size` connections, each with its time zone set before it is queued.
`connect i` is the time zone the `i`-th session comes up with, `none` if opening it throws;
`set i` says whether the statement goes through. -/
def openAll (connect : ℕ → Option String) (set : ℕ → Bool) (size : ℤ) : Option (List Connection) :=
  (List.range size.toNat).mapM fun i => do
    let conn : Connection := ⟨i, ← connect i⟩
    if set i then some (conn.setTimeZone "UTC") else none

/-! ## Handles and calls -/

/-- A connection that is out, and the acquisition that took it out. -/
structure Lease where
  conn : Connection
  ticket : ℕ
  deriving DecidableEq

/-- A `PgConn` object. -/
structure PgConn where
  /-- `pool_` is not null -/
  pool : Bool
  /-- `conn_` -/
  conn : Option Lease
  /-- it was the source of a move -/
  moved : Bool
  /-- its destructor has not run -/
  live : Bool
  deriving DecidableEq

/-- What a handle owns. -/
def PgConn.owned (h : PgConn) : List Lease := h.conn.toList

/-- The pool, the handles by address, and the running calls. -/
structure Pool where
  /-- `idle_`, front first -/
  idle : List Connection
  handles : List PgConn
  /-- the local variables of `acquire`s -/
  acquiring : List Lease
  /-- the arguments of `release`s -/
  releasing : List Lease
  /-- the acquisitions that were released -/
  released : List ℕ
  /-- the number of acquisitions -/
  tickets : ℕ

/-- The pool after its constructor. -/
def Pool.start (opened : List Connection) : Pool := ⟨opened, [], [], [], [], 0⟩

/-- A step of some thread. -/
inductive Step
  /-- the critical section of `acquire` -/
  | acquire
  /-- `return PgConn(this, std::move(c));` of the `k`-th running `acquire` -/
  | construct (k : ℕ)
  /-- the move constructor, from the handle at address `i` -/
  | move (i : ℕ)
  /-- the destructor of the handle at address `i`, on a return or an exception -/
  | destroy (i : ℕ)
  /-- the critical section of the `k`-th running `release` -/
  | release (k : ℕ)
  deriving DecidableEq

/-- The handle after its `conn_` was moved out of it. -/
def PgConn.emptied (h : PgConn) : PgConn := { h with pool := false, conn := none, moved := true }

/-- The handle after its destructor. -/
def PgConn.destroyed (h : PgConn) : PgConn := { h with conn := none, live := false }

/-- The effect of a step. -/
def Pool.act (s : Pool) : Step → Option Pool
  | .acquire =>
      match s.idle with
      | [] => none
      | c :: cs => some { s with
          idle := cs
          acquiring := s.acquiring ++ [⟨c, s.tickets⟩]
          tickets := s.tickets + 1 }
  | .construct k =>
      match s.acquiring[k]? with
      | none => none
      | some l => some { s with
          acquiring := s.acquiring.eraseIdx k
          handles := s.handles ++ [⟨true, some l, false, true⟩] }
  | .move i =>
      match s.handles[i]? with
      | none => none
      | some h =>
          if h.live then some { s with
            handles := s.handles.set i h.emptied ++ [⟨h.pool, h.conn, false, true⟩] }
          else none
  | .destroy i =>
      match s.handles[i]? with
      | none => none
      | some h =>
          if h.live then
            -- Without a pool to go to, the connection is closed with its handle.
            some { s with
              handles := s.handles.set i h.destroyed
              releasing := if h.pool then s.releasing ++ h.owned else s.releasing }
          else none
  | .release k =>
      match s.releasing[k]? with
      | none => none
      | some l => some { s with
          releasing := s.releasing.eraseIdx k
          idle := s.idle ++ [l.conn]
          released := s.released ++ [l.ticket] }

/-- States reached by any interleaving. -/
def Pool.Reached (s₀ s : Pool) : Prop := Reach Pool.act (fun _ _ => True) s₀ s

/-! ## Nothing is lost -/

/-- What the live handles own. -/
def Pool.owned (s : Pool) : List Lease := s.handles.flatMap PgConn.owned

/-- Everything that is out. -/
def Pool.leases (s : Pool) : List Lease := s.acquiring ++ (s.releasing ++ s.owned)

/-- A handle that has no pool to return its connection to has no connection; a handle that
was moved from or destroyed has none either. -/
structure PgConn.Sane (h : PgConn) : Prop where
  pool : h.pool = false → h.conn = none
  moved : h.moved = true → h.pool = false
  dead : h.live = false → h.conn = none

/-- An element and the others make up the list. -/
theorem perm_of_getElem? {α : Type} {l : List α} {k : ℕ} {a : α} (h : l[k]? = some a) :
    (a :: l.eraseIdx k).Perm l := by
  obtain ⟨hk, rfl⟩ := List.getElem?_eq_some_iff.mp h
  exact List.getElem_cons_eraseIdx_perm hk

/-- Everything a step can have done. -/
theorem Pool.act_cases {s s' : Pool} {a : Step} (hsane : ∀ h ∈ s.handles, h.Sane)
    (h : s.act a = some s') :
    (∃ c, s.idle = c :: s'.idle ∧ s'.released = s.released ∧ s'.tickets = s.tickets + 1 ∧
      s'.leases.Perm (⟨c, s.tickets⟩ :: s.leases)) ∨
    (s'.idle = s.idle ∧ s'.released = s.released ∧ s'.tickets = s.tickets ∧
      s'.leases.Perm s.leases) ∨
    ∃ l, s'.idle = s.idle ++ [l.conn] ∧ s'.released = s.released ++ [l.ticket] ∧
      s'.tickets = s.tickets ∧ s.leases.Perm (l :: s'.leases) := by
  cases a with
  | acquire =>
      simp only [Pool.act] at h
      split at h
      · cases h
      · rename_i c cs hidle
        cases h
        refine .inl ⟨c, hidle, rfl, rfl, ?_⟩
        simp only [Pool.leases, Pool.owned, List.append_assoc]
        exact List.perm_middle
  | construct k =>
      simp only [Pool.act] at h
      split at h
      · cases h
      · rename_i l hk
        cases h
        refine .inr (.inl ⟨rfl, rfl, rfl, ?_⟩)
        have hl := perm_of_getElem? hk
        simp only [Pool.leases, Pool.owned, List.flatMap_append, List.flatMap_singleton]
        refine List.Perm.trans ?_ (hl.append_right _)
        rw [← List.append_assoc, ← List.append_assoc, List.append_assoc _ s.releasing]
        exact List.perm_append_singleton _ _
  | move i =>
      simp only [Pool.act] at h
      split at h
      · cases h
      · rename_i x hi
        split at h
        · cases h
          refine .inr (.inl ⟨rfl, rfl, rfl, ?_⟩)
          simp only [Pool.leases, Pool.owned, List.flatMap_append, List.flatMap_singleton]
          refine (List.Perm.append_left _ (List.Perm.append_left _ ?_))
          have hset : (x.owned ++ (s.handles.set i x.emptied).flatMap PgConn.owned).Perm
              ([] ++ s.handles.flatMap PgConn.owned) :=
            perm_flatMap_set PgConn.owned hi (by simp [PgConn.emptied, PgConn.owned])
          exact List.perm_append_comm.trans hset
        · cases h
  | destroy i =>
      simp only [Pool.act] at h
      split at h
      · cases h
      · rename_i x hi
        have hx := hsane x (List.mem_of_getElem? hi)
        split at h
        · cases h
          refine .inr (.inl ⟨rfl, rfl, rfl, List.Perm.append_left _ ?_⟩)
          refine perm_flatMap_set PgConn.owned hi ?_
          by_cases hpool : x.pool = true
          · simp [hpool, PgConn.destroyed, PgConn.owned]
          · -- The connection would be lost, but there is none.
            have hnone := hx.pool (by simpa using hpool)
            simp [hpool, PgConn.destroyed, PgConn.owned, hnone]
        · cases h
  | release k =>
      simp only [Pool.act] at h
      split at h
      · cases h
      · rename_i l hk
        cases h
        refine .inr (.inr ⟨l, rfl, rfl, rfl, ?_⟩)
        have hl := perm_of_getElem? hk
        simp only [Pool.leases, Pool.owned]
        refine (List.Perm.append_left _ (hl.append_right _).symm).trans ?_
        exact List.perm_middle

/-! ## Every interleaving -/

theorem Pool.Reached.sane {s₀ s : Pool} (h : Pool.Reached s₀ s) (h₀ : s₀.handles = []) :
    ∀ x ∈ s.handles, x.Sane := by
  refine h.rec_invariant (I := fun s : Pool => ∀ x ∈ s.handles, x.Sane) (by simp [h₀]) ?_
  intro s a s' hI _ e x hx
  cases a with
  | acquire =>
      simp only [Pool.act] at e
      split at e
      · cases e
      · cases e
        exact hI x hx
  | construct k =>
      simp only [Pool.act] at e
      split at e
      · cases e
      · cases e
        rcases List.mem_append.mp hx with hx | hx
        · exact hI x hx
        · rw [List.mem_singleton.mp hx]
          exact ⟨fun hpool => (by cases hpool), fun hmoved => (by cases hmoved),
            fun hdead => (by cases hdead)⟩
  | move i =>
      simp only [Pool.act] at e
      split at e
      · cases e
      · rename_i y hi
        have hy := hI y (List.mem_of_getElem? hi)
        split at e
        · cases e
          rcases List.mem_append.mp hx with hx | hx
          · rcases List.mem_or_eq_of_mem_set hx with hx | rfl
            · exact hI x hx
            · exact ⟨fun _ => rfl, fun _ => rfl, fun _ => rfl⟩
          · rw [List.mem_singleton.mp hx]
            exact ⟨hy.pool, fun hmoved => (by cases hmoved), fun hdead => (by cases hdead)⟩
        · cases e
  | destroy i =>
      simp only [Pool.act] at e
      split at e
      · cases e
      · rename_i y hi
        have hy := hI y (List.mem_of_getElem? hi)
        split at e
        · cases e
          rcases List.mem_or_eq_of_mem_set hx with hx | rfl
          · exact hI x hx
          · exact ⟨fun _ => rfl, hy.moved, fun _ => rfl⟩
        · cases e
  | release k =>
      simp only [Pool.act] at e
      split at e
      · cases e
      · cases e
        exact hI x hx

/-- Connections and acquisitions are accounted for: a connection is in the queue or out,
an acquisition was released or is out, each exactly once. -/
structure Pool.Accounted (opened : List Connection) (s : Pool) : Prop where
  conns : (s.idle ++ s.leases.map Lease.conn).Perm opened
  tickets : (s.released ++ s.leases.map Lease.ticket).Perm (List.range s.tickets)

/-- A step moves them around. -/
theorem Pool.Accounted.act {opened : List Connection} {s s' : Pool} {a : Step}
    (hI : s.Accounted opened) (hsane : ∀ h ∈ s.handles, h.Sane) (e : s.act a = some s') :
    s'.Accounted opened := by
  rcases Pool.act_cases hsane e with
    ⟨c, hidle, hreleased, htickets, hperm⟩ | ⟨hidle, hreleased, htickets, hperm⟩ |
    ⟨l, hidle, hreleased, htickets, hperm⟩
  · refine ⟨?_, ?_⟩
    · have hconns := hI.conns
      rw [hidle, List.cons_append] at hconns
      exact ((hperm.map Lease.conn).append_left _).trans (List.perm_middle.trans hconns)
    · rw [hreleased, htickets, List.range_succ]
      refine ((hperm.map Lease.ticket).append_left _).trans ?_
      exact List.perm_middle.trans ((hI.tickets.cons _).trans (List.perm_append_singleton _ _).symm)
  · refine ⟨?_, ?_⟩
    · rw [hidle]
      exact ((hperm.map Lease.conn).append_left _).trans hI.conns
    · rw [hreleased, htickets]
      exact ((hperm.map Lease.ticket).append_left _).trans hI.tickets
  · refine ⟨?_, ?_⟩
    · rw [hidle, List.append_assoc]
      exact ((hperm.map Lease.conn).append_left _).symm.trans hI.conns
    · rw [hreleased, htickets, List.append_assoc]
      exact ((hperm.map Lease.ticket).append_left _).symm.trans hI.tickets

theorem Pool.Reached.accounted {opened : List Connection} {s : Pool}
    (h : Pool.Reached (.start opened) s) : s.Accounted opened := by
  refine h.rec_invariant_of (I := fun s => Pool.Reached (.start opened) s)
    (J := Pool.Accounted opened) (fun _ h => h) ?_ ?_
  · exact ⟨by simp [Pool.start, Pool.leases, Pool.owned],
      by simp [Pool.start, Pool.leases, Pool.owned]⟩
  · intro s a s' hreach hI _ e
    exact hI.act (hreach.sane rfl) e

/-- The constructor opens the connections `0, 1, …`, all of them in UTC. -/
theorem openAll_eq_some {connect : ℕ → Option String} {set : ℕ → Bool} {size : ℤ}
    {opened : List Connection} (h : openAll connect set size = some opened) :
    opened = (List.range size.toNat).map fun i => ⟨i, "UTC"⟩ := by
  unfold openAll at h
  generalize List.range size.toNat = is at h ⊢
  induction is generalizing opened with
  | nil =>
      cases h
      rfl
  | cons i is ih =>
      simp only [List.mapM_cons, Option.bind_eq_bind, Option.bind_eq_some_iff] at h
      obtain ⟨c, ⟨tz, -, hc⟩, cs, hcs, ho⟩ := h
      split at hc
      · cases hc
        cases ho
        rw [ih hcs]
        rfl
      · cases hc

/-- Handles that own the same connection are the same handle. -/
theorem Pool.Accounted.address_unique {opened : List Connection} {s : Pool}
    (h : s.Accounted opened) (hnodup : opened.Nodup) {i j : ℕ} {x y : PgConn} {l l' : Lease}
    (hi : s.handles[i]? = some x) (hj : s.handles[j]? = some y) (hx : x.conn = some l)
    (hy : y.conn = some l') (hconn : l.conn = l'.conn) : i = j := by
  have hall : (s.idle ++ s.leases.map Lease.conn).Nodup := h.conns.nodup_iff.mpr hnodup
  have howned : (s.handles.flatMap fun h => h.owned.map Lease.conn).Nodup := by
    have hout := (List.nodup_append.mp hall).2.1
    rw [Pool.leases, List.map_append, List.map_append] at hout
    have hout := (List.nodup_append.mp (List.nodup_append.mp hout).2.1).2.1
    rwa [Pool.owned, List.map_flatMap] at hout
  have hmem : ∀ {z : PgConn} {m : Lease}, z.conn = some m → m.conn ∈ z.owned.map Lease.conn := by
    intro z m hz
    simp [PgConn.owned, hz]
  have hpair := (List.nodup_flatMap.mp howned).2
  obtain ⟨hilt, rfl⟩ := List.getElem?_eq_some_iff.mp hi
  obtain ⟨hjlt, rfl⟩ := List.getElem?_eq_some_iff.mp hj
  rcases Nat.lt_trichotomy i j with hlt | heq | hlt
  · exact absurd (hconn ▸ hmem hy) (List.pairwise_iff_getElem.mp hpair i j hilt hjlt hlt (hmem hx))
  · exact heq
  · exact absurd (hconn ▸ hmem hx) (List.pairwise_iff_getElem.mp hpair j i hjlt hilt hlt (hmem hy))

/-- **Connections are conserved.**  In every state that any interleaving of the calls
reaches:

* the idle queue, the live handles and the running calls hold exactly the connections the
  constructor opened, each of them once, and when no `acquire` or `release` is on its way
  between its critical section and its handle, the queue and the handles alone do;
* no two handles own one connection, and a handle that was moved from owns none;
* every acquisition was released once or is still out, and then it is out once;
* every connection that is out has its time zone set to UTC. -/
theorem connections_conserved {connect : ℕ → Option String} {set : ℕ → Bool} {size : ℤ}
    {opened : List Connection} (hopen : openAll connect set size = some opened) {s : Pool}
    (h : Pool.Reached (.start opened) s) :
    (opened.map Connection.id = List.range size.toNat ∧
      (s.idle ++ s.leases.map Lease.conn).Perm opened ∧
      (s.acquiring = [] → s.releasing = [] →
        (s.idle ++ s.owned.map Lease.conn).Perm opened)) ∧
    ((∀ (i j : ℕ) (x y : PgConn) (l l' : Lease), s.handles[i]? = some x →
        s.handles[j]? = some y → x.conn = some l → y.conn = some l' → l.conn = l'.conn → i = j) ∧
      ∀ x ∈ s.handles, x.moved = true → x.conn = none) ∧
    (s.released ++ s.leases.map Lease.ticket).Perm (List.range s.tickets) ∧
    ∀ l ∈ s.leases, l.conn.timeZone = "UTC" := by
  have hacc := h.accounted
  have hsane := h.sane rfl
  have hopened := openAll_eq_some hopen
  have hids : opened.map Connection.id = List.range size.toNat := by
    rw [hopened, List.map_map]
    exact List.map_id _
  have hnodup : opened.Nodup := List.Nodup.of_map Connection.id (hids ▸ List.nodup_range)
  refine ⟨⟨hids, hacc.conns, ?_⟩, ⟨?_, ?_⟩, hacc.tickets, ?_⟩
  · intro hacquiring hreleasing
    have hconns := hacc.conns
    rwa [Pool.leases, hacquiring, hreleasing, List.nil_append, List.nil_append] at hconns
  · intro i j x y l l' hi hj hx hy hconn
    exact hacc.address_unique hnodup hi hj hx hy hconn
  · intro x hx hmoved
    exact (hsane x hx).pool ((hsane x hx).moved hmoved)
  · intro l hl
    have hmem : l.conn ∈ opened :=
      hacc.conns.subset (List.mem_append_right _ (List.mem_map_of_mem hl))
    rw [hopened] at hmem
    obtain ⟨i, -, hi⟩ := List.mem_map.mp hmem
    rw [← hi]

/-- One of two connections is taken out, its handle is moved and both handles are
destroyed; the other is taken out, too. -/
def takeAndMove : List Step :=
  [.acquire, .construct 0, .move 0, .acquire, .destroy 0, .destroy 1, .release 0, .construct 0]

/-- Afterwards the first connection is back, and the second is in the third handle. -/
theorem connections_conserved_two :
    ∃ opened s, openAll (fun _ => some "Asia/Shanghai") (fun _ => true) 2 = some opened ∧
      Pool.Reached (.start opened) s ∧ s.idle = [⟨0, "UTC"⟩] ∧
      (s.idle ++ s.owned.map Lease.conn).Perm opened := by
  have hrun : ∃ s, Pool.Reached (.start [⟨0, "UTC"⟩, ⟨1, "UTC"⟩]) s ∧
      s.idle = [⟨0, "UTC"⟩] ∧ s.acquiring = [] ∧ s.releasing = [] :=
    exists_reach takeAndMove (by decide)
  obtain ⟨s, hreach, hidle, hacquiring, hreleasing⟩ := hrun
  have hopen : openAll (fun _ => some "Asia/Shanghai") (fun _ => true) 2 =
      some [⟨0, "UTC"⟩, ⟨1, "UTC"⟩] := by decide
  exact ⟨_, s, hopen, hreach, hidle,
    (connections_conserved hopen hreach).1.2.2 hacquiring hreleasing⟩

end EvGrpc.PgPool
