import EvGrpc.Rpc.Op
import EvGrpc.Lib.System

/-!
# What the operations do

The machine the handlers run on: the database with its committed rows, the idle
queue of the pool, the identifiers `NewUuid` has drawn, and the log.  Each handler
has the connections it holds, the statements of its open transaction and its open
log scopes to itself.

A transaction is read committed.  A statement runs on the committed rows together
with the transaction's own earlier statements, and `commit` applies these statements
to the rows committed by then.  PostgreSQL's locks see to it that a statement
answers at commit as it answered when it ran; here a transaction whose statements
would answer differently is one whose commit fails.  Every schedule PostgreSQL
allows is a schedule of this machine, in which a statement that would have waited
for a lock is taken later.

What is not the server's to decide is in a `Choice`: the verdict on a token, the
identifiers drawn, whether an operation throws, and the order in which a query
meets the rows.
-/

namespace EvGrpc

open Lib

/-! ## Correlation ids -/

/-- `std::hex << std::setw(16) << std::setfill('0')` -/
def hexWord (a : UInt64) : List Char :=
  (List.range 16).reverse.map fun i => hexDigit (a.toNat / 16 ^ i % 16)

/-- `NewReqId` of `util/req_id.cc`, from the two words it draws. -/
def newReqId (a b : UInt64) : String := String.ofList (hexWord a ++ hexWord b)

theorem length_newReqId (a b : UInt64) : (newReqId a b).length = 32 := by
  simp [newReqId, hexWord]

/-- A correlation id is not empty, so `RpcScope` keeps the one it is given. -/
theorem newReqId_ne_empty (a b : UInt64) : newReqId a b ≠ "" := by
  intro h
  have hlen := length_newReqId a b
  rw [h] at hlen
  cases hlen

/-! ## State -/

/-- A connection of the pool. -/
abbrev ConnId := ℕ

/-- A line of the `auth` or the `service` logger. -/
inductive LogLine
  | auth (method subject reason reqId : String)
  | entry (reqId method subject : String)
  | exit (reqId method : String) (status : ℕ)
  deriving DecidableEq

/-- An open `RpcScope`. -/
structure Scope where
  reqId : String
  method : String
  status : Status

/-- A statement of an open transaction, with what it answered. -/
structure Pending where
  {ρ : Type}
  stmt : Write ρ
  answer : ρ

/-- What all handlers share. -/
structure World where
  db : Database
  idle : List ConnId
  issued : List Uuid
  log : List LogLine

/-- What one handler has to itself. -/
structure Local where
  /-- the connections of its live `PgConn`s, innermost first -/
  conns : List ConnId
  /-- the statements of its open transaction -/
  pending : List Pending
  /-- its live `RpcScope`s, innermost first -/
  scopes : List Scope
  /-- the lines it logged -/
  lines : List LogLine
  /-- the identifiers it drew -/
  ids : List Uuid
  /-- whether it committed -/
  committed : Bool
  /-- whether a query of it was answered -/
  hasRead : Bool

/-- A handler that has not started. -/
def Local.fresh : Local := ⟨[], [], [], [], [], false, false⟩

/-- The server with `n` connections on a database whose rows have the ids `issued`. -/
def World.start (db : Database) (n : ℕ) (issued : List Uuid) : World :=
  ⟨db, List.range n, issued, []⟩

/-- What is decided outside the server. -/
structure Choice where
  verdict : Verdict := .accepted "" "ok"
  rng : UInt64 × UInt64 := (0, 0)
  uuid : Uuid := Uuid.nil
  fault : Option Exn := none
  order : Option Database := none

/-- The correlation id `NewReqId` makes of the words drawn. -/
def Choice.reqId (c : Choice) : String := newReqId c.rng.1 c.rng.2

/-! ## Statements -/

/-- Apply the statements of a transaction; `none` when one of them would not answer
as it did. -/
def replay (db : Database) : List Pending → Option Database
  | [] => some db
  | p :: ps =>
      match p.stmt.run db with
      | .ok (r, db') =>
          match p.stmt.decEq r p.answer with
          | isTrue _ => replay db' ps
          | isFalse _ => none
      | .error _ => none

@[simp] theorem replay_nil (db : Database) : replay db [] = some db := rfl

/-- The first statement answers as it did, and the others do after it. -/
theorem replay_cons {ρ : Type} (db db' : Database) (w : Write ρ) (r : ρ) (ps : List Pending) :
    replay db (⟨w, r⟩ :: ps) = some db' ↔
      ∃ db₁, w.run db = .ok (r, db₁) ∧ replay db₁ ps = some db' := by
  simp only [replay]
  cases h : w.run db with
  | error e => simp
  | ok x =>
      obtain ⟨r', db₁⟩ := x
      simp only [Except.ok.injEq, Prod.mk.injEq]
      cases hd : w.decEq r' r with
      | isTrue e =>
          subst e
          simp
      | isFalse e => simp [e]

/-- A statement at the end runs after the others. -/
theorem replay_append {ρ : Type} (db db' : Database) (ps : List Pending) (w : Write ρ) (r : ρ) :
    replay db (ps ++ [⟨w, r⟩]) = some db' ↔
      ∃ v, replay db ps = some v ∧ w.run v = .ok (r, db') := by
  induction ps generalizing db with
  | nil =>
      rw [List.nil_append, replay_cons]
      simp [and_comm]
  | cons p ps ih =>
      obtain ⟨q, a⟩ := p
      simp only [List.cons_append, replay_cons, ih]
      constructor
      · rintro ⟨db₁, hq, v, hv, hw⟩
        exact ⟨v, ⟨db₁, hq, hv⟩, hw⟩
      · rintro ⟨v, ⟨db₁, hq, hv⟩, hw⟩
        exact ⟨db₁, hq, v, hv, hw⟩

/-- The exception of a transaction that lost a conflict. -/
def serializationFailure : Exn := ⟨.sqlError, "could not serialize access"⟩

/-- The rows a query meets: those it may see, in the order chosen. -/
def Choice.view (c : Choice) (v : Database) : Option Database :=
  match c.order with
  | none => some v
  | some v' => if v.SameRows v' then some v' else none

theorem Choice.sameRows_view {c : Choice} {v v' : Database} (h : c.view v = some v') :
    v.SameRows v' := by
  unfold Choice.view at h
  split at h
  · cases h
    exact .refl v
  · split at h
    · rename_i hsame
      cases h
      exact hsame
    · cases h

/-! ## Steps -/

/-- The meaning of the operations. -/
def machine : Machine Op World Local Choice where
  step
  | .auth _ method, c, w, t =>
      let a := authenticateRpcResult c.reqId c.verdict
      let line := .auth method a.subject a.reason a.reqId
      some (a, { w with log := w.log ++ [line] }, { t with lines := t.lines ++ [line] })
  | .enter method subject reqId, c, w, t =>
      let subject := if subject = "" then "<unknown>" else subject
      let reqId := if reqId = "" then c.reqId else reqId
      let line := .entry reqId method subject
      some ((), { w with log := w.log ++ [line] },
        { t with scopes := ⟨reqId, method, .OK⟩ :: t.scopes, lines := t.lines ++ [line] })
  | .setStatus s, _, w, t =>
      match t.scopes with
      | [] => none
      | x :: xs => some ((), w, { t with scopes := { x with status := s } :: xs })
  | .leave, _, w, t =>
      match t.scopes with
      | [] => none
      | x :: xs =>
          let line := .exit x.reqId x.method x.status.code.toNat
          some ((), { w with log := w.log ++ [line] },
            { t with scopes := xs, lines := t.lines ++ [line] })
  | .acquire, _, w, t =>
      match w.idle with
      | [] => none
      | c :: cs => some ((), { w with idle := cs }, { t with conns := c :: t.conns })
  | .release, _, w, t =>
      match t.conns with
      | [] => none
      | c :: cs => some ((), { w with idle := w.idle ++ [c] }, { t with conns := cs })
  | .beginWork, c, w, t =>
      match c.fault with
      | some e => some (.error e, w, t)
      | none => some (.ok (), w, { t with pending := [] })
  | .endWork, _, w, t => some ((), w, { t with pending := [] })
  | .newUuid, c, w, t =>
      if c.uuid ∈ w.issued then none
      else some (c.uuid, { w with issued := c.uuid :: w.issued }, { t with ids := c.uuid :: t.ids })
  | .query q, c, w, t =>
      match c.fault with
      | some e => some (.error e, w, t)
      | none =>
          match replay w.db t.pending with
          | none => some (.error serializationFailure, w, t)
          | some v =>
              match c.view v with
              | none => none
              | some v' => some (q v', w, { t with hasRead := true })
  | .write s, c, w, t =>
      match c.fault with
      | some e => some (.error e, w, t)
      | none =>
          match replay w.db t.pending with
          | none => some (.error serializationFailure, w, t)
          | some v =>
              match s.run v with
              | .error e => some (.error e, w, t)
              | .ok (r, _) => some (.ok r, w, { t with pending := t.pending ++ [⟨s, r⟩] })
  | .commit, c, w, t =>
      match c.fault with
      | some e => some (.error e, w, t)
      | none =>
          match replay w.db t.pending with
          | none => some (.error serializationFailure, w, t)
          | some v => some (.ok (), { w with db := v }, { t with pending := [], committed := true })
  | .convert r, c, w, t =>
      match c.fault with
      | some e => some (.error e, w, t)
      | none => some (r, w, t)
  | .undefined, _, _, _ => none

/-! ## What a step can change -/

section Steps
variable {β : Type} {o : Op β} {c : Choice} {w w' : World} {t t' : Local} {b : β}

/-- Connections move between the pool and the handler; none appears or is lost. -/
theorem step_conns (h : machine.step o c w t = some (b, w', t')) :
    (w'.idle ++ t'.conns).Perm (w.idle ++ t.conns) := by
  cases o with
  | acquire =>
      simp only [machine] at h
      split at h
      · cases h
      · rename_i x xs hidle
        cases h
        simp [hidle]
  | release =>
      simp only [machine] at h
      split at h
      · cases h
      · rename_i x xs hconns
        cases h
        simp [hconns]
  | _ =>
      simp only [machine] at h
      repeat' split at h
      all_goals cases h
      all_goals exact .refl _

/-- Only a commit changes the rows, and it applies the statements of its
transaction. -/
theorem step_db (h : machine.step o c w t = some (b, w', t')) :
    w'.db = w.db ∨ (t'.committed = true ∧ replay w.db t.pending = some w'.db) := by
  cases o with
  | commit =>
      simp only [machine] at h
      split at h
      · cases h; exact .inl rfl
      · split at h
        · cases h; exact .inl rfl
        · rename_i v hv
          cases h
          exact .inr ⟨rfl, hv⟩
  | _ =>
      simp only [machine] at h
      repeat' split at h
      all_goals cases h
      all_goals exact .inl rfl

/-- The operation is the statement `p` answers. -/
def Op.Sends : {β : Type} → Op β → Pending → Prop
  | _, .write s, p => ∃ r, p = ⟨s, r⟩
  | _, _, _ => False

/-- An open transaction grows by the statement that was just answered. -/
theorem step_pending (h : machine.step o c w t = some (b, w', t')) {p : Pending}
    (hp : p ∈ t'.pending) : p ∈ t.pending ∨ o.Sends p := by
  cases o with
  | write s =>
      simp only [machine] at h
      split at h
      · cases h; exact .inl hp
      · split at h
        · cases h; exact .inl hp
        · split at h
          · cases h; exact .inl hp
          · rename_i r v hr
            cases h
            rcases List.mem_append.mp hp with hp | hp
            · exact .inl hp
            · exact .inr ⟨r, List.mem_singleton.mp hp⟩
  | _ =>
      simp only [machine] at h
      repeat' split at h
      all_goals cases h
      all_goals simp_all

/-- Identifiers are drawn once: a new one is recorded, and the handler has it. -/
theorem step_ids (h : machine.step o c w t = some (b, w', t')) :
    (w'.issued = w.issued ∧ t'.ids = t.ids) ∨
      ∃ u, u ∉ w.issued ∧ w'.issued = u :: w.issued ∧ t'.ids = u :: t.ids := by
  cases o with
  | newUuid =>
      simp only [machine] at h
      split at h
      · cases h
      · rename_i hu
        cases h
        exact .inr ⟨c.uuid, hu, rfl, rfl⟩
  | _ =>
      simp only [machine] at h
      repeat' split at h
      all_goals cases h
      all_goals exact .inl ⟨rfl, rfl⟩

end Steps

end EvGrpc
