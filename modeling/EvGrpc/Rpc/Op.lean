import EvGrpc.Db.Write
import EvGrpc.Lib.Prog

/-!
# What a handler does

A handler is a program over the operations below: it asks for an authentication
verdict, opens and closes its log scope, takes connections from the pool and gives
them back, sends statements, converts rows.  The combinators are the shapes the
handlers are written in; each of them is one C++ object whose destructor runs on
every way out of its block.

* `authenticated` — the three lines of prologue, and the `RpcScope` around the rest.
* `catching` — `try { … } catch (const std::exception& e)`, with `ToGrpcStatus`.
* `withConn` — `auto conn = pool_->acquire();`.
* `withWork` — `pqxx::work tx(*conn);`.  A `pqxx::nontransaction` has no shape of its
  own: its statements run one by one and its destructor does nothing.

`getRow`, `insertRow`, `updateRow`, `deleteRow` and `readAll` are bodies that several
handlers share.

Statement labels and the lines of the `db` logger are left out; nothing reads them.
-/

namespace EvGrpc

open Lib

/-- `ServerContext::client_metadata()`: a multimap, in its order. -/
abbrev Metadata := List (String × String)

/-- What `Authenticate` found out. -/
inductive Verdict
  | accepted (subject reason : String)
  | rejected (message reason : String)
  deriving DecidableEq

/-- `AuthenticateRpcResult` -/
structure AuthenticateRpcResult where
  reqId : String
  subject : String
  reason : String
  status : Status
  deriving DecidableEq

/-- The result of `AuthenticateRpc` from the correlation id and the verdict. -/
def authenticateRpcResult (reqId : String) : Verdict → AuthenticateRpcResult
  | .accepted subject reason => ⟨reqId, subject, reason, .OK⟩
  | .rejected message reason => ⟨reqId, "<unknown>", reason, ⟨.UNAUTHENTICATED, message⟩⟩

/-- The operations of a handler, by the type of their reply. -/
inductive Op : Type → Type 1
  /-- `AuthenticateRpc` -/
  | auth (md : Metadata) (method : String) : Op AuthenticateRpcResult
  /-- the constructor of `RpcScope` -/
  | enter (method subject reqId : String) : Op Unit
  /-- `RpcScope::set_status` -/
  | setStatus (s : Status) : Op Unit
  /-- the destructor of `RpcScope` -/
  | leave : Op Unit
  /-- `PgPool::acquire` -/
  | acquire : Op Unit
  /-- the destructor of `PgConn` -/
  | release : Op Unit
  /-- the constructor of `pqxx::work` -/
  | beginWork : Op (Except Exn Unit)
  /-- the destructor of `pqxx::work` -/
  | endWork : Op Unit
  /-- `NewUuid` -/
  | newUuid : Op Uuid
  /-- a statement that reads -/
  | query {ρ : Type} (q : Database → Except Exn ρ) : Op (Except Exn ρ)
  /-- a statement that writes -/
  | write {ρ : Type} (w : Write ρ) : Op (Except Exn ρ)
  /-- `tx.commit()` -/
  | commit : Op (Except Exn Unit)
  /-- reading the fields of a result -/
  | convert {ρ : Type} (r : Except Exn ρ) : Op (Except Exn ρ)
  /-- a signed overflow: the behaviour is undefined from here on -/
  | undefined : Op Unit

/-- What a handler hands to gRPC: a status, and the response if it filled one. -/
abbrev Reply (ρ : Type) := Status × Option ρ

/-- Code inside a `try` block. -/
abbrev Rpc := ExceptT Exn (Prog Op)

/-! ## Single operations -/

/-- An operation that cannot throw. -/
def perform {β : Type} (o : Op β) : Rpc β := ExceptT.lift (Prog.call o)

/-- An operation that may throw. -/
def attempt {β : Type} (o : Op (Except Exn β)) : Rpc β := ExceptT.mk (Prog.call o)

/-- Another handler, called directly. -/
def callHandler {α : Type} (p : Prog Op α) : Rpc α := ExceptT.lift p

/-- `db::Exec` of a `SELECT` -/
def exec {ρ : Type} (q : Database → Except Exn ρ) : Rpc ρ := attempt (.query q)

/-- `db::Exec` of an `INSERT`, `UPDATE` or `DELETE` -/
def execWrite {ρ : Type} (w : Write ρ) : Rpc ρ := attempt (.write w)

/-- `tx.commit()` -/
def commit : Rpc Unit := attempt .commit

/-- `NewUuid()` -/
def newUuid : Rpc Uuid := perform .newUuid

/-- `resp` is filled from a result. -/
def convert {ρ : Type} (r : Except Exn ρ) : Rpc ρ := attempt (.convert r)

/-- `scope.set_status(s); return s;` -/
def fail {ρ : Type} (s : Status) : Rpc (Reply ρ) := do
  perform (.setStatus s)
  return (s, none)

/-- The range of `int`. -/
def isInt (n : ℤ) : Bool := decide (-2147483648 ≤ n ∧ n ≤ 2147483647)

/-- `a + b` on two `int`s. -/
def addInt (a b : ℤ) : Rpc ℤ := do
  if !isInt (a + b) then perform .undefined
  return a + b

/-- `if (result.empty()) { … return s; }`, and then the first row. -/
def firstRow {α ρ : Type} (s : Status) (f : α → Rpc (Reply ρ)) : List α → Rpc (Reply ρ)
  | [] => fail s
  | r :: _ => f r

/-! ## Shapes -/

/-- A block that owns a connection. -/
def withConn {α : Type} (body : Rpc α) : Rpc α := ExceptT.mk do
  Prog.call .acquire
  let r ← body.run
  Prog.call .release
  return r

/-- A block that owns a transaction; it is rolled back unless it was committed. -/
def withWork {α : Type} (body : Rpc α) : Rpc α := ExceptT.mk do
  match ← Prog.call .beginWork with
  | .error e => return .error e
  | .ok () =>
      let r ← body.run
      Prog.call .endWork
      return r

theorem run_withWork {α : Type} (body : Rpc α) :
    (withWork body).run = (Prog.call .beginWork >>= fun r =>
      match r with
      | .error e => .done (.error e)
      | .ok () => body.run >>= fun r => Prog.call .endWork >>= fun _ => .done r) := rfl

/-- Look one row up. -/
def getRow {α ρ : Type} (q : Database → Except Exn (List α)) (notFound : Status)
    (row : α → Except Exn ρ) : Rpc (Reply ρ) :=
  withConn do
    let result ← exec q
    firstRow notFound (fun r => return (.OK, some (← convert (row r)))) result

/-- Insert a row, read it back, and commit. -/
def insertRow {α ρ : Type} (w : Write Unit) (q : Database → Except Exn (List α))
    (row : α → Except Exn ρ) : Rpc (Reply ρ) := do
  execWrite w
  let inserted ← exec q
  firstRow ⟨.INTERNAL, "INSERT returned no row"⟩ (fun r => do
    let resp ← convert (row r)
    commit
    return (.OK, some resp)) inserted

/-- Update a row and commit, unless it is not there. -/
def updateRow {α ρ : Type} (w : Write (List α)) (notFound : Status) (row : α → Except Exn ρ) :
    Rpc (Reply ρ) :=
  withConn <| withWork do
    let result ← execWrite w
    firstRow notFound (fun r => do
      let resp ← convert (row r)
      commit
      return (.OK, some resp)) result

/-- Delete a row and commit, unless it is not there. -/
def deleteRow (w : Write ℕ) (notFound : Status) : Rpc (Reply Unit) :=
  withConn <| withWork do
    let affected ← execWrite w
    if affected = 0 then fail notFound
    else
      commit
      return (.OK, some ())

/-- Ask one question and answer from the result. -/
def readAll {α ρ : Type} (q : Database → Except Exn α) (f : α → Except Exn ρ) : Rpc (Reply ρ) :=
  withConn do
    let result ← exec q
    let resp ← convert (f result)
    return (.OK, some resp)

/-- A `try` block with the handlers' `catch`. -/
def catching {ρ : Type} (body : Rpc (Reply ρ)) : Prog Op (Reply ρ) := do
  match ← body.run with
  | .ok r => return r
  | .error e =>
      let s := toGrpcStatus e
      Prog.call (.setStatus s)
      return (s, none)

/-- A check made before the `try` block. -/
def validated {ρ : Type} (s : Status) (body : Prog Op (Reply ρ)) : Prog Op (Reply ρ) :=
  if s.ok then body else do
    Prog.call (.setStatus s)
    return (s, none)

/-- The prologue of every RPC, and the scope around its body. -/
def authenticated {ρ : Type} (md : Metadata) (kMethod : String) (body : Prog Op (Reply ρ)) :
    Prog Op (Reply ρ) := do
  let a ← Prog.call (.auth md kMethod)
  Prog.call (.enter kMethod a.subject a.reqId)
  let r ← validated a.status body
  Prog.call .leave
  return r

end EvGrpc
