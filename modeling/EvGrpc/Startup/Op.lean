import EvGrpc.Config.Loader
import EvGrpc.Db.PgPool
import EvGrpc.Lib.Answered

/-!
# What the program asks before it serves

`BootOp` lists what `main` and the functions it calls ask of their surroundings: the
terminal, the machine that holds the configuration, one HTTP transfer, the log file, the
database and gRPC.  Between them nothing is asked, so a run is what these operations and
their answers make it.

`Boot` is a program over them that may throw a `std::exception`; of that only its text is
read.
-/

namespace EvGrpc

open Lib

/-- The levels of `spdlog`, from low to high. -/
inductive Level
  | trace | debug | info | warn | err | critical
  deriving DecidableEq

def Level.num : Level → ℕ
  | .trace => 0
  | .debug => 1
  | .info => 2
  | .warn => 3
  | .err => 4
  | .critical => 5

/-- Where a line of the log goes. -/
inductive Output
  | stdout | stderr | file
  deriving DecidableEq

/-- What comes of a transfer: no handle, an error of the transfer, or the code of the last
response and all that was written. -/
inductive Transfer
  | noHandle
  | failed (strerror : String)
  | response (code : ℤ) (body : String)

/-- What a server is built from: its address, the connections of its pool, and what its
`JwtValidator` and `JwksCache` are constructed with. -/
structure Wiring where
  address : String
  pool : List PgPool.Connection
  issuer : String
  audience : String
  jwksUrl : String
  jwksCacheTtlSeconds : Int32
  deriving DecidableEq

/-- One request to the surroundings. -/
inductive BootOp : Type → Type
  /-- `std::cout` -/
  | cout (text : String) : BootOp Unit
  /-- `std::cerr` -/
  | cerr (text : String) : BootOp Unit
  /-- what `LoadSchema` reads -/
  | host : BootOp Host
  /-- `curl_easy_perform`, with its two timeouts in milliseconds -/
  | transfer (url : List Char) (connectTimeout timeout : ℤ) : BootOp Transfer
  /-- the system calls of `IsWritableDir` -/
  | writableDir (path : List Char) : BootOp Bool
  /-- the constructor of the rotating sink -/
  | openLogFile (file : List Char) (maxSize maxFiles : ℤ) : BootOp (Except String Unit)
  /-- a line that a sink lets through -/
  | line (output : Output) (logger : String) (level : Level) (text : String) : BootOp Unit
  /-- the constructor of the `i`-th `pqxx::connection`; its session comes up in a time zone -/
  | connect (url : String) (i : ℕ) : BootOp (Except String String)
  /-- `SET TIME ZONE 'UTC'` -/
  | setTimeZone (i : ℕ) : BootOp (Except String Unit)
  /-- `BuildAndStart` -/
  | buildAndStart (w : Wiring) : BootOp Bool
  /-- the thread of `InstallShutdownHook` -/
  | shutdownHook : BootOp (Except String Unit)
  /-- `Wait`, until a signal has shut the server down -/
  | wait : BootOp Unit
  /-- an exception that nothing catches -/
  | terminate : BootOp ℕ

/-- What the operator sees on `stderr`. -/
def onStderr : Sigma BootOp → Bool
  | ⟨_, .cerr _⟩ => true
  | ⟨_, .line .stderr _ _ _⟩ => true
  | _ => false

/-- What a server is built from, if this operation builds one. -/
def wiring? : Sigma BootOp → Option Wiring
  | ⟨_, .buildAndStart w⟩ => some w
  | _ => none

/-- A function that may throw. -/
abbrev Boot := ExceptT String (Prog BootOp)

namespace Boot
variable {α β : Type}

/-- An operation that cannot throw. -/
def ask (o : BootOp β) : Boot β := ExceptT.lift (Prog.call o)

/-- An operation that may throw. -/
def demand (o : BootOp (Except String β)) : Boot β := ExceptT.mk (Prog.call o)

/-- Plain code that may throw. -/
def settle (x : Except String α) : Boot α := ExceptT.mk (.done x)

section Runs
variable (answer : Answers BootOp)

@[simp] theorem result_settle (x : Except String α) : (settle x).run.result answer = x := rfl
@[simp] theorem performed_settle (x : Except String α) : (settle x).run.performed answer = [] := rfl

@[simp] theorem result_ask (o : BootOp β) : (ask o).run.result answer = .ok (answer _ o) := rfl
@[simp] theorem performed_ask (o : BootOp β) : (ask o).run.performed answer = [⟨_, o⟩] := rfl
@[simp] theorem result_demand (o : BootOp (Except String β)) :
    (demand o).run.result answer = answer _ o := rfl
@[simp] theorem performed_demand (o : BootOp (Except String β)) :
    (demand o).run.performed answer = [⟨_, o⟩] := rfl
@[simp] theorem result_lift (p : Prog BootOp α) :
    (ExceptT.lift p : Boot α).run.result answer = .ok (p.result answer) := by
  rw [ExceptT.run_lift, map_eq_pure_bind, Prog.result_bind]
  rfl

@[simp] theorem performed_lift (p : Prog BootOp α) :
    (ExceptT.lift p : Boot α).run.performed answer = p.performed answer := by
  rw [ExceptT.run_lift, map_eq_pure_bind, Prog.performed_bind]
  exact List.append_nil _

@[simp] theorem result_pure (a : α) : (pure a : Boot α).run.result answer = .ok a := rfl
@[simp] theorem performed_pure (a : α) : (pure a : Boot α).run.performed answer = [] := rfl
@[simp] theorem result_throw (e : String) :
    (throw e : Boot α).run.result answer = .error e := rfl
@[simp] theorem performed_throw (e : String) :
    (throw e : Boot α).run.performed answer = [] := rfl

end Runs

end Boot

end EvGrpc
