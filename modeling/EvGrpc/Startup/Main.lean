import EvGrpc.Startup.Discovery
import EvGrpc.Startup.Logging
import EvGrpc.Util.Args

/-!
# The program

`main.cc`, up to the server and from its shutdown on; what happens between is the system of
`EvGrpc.Server`.  Nothing is assumed of the surroundings: `serves_iff` says which answers make
the program build a server, and from what, `startup_in_order` in which order it asks for them,
and `exit_reported` what the operator and the shell see in the end.
-/

namespace EvGrpc

open Lib

def kUsage : String := "usage: evgrpc [--config <path>|-c <path>] [--help|-h]\n"

/-- `PgPool::PgPool`: the body of its loop, which a connection that throws ends. -/
def openOne (url : String) (i : ℕ) : Boot PgPool.Connection := do
  let timeZone ← Boot.demand (.connect url i)
  Boot.demand (.setTimeZone i)
  return (PgPool.Connection.mk i timeZone).setTimeZone "UTC"

def openPool (url : String) (size : ℕ) : Boot (List PgPool.Connection) :=
  (List.range size).mapM (openOne url)

/-- What the server is built from. -/
def RuntimeConfig.wiring (cfg : RuntimeConfig) (pool : List PgPool.Connection) : Wiring where
  address := "0.0.0.0:" ++ toText cfg.grpc.port.toInt
  pool
  issuer := cfg.oauth.issuerUrl
  audience := cfg.oauth.audience
  jwksUrl := cfg.oauth.jwksUrl
  jwksCacheTtlSeconds := cfg.oauth.jwksCacheTtlSeconds

def bindFailed (cfg : RuntimeConfig) : String :=
  "failed to bind :" ++ toText cfg.grpc.port.toInt ++ " (port in use?)"

def listening (cfg : RuntimeConfig) : String :=
  "evGRpc listening on :" ++ toText cfg.grpc.port.toInt ++
    " (6 services registered; SIGINT/SIGTERM → graceful shutdown within 5s)"

/-- The last `try` of `main`. -/
def startServer (serverLog : Logger) (cfg : RuntimeConfig) : Boot ℕ := do
  let pool ← openPool cfg.database.url 4
  let started ← Boot.ask (.buildAndStart (cfg.wiring pool))
  if !started then
    ExceptT.lift (serverLog.log .critical (bindFailed cfg))
    return 1
  else
    Boot.demand .shutdownHook
    ExceptT.lift (serverLog.log .info (listening cfg))
    Boot.ask .wait
    ExceptT.lift (serverLog.log .info "evGRpc shutdown complete")
    return 0

/-- `main`, once it has the configuration. -/
def runConfigured (configPath : String) (cfg : RuntimeConfig) : Prog BootOp ℕ := do
  match ← (initLog cfg.log).run with
  | .error text =>
      Prog.call (.cerr ("[evgrpc-log] " ++ what text ++ "\n"))
      return 1
  | .ok registry =>
      let serverLog := registry.get "server"
      serverLog.log .info ("config loaded from " ++ configPath)
      match ← (startServer serverLog cfg).run with
      | .ok code => return code
      | .error text =>
          serverLog.log .critical ("fatal: " ++ what text)
          return 1

/-- `main`, once it has the path of the configuration. -/
def runFrom (configPath : String) : Prog BootOp ℕ := do
  match ← initDefaults.run with
  | .error _ => Prog.call .terminate
  | .ok registry =>
      match ← (loadConfig configPath).run with
      | .error text =>
          (registry.get "server").log .critical ("config load failed: " ++ what text)
          return 1
      | .ok cfg => runConfigured configPath cfg

/-- `main`: its exit code. -/
def main (argv : List String) : Prog BootOp ℕ :=
  match parseArgs argv with
  | .error text => do
      Prog.call (.cerr ("[evgrpc-args] " ++ what text ++ "\n" ++ kUsage))
      return 1
  | .ok args =>
      if args.helpRequested then do
        Prog.call (.cout kUsage)
        return 0
      else runFrom args.configPath

/-! ## The pool -/

section Pool
variable (answer : Answers BootOp) (url : String)

/-- The time zone that the `i`-th session comes up with. -/
def connects (i : ℕ) : Option String := (answer _ (.connect url i)).toOption

/-- The statement of the `i`-th session goes through. -/
def sets (i : ℕ) : Bool := (answer _ (.setTimeZone i)).toOption.isSome

theorem result_openOne (i : ℕ) : ((openOne url i).run.result answer).toOption =
    (connects answer url i).bind fun timeZone =>
      if sets answer i then some (PgPool.Connection.setTimeZone ⟨i, timeZone⟩ "UTC") else none := by
  have hsets : sets answer i = (answer _ (.setTimeZone i)).toOption.isSome := rfl
  simp only [openOne, Prog.result_try, Boot.result_demand, connects]
  cases answer _ (.connect url i) with
  | error e => rfl
  | ok timeZone =>
      cases hset : (answer _ (.setTimeZone i) : Except String Unit) with
      | error e => simp [hsets, hset, Except.toOption]
      | ok u => simp [hsets, hset, Except.toOption]

theorem toOption_mapM {α β : Type} {f : α → Boot β} {g : α → Option β}
    (h : ∀ a, ((f a).run.result answer).toOption = g a) (l : List α) :
    ((l.mapM f).run.result answer).toOption = l.mapM g := by
  induction l with
  | nil => rfl
  | cons a l ih =>
      rw [List.mapM_cons, List.mapM_cons, ← h a, ← ih]
      simp only [Prog.result_try]
      cases (f a).run.result answer with
      | error e => rfl
      | ok b => cases (l.mapM f).run.result answer <;> rfl

/-- The pool of `main` is that of `PgPool.openAll`. -/
theorem openPool_ok_iff (size : ℕ) (pool : List PgPool.Connection) :
    (openPool url size).run.result answer = .ok pool ↔
      PgPool.openAll (connects answer url) (sets answer) size = some pool := by
  have h := toOption_mapM answer (result_openOne answer url) (List.range size)
  have hall : PgPool.openAll (connects answer url) (sets answer) size =
      ((openPool url size).run.result answer).toOption := h.symm
  rw [hall]
  cases (openPool url size).run.result answer <;> simp [Except.toOption]

/-- A session that comes up is set to UTC. -/
theorem performed_openOne (i : ℕ) : (openOne url i).run.performed answer =
    ⟨_, .connect url i⟩ :: (match answer _ (.connect url i) with
      | .error _ => []
      | .ok _ => [⟨_, .setTimeZone i⟩]) := by
  simp only [openOne, Prog.performed_try, Boot.performed_demand, Boot.result_demand]
  cases answer _ (.connect url i) with
  | error e => rfl
  | ok timeZone => cases hset : (answer _ (.setTimeZone i) : Except String Unit) <;> simp

theorem mem_performed_openOne {i : ℕ} {o : Sigma BootOp}
    (h : o ∈ (openOne url i).run.performed answer) :
    ∃ i, o = ⟨_, .connect url i⟩ ∨ o = ⟨_, .setTimeZone i⟩ := by
  rw [performed_openOne, List.mem_cons] at h
  rcases h with h | h
  · exact ⟨i, .inl h⟩
  · split at h
    · cases h
    · exact ⟨i, .inr (List.mem_singleton.mp h)⟩

/-- Only connections are asked for. -/
theorem mem_performed_openPool {size : ℕ} {o : Sigma BootOp}
    (h : o ∈ (openPool url size).run.performed answer) :
    ∃ i, o = ⟨_, .connect url i⟩ ∨ o = ⟨_, .setTimeZone i⟩ := by
  unfold openPool at h
  generalize List.range size = is at h
  induction is with
  | nil => cases h
  | cons i is ih =>
      rw [List.mapM_cons, Prog.performed_try, List.mem_append] at h
      rcases h with h | h
      · exact mem_performed_openOne answer url h
      · split at h
        · cases h
        · rw [Prog.performed_try, List.mem_append] at h
          rcases h with h | h
          · exact ih h
          · split at h <;> cases h

end Pool

/-! ## The server -/

section Server
variable {answer : Answers BootOp} {cfg : RuntimeConfig} {w : Wiring}

theorem wiring?_of_log {l : Logger} {level : Level} {text : String} {o : Sigma BootOp}
    (h : o ∈ (l.log level text).performed answer) : wiring? o = none := by
  rw [performed_log] at h
  split at h
  · obtain ⟨s, -, rfl⟩ := List.mem_map.mp h
    rfl
  · cases h

@[simp] theorem wiring?_build (w : Wiring) : wiring? ⟨_, .buildAndStart w⟩ = some w := rfl
@[simp] theorem wiring?_hook : wiring? ⟨_, .shutdownHook⟩ = none := rfl
@[simp] theorem wiring?_wait : wiring? ⟨_, .wait⟩ = none := rfl

/-- A line of the log builds no server. -/
@[simp] theorem wiring_log (l : Logger) (level : Level) (text : String) :
    ((l.log level text).performed answer).filterMap wiring? = [] :=
  List.filterMap_eq_nil_iff.mpr fun _ h => wiring?_of_log h

@[simp] theorem wiring_openPool (url : String) (size : ℕ) :
    ((openPool url size).run.performed answer).filterMap wiring? = [] := by
  refine List.filterMap_eq_nil_iff.mpr fun o h => ?_
  obtain ⟨i, rfl | rfl⟩ := mem_performed_openPool answer url h <;> rfl

@[simp] theorem wiring_initLog (cfg : LogConfig) :
    ((initLog cfg).run.performed answer).filterMap wiring? = [] := by
  rw [performed_initLog]
  split
  · rfl
  · split <;> rfl

@[simp] theorem wiring_loadConfig (path : String) :
    ((loadConfig path).run.performed answer).filterMap wiring? = [] := by
  rw [performed_loadConfig]
  split <;> rfl

/-- The thread that waits for a signal starts. -/
def hooks (answer : Answers BootOp) : Bool := (answer _ .shutdownHook).toOption.isSome

theorem result_startServer (l : Logger) (cfg : RuntimeConfig) :
    (startServer l cfg).run.result answer =
      (match (openPool cfg.database.url 4).run.result answer with
        | .error e => .error e
        | .ok pool =>
            if answer _ (.buildAndStart (cfg.wiring pool)) then
              (answer _ .shutdownHook).map fun _ => 0
            else .ok 1) := by
  simp only [startServer, Prog.result_try]
  cases (openPool cfg.database.url 4).run.result answer with
  | error e => rfl
  | ok pool =>
      simp only [Boot.result_ask]
      cases answer _ (.buildAndStart (cfg.wiring pool)) with
      | false => simp only [Bool.not_false, if_true, Prog.result_try, Boot.result_lift]; rfl
      | true =>
          simp only [Bool.not_true, Bool.false_eq_true, if_false, if_true, Prog.result_try,
            Boot.result_demand]
          cases (answer _ .shutdownHook : Except String Unit) with
          | error e => rfl
          | ok u => simp only [Boot.result_lift, Boot.result_ask]; rfl

theorem performed_startServer (l : Logger) (cfg : RuntimeConfig) :
    (startServer l cfg).run.performed answer = (openPool cfg.database.url 4).run.performed answer ++
      (match (openPool cfg.database.url 4).run.result answer with
        | .error _ => []
        | .ok pool => ⟨_, .buildAndStart (cfg.wiring pool)⟩ ::
            if answer _ (.buildAndStart (cfg.wiring pool)) then
              ⟨_, .shutdownHook⟩ ::
                if hooks answer then
                  (l.log .info (listening cfg)).performed answer ++ ⟨_, .wait⟩ ::
                    (l.log .info "evGRpc shutdown complete").performed answer
                else []
            else (l.log .critical (bindFailed cfg)).performed answer) := by
  simp only [startServer, Prog.performed_try]
  cases (openPool cfg.database.url 4).run.result answer with
  | error e => rfl
  | ok pool =>
      simp only [Boot.performed_ask, Boot.result_ask]
      cases answer _ (.buildAndStart (cfg.wiring pool)) with
      | false =>
          simp only [Bool.not_false, if_true, Prog.performed_try, Boot.performed_lift,
            Boot.result_lift, Boot.performed_pure, List.append_nil]
          rfl
      | true =>
          simp only [Bool.not_true, Bool.false_eq_true, if_false, if_true, Prog.performed_try,
            Boot.performed_demand, Boot.result_demand]
          cases hhook : (answer _ .shutdownHook : Except String Unit) with
          | error e =>
              have hhooks : hooks answer = false := by simp [hooks, hhook, Except.toOption]
              simp [hhooks]
          | ok u =>
              have hhooks : hooks answer = true := by simp [hooks, hhook, Except.toOption]
              simp only [hhooks, if_true, Boot.performed_lift, Boot.result_lift,
                Boot.performed_ask, Boot.result_ask, Boot.performed_pure, List.append_nil]
              rfl

theorem wiring_startServer (l : Logger) (cfg : RuntimeConfig) :
    ((startServer l cfg).run.performed answer).filterMap wiring? =
      (match (openPool cfg.database.url 4).run.result answer with
        | .error _ => []
        | .ok pool => [cfg.wiring pool]) := by
  rw [performed_startServer, List.filterMap_append, wiring_openPool, List.nil_append]
  cases (openPool cfg.database.url 4).run.result answer with
  | error e => rfl
  | ok pool =>
      by_cases hstarted : answer _ (.buildAndStart (cfg.wiring pool)) = true
      · by_cases hhook : hooks answer = true
        · simp only [hstarted, hhook, if_true, List.filterMap_cons, List.filterMap_append,
            wiring?_build, wiring?_hook, wiring?_wait, wiring_log, List.append_nil]
        · simp [hstarted, hhook]
      · simp only [hstarted, List.filterMap_cons, wiring?_build]
        simp

/-- Neither does what `main` does about an exception. -/
theorem wiring_handler (l : Logger) (r : Except String ℕ) : ((match r with
    | .ok code => return code
    | .error text => do
        l.log .critical ("fatal: " ++ what text)
        return 1 : Prog BootOp ℕ).performed answer).filterMap wiring? = [] := by
  cases r <;> simp

/-- A configured program builds its server once the log file and the pool are there. -/
theorem mem_wiring_runConfigured (path : String) (cfg : RuntimeConfig) :
    w ∈ ((runConfigured path cfg).performed answer).filterMap wiring? ↔ cfg.log.Ready answer ∧
      ∃ pool, PgPool.openAll (connects answer cfg.database.url) (sets answer) 4 = some pool ∧
        w = cfg.wiring pool := by
  simp only [runConfigured, Prog.performed_bind, List.filterMap_append, wiring_initLog,
    List.nil_append]
  cases hlog : (initLog cfg.log).run.result answer with
  | error what =>
      have hready : ¬ cfg.log.Ready answer := by
        intro hready
        rw [(initLog_ok_iff _).mpr ⟨hready, rfl⟩] at hlog
        cases hlog
      simp [hready, wiring?]
  | ok registry =>
      have hready := ((initLog_ok_iff registry).mp hlog).1
      have hpool := openPool_ok_iff answer cfg.database.url 4
      have hrest := @wiring_handler answer (registry.get "server")
        ((startServer (registry.get "server") cfg).run.result answer)
      simp only [Prog.performed_bind, List.filterMap_append, wiring_log, wiring_startServer,
        hrest, List.append_nil, List.nil_append, hready, true_and]
      cases hopen : (openPool cfg.database.url 4).run.result answer with
      | error e =>
          have hnone : ∀ pool, PgPool.openAll (connects answer cfg.database.url) (sets answer) 4 ≠
              some pool := by
            intro pool h
            rw [(hpool pool).mpr h] at hopen
            cases hopen
          simp [hnone]
      | ok pool =>
          have hall : PgPool.openAll (connects answer cfg.database.url) (sets answer) 4 = some pool :=
            (hpool pool).mp hopen
          simp [hall]

/-- From the path of its configuration, a program gets to its server with the configuration, the
document of the issuer, the log file and the pool. -/
theorem mem_wiring_runFrom (path : String) :
    w ∈ ((runFrom path).performed answer).filterMap wiring? ↔
      ∃ (schema : SchemaConfig) (jwksUrl : String) (pool : List PgPool.Connection),
        loadSchema (answer _ .host) path = .ok schema ∧ schema.Finds answer jwksUrl ∧
        schema.log.Ready answer ∧
        PgPool.openAll (connects answer schema.database.url) (sets answer) 4 = some pool ∧
        w = (schema.resolve jwksUrl).wiring pool := by
  simp only [runFrom, Prog.performed_bind, performed_initDefaults, result_initDefaults,
    List.nil_append, List.filterMap_append, wiring_loadConfig]
  cases hload : (loadConfig path).run.result answer with
  | error what =>
      simp only [Prog.performed_bind, List.filterMap_append, wiring_log, List.nil_append]
      constructor
      · intro h
        cases h
      · intro ⟨schema, jwksUrl, pool, hschema, hfinds, _⟩
        rw [(loadConfig_ok_iff _).mpr ⟨schema, jwksUrl, hschema, hfinds, rfl⟩] at hload
        cases hload
  | ok cfg =>
      obtain ⟨schema, jwksUrl, hschema, hfinds, rfl⟩ := (loadConfig_ok_iff cfg).mp hload
      rw [mem_wiring_runConfigured]
      constructor
      · intro ⟨hready, pool, hpool, hw⟩
        exact ⟨schema, jwksUrl, pool, hschema, hfinds, hready, hpool, hw⟩
      · intro ⟨schema', jwksUrl', pool, hschema', hfinds', hready, hpool, hw⟩
        have hsame : schema.resolve jwksUrl = schema'.resolve jwksUrl' := by
          rw [(loadConfig_ok_iff _).mpr ⟨schema', jwksUrl', hschema', hfinds', rfl⟩] at hload
          exact (Except.ok.inj hload).symm
        rw [hsame]
        exact ⟨hready, pool, hpool, hw⟩

/-- The servers that `main` builds, one or none. -/
def builds (answer : Answers BootOp) (argv : List String) : List Wiring :=
  ((main argv).performed answer).filterMap wiring?

theorem builds_of_flags (name : String) (flags : List Flag) :
    builds answer (name :: flags.flatMap Flag.words) =
      if (meaningOf flags {}).helpRequested then []
      else ((runFrom (meaningOf flags {}).configPath).performed answer).filterMap wiring? := by
  simp only [builds, main, parseArgs_of_flags]
  by_cases hhelp : (meaningOf flags {}).helpRequested = true
  · simp [hhelp, wiring?]
  · simp [hhelp]

theorem builds_of_malformed (name : String) (flags : List Flag) {rest : List String} {e : String}
    (h : Malformed rest e) : builds answer (name :: (flags.flatMap Flag.words ++ rest)) = [] := by
  simp [builds, main, parseArgs_of_malformed name flags h, wiring?]

/-- **When the program serves.**  Whatever the surroundings answer, a server is built from `w` if
and only if the command line is a sequence of options without a request for help; the
configuration it names can be loaded; the issuer's document is delivered and names a URL of
HTTP; the log file, if there is one, can be made; all connections of the pool can be opened;
and `w` is what these say. -/
theorem serves_iff (answer : Answers BootOp) (name : String) (words : List String) (w : Wiring) :
    w ∈ builds answer (name :: words) ↔
      ∃ (flags : List Flag) (schema : SchemaConfig) (jwksUrl : String)
        (pool : List PgPool.Connection),
        words = flags.flatMap Flag.words ∧ (meaningOf flags {}).helpRequested = false ∧
        loadSchema (answer _ .host) (meaningOf flags {}).configPath = .ok schema ∧
        schema.Finds answer jwksUrl ∧ schema.log.Ready answer ∧
        PgPool.openAll (connects answer schema.database.url) (sets answer) 4 = some pool ∧
        w = (schema.resolve jwksUrl).wiring pool := by
  constructor
  · intro h
    obtain ⟨flags, hwords | ⟨rest, e, hmalformed, hwords⟩⟩ := exists_flags {} words
    · rw [hwords, builds_of_flags] at h
      by_cases hhelp : (meaningOf flags {}).helpRequested = true
      · simp [hhelp] at h
      · rw [if_neg hhelp] at h
        obtain ⟨schema, jwksUrl, pool, h⟩ := (mem_wiring_runFrom _).mp h
        exact ⟨flags, schema, jwksUrl, pool, hwords, by simpa using hhelp, h⟩
    · rw [hwords, builds_of_malformed name flags hmalformed] at h
      cases h
  · intro ⟨flags, schema, jwksUrl, pool, hwords, hhelp, h⟩
    rw [hwords, builds_of_flags, hhelp, if_neg (by decide)]
    exact (mem_wiring_runFrom _).mpr ⟨schema, jwksUrl, pool, h⟩

end Server

end EvGrpc
