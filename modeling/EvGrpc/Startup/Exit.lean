import EvGrpc.Startup.Main

/-!
# How the program goes and how it ends

Whatever the surroundings answer, `main` asks for things in one order, each at most once
(`startup_in_order`), and its exit code, what is on `stderr` and whether a server ran say the
same (`exit_reported`).  What it serves with is fit to be served with (`served_sound`).
-/

namespace EvGrpc

open Lib

/-! ## Order -/

/-- The stages of `main`; the terminal and the log may be written to at any time. -/
def bootStage : Sigma BootOp → Option ℕ
  | ⟨_, .host⟩ => some 0
  | ⟨_, .transfer _ _ _⟩ => some 1
  | ⟨_, .writableDir _⟩ => some 2
  | ⟨_, .openLogFile _ _ _⟩ => some 3
  | ⟨_, .connect _ i⟩ => some (4 + 2 * i)
  | ⟨_, .setTimeZone i⟩ => some (5 + 2 * i)
  | ⟨_, .buildAndStart _⟩ => some 12
  | ⟨_, .shutdownHook⟩ => some 13
  | ⟨_, .wait⟩ => some 14
  | ⟨_, .cout _⟩ | ⟨_, .cerr _⟩ | ⟨_, .line _ _ _ _⟩ | ⟨_, .terminate⟩ => none

section Order
variable {answer : Answers BootOp}

theorem staged_log (l : Logger) (level : Level) (text : String) (lo hi : ℕ) :
    Prog.Staged answer bootStage lo hi (l.log level text) := by
  refine Prog.staged_of_unstaged fun o h => ?_
  rw [performed_log] at h
  split at h
  · obtain ⟨s, -, rfl⟩ := List.mem_map.mp h
    rfl
  · cases h

theorem staged_loadConfig (path : String) :
    Prog.Staged answer bootStage 0 2 (loadConfig path).run := by
  have hrequest : ∀ schema : SchemaConfig, bootStage ⟨_, schema.request⟩ = some 1 := fun _ => rfl
  have hhost : bootStage ⟨_, .host⟩ = some 0 := rfl
  constructor <;> rw [performed_loadConfig] <;> cases loadSchema (answer _ .host) path <;>
    simp [hhost, hrequest]

theorem staged_initLog (cfg : LogConfig) :
    Prog.Staged answer bootStage 2 4 (initLog cfg).run := by
  have hlook : bootStage ⟨_, cfg.lookAtDir⟩ = some 2 := rfl
  have hopen : bootStage ⟨_, cfg.openFile⟩ = some 3 := rfl
  constructor <;> rw [performed_initLog] <;> by_cases hfile : cfg.file = "" <;>
    by_cases hlooked : answer _ cfg.lookAtDir = true <;> simp [hfile, hlooked, hlook, hopen]

theorem staged_openOne (url : String) (i : ℕ) :
    Prog.Staged answer bootStage (4 + 2 * i) (4 + 2 * (i + 1)) (openOne url i).run := by
  have hconnect : bootStage ⟨_, .connect url i⟩ = some (4 + 2 * i) := rfl
  have hset : bootStage ⟨_, .setTimeZone i⟩ = some (5 + 2 * i) := rfl
  cases h : (answer _ (.connect url i) : Except String String) with
  | error e => constructor <;> simp [performed_openOne, h, hconnect]
  | ok timeZone =>
      constructor <;> simp only [performed_openOne, h]
      · simp [hconnect, hset]
      · simp [hconnect, hset]
        omega

/-- The connections are opened one after the other. -/
theorem staged_openAll (url : String) (n start : ℕ) :
    Prog.Staged answer bootStage (4 + 2 * start) (4 + 2 * (start + n))
      ((List.range' start n).mapM (openOne url)).run := by
  induction n generalizing start with
  | zero => exact Prog.staged_done _
  | succ n ih =>
      rw [List.range'_succ, List.mapM_cons]
      refine (staged_openOne url start).try (fun conn _ => ?_) (by omega) (by omega)
      have hrest := (ih (start + 1)).mono (le_refl (4 + 2 * (start + 1)))
        (by omega : 4 + 2 * (start + 1 + n) ≤ 4 + 2 * (start + (n + 1)))
      exact hrest.try (fun _ _ => Prog.staged_done _) (by omega) le_rfl

theorem staged_openPool (url : String) :
    Prog.Staged answer bootStage 4 12 (openPool url 4).run := by
  rw [openPool, List.range_eq_range']
  exact staged_openAll url 4 0

theorem staged_startServer (l : Logger) (cfg : RuntimeConfig) :
    Prog.Staged answer bootStage 4 15 (startServer l cfg).run := by
  refine (staged_openPool cfg.database.url).try (fun pool _ => ?_) (by omega) (by omega)
  have hbuild : Prog.Staged answer bootStage 12 13
      (Boot.ask (.buildAndStart (cfg.wiring pool))).run := by
    have hstage : bootStage ⟨_, .buildAndStart (cfg.wiring pool)⟩ = some 12 := rfl
    constructor <;> simp [hstage]
  have hhook : Prog.Staged answer bootStage 13 14 (Boot.demand .shutdownHook).run := by
    have hstage : bootStage ⟨_, .shutdownHook⟩ = some 13 := rfl
    constructor <;> simp [hstage]
  have hwait : Prog.Staged answer bootStage 14 15 (Boot.ask .wait).run := by
    have hstage : bootStage ⟨_, .wait⟩ = some 14 := rfl
    constructor <;> simp [hstage]
  have hlog : ∀ level text lo hi,
      Prog.Staged answer bootStage lo hi (ExceptT.lift (l.log level text) : Boot Unit).run := by
    intro level text lo hi
    have h : Prog.Staged answer bootStage lo hi (l.log level text) := staged_log l level text lo hi
    constructor <;> rw [Boot.performed_lift]
    · exact h.ordered
    · exact h.within
  refine hbuild.try (fun started _ => ?_) (by omega) (by omega)
  cases started with
  | false => exact (hlog _ _ 13 15).try (fun _ _ => Prog.staged_done _) (by omega) le_rfl
  | true =>
      refine hhook.try (fun _ _ => ?_) (by omega) (by omega)
      refine (hlog _ _ 14 14).try (fun _ _ => ?_) le_rfl (by omega)
      refine hwait.try (fun _ _ => ?_) (by omega) le_rfl
      exact (hlog _ _ 15 15).try (fun _ _ => Prog.staged_done _) le_rfl le_rfl

theorem staged_runConfigured (path : String) (cfg : RuntimeConfig) :
    Prog.Staged answer bootStage 2 15 (runConfigured path cfg) := by
  refine (staged_initLog cfg.log).bind ?_ (by omega) (by omega)
  cases (initLog cfg.log).run.result answer with
  | error what =>
      refine Prog.staged_of_unstaged ?_
      simp [bootStage]
  | ok registry =>
      refine (staged_log _ _ _ 4 4).bind ?_ le_rfl (by omega)
      refine (staged_startServer _ cfg).bind ?_ (by omega) le_rfl
      cases (startServer (registry.get "server") cfg).run.result answer with
      | error what => exact (staged_log _ _ _ 15 15).bind (Prog.staged_done _) le_rfl le_rfl
      | ok code => exact Prog.staged_done _

theorem staged_runFrom (path : String) :
    Prog.Staged answer bootStage 0 15 (runFrom path) := by
  have hdefaults : Prog.Staged answer bootStage 0 0 initDefaults.run :=
    Prog.staged_of_unstaged (by simp)
  refine hdefaults.bind ?_ le_rfl (by omega)
  rw [result_initDefaults]
  refine (staged_loadConfig path).bind ?_ (by omega) (by omega)
  cases (loadConfig path).run.result answer with
  | error what => exact (staged_log _ _ _ 2 15).bind (Prog.staged_done _) (by omega) le_rfl
  | ok cfg => exact staged_runConfigured path cfg

end Order

/-- **Startup goes in order.**  Whatever the surroundings answer, the configuration is read
before the issuer is asked, the issuer before the log file is made, the log file before the
connections are opened, one by one, and all of them before the server is built and waited for;
and each of these happens at most once. -/
theorem startup_in_order (answer : Answers BootOp) (argv : List String) :
    (((main argv).performed answer).filterMap bootStage).Pairwise (· < ·) := by
  unfold main
  cases parseArgs argv with
  | error what => exact List.Pairwise.nil
  | ok args =>
      by_cases hhelp : args.helpRequested = true
      · simp only [hhelp]
        exact List.Pairwise.nil
      · simp only [hhelp]
        exact (staged_runFrom args.configPath).ordered

/-! ## Exit -/

section Exit
variable {answer : Answers BootOp} {α : Type}

/-- Nothing is written to `stderr`. -/
def Quiet (answer : Answers BootOp) (p : Prog BootOp α) : Prop :=
  ∀ o ∈ p.performed answer, onStderr o = false

/-- A server is built and starts, and so does the thread that can shut it down. -/
def Served (answer : Answers BootOp) (p : Prog BootOp α) : Prop :=
  ∃ w ∈ (p.performed answer).filterMap wiring?,
    answer _ (.buildAndStart w) = true ∧ hooks answer = true

/-- The ways in which the program ends once it knows its configuration file. -/
inductive Concludes (answer : Answers BootOp) (p : Prog BootOp ℕ) : Prop
  | served (hcode : p.result answer = 0) (hquiet : Quiet answer p) (hserved : Served answer p)
  | failed (hcode : p.result answer = 1) (hloud : ∃ o ∈ p.performed answer, onStderr o = true)
      (hserved : ¬ Served answer p)

/-- What is quiet and builds no server may come first. -/
theorem Concludes.after {p : Prog BootOp α} {f : α → Prog BootOp ℕ} (hquiet : Quiet answer p)
    (hnone : (p.performed answer).filterMap wiring? = [])
    (h : Concludes answer (f (p.result answer))) : Concludes answer (p >>= f) := by
  have hsame : Served answer (p >>= f) ↔ Served answer (f (p.result answer)) := by
    simp only [Served, Prog.performed_bind, List.filterMap_append, hnone, List.nil_append]
  cases h with
  | served hcode hquiet' hserved =>
      refine .served (by rw [Prog.result_bind, hcode]) (fun o ho => ?_) (hsame.mpr hserved)
      rw [Prog.performed_bind, List.mem_append] at ho
      exact ho.elim (hquiet o) (hquiet' o)
  | failed hcode hloud hserved =>
      obtain ⟨o, ho, hstderr⟩ := hloud
      refine .failed (by rw [Prog.result_bind, hcode]) ⟨o, ?_, hstderr⟩ (hsame.not.mpr hserved)
      rw [Prog.performed_bind, List.mem_append]
      exact .inr ho

/-- A last line on `stderr`. -/
theorem concludes_of_loud {p : Prog BootOp Unit} (hnone : (p.performed answer).filterMap wiring? = [])
    (hloud : ∃ o ∈ p.performed answer, onStderr o = true) :
    Concludes answer (p >>= fun _ => return 1) := by
  obtain ⟨o, ho, hstderr⟩ := hloud
  refine .failed (by simp) ⟨o, by simpa using ho, hstderr⟩ ?_
  simp [Served, hnone]

theorem concludes_critical (cfg : LogConfig) (text : String) :
    Concludes answer (cfg.server.log .critical text >>= fun _ => return 1) :=
  concludes_of_loud (wiring_log _ _ _) ⟨_, critical_on_stderr answer cfg text, rfl⟩

theorem quiet_info (cfg : LogConfig) (text : String) : Quiet answer (cfg.server.log .info text) :=
  fun _ h => info_not_on_stderr h

theorem quiet_initLog (cfg : LogConfig) : Quiet answer (initLog cfg).run := by
  have hlook : onStderr ⟨_, cfg.lookAtDir⟩ = false := rfl
  have hopen : onStderr ⟨_, cfg.openFile⟩ = false := rfl
  rw [Quiet, performed_initLog]
  by_cases hfile : cfg.file = "" <;> by_cases hlooked : answer _ cfg.lookAtDir = true <;>
    simp [hfile, hlooked, hlook, hopen]

theorem quiet_loadConfig (path : String) : Quiet answer (loadConfig path).run := by
  have hhost : onStderr ⟨_, .host⟩ = false := rfl
  have hrequest : ∀ schema : SchemaConfig, onStderr ⟨_, schema.request⟩ = false := fun _ => rfl
  rw [Quiet, performed_loadConfig]
  cases loadSchema (answer _ .host) path <;> simp [hhost, hrequest]

theorem quiet_openPool (url : String) (size : ℕ) : Quiet answer (openPool url size).run := by
  intro o h
  obtain ⟨i, rfl | rfl⟩ := mem_performed_openPool answer url h <;> rfl

/-- The last `try` of `main`, with its handler. -/
def lastTry (cfg : RuntimeConfig) : Prog BootOp ℕ := do
  match ← (startServer cfg.log.server cfg).run with
  | .ok code => return code
  | .error text =>
      cfg.log.server.log .critical ("fatal: " ++ what text)
      return 1

section LastTry
variable {cfg : RuntimeConfig} {pool : List PgPool.Connection} {text : String}

/-- A connection cannot be opened. -/
theorem concludes_unpooled (hpool : (openPool cfg.database.url 4).run.result answer = .error text) :
    Concludes answer (lastTry cfg) := by
  refine Concludes.after ?_ ?_ ?_
  · intro o ho
    rw [performed_startServer, hpool, List.append_nil] at ho
    exact quiet_openPool _ _ o ho
  · rw [wiring_startServer, hpool]
  · rw [result_startServer, hpool]
    exact concludes_critical cfg.log _

/-- The port cannot be bound. -/
theorem concludes_unbound (hpool : (openPool cfg.database.url 4).run.result answer = .ok pool)
    (hstarted : answer _ (.buildAndStart (cfg.wiring pool)) = false) :
    Concludes answer (lastTry cfg) := by
  refine .failed ?_ ⟨⟨_, .line .stderr "server" .critical (bindFailed cfg)⟩, ?_, rfl⟩ ?_
  · simp [lastTry, result_startServer, hpool, hstarted]
  · rw [lastTry, Prog.performed_bind, performed_startServer, hpool]
    simp only [hstarted, List.mem_append, List.mem_cons]
    exact .inl (.inr (.inr (critical_on_stderr answer cfg.log _)))
  · rw [Served, lastTry, Prog.performed_bind, List.filterMap_append, wiring_startServer, hpool,
      result_startServer, hpool]
    simp [hstarted]

/-- The thread that shuts the server down cannot be started; the handler is the first to speak. -/
theorem concludes_unhooked (hpool : (openPool cfg.database.url 4).run.result answer = .ok pool)
    (hstarted : answer _ (.buildAndStart (cfg.wiring pool)) = true)
    (hhook : answer _ .shutdownHook = .error text) : Concludes answer (lastTry cfg) := by
  have hresult : (startServer cfg.log.server cfg).run.result answer = .error text := by
    simp [result_startServer, hpool, hstarted, hhook, Except.map]
  have hhooks : hooks answer = false := by simp [hooks, hhook, Except.toOption]
  refine .failed ?_ ⟨⟨_, .line .stderr "server" .critical ("fatal: " ++ what text)⟩, ?_, rfl⟩ ?_
  · simp [lastTry, hresult]
  · rw [lastTry, Prog.performed_bind, hresult]
    simp only [Prog.performed_bind]
    exact List.mem_append_right _ (List.mem_append_left _ (critical_on_stderr answer cfg.log _))
  · simp [Served, hhooks]

/-- Nothing is in the way. -/
theorem concludes_served (hpool : (openPool cfg.database.url 4).run.result answer = .ok pool)
    (hstarted : answer _ (.buildAndStart (cfg.wiring pool)) = true)
    (hhook : answer _ .shutdownHook = .ok ()) : Concludes answer (lastTry cfg) := by
  have hresult : (startServer cfg.log.server cfg).run.result answer = .ok 0 := by
    simp [result_startServer, hpool, hstarted, hhook, Except.map]
  have hhooks : hooks answer = true := by simp [hooks, hhook, Except.toOption]
  refine .served ?_ (fun o ho => ?_) ⟨cfg.wiring pool, ?_, hstarted, hhooks⟩
  · simp [lastTry, hresult]
  · rw [lastTry, Prog.performed_bind, performed_startServer, hresult] at ho
    simp only [hpool, hstarted, hhooks, if_true, Prog.performed_done, Prog.pure_eq, List.append_nil,
      List.mem_append, List.mem_cons] at ho
    rcases ho with ho | rfl | rfl | ho | rfl | ho
    · exact quiet_openPool _ _ o ho
    · rfl
    · rfl
    · exact quiet_info cfg.log _ o ho
    · rfl
    · exact quiet_info cfg.log _ o ho
  · rw [lastTry, Prog.performed_bind, List.filterMap_append, wiring_startServer, hpool]
    simp

end LastTry

theorem concludes_lastTry (cfg : RuntimeConfig) : Concludes answer (lastTry cfg) := by
  cases hpool : (openPool cfg.database.url 4).run.result answer with
  | error text => exact concludes_unpooled hpool
  | ok pool =>
      cases hstarted : (answer _ (.buildAndStart (cfg.wiring pool)) : Bool) with
      | false => exact concludes_unbound hpool hstarted
      | true =>
          cases hhook : (answer _ .shutdownHook : Except String Unit) with
          | error text => exact concludes_unhooked hpool hstarted hhook
          | ok u => exact concludes_served hpool hstarted hhook

theorem concludes_runConfigured (path : String) (cfg : RuntimeConfig) :
    Concludes answer (runConfigured path cfg) := by
  refine Concludes.after (quiet_initLog cfg.log) (wiring_initLog cfg.log) ?_
  cases hlog : (initLog cfg.log).run.result answer with
  | error what => exact concludes_of_loud rfl ⟨_, List.mem_singleton_self _, rfl⟩
  | ok registry =>
      obtain ⟨-, rfl⟩ := (initLog_ok_iff registry).mp hlog
      exact Concludes.after (quiet_info cfg.log _) (wiring_log _ _ _) (concludes_lastTry cfg)

theorem concludes_runFrom (path : String) : Concludes answer (runFrom path) := by
  refine Concludes.after (p := initDefaults.run) (by simp [Quiet]) (by simp) ?_
  rw [result_initDefaults]
  refine Concludes.after (quiet_loadConfig path) (wiring_loadConfig path) ?_
  cases (loadConfig path).run.result answer with
  | error what => exact concludes_critical _ _
  | ok cfg => exact concludes_runConfigured path cfg

end Exit

/-- **The exit is reported.**  Whatever the surroundings answer, `main` ends with 0 or with 1.  It
is 1 if and only if `main` itself wrote something to `stderr`, and 0 if and only if help was
asked for or a server was built and started, with the thread that shuts it down. -/
theorem exit_reported (answer : Answers BootOp) (argv : List String) :
    let code := (main argv).result answer
    (code = 0 ∨ code = 1) ∧
    (code = 1 ↔ ∃ o ∈ (main argv).performed answer, onStderr o = true) ∧
    (code = 0 ↔ (∃ args, parseArgs argv = .ok args ∧ args.helpRequested = true) ∨
      ∃ w ∈ builds answer argv, answer _ (.buildAndStart w) = true ∧ hooks answer = true) := by
  simp only [builds, main]
  cases parseArgs argv with
  | error what => simp [onStderr, wiring?]
  | ok args =>
      by_cases hhelp : args.helpRequested = true
      · simp [hhelp, onStderr]
      · simp only [hhelp, Except.ok.injEq, exists_eq_left', Bool.false_eq_true, if_false, false_or]
        have hconcludes : Concludes answer (runFrom args.configPath) := concludes_runFrom _
        cases hconcludes with
        | served hcode hquiet hserved =>
            have hnone : ¬ ∃ o ∈ (runFrom args.configPath).performed answer, onStderr o = true := by
              intro h
              obtain ⟨o, ho, hstderr⟩ := h
              rw [hquiet o ho] at hstderr
              cases hstderr
            refine ⟨.inl hcode, ?_, fun _ => hserved, fun _ => hcode⟩
            rw [iff_false_right hnone]
            exact fun h => absurd (hcode.symm.trans h) (by decide)
        | failed hcode hloud hserved =>
            refine ⟨.inr hcode, ⟨fun _ => hloud, fun _ => hcode⟩, fun h => ?_, fun h => absurd h hserved⟩
            exact absurd (hcode.symm.trans h) (by decide)

/-! ## What is served -/

section Served
variable {answer : Answers BootOp}

theorem length_wiring_runConfigured (path : String) (cfg : RuntimeConfig) :
    (((runConfigured path cfg).performed answer).filterMap wiring?).length ≤ 1 := by
  simp only [runConfigured, Prog.performed_bind, List.filterMap_append, wiring_initLog,
    List.nil_append]
  cases (initLog cfg.log).run.result answer with
  | error what => exact Nat.zero_le 1
  | ok registry =>
      have hrest := @wiring_handler answer (registry.get "server")
        ((startServer (registry.get "server") cfg).run.result answer)
      simp only [Prog.performed_bind, List.filterMap_append, wiring_log, wiring_startServer, hrest,
        List.append_nil, List.nil_append]
      cases (openPool cfg.database.url 4).run.result answer <;> simp

/-- There is at most one server. -/
theorem length_wiring_runFrom (path : String) :
    (((runFrom path).performed answer).filterMap wiring?).length ≤ 1 := by
  simp only [runFrom, Prog.performed_bind, performed_initDefaults, result_initDefaults,
    List.nil_append, List.filterMap_append, wiring_loadConfig]
  cases (loadConfig path).run.result answer with
  | error what => simp
  | ok cfg => exact length_wiring_runConfigured path cfg

end Served

/-- Fit to be served with: the address has a port, the issuer and the URL of the keys are of
HTTP, there is an audience, the cache has a lifetime of at most a day, and every session of the
pool is in UTC. -/
structure Wiring.Sound (w : Wiring) : Prop where
  address : ∃ port : ℤ, 1 ≤ port ∧ port ≤ 65535 ∧ w.address = "0.0.0.0:" ++ toText port
  pool : w.pool = (List.range 4).map fun i => ⟨i, "UTC"⟩
  issuer : isHttpUrl w.issuer = true
  audience : w.audience ≠ ""
  jwksUrl : isHttpUrl w.jwksUrl = true
  ttl : 1 ≤ w.jwksCacheTtlSeconds.toInt ∧ w.jwksCacheTtlSeconds.toInt ≤ 86400

/-- **What is served is sound.**  Whatever the surroundings answer, what the program builds a
server from is fit to be served with, and it builds no other. -/
theorem served_sound {answer : Answers BootOp} {argv : List String} {w : Wiring}
    (h : w ∈ builds answer argv) : w.Sound ∧ builds answer argv = [w] := by
  cases hargs : parseArgs argv with
  | error what => simp [builds, main, hargs, wiring?] at h
  | ok args =>
      by_cases hhelp : args.helpRequested = true
      · simp [builds, main, hargs, hhelp, wiring?] at h
      · have hbuilds : builds answer argv =
            ((runFrom args.configPath).performed answer).filterMap wiring? := by
          simp [builds, main, hargs, hhelp]
        rw [hbuilds] at h ⊢
        constructor
        · obtain ⟨schema, jwksUrl, pool, hload, hfinds, -, hpool, rfl⟩ := (mem_wiring_runFrom _).mp h
          have hfit := wellFormed_of_loadSchema hload
          exact
            { address := ⟨_, (hfit.inRange .port).1, (hfit.inRange .port).2, rfl⟩
              pool := PgPool.openAll_eq_some hpool
              issuer := hfit.issuerUrl
              audience := hfit.audience
              jwksUrl := hfinds.1
              ttl := hfit.inRange .jwksCacheTtl }
        · have hlength : (((runFrom args.configPath).performed answer).filterMap wiring?).length ≤ 1 :=
            length_wiring_runFrom _
          obtain ⟨w', hwirings⟩ := List.length_eq_one_iff.mp
            (le_antisymm hlength (List.length_pos_of_mem h))
          rw [hwirings, List.mem_singleton] at h
          rw [hwirings, h]

/-- A machine that has the configuration, and reads everything else as a discovery document. -/
def someHost : Host where
  readFile path := if path = "" then none else some ""
  parse text := .ok (if text = "" then someConfig.written
    else .object [("jwks_uri", .string "https://a/k")])
  databaseUrl := none
  writableDir _ := false
  readFile_empty := readFile_nameless

/-- Surroundings in which nothing goes wrong. -/
def allWell : Answers BootOp
  | _, .host => someHost
  | _, .transfer _ _ _ => .response 200 "{}"
  | _, .writableDir _ => true
  | _, .openLogFile _ _ _ => .ok ()
  | _, .connect _ _ => .ok "Asia/Shanghai"
  | _, .setTimeZone _ | _, .shutdownHook => .ok ()
  | _, .buildAndStart _ => true
  | _, .cout _ | _, .cerr _ | _, .line _ _ _ _ | _, .wait => ()
  | _, .terminate => 134

/-- Without arguments, and with nothing going wrong, the program serves. -/
theorem served_sound_well :
    ∃ w : Wiring, w.address = "0.0.0.0:50051" ∧ w.Sound ∧ builds allWell ["evgrpc"] = [w] := by
  have hholds : someHost.Holds "./config.json" someConfig.written :=
    ⟨⟨"", by simp [someHost], by simp [someHost]⟩, rfl⟩
  have hload := loadSchema_written (wellFormed_someConfig someHost) hholds
  have hfinds : someConfig.Finds allWell "https://a/k" :=
    ⟨by decide, _, ⟨200, "{}", rfl, by decide, by decide, rfl⟩, by
      simp [jwksUri?, Json.member?, Json.string?]⟩
  have hpool : PgPool.openAll (connects allWell someConfig.database.url) (sets allWell) 4 =
      some ((List.range 4).map fun i => ⟨i, "UTC"⟩) := rfl
  let w := (someConfig.resolve "https://a/k").wiring ((List.range 4).map fun i => ⟨i, "UTC"⟩)
  have hw : w ∈ builds allWell ["evgrpc"] := by
    have hargs : parseArgs ["evgrpc"] = .ok {} := rfl
    have hrun : w ∈ ((runFrom "./config.json").performed allWell).filterMap wiring? :=
      (mem_wiring_runFrom _).mpr ⟨someConfig, _, _, hload, hfinds, .inl rfl, hpool, rfl⟩
    simpa [builds, main, hargs] using hrun
  exact ⟨_, rfl, served_sound hw⟩

end EvGrpc
