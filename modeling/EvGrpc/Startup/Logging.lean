import EvGrpc.Startup.Op

/-!
# Logging

`log/log.cc`.  Every logger writes to the same sinks; a line goes through the level of its
logger and then through the level of each sink.  What matters to `main` is that the first
two sinks are always there: what is critical reaches `stderr` whatever the configuration says
(`critical_on_stderr`), and what is only worth knowing never does (`info_not_on_stderr`).
-/

namespace EvGrpc

open Lib

/-- `ParseLevel` -/
def parseLevel (s : String) : Level :=
  if s = "trace" then .trace
  else if s = "debug" then .debug
  else if s = "info" then .info
  else if s = "warn" ∨ s = "warning" then .warn
  else if s = "error" ∨ s = "err" then .err
  else if s = "critical" ∨ s = "crit" then .critical
  else .info

/-- A sink, and the level it starts at. -/
structure Sink where
  output : Output
  level : Level

structure Logger where
  name : String
  level : Level
  sinks : List Sink

/-- The registry of `spdlog`. -/
abbrev Registry := List Logger

/-- The two sinks that every logger has. -/
def consoleSinks (level : Level) : List Sink := [⟨.stdout, level⟩, ⟨.stderr, .err⟩]

/-- The loggers that `Init` registers. -/
def loggers (level : Level) (sinks : List Sink) : Registry :=
  ["auth", "service", "db", "jwks", "server"].map fun name => ⟨name, level, sinks⟩

/-- What the conversion to `size_t` makes of an `int`. -/
def toSize (n : Int32) : ℤ := n.toInt % 18446744073709551616

/-- The constructor of the sink of the log file. -/
def LogConfig.openFile (cfg : LogConfig) : BootOp (Except String Unit) :=
  .openLogFile (cstr cfg.file) (toSize cfg.maxSizeMb * 1024 * 1024 % 18446744073709551616)
    (toSize cfg.maxFiles)

/-- The directory of the log file is looked at. -/
def LogConfig.lookAtDir (cfg : LogConfig) : BootOp Bool := .writableDir (cstr (logDir cfg.file))

/-- `log::Init`: the registry it leaves behind. -/
def initLog (cfg : LogConfig) : Boot Registry := do
  let level := parseLevel cfg.level
  if cfg.file = "" then return loggers level (consoleSinks level)
  else
    let writable ← Boot.ask cfg.lookAtDir
    if !writable then
      throw ("log.file: parent directory does not exist or is not writable: " ++ logDir cfg.file)
    else
      Boot.demand cfg.openFile
      return loggers level (consoleSinks level ++ [⟨.file, level⟩])

/-- `log::InitDefaults` -/
def initDefaults : Boot Registry := initLog ⟨"info", "", 100, 7⟩

/-- `log::Get`: the logger, or a new one without sinks. -/
def Registry.get (r : Registry) (name : String) : Logger :=
  (r.find? fun l => l.name == name).getD ⟨name, .info, []⟩

/-- A sink is offered a line of a logger. -/
def Sink.offer (s : Sink) (name : String) (level : Level) (text : String) : Prog BootOp Unit :=
  if s.level.num ≤ level.num then Prog.call (.line s.output name level text) else return

/-- Some sinks are offered a line, one after the other. -/
def offerAll (name : String) (level : Level) (text : String) : List Sink → Prog BootOp Unit
  | [] => return
  | s :: sinks => do
      s.offer name level text
      offerAll name level text sinks

/-- A line is logged. -/
def Logger.log (l : Logger) (level : Level) (text : String) : Prog BootOp Unit :=
  if l.level.num ≤ level.num then offerAll l.name level text l.sinks else return

/-! ## What is asked -/

section Logging
variable {answer : Answers BootOp} {cfg : LogConfig} {level : Level} {text : String}

/-- The log file, if there is one, can be made. -/
def LogConfig.Ready (answer : Answers BootOp) (cfg : LogConfig) : Prop :=
  cfg.file = "" ∨ answer _ cfg.lookAtDir = true ∧ answer _ cfg.openFile = .ok ()

/-- The registry of a configuration. -/
def LogConfig.registry (cfg : LogConfig) : Registry :=
  let level := parseLevel cfg.level
  loggers level (consoleSinks level ++ if cfg.file = "" then [] else [⟨.file, level⟩])

theorem initLog_ok_iff (r : Registry) :
    (initLog cfg).run.result answer = .ok r ↔ cfg.Ready answer ∧ cfg.registry = r := by
  by_cases hfile : cfg.file = ""
  · simp only [initLog, hfile, if_true, LogConfig.Ready, LogConfig.registry]
    simp
  · simp only [initLog, hfile, if_false, LogConfig.Ready, LogConfig.registry, Prog.result_try,
      Boot.result_ask, false_or]
    cases answer _ cfg.lookAtDir with
    | false => simp
    | true =>
        simp only [Bool.not_true, Bool.false_eq_true, if_false, Prog.result_try,
          Boot.result_demand, true_and]
        cases answer _ cfg.openFile <;> simp

theorem performed_initLog : (initLog cfg).run.performed answer =
    if cfg.file = "" then []
    else ⟨_, cfg.lookAtDir⟩ :: if answer _ cfg.lookAtDir then [⟨_, cfg.openFile⟩] else [] := by
  by_cases hfile : cfg.file = ""
  · simp [initLog, hfile]
  · simp only [initLog, hfile, if_false, Prog.performed_try, Boot.performed_ask, Boot.result_ask]
    cases answer _ cfg.lookAtDir with
    | false => simp
    | true =>
        simp only [Bool.not_true, Bool.false_eq_true, if_false, if_true, Prog.performed_try,
          Boot.performed_demand]
        cases (Boot.demand cfg.openFile).run.result answer <;> simp

@[simp] theorem result_initDefaults :
    initDefaults.run.result answer = .ok (LogConfig.registry ⟨"info", "", 100, 7⟩) :=
  (initLog_ok_iff _).mpr ⟨.inl rfl, rfl⟩

@[simp] theorem performed_initDefaults : initDefaults.run.performed answer = [] := performed_initLog

/-- The logger `server` of a configuration. -/
def LogConfig.server (cfg : LogConfig) : Logger := Registry.get cfg.registry "server"

/-! ## Where a line goes -/

theorem performed_offerAll (name : String) (sinks : List Sink) :
    (offerAll name level text sinks).performed answer =
      (sinks.filter fun s => s.level.num ≤ level.num).map
        fun s => ⟨_, .line s.output name level text⟩ := by
  induction sinks with
  | nil => rfl
  | cons s sinks ih =>
      by_cases hlevel : s.level.num ≤ level.num
      · simp [offerAll, Sink.offer, hlevel, ih]
      · simp [offerAll, Sink.offer, hlevel, ih]

theorem performed_log (l : Logger) : (l.log level text).performed answer =
    if l.level.num ≤ level.num then (l.sinks.filter fun s => s.level.num ≤ level.num).map
      fun s => ⟨_, .line s.output l.name level text⟩ else [] := by
  by_cases hlevel : l.level.num ≤ level.num
  · simp [Logger.log, hlevel, performed_offerAll]
  · simp [Logger.log, hlevel]

theorem level_server : cfg.server.level = parseLevel cfg.level := rfl

theorem sinks_server : cfg.server.sinks = consoleSinks (parseLevel cfg.level) ++
    if cfg.file = "" then [] else [⟨.file, parseLevel cfg.level⟩] := rfl

/-- What is critical reaches `stderr`. -/
theorem critical_on_stderr (answer : Answers BootOp) (cfg : LogConfig) (text : String) :
    ⟨_, .line .stderr "server" .critical text⟩ ∈ (cfg.server.log .critical text).performed answer := by
  have hlevel : ∀ level : Level, level.num ≤ Level.critical.num := by
    intro level
    cases level <;> decide
  rw [performed_log, level_server, if_pos (hlevel _), sinks_server]
  refine List.mem_map.mpr ⟨⟨.stderr, .err⟩, ?_, rfl⟩
  simp [consoleSinks, hlevel]

/-- What is only worth knowing does not. -/
theorem info_not_on_stderr {o : Sigma BootOp}
    (h : o ∈ (cfg.server.log .info text).performed answer) : onStderr o = false := by
  rw [performed_log] at h
  split at h
  · obtain ⟨s, hs, rfl⟩ := List.mem_map.mp h
    obtain ⟨hmem, hlevel⟩ := List.mem_filter.mp hs
    rw [sinks_server, consoleSinks] at hmem
    have hs : s.output ≠ .stderr := by
      intro hout
      by_cases hfile : cfg.file = ""
      · simp only [hfile, if_true, List.append_nil, List.mem_cons, List.not_mem_nil, or_false] at hmem
        rcases hmem with rfl | rfl
        · cases hout
        · exact absurd hlevel (by decide)
      · simp only [hfile, if_false, List.cons_append, List.nil_append, List.mem_cons,
          List.not_mem_nil, or_false] at hmem
        rcases hmem with rfl | rfl | rfl
        · cases hout
        · exact absurd hlevel (by decide)
        · cases hout
    cases hout : s.output with
    | stderr => exact absurd hout hs
    | _ => rfl
  · cases h

end Logging

end EvGrpc
