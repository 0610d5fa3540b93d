import EvGrpc.Config.DatabaseUrl
import EvGrpc.Config.Integers

/-!
# The configurations that can be loaded

What a machine can load, whatever is in its files: `SchemaConfig.WellFormed` says it of the
configuration alone, and `loadable_iff` that nothing else is loaded and that all of it can be.
The second half writes a configuration out (`SchemaConfig.written`) and loads it again.
-/

namespace EvGrpc

open Lib

/-- What every part of the program may rely on.  The URL of the database has its scheme unless
it is the one of the environment. -/
structure SchemaConfig.WellFormed (host : Host) (cfg : SchemaConfig) : Prop where
  url : IsDatabaseUrl cfg.database.url ∨ cfg.database.url = dbUrlEnv host ∧ dbUrlEnv host ≠ ""
  issuerUrl : isHttpUrl cfg.oauth.issuerUrl = true
  audience : cfg.oauth.audience ≠ ""
  level : cfg.log.level ∈ kValidLogLevels
  file : cfg.log.file = "" ∨ isWritableDir host (logDir cfg.log.file) = true
  inRange : ∀ f : IntField, 1 ≤ (f.get cfg).toInt ∧ (f.get cfg).toInt ≤ f.hi

/-! ## Fields -/

section Fields
variable {field : String} {wrong : Int32 → Option String} {d : Int32} {x : Option Json}

/-- A checked integer is the default, or is not wrong. -/
theorem checkInt_mem {P : Int32 → Prop} (hd : P d) (hwrong : ∀ n, wrong n = none → P n)
    (h : (checkInt field wrong d x).errors = []) : P (checkInt field wrong d x).value := by
  cases x with
  | none => exact hd
  | some x =>
      cases hx : x.integer? with
      | none => simp [checkInt, hx] at h
      | some v =>
          rw [checkInt_errors hx, Option.toList_eq_nil_iff] at h
          rw [checkInt_value hx h]
          exact hwrong _ h

/-- Every default lies in its range, so every checked integer does. -/
theorem IntField.check_mem (f : IntField) (h : (f.check x).errors = []) :
    1 ≤ (f.check x).value.toInt ∧ (f.check x).value.toInt ≤ f.hi := by
  cases f with
  | jwksCacheTtl | connectTimeout | readTimeout | maxSizeMb =>
      exact checkInt_mem (P := fun n => 1 ≤ n.toInt ∧ n.toInt ≤ _) (by decide)
        (fun _ => atMost_eq_none_iff.mp) h
  | port =>
      exact checkInt_mem (P := fun n => 1 ≤ n.toInt ∧ n.toInt ≤ _) (by decide)
        (fun _ => wrongPort_eq_none_iff.mp) h
  | maxFiles =>
      exact checkInt_mem (P := fun n => 1 ≤ n.toInt ∧ n.toInt ≤ _) (by decide)
        (fun _ => wrongMaxFiles_eq_none_iff.mp) h

theorem checkText_ne_empty (h : (checkText field x).errors = []) : (checkText field x).value ≠ "" := by
  cases x with
  | none => simp [checkText] at h
  | some x =>
      cases hx : x.string? with
      | none => simp [checkText, hx] at h
      | some s =>
          by_cases hs : s = ""
          · simp [checkText, hx, hs] at h
          · simp [checkText, hx, hs]

theorem checkIssuerUrl_http (h : (checkIssuerUrl x).errors = []) :
    isHttpUrl (checkIssuerUrl x).value = true := by
  unfold checkIssuerUrl at h ⊢
  by_cases hbad : (checkText "oauth.issuer_url" x).errors = [] ∧
      !isHttpUrl (checkText "oauth.issuer_url" x).value
  · simp [hbad] at h
  · rw [if_neg hbad] at h ⊢
    rw [not_and, Bool.not_eq_true, Bool.not_eq_false'] at hbad
    exact hbad h

theorem checkLevel_mem (h : (checkLevel x).errors = []) : (checkLevel x).value ∈ kValidLogLevels := by
  cases x with
  | none => simp [checkLevel, kValidLogLevels]
  | some x =>
      cases hx : x.string? with
      | none => simp [checkLevel, hx] at h
      | some s =>
          by_cases hs : s ∈ kValidLogLevels
          · simp [checkLevel, hx, hs]
          · simp [checkLevel, hx, hs] at h

theorem checkFile_dir {host : Host} (h : (checkFile host x).errors = []) :
    (checkFile host x).value = "" ∨
      isWritableDir host (logDir (checkFile host x).value) = true := by
  cases x with
  | none => exact .inl rfl
  | some x =>
      cases hx : x.string? with
      | none => simp [checkFile, hx] at h
      | some s =>
          by_cases hs : s = ""
          · simp [checkFile, hx, hs]
          · by_cases hdir : isWritableDir host (logDir s) = true
            · simp [checkFile, hx, hs, hdir]
            · simp [checkFile, hx, hs, hdir] at h

end Fields

/-! ## What is loaded is well formed -/

section Load
variable {host : Host} {path : String} {j : Json} {cfg : SchemaConfig}

theorem holds_of_loadSchema (h : loadSchema host path = .ok cfg) : ∃ j, host.Holds path j := by
  unfold loadSchema at h
  split at h
  · cases h
  · rename_i raw hread
    split at h
    · cases h
    · cases h
    · rename_i j hparse
      split at h
      · cases h
      · rename_i hobject
        exact ⟨j, ⟨raw, hread, hparse⟩, by simpa using hobject⟩

/-- A required section that is an object. -/
theorem section_of_silent {p : Part} (hp : p ≠ .database)
    (h : (Check.object p).errors host j = []) : ∃ x, j.member? p.name = some x ∧ x.isObject = true := by
  cases hx : j.member? p.name with
  | none => simp [Check.errors, hx, hp] at h
  | some x =>
      refine ⟨x, rfl, ?_⟩
      by_contra hobject
      simp [Check.errors, hx, hobject] at h

theorem inPart_of_some {p : Part} {x : Json} (hx : j.member? p.name = some x)
    (hobject : x.isObject = true) (check : Json → List String) : inPart j p check = check x := by
  simp [inPart, part?_of_some hx, hobject]

/-- What every part of the program may rely on, it may. -/
theorem wellFormed_of_loadSchema (h : loadSchema host path = .ok cfg) : cfg.WellFormed host := by
  obtain ⟨j, hholds⟩ := holds_of_loadSchema h
  have hurl := url_of_ok hholds h
  obtain ⟨hall, rfl⟩ := (loadSchema_ok_iff hholds).mp h
  obtain ⟨oa, hoa, hoaObject⟩ := section_of_silent (p := .oauth) (by decide) (hall _)
  obtain ⟨l, hl, hlObject⟩ := section_of_silent (p := .log) (by decide) (hall _)
  have hissuer : (checkIssuerUrl (oa.member? "issuer_url")).errors = [] := by
    rw [← hall .issuerUrl, Check.errors, inPart_of_some hoa hoaObject]
  have haudience : (checkAudience (oa.member? "audience")).errors = [] := by
    rw [← hall .audience, Check.errors, inPart_of_some hoa hoaObject]
  have hlevel : (checkLevel (l.member? "level")).errors = [] := by
    rw [← hall .level, Check.errors, inPart_of_some hl hlObject]
  have hfile : (checkFile host (l.member? "file")).errors = [] := by
    rw [← hall .file, Check.errors, inPart_of_some hl hlObject]
  have hoauth : (checkSchema host j).value.oauth = (checkOAuth j).value := rfl
  have hlog : (checkSchema host j).value.log = (checkLog host j).value := rfl
  have hoa' : j.member? "oauth" = some oa := hoa
  have hl' : j.member? "log" = some l := hl
  refine ⟨?_, ?_, ?_, ?_, ?_, fun f => ?_⟩
  · rw [hurl]
    rcases database_silent_iff.mp ⟨hall _, hall _⟩ with ⟨hnone, henv⟩ | ⟨-, -, hgood⟩
    · exact .inr ⟨selectedUrl_of_none hnone, henv⟩
    · exact .inl hgood
  · simp only [hoauth, checkOAuth, checkSection, hoa', hoaObject]
    exact checkIssuerUrl_http hissuer
  · simp only [hoauth, checkOAuth, checkSection, hoa', hoaObject]
    exact checkText_ne_empty haudience
  · simp only [hlog, checkLog, checkSection, hl', hlObject]
    exact checkLevel_mem hlevel
  · simp only [hlog, checkLog, checkSection, hl', hlObject]
    exact checkFile_dir hfile
  · have hpart : f.part ≠ .database := by cases f <;> decide
    obtain ⟨x, hx, hobject⟩ := section_of_silent hpart (hall _)
    have herrors : (f.check (x.member? f.key)).errors = [] := by
      rw [← hall (.int f), Check.errors, inPart_of_some hx hobject]
    rw [IntField.get_checkSchema hx hobject]
    exact f.check_mem herrors

end Load

/-! ## All that is well formed is loaded -/

/-- No file is without a name. -/
theorem readFile_nameless : (if ("" : String) = "" then none else some "") = (none : Option String) :=
  if_pos rfl

/-- The machine, with this value in every file. -/
def Host.holding (host : Host) (j : Json) : Host where
  readFile path := if path = "" then none else some ""
  parse _ := .ok j
  databaseUrl := host.databaseUrl
  writableDir := host.writableDir
  readFile_empty := readFile_nameless

theorem wellFormed_holding {host : Host} {j : Json} {cfg : SchemaConfig} :
    cfg.WellFormed (host.holding j) ↔ cfg.WellFormed host :=
  ⟨fun h => ⟨h.url, h.issuerUrl, h.audience, h.level, h.file, h.inRange⟩,
    fun h => ⟨h.url, h.issuerUrl, h.audience, h.level, h.file, h.inRange⟩⟩

section Written
variable (host : Host) (cfg : SchemaConfig)

/-- An integer of a configuration, as a member. -/
def IntField.member (f : IntField) : String × Json := (f.key, .integer (f.get cfg).toInt)

/-- The `database` section, or nothing if the URL has to come from the environment. -/
def DatabaseConfig.written (db : DatabaseConfig) : List (String × Json) :=
  if IsDatabaseUrl db.url then [("database", .object [("url", .string db.url)])] else []

/-- The other sections, each field written out. -/
def SchemaConfig.writtenOAuth : Json :=
  .object [("issuer_url", .string cfg.oauth.issuerUrl), ("audience", .string cfg.oauth.audience),
    IntField.member cfg .jwksCacheTtl, IntField.member cfg .connectTimeout,
    IntField.member cfg .readTimeout]

def SchemaConfig.writtenGrpc : Json := .object [IntField.member cfg .port]

def SchemaConfig.writtenLog : Json :=
  .object [("level", .string cfg.log.level), ("file", .string cfg.log.file),
    IntField.member cfg .maxSizeMb, IntField.member cfg .maxFiles]

/-- A configuration as a file has it. -/
def SchemaConfig.written : Json :=
  .object (cfg.database.written ++ [("oauth", cfg.writtenOAuth), ("grpc", cfg.writtenGrpc),
    ("log", cfg.writtenLog)])

variable {host cfg}

/-- An integer that is written is read. -/
theorem IntField.check_written {f : IntField} {n : Int32} (h : 1 ≤ n.toInt ∧ n.toInt ≤ f.hi) :
    f.check (some (.integer n.toInt)) = ⟨n, []⟩ := by
  obtain ⟨wrong, d, hcheck, hwrong⟩ := f.check_eq
  have hn : Int32.ofInt n.toInt = n := Int32.ofInt_toInt n
  rw [hcheck]
  simp [checkInt, Json.integer?, hn, (hwrong n).mpr h]

theorem checkText_written (field : String) {s : String} (h : s ≠ "") :
    checkText field (some (.string s)) = ⟨s, []⟩ := by
  simp [checkText, Json.string?, h]

theorem ne_empty_of_isHttpUrl {s : String} (h : isHttpUrl s = true) : s ≠ "" := by
  intro hs
  rw [hs] at h
  exact absurd h (by decide)

theorem checkDatabase_written (h : cfg.WellFormed host) :
    checkDatabase host cfg.written = ⟨cfg.database, []⟩ := by
  by_cases hurl : IsDatabaseUrl cfg.database.url
  · have hne := isDatabaseUrl_ne_empty hurl
    have hscheme : startsWith "postgresql://" cfg.database.url = true := hurl
    simp [checkDatabase, SchemaConfig.written, DatabaseConfig.written, hurl, Json.member?,
      Json.isObject, checkUnknownKeys, Json.members, kAllowedDatabaseKeys, jsonUrl, Json.string?,
      resolveUrl, hne, hscheme]
  · obtain ⟨hsame, henv⟩ := h.url.resolve_left hurl
    rw [← hsame] at henv
    simp [checkDatabase, SchemaConfig.written, DatabaseConfig.written, hurl, Json.member?, henv,
      ← hsame]

/-- Only the first section may be left out. -/
theorem member?_written {name : String} (hname : name ≠ "database") :
    cfg.written.member? name = (Json.object [("oauth", cfg.writtenOAuth), ("grpc", cfg.writtenGrpc),
      ("log", cfg.writtenLog)]).member? name := by
  have hskip : (cfg.database.written.find? fun m => m.1 == name) = none := by
    by_cases hurl : IsDatabaseUrl cfg.database.url
    · simp [DatabaseConfig.written, hurl, hname.symm]
    · simp [DatabaseConfig.written, hurl]
  simp only [SchemaConfig.written, Json.member?, List.find?_append, hskip, Option.none_or]

theorem checkIssuerUrl_written {s : String} (h : isHttpUrl s = true) :
    checkIssuerUrl (some (.string s)) = ⟨s, []⟩ := by
  simp [checkIssuerUrl, checkText_written "oauth.issuer_url" (ne_empty_of_isHttpUrl h), h]

theorem checkOAuth_written (h : cfg.WellFormed host) : checkOAuth cfg.written = ⟨cfg.oauth, []⟩ := by
  have haudience : checkAudience (some (.string cfg.oauth.audience)) = ⟨cfg.oauth.audience, []⟩ :=
    checkText_written "oauth.audience" h.audience
  have httl : checkJwksCacheTtl _ = _ := IntField.check_written (h.inRange .jwksCacheTtl)
  have hconnect : checkConnectTimeout _ = _ := IntField.check_written (h.inRange .connectTimeout)
  have hread : checkReadTimeout _ = _ := IntField.check_written (h.inRange .readTimeout)
  have hmember : cfg.written.member? "oauth" = some cfg.writtenOAuth := member?_written (by decide)
  simp only [IntField.get] at httl hconnect hread
  simp only [checkOAuth, checkSection, hmember]
  simp [SchemaConfig.writtenOAuth, Json.members, Json.member?,
    Json.isObject, IntField.member, IntField.key, IntField.get, checkIssuerUrl_written h.issuerUrl,
    haudience, httl, hconnect, hread, checkUnknownKeys, kAllowedOAuthKeys]

theorem checkGrpc_written (h : cfg.WellFormed host) : checkGrpc cfg.written = ⟨cfg.grpc, []⟩ := by
  have hport : checkPort _ = _ := IntField.check_written (h.inRange .port)
  have hmember : cfg.written.member? "grpc" = some cfg.writtenGrpc := member?_written (by decide)
  simp only [IntField.get] at hport
  simp only [checkGrpc, checkSection, hmember]
  simp [SchemaConfig.writtenGrpc, Json.members, Json.member?,
    Json.isObject, IntField.member, IntField.key, IntField.get, hport, checkUnknownKeys,
    kAllowedGrpcKeys]

theorem checkLevel_written {s : String} (h : s ∈ kValidLogLevels) :
    checkLevel (some (.string s)) = ⟨s, []⟩ := by
  simp [checkLevel, Json.string?, h]

theorem checkFile_written {s : String} (h : s = "" ∨ isWritableDir host (logDir s) = true) :
    checkFile host (some (.string s)) = ⟨s, []⟩ := by
  by_cases hs : s = ""
  · simp [checkFile, Json.string?, hs]
  · simp [checkFile, Json.string?, hs, h.resolve_left hs]

theorem checkLog_written (h : cfg.WellFormed host) : checkLog host cfg.written = ⟨cfg.log, []⟩ := by
  have hsize : checkMaxSizeMb _ = _ := IntField.check_written (h.inRange .maxSizeMb)
  have hfiles : checkMaxFiles _ = _ := IntField.check_written (h.inRange .maxFiles)
  have hmember : cfg.written.member? "log" = some cfg.writtenLog := member?_written (by decide)
  simp only [IntField.get] at hsize hfiles
  simp only [checkLog, checkSection, hmember]
  simp [SchemaConfig.writtenLog, Json.members, Json.member?,
    Json.isObject, IntField.member, IntField.key, IntField.get, checkLevel_written h.level,
    checkFile_written h.file, hsize, hfiles, checkUnknownKeys, kAllowedLogKeys]

/-- What is written is loaded. -/
theorem loadSchema_written {path : String} (h : cfg.WellFormed host)
    (hholds : host.Holds path cfg.written) : loadSchema host path = .ok cfg := by
  simp [loadSchema_eq hholds, checkSchema, checkDatabase_written h, checkOAuth_written h,
    checkGrpc_written h, checkLog_written h]

end Written

/-- **What can be loaded.**  A machine can load a configuration, given the right file, if and
only if the configuration is well formed there; and then writing it out and loading that gives
it back. -/
theorem loadable_iff (host : Host) {path : String} (hpath : path ≠ "") (cfg : SchemaConfig) :
    ((∃ j, loadSchema (host.holding j) path = .ok cfg) ↔ cfg.WellFormed host) ∧
      (loadSchema (host.holding cfg.written) path = .ok cfg ↔ cfg.WellFormed host) := by
  have hloads {j : Json} (h : loadSchema (host.holding j) path = .ok cfg) : cfg.WellFormed host :=
    wellFormed_holding.mp (wellFormed_of_loadSchema h)
  have hwritten (h : cfg.WellFormed host) :
      loadSchema (host.holding cfg.written) path = .ok cfg := by
    have hholds : (host.holding cfg.written).Holds path cfg.written :=
      ⟨⟨"", if_neg hpath, rfl⟩, rfl⟩
    exact loadSchema_written (wellFormed_holding.mpr h) hholds
  exact ⟨⟨fun ⟨_, h⟩ => hloads h, fun h => ⟨_, hwritten h⟩⟩, ⟨hloads, hwritten⟩⟩

/-- What is required, and the defaults. -/
def someConfig : SchemaConfig where
  database := ⟨"postgresql://u@h/d"⟩
  oauth := { issuerUrl := "https://a/", audience := "x" }
  grpc := {}
  log := {}

theorem wellFormed_someConfig (host : Host) : someConfig.WellFormed host where
  url := .inl (by decide)
  issuerUrl := by decide
  audience := by decide
  level := by decide
  file := .inl rfl
  inRange := by
    intro f
    cases f <;> decide

theorem loadable_iff_default :
    loadSchema ((hostWith .null none).holding someConfig.written) "config.json" = .ok someConfig :=
  (loadable_iff _ (by decide) _).2.mpr (wellFormed_someConfig _)

end EvGrpc
