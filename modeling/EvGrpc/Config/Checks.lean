import EvGrpc.Config.Loader

/-!
# The checks of `LoadSchema`, one by one

The errors of a configuration are those of its checks put together (`errors_checkSchema`), so
`LoadSchema` succeeds exactly when no check has anything to say (`loadSchema_ok_iff`).
-/

namespace EvGrpc

open Lib

/-! ## Checks -/

/-- The sections of a configuration. -/
inductive Part
  | database | oauth | grpc | log
  deriving DecidableEq

def Part.name : Part → String
  | database => "database"
  | oauth => "oauth"
  | grpc => "grpc"
  | log => "log"

def Part.allowed : Part → List String
  | database => kAllowedDatabaseKeys
  | oauth => kAllowedOAuthKeys
  | grpc => kAllowedGrpcKeys
  | log => kAllowedLogKeys

/-- The fields that are integers. -/
inductive IntField
  | jwksCacheTtl | connectTimeout | readTimeout | port | maxSizeMb | maxFiles
  deriving DecidableEq

namespace IntField

def part : IntField → Part
  | jwksCacheTtl | connectTimeout | readTimeout => .oauth
  | port => .grpc
  | maxSizeMb | maxFiles => .log

def key : IntField → String
  | jwksCacheTtl => "jwks_cache_ttl_seconds"
  | connectTimeout => "discovery_connect_timeout_seconds"
  | readTimeout => "discovery_read_timeout_seconds"
  | port => "port"
  | maxSizeMb => "max_size_mb"
  | maxFiles => "max_files"

/-- The largest value of the field reference; the smallest is one. -/
def hi : IntField → ℤ
  | jwksCacheTtl => 86400
  | connectTimeout => 120
  | readTimeout => 600
  | port => 65535
  | maxSizeMb => 1024
  | maxFiles => 100

/-- The field of the configuration. -/
def get : IntField → SchemaConfig → Int32
  | jwksCacheTtl, c => c.oauth.jwksCacheTtlSeconds
  | connectTimeout, c => c.oauth.discoveryConnectTimeoutSeconds
  | readTimeout, c => c.oauth.discoveryReadTimeoutSeconds
  | port, c => c.grpc.port
  | maxSizeMb, c => c.log.maxSizeMb
  | maxFiles, c => c.log.maxFiles

def check : IntField → Option Json → Checked Int32
  | jwksCacheTtl => checkJwksCacheTtl
  | connectTimeout => checkConnectTimeout
  | readTimeout => checkReadTimeout
  | port => checkPort
  | maxSizeMb => checkMaxSizeMb
  | maxFiles => checkMaxFiles

end IntField

/-- What is checked. -/
inductive Check
  | object (p : Part)
  | unknownKeys (p : Part)
  | databaseUrl
  | issuerUrl
  | audience
  | level
  | file
  | int (f : IntField)
  deriving DecidableEq

/-- A member of a section, if the section is an object. -/
def field? (j : Json) (p : Part) (key : String) : Option Json := (j.member? p.name).bind (·.member? key)

/-- The section, if it is an object. -/
def part? (j : Json) (p : Part) : Option Json := (j.member? p.name).filter Json.isObject

/-- What a check of a section says; there is nothing to check in what is not an object. -/
def inPart (j : Json) (p : Part) (check : Json → List String) : List String :=
  (part? j p).elim [] check

/-- What a check adds to the errors. -/
def Check.errors (host : Host) (j : Json) : Check → List String
  | object p =>
      match j.member? p.name with
      | none => if p = .database then [] else [p.name ++ ": missing required field"]
      | some x => if !x.isObject then [p.name ++ ": must be an object"] else []
  | unknownKeys p => inPart j p fun x => checkUnknownKeys x p.allowed p.name
  | databaseUrl =>
      match j.member? "database" with
      | none => if dbUrlEnv host ≠ "" then [] else [missingDatabaseUrl]
      | some _ => inPart j .database fun db =>
          (jsonUrl db).errors ++ (resolveUrl (jsonUrl db).value (dbUrlEnv host)).errors
  | issuerUrl => inPart j .oauth fun oa => (checkIssuerUrl (oa.member? "issuer_url")).errors
  | audience => inPart j .oauth fun oa => (checkAudience (oa.member? "audience")).errors
  | level => inPart j .log fun l => (checkLevel (l.member? "level")).errors
  | file => inPart j .log fun l => (checkFile host (l.member? "file")).errors
  | int f => inPart j f.part fun x => (f.check (x.member? f.key)).errors

/-- The checks in the order of the source. -/
def allChecks : List Check :=
  [.object .database, .unknownKeys .database, .databaseUrl,
    .object .oauth, .unknownKeys .oauth, .issuerUrl, .audience, .int .jwksCacheTtl,
    .int .connectTimeout, .int .readTimeout,
    .object .grpc, .unknownKeys .grpc, .int .port,
    .object .log, .unknownKeys .log, .level, .file, .int .maxSizeMb, .int .maxFiles]

theorem mem_allChecks (c : Check) : c ∈ allChecks := by
  cases c with
  | object p => cases p <;> decide
  | unknownKeys p => cases p <;> decide
  | int f => cases f <;> decide
  | _ => decide

/-! ## The errors are theirs -/

section Errors
variable {host : Host} {j : Json}

theorem part?_of_none {p : Part} (h : j.member? p.name = none) : part? j p = none := by
  simp [part?, h]

theorem part?_of_some {p : Part} {x : Json} (h : j.member? p.name = some x) :
    part? j p = if x.isObject then some x else none := by
  by_cases hx : x.isObject <;> simp [part?, h, hx]

theorem errors_checkDatabase : (checkDatabase host j).errors =
    [Check.object .database, .unknownKeys .database, .databaseUrl].flatMap (Check.errors host j) := by
  simp only [List.flatMap_cons, List.flatMap_nil, List.append_nil, Check.errors, checkDatabase,
    inPart]
  cases h : j.member? "database" with
  | none =>
      have hs : part? j .database = none := part?_of_none h
      simp only [Part.name, h, hs]
      by_cases henv : dbUrlEnv host ≠ "" <;> simp [henv]
  | some db =>
      have hs := part?_of_some (p := .database) h
      by_cases hdb : db.isObject
      · simp [Part.name, Part.allowed, h, hs, hdb]
      · simp [Part.name, h, hs, hdb]

theorem inPart_append (p : Part) (f g : Json → List String) :
    inPart j p (fun x => f x ++ g x) = inPart j p f ++ inPart j p g := by
  unfold inPart
  cases part? j p <;> rfl

/-- A required section: whether it is there, and then what is in it. -/
theorem errors_checkSection (host : Host) {α : Type} {p : Part} (hp : p ≠ .database) (byDefault : α)
    (check : Json → Checked α) : (checkSection p.name byDefault check j).errors =
      (Check.object p).errors host j ++ inPart j p fun x => (check x).errors := by
  simp only [checkSection, Check.errors, inPart]
  cases h : j.member? p.name with
  | none => simp [part?_of_none h, hp]
  | some x =>
      by_cases hx : x.isObject
      · simp [part?_of_some h, hx]
      · simp [part?_of_some h, hx]

theorem errors_checkOAuth (host : Host) : (checkOAuth j).errors =
    [Check.object .oauth, .unknownKeys .oauth, .issuerUrl, .audience, .int .jwksCacheTtl,
      .int .connectTimeout, .int .readTimeout].flatMap (Check.errors host j) := by
  refine (errors_checkSection host (p := .oauth) (by decide) _ _).trans ?_
  simp only [inPart_append, List.flatMap_cons, List.flatMap_nil, List.append_nil, List.append_assoc]
  rfl

theorem errors_checkGrpc (host : Host) : (checkGrpc j).errors =
    [Check.object .grpc, .unknownKeys .grpc, .int .port].flatMap (Check.errors host j) := by
  refine (errors_checkSection host (p := .grpc) (by decide) _ _).trans ?_
  simp only [inPart_append, List.flatMap_cons, List.flatMap_nil, List.append_nil]
  rfl

theorem errors_checkLog : (checkLog host j).errors =
    [Check.object .log, .unknownKeys .log, .level, .file, .int .maxSizeMb,
      .int .maxFiles].flatMap (Check.errors host j) := by
  refine (errors_checkSection host (p := .log) (by decide) _ _).trans ?_
  simp only [inPart_append, List.flatMap_cons, List.flatMap_nil, List.append_nil, List.append_assoc]
  rfl

/-- The errors of a configuration are those of its checks. -/
theorem errors_checkSchema (host : Host) (j : Json) :
    (checkSchema host j).errors = allChecks.flatMap (Check.errors host j) := by
  have hall : (checkSchema host j).errors = (checkDatabase host j).errors ++
      (checkOAuth j).errors ++ (checkGrpc j).errors ++ (checkLog host j).errors := rfl
  rw [hall, errors_checkDatabase, errors_checkOAuth host, errors_checkGrpc host,
    errors_checkLog, ← List.flatMap_append, ← List.flatMap_append, ← List.flatMap_append]
  rfl

end Errors

/-! ## Loading -/

/-- The file at this path holds this object. -/
def Host.Holds (host : Host) (path : String) (j : Json) : Prop :=
  (∃ raw, host.readFile path = some raw ∧ host.parse raw = .ok j) ∧ j.isObject = true

section Load
variable {host : Host} {path : String} {j : Json}

theorem loadSchema_eq (h : host.Holds path j) : loadSchema host path =
    if (checkSchema host j).errors ≠ [] then .error (throwText path (checkSchema host j).errors)
    else .ok (checkSchema host j).value := by
  obtain ⟨⟨raw, hread, hparse⟩, hobject⟩ := h
  simp [loadSchema, hread, hparse, hobject]

/-- `LoadSchema` succeeds exactly when no check has anything to say. -/
theorem loadSchema_ok_iff (h : host.Holds path j) {cfg : SchemaConfig} :
    loadSchema host path = .ok cfg ↔
      (∀ c : Check, c.errors host j = []) ∧ cfg = (checkSchema host j).value := by
  have hempty : (checkSchema host j).errors = [] ↔ ∀ c : Check, c.errors host j = [] := by
    rw [errors_checkSchema, List.flatMap_eq_nil_iff]
    exact ⟨fun h c => h c (mem_allChecks c), fun h c _ => h c⟩
  rw [loadSchema_eq h, ← hempty]
  by_cases herrors : (checkSchema host j).errors = []
  · simp [herrors, eq_comm]
  · simp [herrors]

end Load

end EvGrpc
