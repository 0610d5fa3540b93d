import EvGrpc.Lib.Decimal
import EvGrpc.Lib.Formats
import Mathlib.Data.List.DropRight

/-!
# The configuration file

`config/config_loader.cc`: `LoadSchema` reads a JSON file, checks every field, and returns
the configuration or throws one text with all that is wrong.  What it asks of its host is a
parameter: the files, the JSON parser, one environment variable and which directories can be
written.

Each field is checked on its own.  `Checked` is the outcome: the value that goes into the
configuration, the default if there is none, and what is added to the errors.
-/

namespace EvGrpc

open Lib

/-! ## Configurations -/

structure DatabaseConfig where
  url : String := ""
  deriving DecidableEq

structure OAuthConfig where
  issuerUrl : String := ""
  audience : String := ""
  jwksCacheTtlSeconds : Int32 := 3600
  discoveryConnectTimeoutSeconds : Int32 := 5
  discoveryReadTimeoutSeconds : Int32 := 15
  deriving DecidableEq

structure GrpcConfig where
  port : Int32 := 50051
  deriving DecidableEq

structure LogConfig where
  level : String := "info"
  file : String := ""
  maxSizeMb : Int32 := 100
  maxFiles : Int32 := 7
  deriving DecidableEq

structure SchemaConfig where
  database : DatabaseConfig
  oauth : OAuthConfig
  grpc : GrpcConfig
  log : LogConfig
  deriving DecidableEq

/-- What `json::parse` throws, with its text: only a number that overflows is out of range. -/
inductive JsonError
  | parseError (what : String)
  | outOfRange (what : String)

/-- What `LoadSchema` asks of the machine it runs on. -/
structure Host where
  /-- The contents of a file that can be opened. -/
  readFile : String → Option String
  /-- `json::parse` -/
  parse : String → Except JsonError Json
  /-- `getenv("EVGRPC_DATABASE_URL")` -/
  databaseUrl : Option String
  /-- The path names a directory that can be written. -/
  writableDir : List Char → Bool
  /-- There is no file without a name. -/
  readFile_empty : readFile "" = none

/-! ## Checks -/

/-- The value of a field, and what is wrong with it. -/
structure Checked (α : Type) where
  value : α
  errors : List String

/-- `s.rfind(start, 0) == 0` -/
def startsWith (start s : String) : Bool := start.toList.isPrefixOf s.toList

/-- The keys of each section, in the order of a `std::set`. -/
def kAllowedDatabaseKeys : List String := ["url"]
def kAllowedOAuthKeys : List String :=
  ["audience", "discovery_connect_timeout_seconds", "discovery_read_timeout_seconds",
    "issuer_url", "jwks_cache_ttl_seconds"]
def kAllowedGrpcKeys : List String := ["port"]
def kAllowedLogKeys : List String := ["file", "level", "max_files", "max_size_mb"]

def kValidLogLevels : List String := ["critical", "debug", "error", "info", "trace", "warn"]

/-- What `CheckUnknownKeys` says of one key. -/
def unknownKey (allowed : List String) (name key : String) : String :=
  name ++ ": unknown key \"" ++ key ++ "\" (allowed: " ++ String.intercalate ", " allowed ++ ")"

/-- `CheckUnknownKeys` -/
def checkUnknownKeys (obj : Json) (allowed : List String) (name : String) : List String :=
  (obj.members.filter fun m => !allowed.contains m.1).map fun m => unknownKey allowed name m.1

/-- `IsHttpUrl` -/
def isHttpUrl (s : String) : Bool := startsWith "http://" s || startsWith "https://" s

/-- `IsWritableDir`; the system calls see a C string. -/
def isWritableDir (host : Host) (path : String) : Bool := host.writableDir (cstr path)

/-- `std::filesystem::path::parent_path`: without the last component and the slashes before
it, except that the root stays. -/
def parentPath (s : String) : String :=
  if s.toList.all (· == '/') then s
  else
    let dir := s.toList.rdropWhile (· ≠ '/')
    let parent := dir.rdropWhile (· == '/')
    if parent = [] ∧ dir ≠ [] then "/" else String.ofList parent

/-! ## The database -/

/-- `db_url_env` -/
def dbUrlEnv (host : Host) : String := host.databaseUrl.getD ""

def missingDatabaseUrl : String :=
  "database.url: missing required field (set in config.json or via EVGRPC_DATABASE_URL env var)"

/-- The URL in the `database` object; an empty one counts as not provided. -/
def jsonUrl (db : Json) : Checked String :=
  match db.member? "url" with
  | none => ⟨"", []⟩
  | some x =>
      match x.string? with
      | none => ⟨"", ["database.url: must be a non-empty string (got non-string type)"]⟩
      | some s => ⟨s, []⟩

/-- The URL of the object, or else that of the environment. -/
def resolveUrl (json env : String) : Checked String :=
  if json ≠ "" then
    if !startsWith "postgresql://" json then
      ⟨"", ["database.url: must start with \"postgresql://\" (got \"" ++ json ++ "\")"]⟩
    else ⟨json, []⟩
  else if env ≠ "" then
    if !startsWith "postgresql://" env then
      ⟨"", ["database.url: must start with \"postgresql://\" (from EVGRPC_DATABASE_URL env var: \"" ++
        env ++ "\")"]⟩
    else ⟨env, []⟩
  else ⟨"", [missingDatabaseUrl]⟩

/-- The `database` section. -/
def checkDatabase (host : Host) (j : Json) : Checked DatabaseConfig :=
  match j.member? "database" with
  | none =>
      if dbUrlEnv host ≠ "" then ⟨{ url := dbUrlEnv host }, []⟩ else ⟨{}, [missingDatabaseUrl]⟩
  | some db =>
      if !db.isObject then ⟨{}, ["database: must be an object"]⟩
      else
        let unknown := checkUnknownKeys db kAllowedDatabaseKeys "database"
        let json := jsonUrl db
        let url := resolveUrl json.value (dbUrlEnv host)
        ⟨{ url := url.value }, unknown ++ json.errors ++ url.errors⟩

/-! ## Integers -/

/-- An optional integer.  `get<int>()` keeps the low 32 bits of the number, and `wrong` says
what is wrong with the result. -/
def checkInt (field : String) (wrong : Int32 → Option String) (byDefault : Int32) :
    Option Json → Checked Int32
  | none => ⟨byDefault, []⟩
  | some x =>
      match x.integer? with
      | none => ⟨byDefault, [field ++ ": must be an integer"]⟩
      | some v =>
          match wrong (Int32.ofInt v) with
          | some e => ⟨byDefault, [e]⟩
          | none => ⟨Int32.ofInt v, []⟩

/-- `(got n)` -/
def got (n : Int32) : String := " (got " ++ toText n.toInt ++ ")"

/-- More than zero and at most `hi`. -/
def atMost (field : String) (hi : ℤ) (n : Int32) : Option String :=
  if n.toInt ≤ 0 then some (field ++ ": must be > 0" ++ got n)
  else if hi < n.toInt then some (field ++ ": must be <= " ++ toText hi ++ got n)
  else none

/-- The range of `grpc.port`. -/
def wrongPort (n : Int32) : Option String :=
  if n.toInt < 1 ∨ 65535 < n.toInt then some ("grpc.port: must be in [1, 65535]" ++ got n)
  else none

/-- The range of `log.max_files`; the first text names another field. -/
def wrongMaxFiles (n : Int32) : Option String :=
  if n.toInt ≤ 0 then some ("log.files: must be > 0" ++ got n)
  else if 100 < n.toInt then some ("log.max_files: must be <= 100" ++ got n)
  else none

def checkJwksCacheTtl : Option Json → Checked Int32 :=
  checkInt "oauth.jwks_cache_ttl_seconds" (atMost "oauth.jwks_cache_ttl_seconds" 86400) 3600

def checkConnectTimeout : Option Json → Checked Int32 :=
  checkInt "oauth.discovery_connect_timeout_seconds"
    (atMost "oauth.discovery_connect_timeout_seconds" 120) 5

def checkReadTimeout : Option Json → Checked Int32 :=
  checkInt "oauth.discovery_read_timeout_seconds"
    (atMost "oauth.discovery_read_timeout_seconds" 600) 15

def checkPort : Option Json → Checked Int32 := checkInt "grpc.port" wrongPort 50051

def checkMaxSizeMb : Option Json → Checked Int32 :=
  checkInt "log.max_size_mb" (atMost "log.max_size_mb" 1024) 100

def checkMaxFiles : Option Json → Checked Int32 := checkInt "log.max_files" wrongMaxFiles 7

/-! ## Texts -/

/-- A required text that is not empty. -/
def checkText (field : String) : Option Json → Checked String
  | none => ⟨"", [field ++ ": missing required field"]⟩
  | some x =>
      match x.string? with
      | none => ⟨"", [field ++ ": must be a non-empty string"]⟩
      | some s => if s = "" then ⟨"", [field ++ ": must be a non-empty string"]⟩ else ⟨s, []⟩

/-- `oauth.issuer_url` is also an HTTP URL. -/
def checkIssuerUrl (x : Option Json) : Checked String :=
  let text := checkText "oauth.issuer_url" x
  if text.errors = [] ∧ !isHttpUrl text.value then
    ⟨"", ["oauth.issuer_url: must be a valid http(s) URL (got \"" ++ text.value ++ "\")"]⟩
  else text

def checkAudience : Option Json → Checked String := checkText "oauth.audience"

def checkLevel : Option Json → Checked String
  | none => ⟨"info", []⟩
  | some x =>
      match x.string? with
      | none => ⟨"info", ["log.level: must be a string"]⟩
      | some s =>
          if !kValidLogLevels.contains s then
            ⟨"info", ["log.level: must be one of trace/debug/info/warn/error/critical (got \"" ++ s ++
              "\")"]⟩
          else ⟨s, []⟩

/-- The directory of the log file. -/
def logDir (s : String) : String := if parentPath s = "" then "." else parentPath s

def checkFile (host : Host) : Option Json → Checked String
  | none => ⟨"", []⟩
  | some x =>
      match x.string? with
      | none => ⟨"", ["log.file: must be a string"]⟩
      | some s =>
          if s = "" then ⟨"", []⟩
          else if !isWritableDir host (logDir s) then
            ⟨"", ["log.file: parent directory does not exist or is not writable: " ++ logDir s]⟩
          else ⟨s, []⟩

/-! ## The other sections -/

/-- A required section. -/
def checkSection {α : Type} (name : String) (byDefault : α) (check : Json → Checked α) (j : Json) :
    Checked α :=
  match j.member? name with
  | none => ⟨byDefault, [name ++ ": missing required field"]⟩
  | some x => if !x.isObject then ⟨byDefault, [name ++ ": must be an object"]⟩ else check x

def checkOAuth : Json → Checked OAuthConfig :=
  checkSection "oauth" {} fun oa =>
    let issuerUrl := checkIssuerUrl (oa.member? "issuer_url")
    let audience := checkAudience (oa.member? "audience")
    let ttl := checkJwksCacheTtl (oa.member? "jwks_cache_ttl_seconds")
    let connect := checkConnectTimeout (oa.member? "discovery_connect_timeout_seconds")
    let read := checkReadTimeout (oa.member? "discovery_read_timeout_seconds")
    ⟨⟨issuerUrl.value, audience.value, ttl.value, connect.value, read.value⟩,
      checkUnknownKeys oa kAllowedOAuthKeys "oauth" ++ issuerUrl.errors ++ audience.errors ++
        ttl.errors ++ connect.errors ++ read.errors⟩

def checkGrpc : Json → Checked GrpcConfig :=
  checkSection "grpc" {} fun g =>
    let port := checkPort (g.member? "port")
    ⟨⟨port.value⟩, checkUnknownKeys g kAllowedGrpcKeys "grpc" ++ port.errors⟩

def checkLog (host : Host) : Json → Checked LogConfig :=
  checkSection "log" {} fun l =>
    let level := checkLevel (l.member? "level")
    let file := checkFile host (l.member? "file")
    let maxSizeMb := checkMaxSizeMb (l.member? "max_size_mb")
    let maxFiles := checkMaxFiles (l.member? "max_files")
    ⟨⟨level.value, file.value, maxSizeMb.value, maxFiles.value⟩,
      checkUnknownKeys l kAllowedLogKeys "log" ++ level.errors ++ file.errors ++
        maxSizeMb.errors ++ maxFiles.errors⟩

/-- All sections, in the order of the source. -/
def checkSchema (host : Host) (j : Json) : Checked SchemaConfig :=
  let database := checkDatabase host j
  let oauth := checkOAuth j
  let grpc := checkGrpc j
  let log := checkLog host j
  ⟨⟨database.value, oauth.value, grpc.value, log.value⟩,
    database.errors ++ oauth.errors ++ grpc.errors ++ log.errors⟩

/-! ## Loading -/

/-- `what()` of an exception that was made with this text: a C string. -/
def what (text : String) : String := String.ofList (cstr text)

/-- A text without the line breaks at its end. -/
def trimBreaks (s : String) : String := String.ofList (s.toList.rdropWhile (· == '\n'))

/-- The lines of `ConfigErrorCollector::Throw`: the path stands before the first only. -/
def errorLines (path : String) (errors : List String) : String :=
  String.ofList (path.toList ++ errors.flatMap fun e => [':', ' '] ++ e.toList ++ ['\n'])

/-- `ConfigErrorCollector::Throw`; only what comes before a NUL can be read of the text. -/
def throwText (path : String) (errors : List String) : String :=
  what (trimBreaks (errorLines path errors))

/-- `LoadSchema`.  A number that overflows is reported without the path. -/
def loadSchema (host : Host) (path : String) : Except String SchemaConfig :=
  match host.readFile path with
  | none => .error (what (path ++ ": cannot open file"))
  | some raw =>
      match host.parse raw with
      | .error (.parseError text) => .error (what (path ++ ": parse error: " ++ text))
      | .error (.outOfRange text) => .error (what text)
      | .ok j =>
          if !j.isObject then .error (what (path ++ ": top-level must be a JSON object"))
          else
            let schema := checkSchema host j
            if schema.errors ≠ [] then .error (throwText path schema.errors)
            else .ok schema.value

end EvGrpc
