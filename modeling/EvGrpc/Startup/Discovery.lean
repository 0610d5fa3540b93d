import EvGrpc.Config.Loaded
import EvGrpc.Startup.Op

/-!
# Discovery

`auth/oidc_discovery.cc` and `config/config.cc`.  The URL of the keys is not in the
configuration: `DiscoverJwksUri` asks the issuer for it, once, and only an issuer and only
URLs of HTTP (`discovery_exact`).  `LoadConfig` puts it beside what the file says.
-/

namespace EvGrpc

open Lib

/-- `OidcDiscoveryConfig`, in milliseconds. -/
structure OidcDiscoveryConfig where
  connectTimeout : ℤ
  readTimeout : ℤ

/-- `BuildDiscoveryUrl` -/
def buildDiscoveryUrl (issuerUrl : String) : String :=
  String.ofList (issuerUrl.toList.rdropWhile (· == '/')) ++ "/.well-known/openid-configuration"

/-- The request for a discovery document; what `libcurl` sees of the URL is a C string. -/
def discoveryRequest (url : String) (cfg : OidcDiscoveryConfig) : BootOp Transfer :=
  .transfer (cstr url) cfg.connectTimeout cfg.readTimeout

/-- `FetchDiscovery` -/
def fetchDiscovery (url : String) (cfg : OidcDiscoveryConfig) : Boot String := do
  match ← Boot.ask (discoveryRequest url cfg) with
  | .noHandle => throw "curl_easy_init failed"
  | .failed strerror => throw ("curl_easy_perform failed: " ++ strerror)
  | .response code body =>
      if code < 200 ∨ 300 ≤ code then
        throw ("oidc discovery: non-2xx response " ++ toText code ++ " from " ++ url)
      else return body

/-- The member `jwks_uri` of a discovery document, if it is a string. -/
def jwksUri? (j : Json) : Option String := (j.member? "jwks_uri").bind Json.string?

/-- What `DiscoverJwksUri` makes of a body. -/
def readDiscovery (parse : String → Except JsonError Json) (body : String) : Except String String :=
  match parse body with
  | .error (.parseError text) => .error ("oidc discovery: malformed JSON body: " ++ text)
  | .error (.outOfRange text) => .error text
  | .ok j =>
      match jwksUri? j with
      | none => .error "oidc discovery: response missing string 'jwks_uri' field"
      | some jwks =>
          if !isHttpUrl jwks then
            .error ("oidc discovery: jwks_uri must be http(s):// (got \"" ++ jwks ++ "\")")
          else .ok jwks

/-- `DiscoverJwksUri`; the parser is that of the configuration. -/
def discoverJwksUri (parse : String → Except JsonError Json) (issuerUrl : String)
    (cfg : OidcDiscoveryConfig) : Boot String := do
  if !isHttpUrl issuerUrl then
    throw ("oidc discovery: issuer_url must be http(s):// (got \"" ++ issuerUrl ++ "\")")
  else
    let body ← fetchDiscovery (buildDiscoveryUrl issuerUrl) cfg
    Boot.settle (readDiscovery parse body)

/-! ## The resolved configuration -/

structure RuntimeOAuth where
  issuerUrl : String
  jwksUrl : String
  audience : String
  jwksCacheTtlSeconds : Int32
  deriving DecidableEq

structure RuntimeConfig where
  database : DatabaseConfig
  oauth : RuntimeOAuth
  grpc : GrpcConfig
  log : LogConfig
  deriving DecidableEq

/-- The configuration, once the URL of the keys is known. -/
def SchemaConfig.resolve (schema : SchemaConfig) (jwksUrl : String) : RuntimeConfig where
  database := schema.database
  oauth := ⟨schema.oauth.issuerUrl, jwksUrl, schema.oauth.audience, schema.oauth.jwksCacheTtlSeconds⟩
  grpc := schema.grpc
  log := schema.log

/-- The timeouts of the configuration. -/
def SchemaConfig.discovery (schema : SchemaConfig) : OidcDiscoveryConfig where
  connectTimeout := schema.oauth.discoveryConnectTimeoutSeconds.toInt * 1000
  readTimeout := schema.oauth.discoveryReadTimeoutSeconds.toInt * 1000

/-- `LoadConfig` -/
def loadConfig (path : String) : Boot RuntimeConfig := do
  let host ← Boot.ask .host
  match loadSchema host path with
  | .error what => throw what
  | .ok schema =>
      let jwksUrl ← discoverJwksUri host.parse schema.oauth.issuerUrl schema.discovery
      return schema.resolve jwksUrl

/-! ## What is asked, and what comes of it -/

section Discovery
variable (answer : Answers BootOp) (parse : String → Except JsonError Json) (issuerUrl : String)
  (cfg : OidcDiscoveryConfig)

/-- The response has this document. -/
def Transfer.Delivers (parse : String → Except JsonError Json) (t : Transfer) (j : Json) : Prop :=
  ∃ code body, t = .response code body ∧ 200 ≤ code ∧ code < 300 ∧ parse body = .ok j

theorem fetchDiscovery_ok_iff (url body : String) :
    (fetchDiscovery url cfg).run.result answer = .ok body ↔
      ∃ code, answer _ (discoveryRequest url cfg) = .response code body ∧ 200 ≤ code ∧ code < 300 := by
  simp only [fetchDiscovery, Prog.result_try, Boot.result_ask]
  cases answer _ (discoveryRequest url cfg) with
  | noHandle => simp
  | failed strerror => simp
  | response code text =>
      by_cases hcode : code < 200 ∨ 300 ≤ code
      · have hbad : ¬ (200 ≤ code ∧ code < 300) := by omega
        simp [hcode, hbad]
      · have hgood : 200 ≤ code ∧ code < 300 := by omega
        simp [hcode, hgood]

theorem performed_fetchDiscovery (url : String) :
    (fetchDiscovery url cfg).run.performed answer = [⟨_, discoveryRequest url cfg⟩] := by
  simp only [fetchDiscovery, Prog.performed_try, Boot.performed_ask, Boot.result_ask]
  cases answer _ (discoveryRequest url cfg) with
  | noHandle => simp
  | failed strerror => simp
  | response code text => by_cases hcode : code < 200 ∨ 300 ≤ code <;> simp [hcode]

theorem readDiscovery_ok_iff (body jwks : String) : readDiscovery parse body = .ok jwks ↔
    isHttpUrl jwks = true ∧ ∃ j, parse body = .ok j ∧ jwksUri? j = some jwks := by
  unfold readDiscovery
  cases hparse : parse body with
  | error e => cases e <;> simp
  | ok j =>
      cases huri : jwksUri? j with
      | none => simp [huri]
      | some uri =>
          by_cases hjwks : isHttpUrl uri = true
          · simp only [hjwks, Bool.not_true, Bool.false_eq_true, if_false, Except.ok.injEq,
              exists_eq_left', huri, Option.some.injEq]
            constructor
            · intro h
              exact ⟨h ▸ hjwks, h⟩
            · intro h
              exact h.2
          · simp only [hjwks, Bool.not_false, if_true, reduceCtorEq, Except.ok.injEq,
              exists_eq_left', huri, Option.some.injEq, false_iff, not_and]
            intro h he
            exact hjwks (he ▸ h)

/-- A URL is found when the issuer is an HTTP URL, the request is answered with success and a
document, and the document names an HTTP URL, which is the one. -/
theorem discoverJwksUri_ok_iff (jwks : String) :
    (discoverJwksUri parse issuerUrl cfg).run.result answer = .ok jwks ↔
      isHttpUrl issuerUrl = true ∧ isHttpUrl jwks = true ∧
        ∃ j, (answer _ (discoveryRequest (buildDiscoveryUrl issuerUrl) cfg)).Delivers parse j ∧
          jwksUri? j = some jwks := by
  by_cases hissuer : isHttpUrl issuerUrl = true
  · have hbody := fetchDiscovery_ok_iff answer cfg (buildDiscoveryUrl issuerUrl)
    simp only [discoverJwksUri, hissuer, Bool.not_true, Bool.false_eq_true, if_false,
      Prog.result_try, true_and]
    constructor
    · intro h
      cases hfetch : (fetchDiscovery (buildDiscoveryUrl issuerUrl) cfg).run.result answer with
      | error what =>
          rw [hfetch] at h
          cases h
      | ok body =>
          rw [hfetch] at h
          obtain ⟨code, ht, hlo, hhi⟩ := (hbody body).mp hfetch
          obtain ⟨hjwks, j, hj, huri⟩ := (readDiscovery_ok_iff parse body jwks).mp h
          exact ⟨hjwks, j, ⟨code, body, ht, hlo, hhi, hj⟩, huri⟩
    · intro ⟨hjwks, j, ⟨code, body, ht, hlo, hhi, hj⟩, huri⟩
      rw [(hbody body).mpr ⟨code, ht, hlo, hhi⟩]
      exact (readDiscovery_ok_iff parse body jwks).mpr ⟨hjwks, j, hj, huri⟩
  · simp [discoverJwksUri, hissuer]

/-- There is one request, or none if the issuer is no HTTP URL. -/
theorem performed_discoverJwksUri :
    (discoverJwksUri parse issuerUrl cfg).run.performed answer =
      if isHttpUrl issuerUrl then [⟨_, discoveryRequest (buildDiscoveryUrl issuerUrl) cfg⟩] else [] := by
  by_cases hissuer : isHttpUrl issuerUrl = true
  · simp only [discoverJwksUri, hissuer, Bool.not_true, Bool.false_eq_true, if_false, if_true,
      Prog.performed_try, performed_fetchDiscovery]
    cases (fetchDiscovery (buildDiscoveryUrl issuerUrl) cfg).run.result answer <;> simp
  · simp [discoverJwksUri, hissuer]

/-- The request for the document of the configured issuer. -/
def SchemaConfig.request (schema : SchemaConfig) : BootOp Transfer :=
  discoveryRequest (buildDiscoveryUrl schema.oauth.issuerUrl) schema.discovery

/-- The request is answered with a document that names this URL, of HTTP. -/
def SchemaConfig.Finds (answer : Answers BootOp) (schema : SchemaConfig) (jwksUrl : String) : Prop :=
  isHttpUrl jwksUrl = true ∧
    ∃ j, (answer _ schema.request).Delivers (answer _ .host).parse j ∧ jwksUri? j = some jwksUrl

variable {answer} {path : String} {schema : SchemaConfig}

/-- The issuer of a loaded configuration is an HTTP URL, so that `DiscoverJwksUri` checks it in
vain. -/
theorem discoverJwksUri_of_loadSchema (h : loadSchema (answer _ .host) path = .ok schema)
    (jwksUrl : String) :
    (discoverJwksUri (answer _ .host).parse schema.oauth.issuerUrl schema.discovery).run.result
      answer = .ok jwksUrl ↔ schema.Finds answer jwksUrl := by
  rw [discoverJwksUri_ok_iff, SchemaConfig.Finds, SchemaConfig.request]
  simp [(wellFormed_of_loadSchema h).issuerUrl]

theorem loadConfig_ok_iff (cfg : RuntimeConfig) :
    (loadConfig path).run.result answer = .ok cfg ↔ ∃ schema jwksUrl,
      loadSchema (answer _ .host) path = .ok schema ∧ schema.Finds answer jwksUrl ∧
        cfg = schema.resolve jwksUrl := by
  simp only [loadConfig, Prog.result_try, Boot.result_ask]
  cases hload : loadSchema (answer _ .host) path with
  | error what => simp
  | ok schema =>
      have hfinds := discoverJwksUri_of_loadSchema hload
      simp only [Prog.result_try, Except.ok.injEq, exists_and_left, exists_eq_left']
      constructor
      · intro h
        cases hfound : (discoverJwksUri (answer _ .host).parse schema.oauth.issuerUrl
            schema.discovery).run.result answer with
        | error what =>
            rw [hfound] at h
            cases h
        | ok jwksUrl =>
            rw [hfound] at h
            cases h
            exact ⟨jwksUrl, (hfinds jwksUrl).mp hfound, rfl⟩
      · intro ⟨jwksUrl, hfound, hcfg⟩
        rw [(hfinds jwksUrl).mpr hfound, hcfg]
        rfl

/-- The machine is read once, and there is one request if the configuration is loaded. -/
theorem performed_loadConfig (path : String) : (loadConfig path).run.performed answer =
    ⟨_, .host⟩ :: (match loadSchema (answer _ .host) path with
      | .error _ => []
      | .ok schema => [⟨_, schema.request⟩]) := by
  simp only [loadConfig, Prog.performed_try, Boot.performed_ask, Boot.result_ask]
  cases hload : loadSchema (answer _ .host) path with
  | error what => simp
  | ok schema =>
      simp only [Prog.performed_try, performed_discoverJwksUri,
        (wellFormed_of_loadSchema hload).issuerUrl, if_true, SchemaConfig.request]
      cases (discoverJwksUri (answer _ .host).parse schema.oauth.issuerUrl
        schema.discovery).run.result answer <;> simp

end Discovery

end EvGrpc
