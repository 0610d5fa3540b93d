import EvGrpc.Auth.Authenticate
import EvGrpc.Lib.System

/-!
# Only verified tokens get through

The authentication of a whole run of calls, as `main` wires it: no bypass, and keys from one
`JwksCache`.  Between the calls nothing but the cache is remembered, and what the cache
serves is what the document of its last refresh offers, so a call that is accepted carries
a token that verifies under a key of that document (`only_verified_tokens`).
-/

namespace EvGrpc

open Lib

/-- A call as the prologue sees it: its metadata, the two readings of the steady clock, the
wall clock, and what a fetch of the document would give. -/
structure AuthCall where
  md : Metadata
  now : ℤ
  later : ℤ
  time : ℤ
  fetched : Option Json

/-- What the calls have in common: the cache, and a lower bound on the clock. -/
structure AuthState where
  cache : JwksCache
  clock : ℤ

/-- The server starts with an empty cache. -/
def AuthState.start (clock : ℤ) : AuthState := ⟨.fresh, clock⟩

/-- The readings of the clock do not go back. -/
def AuthState.InTime (s : AuthState) (a : AuthCall) : Prop := s.clock ≤ a.now ∧ a.now ≤ a.later

section Run
variable (jwt : JwtCpp) (jwkToPem : String → String → Option String) (issuer audience : String)
  (ttl : ℕ)

/-- `Authenticate` as `main` wires it. -/
def wiredAuthenticate (a : AuthCall) (out : Claims) (cache : JwksCache) : AuthOutcome × JwksCache :=
  authenticate jwt ⟨issuer, audience, false⟩
    (fun kid cache => cache.getKey jwkToPem ttl kid a.now a.fetched a.later) a.md a.time out cache

/-- `AuthenticateRpc` as `main` wires it; its claims start out empty. -/
def authenticateRpc (reqId : String) (a : AuthCall) (cache : JwksCache) :
    AuthenticateRpcResult × JwksCache :=
  let r := wiredAuthenticate jwt jwkToPem issuer audience ttl a ⟨"", "", ""⟩ cache
  (authenticateRpcResult reqId r.1.verdict, r.2)

/-- One call. -/
def AuthState.act (s : AuthState) (a : AuthCall) : Option AuthState :=
  some ⟨(authenticateRpc jwt jwkToPem issuer audience ttl "" a s.cache).2, a.later⟩

/-- States reached by calls whose readings of the clock do not go back. -/
def AuthState.Reached (s₀ s : AuthState) : Prop :=
  Reach (AuthState.act jwt jwkToPem issuer audience ttl) AuthState.InTime s₀ s

variable {jwt jwkToPem issuer audience ttl} {s₀ s : AuthState} {clock : ℤ}

/-- A lookup does not set the clock ahead. -/
theorem fetchedAt_getKey_le {cache cache' : JwksCache} {kid : String} {now later : ℤ}
    {fetched : Option Json} (hget : (cache.getKey jwkToPem ttl kid now fetched later).2 = cache')
    (h : cache.document = none ∨ cache.fetchedAt ≤ later) :
    cache'.document = none ∨ cache'.fetchedAt ≤ later := by
  rcases JwksCache.getKey_cases jwkToPem ttl cache kid now fetched later with
    ⟨pem, -, -, he⟩ | he | ⟨j, keys, -, -, he⟩
  · rw [he] at hget
    exact hget ▸ h
  · rw [he] at hget
    exact hget ▸ h
  · rw [he] at hget
    exact hget ▸ .inr le_rfl

/-- What a call does to the cache, a lookup does or nothing. -/
theorem cache_of_authenticate {P : JwksCache → Prop} {a : AuthCall} {out : Claims}
    {cache : JwksCache} (h : P cache)
    (hget : ∀ kid, P (cache.getKey jwkToPem ttl kid a.now a.fetched a.later).2) :
    P (wiredAuthenticate jwt jwkToPem issuer audience ttl a out cache).2 := by
  unfold wiredAuthenticate authenticate
  simp only [Bool.false_eq_true, if_false]
  split
  · exact h
  · split
    · exact h
    · rename_i token _
      have hvalid : P (JwtValidator.validate jwt ⟨issuer, audience, false⟩
          (fun kid cache => cache.getKey jwkToPem ttl kid a.now a.fetched a.later) token a.time
          cache).2 := by
        unfold JwtValidator.validate
        simp only [Bool.false_eq_true, if_false]
        split
        · exact h
        · split
          · exact h
          · rename_i kid _
            have hkid := hget kid
            split
            · rename_i s he
              rw [he] at hkid
              exact hkid
            · rename_i pem s he
              rw [he] at hkid
              split
              · exact hkid
              · exact hkid
      split
      · rename_i he
        rw [he] at hvalid
        exact hvalid
      · rename_i he
        rw [he] at hvalid
        exact hvalid

/-- In every state the keys are those of the document fetched last, which was not fetched in
the future. -/
theorem AuthState.Reached.invariant
    (h : AuthState.Reached jwt jwkToPem issuer audience ttl (.start clock) s) :
    s.cache.Faithful jwkToPem ∧ (s.cache.document = none ∨ s.cache.fetchedAt ≤ s.clock) := by
  refine h.rec_invariant (I := fun s : AuthState => s.cache.Faithful jwkToPem ∧
    (s.cache.document = none ∨ s.cache.fetchedAt ≤ s.clock)) ⟨JwksCache.faithful_fresh, .inl rfl⟩ ?_
  rintro s a s' ⟨hfaithful, hpast⟩ ⟨hnow, hlater⟩ e
  cases e
  have hpast' : s.cache.document = none ∨ s.cache.fetchedAt ≤ a.later :=
    hpast.imp_right fun h => by omega
  refine ⟨?_, ?_⟩
  · exact cache_of_authenticate (P := fun c => c.Faithful jwkToPem) hfaithful
      fun kid => hfaithful.getKey ttl kid a.now a.fetched a.later
  · exact cache_of_authenticate (P := fun c => c.document = none ∨ c.fetchedAt ≤ a.later) hpast'
      fun kid => fetchedAt_getKey_le rfl hpast'

/-- `authenticate_cases`, as `main` wires it. -/
theorem wiredAuthenticate_cases (jwt : JwtCpp) (jwkToPem : String → String → Option String)
    (issuer audience : String) (ttl : ℕ) (a : AuthCall) (cache : JwksCache) :
    (∃ token claims cache', findAuthorization a.md = some ("Bearer " ++ token) ∧ token ≠ "" ∧
      JwtValidator.validate jwt ⟨issuer, audience, false⟩
        (fun kid cache => cache.getKey jwkToPem ttl kid a.now a.fetched a.later) token a.time cache =
          (some claims, cache') ∧
      ∀ out, wiredAuthenticate jwt jwkToPem issuer audience ttl a out cache =
        (⟨.OK, claims, "ok"⟩, cache')) ∨
    ∃ message reason cache', ∀ out,
      wiredAuthenticate jwt jwkToPem issuer audience ttl a out cache =
        (⟨⟨.UNAUTHENTICATED, message⟩, out, reason⟩, cache') :=
  authenticate_cases rfl a.md a.time cache

/-- After any calls, the prologue accepts a call only if the first `authorization` value is
`Bearer ` and a token, the token has a key id, and it verifies under the last usable RSA key
with that id in the document that was fetched last, at most `ttl` ago; it rejects every other
call as unauthenticated and leaves the claims alone. -/
theorem only_verified_tokens
    (h : AuthState.Reached jwt jwkToPem issuer audience ttl (.start clock) s) (a : AuthCall)
    (hclock : s.InTime a) (reqId : String) (out : Claims) :
    let prologue := authenticateRpc jwt jwkToPem issuer audience ttl reqId a s.cache
    let outcome := wiredAuthenticate jwt jwkToPem issuer audience ttl a out s.cache
    (prologue.1.status = .OK ∧ outcome.1.status = .OK ∧ ∃ token d kid j n e pem,
      findAuthorization a.md = some ("Bearer " ++ token) ∧ token ≠ "" ∧
      jwt.decode token = some d ∧ jwt.hasKeyId d = true ∧ jwt.getKeyId d = some kid ∧ kid ≠ "" ∧
      prologue.2.document = some j ∧ a.now - prologue.2.fetchedAt ≤ ttl ∧
      prologue.2.fetchedAt ≤ a.later ∧ lastUsable? j kid = some (kid, n, e) ∧
      jwkToPem n e = some pem ∧ jwt.verify pem issuer audience a.time d = true) ∨
    (prologue.1.status.code = .UNAUTHENTICATED ∧ outcome.1.status.code = .UNAUTHENTICATED ∧
      outcome.1.claims = out) := by
  obtain ⟨hfaithful, hpast⟩ := h.invariant
  obtain ⟨hnow, hlater⟩ := hclock
  rcases wiredAuthenticate_cases jwt jwkToPem issuer audience ttl a s.cache with
    ⟨token, claims, cache', hfind, hne, hvalid, hauth⟩ | ⟨message, reason, cache', hauth⟩
  · left
    obtain ⟨d, kid, pem, hdecode, hkid, hkey, hverify, -⟩ :=
      JwtValidator.validate_eq_some rfl hvalid
    obtain ⟨j, n, e, hdoc, hlast, hpem, hage⟩ := hfaithful.getKey_eq_some hlater hkey
    have hfetched : cache'.fetchedAt ≤ a.later := by
      rcases fetchedAt_getKey_le (congrArg Prod.snd hkey)
        (hpast.imp_right fun h => h.trans (hnow.trans hlater)) with hnone | hle
      · rw [hdoc] at hnone
        cases hnone
      · exact hle
    have hid : jwt.hasKeyId d = true := by
      by_contra hnone
      rw [if_neg hnone] at hkid
      exact lastUsable?_ne_empty hlast (Option.some.inj hkid).symm
    rw [if_pos hid] at hkid
    simp only [authenticateRpc, hauth]
    exact ⟨rfl, trivial, token, d, kid, j, n, e, pem, hfind, hne, hdecode, hid, hkid,
      lastUsable?_ne_empty hlast, hdoc, hage, hfetched, hlast, hpem, hverify⟩
  · right
    simp only [authenticateRpc, hauth]
    exact ⟨rfl, trivial, trivial⟩

end Run

/-! ## A token -/

/-- A token signed with the key `someModulus`: issuer `i`, audience `a`, subject `s`, key id `k`. -/
def someToken : String :=
  "eyJhbGciOiJSUzI1NiIsImtpZCI6ImsifQ.eyJpc3MiOiJpIiwiYXVkIjoiYSIsInN1YiI6InMifQ." ++
    "DUb_x5EIAxjHp7yTvSVdlxgAdQnmc-ToX-5jirxQlFV4eLHD10vvAb2vQMkvDIY_YwVt2EjnxPe1ci1tJDGcUw"

/-- A library that decodes and verifies that token. -/
def readsSomeToken : JwtCpp where
  Decoded := Unit
  decode := fun token => if token = someToken then some () else none
  hasKeyId := fun _ => true
  getKeyId := fun _ => some "k"
  verify := fun pem issuer audience _ _ => decide (pem = somePem ∧ issuer = "i" ∧ audience = "a")
  hasSubject := fun _ => true
  getSubject := fun _ => some "s"
  hasIssuer := fun _ => true
  getIssuer := fun _ => some "i"
  hasAudience := fun _ => true
  getAudience := fun _ => some ["a"]

/-- A call with the token, when the document has the key. -/
def someAuthCall : AuthCall where
  md := [("authorization", "Bearer " ++ someToken)]
  now := 1000
  later := 1001
  time := 1700000000
  fetched := some (.object [("keys", .array [.object
    [("kty", .string "RSA"), ("kid", .string "k"), ("n", .string someModulus),
      ("e", .string "AQAB")]])])

/-- What that call leaves behind. -/
def afterSomeAuthCall : AuthState :=
  ⟨(authenticateRpc readsSomeToken convertsSomeKey "i" "a" 3600 "" someAuthCall .fresh).2, 1001⟩

/-- A call with the token ten minutes later, when there is no document. -/
def unaidedCall : AuthCall :=
  { someAuthCall with now := 1600, later := 1601, time := 1700000600, fetched := none }

/-- The second call with the token is accepted under the key that the first has fetched. -/
theorem only_verified_tokens_second :
    ∃ s, AuthState.Reached readsSomeToken convertsSomeKey "i" "a" 3600 (.start 0) s ∧
      s.clock = 1001 ∧
      let prologue := authenticateRpc readsSomeToken convertsSomeKey "i" "a" 3600 "" unaidedCall
        s.cache
      prologue.1.status = .OK ∧ ∃ j n e pem, prologue.2.document = some j ∧
        unaidedCall.now - prologue.2.fetchedAt ≤ 3600 ∧ lastUsable? j "k" = some ("k", n, e) ∧
        convertsSomeKey n e = some pem ∧
        readsSomeToken.verify pem "i" "a" unaidedCall.time () = true := by
  have hrun : AuthState.Reached readsSomeToken convertsSomeKey "i" "a" 3600 (.start 0)
      afterSomeAuthCall :=
    .step .init (a := someAuthCall) ⟨by decide, by decide⟩ rfl
  have hok : (authenticateRpc readsSomeToken convertsSomeKey "i" "a" 3600 "" unaidedCall
      afterSomeAuthCall.cache).1.status = .OK := by
    decide +kernel
  refine ⟨afterSomeAuthCall, hrun, rfl, hok, ?_⟩
  rcases only_verified_tokens hrun unaidedCall ⟨by decide, by decide⟩ "" ⟨"", "", ""⟩ with
    ⟨-, -, token, d, kid, j, n, e, pem, -, -, -, -, hkid, -, hdoc, hage, -, hlast, hpem, hverify⟩ |
      ⟨hcode, -⟩
  · cases hkid
    exact ⟨j, n, e, pem, hdoc, hage, hlast, hpem, hverify⟩
  · rw [hok] at hcode
    cases hcode

end EvGrpc
