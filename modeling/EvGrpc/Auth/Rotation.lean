import EvGrpc.Auth.Refreshes
import EvGrpc.Auth.Verified

/-!
# Keys that change, and keys that cannot be fetched

Whoever runs the identity provider counts on two things.  A key that is withdrawn is not
accepted for longer than the lifetime of the cache, whatever tokens come in
(`withdrawn_key_expires`).  And when the provider cannot be reached, tokens under the keys of
the last fetch are accepted for just as long, and no others (`outage_iff`).
-/

namespace EvGrpc

open Lib

section Rotation
variable {jwt : JwtCpp} {jwkToPem : String → String → Option String} {issuer audience : String}
variable {ttl : ℕ} {s₀ s : AuthState} {clock T : ℤ} {kid : String} {a : AuthCall}

/-- The key id of a token; `none` when reading it throws. -/
def keyIdOf (jwt : JwtCpp) (d : jwt.Decoded) : Option String :=
  if jwt.hasKeyId d then jwt.getKeyId d else some ""

/-! ## A key that is withdrawn -/

/-- What a call may fetch after the time `T` has no usable key with this id. -/
def Withdrawn (T : ℤ) (kid : String) (a : AuthCall) : Prop :=
  T < a.later → ∀ j, a.fetched = some j → lastUsable? j kid = none

/-- The cache has no key with this id, or has it since before the time `T`. -/
def JwksCache.Forgets (T : ℤ) (kid : String) (cache : JwksCache) : Prop :=
  ∀ j, cache.document = some j → lastUsable? j kid = none ∨ cache.fetchedAt ≤ T

/-- A lookup that may fetch what is withdrawn does not bring it back. -/
theorem JwksCache.Forgets.getKey {cache : JwksCache} (h : cache.Forgets T kid)
    (ha : Withdrawn T kid a) (kid' : String) :
    (cache.getKey jwkToPem ttl kid' a.now a.fetched a.later).2.Forgets T kid := by
  rcases JwksCache.getKey_cases jwkToPem ttl cache kid' a.now a.fetched a.later with
    ⟨pem, -, -, he⟩ | he | ⟨j, keys, hj, -, he⟩
  · rw [he]
    exact h
  · rw [he]
    exact h
  · rw [he]
    intro j' hj'
    cases hj'
    by_cases hlate : T < a.later
    · exact .inl (ha hlate j hj)
    · exact .inr (not_lt.mp hlate)

/-- So a run of such calls does not either. -/
theorem forgets_of_reach
    (h : Reach (AuthState.act jwt jwkToPem issuer audience ttl)
      (fun s a => s.InTime a ∧ Withdrawn T kid a) (.start clock) s) : s.cache.Forgets T kid := by
  refine h.rec_invariant (I := fun s : AuthState => s.cache.Forgets T kid)
    (fun j hj => by cases hj) ?_
  intro s a s' hs ha e
  cases e
  exact cache_of_authenticate (P := fun c => c.Forgets T kid) hs fun kid' => hs.getKey ha.2 kid'

/-- **A withdrawn key expires.**  If what is fetched after the time `T` has no usable key with
an id, then more than `ttl` after `T` no call is accepted whose token has that key id,
whatever calls came before. -/
theorem withdrawn_key_expires
    (h : Reach (AuthState.act jwt jwkToPem issuer audience ttl)
      (fun s a => s.InTime a ∧ Withdrawn T kid a) (.start clock) s)
    (hclock : s.InTime a) (ha : Withdrawn T kid a) (hlate : T + ttl < a.now) (reqId token : String)
    (hfind : findAuthorization a.md = some ("Bearer " ++ token)) {d : jwt.Decoded}
    (hdecode : jwt.decode token = some d) (hkid : keyIdOf jwt d = some kid) :
    (authenticateRpc jwt jwkToPem issuer audience ttl reqId a s.cache).1.status.code =
      .UNAUTHENTICATED := by
  have hforgets := forgets_of_reach h
  have hfaithful : s.cache.Faithful jwkToPem :=
    AuthState.Reached.invariant (h.mono fun _ _ hok => hok.1) |>.1
  rcases wiredAuthenticate_cases jwt jwkToPem issuer audience ttl a s.cache with
    ⟨token', claims, cache', hfind', -, hvalid, hauth⟩ | ⟨message, reason, cache', hauth⟩
  · exfalso
    obtain ⟨d', kid', pem, hdecode', hkid', hkey, -, -⟩ := JwtValidator.validate_eq_some rfl hvalid
    have htoken : token = token' := by
      rw [hfind, Option.some.injEq] at hfind'
      have hlist := congrArg String.toList hfind'
      simp only [String.toList_append, List.append_cancel_left_eq] at hlist
      exact String.toList_inj.mp hlist
    subst htoken
    rw [hdecode, Option.some.injEq] at hdecode'
    subst hdecode'
    obtain rfl : kid = kid' := Option.some.inj (hkid.symm.trans hkid')
    obtain ⟨j, n, e, hdoc, hlast, -, hage⟩ := hfaithful.getKey_eq_some hclock.2 hkey
    have hafter : cache'.Forgets T kid := by
      have hforgotten :
          (s.cache.getKey jwkToPem ttl kid a.now a.fetched a.later).2.Forgets T kid :=
        hforgets.getKey ha kid
      rwa [hkey] at hforgotten
    rcases hafter j hdoc with hnone | hold
    · rw [hnone] at hlast
      cases hlast
    · omega
  · simp only [authenticateRpc, hauth]
    rfl

/-! ## A provider that cannot be reached -/

/-- The refresh of the call, if it makes one, throws. -/
def Failing (jwkToPem : String → String → Option String) (a : AuthCall) : Prop :=
  JwksCache.refresh jwkToPem a.fetched a.later = none

/-- A lookup whose refresh throws leaves the cache alone, and answers from it while it is
fresh. -/
theorem getKey_of_failing (ha : Failing jwkToPem a) (cache : JwksCache) (kid : String) :
    cache.getKey jwkToPem ttl kid a.now a.fetched a.later =
      (if cache.fetchedAt = 0 ∨ (ttl : ℤ) < a.now - cache.fetchedAt then none else cache.keys kid,
        cache) := by
  by_cases hexpired : cache.fetchedAt = 0 ∨ (ttl : ℤ) < a.now - cache.fetchedAt
  · rw [JwksCache.getKey_of_fetches (.inr hexpired), ha, if_pos hexpired]
  · rw [if_neg hexpired]
    cases hkid : cache.keys kid with
    | none => rw [JwksCache.getKey_of_fetches (.inl hkid), ha]
    | some pem => simp [JwksCache.getKey, hkid, hexpired]

/-- The cache stays as it was. -/
theorem cache_of_failing
    (h : Reach (AuthState.act jwt jwkToPem issuer audience ttl) (fun _ a => Failing jwkToPem a) s₀ s) :
    s.cache = s₀.cache := by
  refine h.rec_invariant (I := fun s : AuthState => s.cache = s₀.cache) rfl ?_
  intro s a s' hs ha e
  cases e
  refine cache_of_authenticate (P := fun c => c = s₀.cache) hs fun kid => ?_
  rw [getKey_of_failing ha]
  exact hs

/-- A header value that carries a token. -/
theorem bearerToken_append {token : String} (h : token ≠ "") :
    bearerToken ("Bearer " ++ token) = some token := by
  have hbearer : ("Bearer " : String).toList.length = 7 := rfl
  have hlen : token.toList.length ≠ 0 := fun h0 => h (String.toList_inj.mp (List.length_eq_zero_iff.mp h0))
  have htake : ("Bearer ".toList ++ token.toList).take 7 = "Bearer ".toList := List.take_left' hbearer
  have hdrop : ("Bearer ".toList ++ token.toList).drop 7 = token.toList := List.drop_left' hbearer
  rw [bearerToken, String.toList_append, htake, hdrop, if_neg, String.ofList_toList]
  rw [List.length_append, hbearer, not_or]
  exact ⟨by omega, by simp⟩

/-- A token that is read and verified is validated. -/
theorem validate_of_verify {σ : Type} {v : JwtValidator}
    {resolveKey : String → σ → Option String × σ} {token kid pem : String} {time : ℤ} {s s' : σ}
    {d : jwt.Decoded} {claims : Claims} (hbypass : v.bypass = false)
    (hdecode : jwt.decode token = some d) (hkid : keyIdOf jwt d = some kid)
    (hkey : resolveKey kid s = (some pem, s')) (hverify : jwt.verify pem v.issuer v.audience time d = true)
    (hclaims : claimsOf jwt d = some claims) :
    v.validate jwt resolveKey token time s = (some claims, s') := by
  rw [keyIdOf] at hkid
  simp [JwtValidator.validate, hbypass, hdecode, hkid, hkey, hverify, hclaims]

/-- **An outage.**  While no document can be fetched, a call is accepted if and only if its
token is read and verifies under the key that the cache had before, and that was fetched at
most `ttl` ago. -/
theorem outage_iff
    (h : Reach (AuthState.act jwt jwkToPem issuer audience ttl) (fun _ a => Failing jwkToPem a) s₀ s)
    (ha : Failing jwkToPem a) (reqId : String) :
    (authenticateRpc jwt jwkToPem issuer audience ttl reqId a s.cache).1.status.ok = true ↔
      ∃ token d kid pem, findAuthorization a.md = some ("Bearer " ++ token) ∧ token ≠ "" ∧
        jwt.decode token = some d ∧ keyIdOf jwt d = some kid ∧ s₀.cache.keys kid = some pem ∧
        s₀.cache.fetchedAt ≠ 0 ∧ a.now - s₀.cache.fetchedAt ≤ ttl ∧
        jwt.verify pem issuer audience a.time d = true ∧ (claimsOf jwt d).isSome = true := by
  rw [cache_of_failing h]
  constructor
  · intro hok
    rcases wiredAuthenticate_cases jwt jwkToPem issuer audience ttl a s₀.cache with
      ⟨token, claims, cache', hfind, hne, hvalid, -⟩ | ⟨message, reason, cache', hauth⟩
    · obtain ⟨d, kid, pem, hdecode, hkid, hkey, hverify, hclaims⟩ :=
        JwtValidator.validate_eq_some rfl hvalid
      rw [getKey_of_failing ha, Prod.mk.injEq] at hkey
      split_ifs at hkey with hexpired
      · cases hkey.1
      · rw [not_or, not_lt] at hexpired
        exact ⟨token, d, kid, pem, hfind, hne, hdecode, hkid, hkey.1, hexpired.1, hexpired.2,
          hverify, by rw [hclaims]; rfl⟩
    · simp only [authenticateRpc, hauth] at hok
      cases hok
  · intro h
    obtain ⟨token, d, kid, pem, hfind, hne, hdecode, hkid, hpem, hfetched, hage, hverify, hclaims⟩ := h
    obtain ⟨claims, hclaims⟩ := Option.isSome_iff_exists.mp hclaims
    have hfresh : ¬ (s₀.cache.fetchedAt = 0 ∨ (ttl : ℤ) < a.now - s₀.cache.fetchedAt) := by omega
    have hkey : s₀.cache.getKey jwkToPem ttl kid a.now a.fetched a.later = (some pem, s₀.cache) := by
      rw [getKey_of_failing ha, if_neg hfresh, hpem]
    have hvalid : JwtValidator.validate jwt ⟨issuer, audience, false⟩
        (fun kid cache => cache.getKey jwkToPem ttl kid a.now a.fetched a.later) token a.time
        s₀.cache = (some claims, s₀.cache) :=
      validate_of_verify rfl hdecode hkid hkey hverify hclaims
    simp [authenticateRpc, wiredAuthenticate, authenticate, hfind, bearerToken_append hne, hvalid,
      AuthOutcome.verdict, authenticateRpcResult, Status.ok, Status.OK]

end Rotation

/-! ## A key that goes, and a provider that goes -/

/-- A call with the token when the document is empty. -/
def withdrawnCall : AuthCall :=
  { someAuthCall with now := 5000, later := 5001, fetched := some (documentOf []) }

/-- A call with the token when there is no document. -/
def outageCall (now : ℤ) : AuthCall := { someAuthCall with now, later := now + 1, fetched := none }

theorem find_someAuthCall : findAuthorization someAuthCall.md = some ("Bearer " ++ someToken) := by
  simp [findAuthorization, someAuthCall]

theorem someToken_ne_empty : someToken ≠ "" := by
  unfold someToken
  intro h
  have hleft := (String.append_eq_empty_iff.mp h).1
  exact absurd hleft (String.toList_inj.not.mp (by simp))

theorem decode_someToken : readsSomeToken.decode someToken = some () := by
  simp [readsSomeToken]

/-- The key was withdrawn at 1001; at 5000 its token is rejected. -/
theorem withdrawn_key_expires_late :
    ∃ s, Reach (AuthState.act readsSomeToken convertsSomeKey "i" "a" 3600)
      (fun s a => s.InTime a ∧ Withdrawn 1001 "k" a) (.start 0) s ∧
      (authenticateRpc readsSomeToken convertsSomeKey "i" "a" 3600 "" withdrawnCall
        s.cache).1.status.code = .UNAUTHENTICATED := by
  have hrun : Reach (AuthState.act readsSomeToken convertsSomeKey "i" "a" 3600)
      (fun s a => s.InTime a ∧ Withdrawn 1001 "k" a) (.start 0) _ :=
    .step .init (a := someAuthCall) ⟨⟨by decide, by decide⟩, fun h => absurd h (by decide)⟩ rfl
  have hwithdrawn : Withdrawn 1001 "k" withdrawnCall := by
    intro _ j hj
    cases hj
    decide
  refine ⟨_, hrun, withdrawn_key_expires hrun ⟨by decide, by decide⟩ hwithdrawn (by decide) ""
    someToken find_someAuthCall (d := ()) decode_someToken rfl⟩

/-- A cache with the key, fetched at 1001. -/
def afterFetch : AuthState where
  cache := ⟨Function.update (fun _ => none) "k" (some somePem), 1001, some (documentOf [someEntry])⟩
  clock := 1001

/-- The key was fetched at 1001: an hour later its token is still accepted, without the
provider, and then no more. -/
theorem outage_iff_hour :
    ∃ s, Reach (AuthState.act readsSomeToken convertsSomeKey "i" "a" 3600)
      (fun _ a => Failing convertsSomeKey a) afterFetch s ∧
      (authenticateRpc readsSomeToken convertsSomeKey "i" "a" 3600 "" (outageCall 4601)
        s.cache).1.status.ok = true ∧
      ¬ (authenticateRpc readsSomeToken convertsSomeKey "i" "a" 3600 "" (outageCall 4602)
        s.cache).1.status.ok = true := by
  have hfailing : ∀ now, Failing convertsSomeKey (outageCall now) := fun _ => rfl
  have hrun : Reach (AuthState.act readsSomeToken convertsSomeKey "i" "a" 3600)
      (fun _ a => Failing convertsSomeKey a) afterFetch _ := .step .init (hfailing 2000) rfl
  have hkey : afterFetch.cache.keys "k" = some somePem := by simp [afterFetch]
  have hfetched : afterFetch.cache.fetchedAt = 1001 := rfl
  refine ⟨_, hrun, (outage_iff hrun (hfailing 4601) "").mpr ?_, fun hok => ?_⟩
  · refine ⟨someToken, (), "k", somePem, find_someAuthCall, someToken_ne_empty, decode_someToken,
      rfl, hkey, ?_, ?_, ?_, rfl⟩
    · rw [hfetched]
      decide
    · rw [hfetched]
      decide
    · simp [readsSomeToken]
  · obtain ⟨-, -, -, -, -, -, -, -, -, -, hage, -⟩ := (outage_iff hrun (hfailing 4602) "").mp hok
    rw [hfetched] at hage
    exact absurd hage (by decide)

end EvGrpc
