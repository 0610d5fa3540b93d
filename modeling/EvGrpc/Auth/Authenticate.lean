import EvGrpc.Auth.JwksCache
import EvGrpc.Rpc.Op

/-!
# Authentication

`auth/jwt_validator.cc`, `auth/authenticate.cc` and `auth/authenticate_rpc.h`.  What
`jwt-cpp` does is a parameter; an operation that throws gives `none`.
-/

namespace EvGrpc

open Lib

/-- `Claims` -/
structure Claims where
  subject : String
  issuer : String
  audience : String
  deriving DecidableEq

/-- `jwt-cpp`.  `verify` stands for building the verifier for RS256 with this key, issuer and
audience and running it at this time; it is true when nothing throws. -/
structure JwtCpp where
  Decoded : Type
  decode : String → Option Decoded
  hasKeyId : Decoded → Bool
  getKeyId : Decoded → Option String
  verify : (pem issuer audience : String) → (time : ℤ) → Decoded → Bool
  hasSubject : Decoded → Bool
  getSubject : Decoded → Option String
  hasIssuer : Decoded → Bool
  getIssuer : Decoded → Option String
  hasAudience : Decoded → Bool
  getAudience : Decoded → Option (List String)

/-- `JwtValidator`; `resolve_key` is an argument of `validate`. -/
structure JwtValidator where
  issuer : String
  audience : String
  bypass : Bool

section Validate
variable {σ : Type} (jwt : JwtCpp) (v : JwtValidator) (resolveKey : String → σ → Option String × σ)

/-- The claims callers care about. -/
def claimsOf (d : jwt.Decoded) : Option Claims := do
  let subject ← if jwt.hasSubject d then jwt.getSubject d else some ""
  let issuer ← if jwt.hasIssuer d then jwt.getIssuer d else some ""
  let audience ← if jwt.hasAudience d then (fun l => l.head?.getD "") <$> jwt.getAudience d
    else some ""
  return ⟨subject, issuer, audience⟩

/-- `JwtValidator::Validate`; the state is what `resolve_key` reads and changes. -/
def JwtValidator.validate (token : String) (time : ℤ) (s : σ) : Option Claims × σ :=
  if v.bypass then (some ⟨"test-subject", v.issuer, v.audience⟩, s)
  else
    match jwt.decode token with
    | none => (none, s)
    | some d =>
        match if jwt.hasKeyId d then jwt.getKeyId d else some "" with
        | none => (none, s)
        | some kid =>
            match resolveKey kid s with
            | (none, s) => (none, s)
            | (some pem, s) =>
                if jwt.verify pem v.issuer v.audience time d then (claimsOf jwt d, s) else (none, s)

/-- What `Authenticate` returns and writes through its pointers. -/
structure AuthOutcome where
  status : Status
  claims : Claims
  reason : String

/-- `client_metadata.find("authorization")` -/
def findAuthorization (md : Metadata) : Option String :=
  (md.find? fun m => m.1 == "authorization").map Prod.snd

/-- The token of a header value, if it is `Bearer ` and something more. -/
def bearerToken (val : String) : Option String :=
  if val.toList.length ≤ 7 ∨ val.toList.take 7 ≠ "Bearer ".toList then none
  else some (String.ofList (val.toList.drop 7))

/-- `Authenticate`; `out` is what `out_claims` points to before the call. -/
def authenticate (md : Metadata) (time : ℤ) (out : Claims) (s : σ) : AuthOutcome × σ :=
  if v.bypass then (⟨.OK, ⟨"test-subject", v.issuer, v.audience⟩, "bypass"⟩, s)
  else
    match findAuthorization md with
    | none => (⟨⟨.UNAUTHENTICATED, "missing authorization header"⟩, out, "missing_header"⟩, s)
    | some val =>
        match bearerToken val with
        | none =>
            (⟨⟨.UNAUTHENTICATED, "authorization must be 'Bearer <token>'"⟩, out, "non_bearer"⟩, s)
        | some token =>
            match v.validate jwt resolveKey token time s with
            | (none, s) => (⟨⟨.UNAUTHENTICATED, "invalid bearer token"⟩, out, "bad_signature"⟩, s)
            | (some claims, s) => (⟨.OK, claims, "ok"⟩, s)

/-- What the outcome means for the call. -/
def AuthOutcome.verdict (o : AuthOutcome) : Verdict :=
  if o.status.ok then .accepted o.claims.subject o.reason
  else .rejected o.status.message o.reason

variable {jwt v resolveKey}

/-- A header value with a token. -/
theorem bearerToken_eq_some {val token : String} (h : bearerToken val = some token) :
    val = "Bearer " ++ token ∧ token ≠ "" := by
  unfold bearerToken at h
  split at h
  · cases h
  · rename_i hval
    rw [not_or, not_not] at hval
    cases h
    refine ⟨?_, ?_⟩
    · apply String.toList_injective
      have hsplit := (List.take_append_drop 7 val.toList).symm
      have hrest : (String.ofList (val.toList.drop 7)).toList = val.toList.drop 7 :=
        String.toList_ofList
      rw [hval.2] at hsplit
      rw [String.toList_append, hrest]
      exact hsplit
    · intro hempty
      have := congrArg (fun s => s.toList.length) hempty
      simp only [String.toList_ofList, List.length_drop] at this
      have hzero : ("" : String).toList.length = 0 := rfl
      omega

/-- A token that is validated without bypass was verified under a key of its id. -/
theorem JwtValidator.validate_eq_some {token : String} {time : ℤ} {s s' : σ} {claims : Claims}
    (hbypass : v.bypass = false)
    (h : v.validate jwt resolveKey token time s = (some claims, s')) :
    ∃ d kid pem, jwt.decode token = some d ∧
      (if jwt.hasKeyId d then jwt.getKeyId d else some "") = some kid ∧
      resolveKey kid s = (some pem, s') ∧ jwt.verify pem v.issuer v.audience time d = true ∧
      claimsOf jwt d = some claims := by
  unfold JwtValidator.validate at h
  rw [hbypass, if_neg (by decide)] at h
  split at h
  · cases h
  · rename_i d hd
    split at h
    · cases h
    · rename_i kid hkid
      split at h
      · cases h
      · rename_i pem s₁ hres
        split at h
        · rename_i hverify
          rw [Prod.mk.injEq] at h
          obtain ⟨hclaims, rfl⟩ := h
          exact ⟨d, kid, pem, hd, hkid, hres, hverify, hclaims⟩
        · cases h

/-- `Authenticate` accepts a validated bearer token, or rejects the call and leaves the claims
alone. -/
theorem authenticate_cases (hbypass : v.bypass = false) (md : Metadata) (time : ℤ) (s : σ) :
    (∃ token claims s', findAuthorization md = some ("Bearer " ++ token) ∧ token ≠ "" ∧
      v.validate jwt resolveKey token time s = (some claims, s') ∧
      ∀ out, authenticate jwt v resolveKey md time out s = (⟨.OK, claims, "ok"⟩, s')) ∨
    ∃ message reason s', ∀ out,
      authenticate jwt v resolveKey md time out s =
        (⟨⟨.UNAUTHENTICATED, message⟩, out, reason⟩, s') := by
  unfold authenticate
  simp only [hbypass, Bool.false_eq_true, if_false]
  cases hfind : findAuthorization md with
  | none => exact .inr ⟨_, _, _, fun _ => rfl⟩
  | some val =>
      cases htoken : bearerToken val with
      | none =>
          simp only [htoken]
          exact .inr ⟨_, _, _, fun _ => rfl⟩
      | some token =>
          obtain ⟨rfl, hne⟩ := bearerToken_eq_some htoken
          cases hvalid : v.validate jwt resolveKey token time s with
          | mk result s' =>
              cases result with
              | none =>
                  simp only [htoken, hvalid]
                  exact .inr ⟨_, _, _, fun _ => rfl⟩
              | some claims =>
                  refine .inl ⟨token, claims, s', rfl, hne, hvalid, fun _ => ?_⟩
                  simp only [htoken, hvalid]

end Validate

end EvGrpc
