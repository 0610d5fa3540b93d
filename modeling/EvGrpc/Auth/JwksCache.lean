import EvGrpc.Lib.Formats
import Mathlib.Logic.Function.Basic
import Mathlib.Data.List.Basic

/-!
# The key cache

`auth/jwks_cache.cc`.  A lookup answers from the keys it has, or fetches the document once
and answers from the new ones.  A refresh that throws changes nothing.

`document` is not in the source: it records the document the keys were made from, so that
`JwksCache.Faithful` can say that they are the keys of that document.  `lastUsable?` is what a
document offers for a key id: the conversion of the last entry that is a usable RSA key
with that id.
-/

namespace EvGrpc

open Lib

/-- `keys_`: from key ids to PEM texts. -/
abbrev Keys := String → Option String

/-- The state of a `JwksCache`; `fetchedAt` is 0 as long as nothing was fetched. -/
structure JwksCache where
  keys : Keys
  fetchedAt : ℤ
  document : Option Json

/-- A cache right after its construction. -/
def JwksCache.fresh : JwksCache := ⟨fun _ => none, 0, none⟩

/-- `k.value(name, std::string{})`; `none` when it throws because the member is no string. -/
def valueOrEmpty (k : Json) (name : String) : Option String :=
  match k.member? name with
  | none => some ""
  | some j => j.string?

section Refresh
variable (jwkToPem : String → String → Option String)

/-- The body of the loop in `refresh`; `none` when it throws. -/
def addKey (next : Keys) (k : Json) : Option Keys :=
  if !k.isObject then some next
  else do
    let kty ← valueOrEmpty k "kty"
    if kty ≠ "RSA" then return next
    let kid ← valueOrEmpty k "kid"
    if kid = "" then return next
    match k.member? "n", k.member? "e" with
    | some n, some e =>
        match n.string?, e.string? with
        | some n, some e =>
            let pem ← jwkToPem n e
            return Function.update next kid (some pem)
        | _, _ => return next
    | _, _ => return next

/-- The entries of a document: its `keys`, if they are an array. -/
def entries (j : Json) : List Json := ((j.member? "keys").bind Json.array?).getD []

/-- The keys `refresh` makes from a document; `none` when it throws. -/
def keysOf (j : Json) : Option Keys := (entries j).foldlM (addKey jwkToPem) fun _ => none

/-- `JwksCache::refresh`: `fetched` is what `FetchUrl` and the parser gave, and `none` when
one of them threw.  The clock is read at the end. -/
def JwksCache.refresh (fetched : Option Json) (now : ℤ) : Option JwksCache := do
  let j ← fetched
  let next ← keysOf jwkToPem j
  return ⟨next, now, some j⟩

/-- `JwksCache::GetKey`: the clock is read at the beginning, and by `refresh` again. -/
def JwksCache.getKey (ttl : ℕ) (cache : JwksCache) (kid : String) (now : ℤ) (fetched : Option Json)
    (later : ℤ) : Option String × JwksCache :=
  let expired := decide (cache.fetchedAt = 0 ∨ (ttl : ℤ) < now - cache.fetchedAt)
  match cache.keys kid, expired with
  | some pem, false => (some pem, cache)
  | _, _ =>
      match JwksCache.refresh jwkToPem fetched later with
      | none => (none, cache)
      | some cache' => (cache'.keys kid, cache')

/-! ## What a document offers -/

/-- The id, modulus and exponent of a usable RSA key. -/
def usable? (k : Json) : Option (String × String × String) := do
  let kty ← (k.member? "kty").bind Json.string?
  let kid ← (k.member? "kid").bind Json.string?
  let n ← (k.member? "n").bind Json.string?
  let e ← (k.member? "e").bind Json.string?
  if kty = "RSA" ∧ kid ≠ "" then some (kid, n, e) else none

/-- The last usable RSA key with this id. -/
def lastUsable? (j : Json) (kid : String) : Option (String × String × String) :=
  ((entries j).filterMap usable?).reverse.find? fun key => key.1 == kid

variable {jwkToPem}

/-- A member that is there and is a string. -/
theorem valueOrEmpty_of_string {k : Json} {name s : String}
    (h : (k.member? name).bind Json.string? = some s) : valueOrEmpty k name = some s := by
  obtain ⟨j, hj, hs⟩ := Option.bind_eq_some_iff.mp h
  unfold valueOrEmpty
  rw [hj]
  exact hs

theorem string_of_valueOrEmpty {k : Json} {name s : String} (h : valueOrEmpty k name = some s)
    (hs : s ≠ "") : (k.member? name).bind Json.string? = some s := by
  unfold valueOrEmpty at h
  cases hj : k.member? name with
  | none =>
      rw [hj] at h
      exact absurd (Option.some.inj h).symm hs
  | some j =>
      rw [hj] at h
      exact h

theorem usable?_eq_some {k : Json} {kid n e : String} :
    usable? k = some (kid, n, e) ↔ (k.member? "kty").bind Json.string? = some "RSA" ∧
      (k.member? "kid").bind Json.string? = some kid ∧ kid ≠ "" ∧
      (k.member? "n").bind Json.string? = some n ∧
      (k.member? "e").bind Json.string? = some e := by
  unfold usable?
  constructor
  · intro h
    obtain ⟨kty, hkty, h⟩ := Option.bind_eq_some_iff.mp h
    obtain ⟨kid', hkid, h⟩ := Option.bind_eq_some_iff.mp h
    obtain ⟨n', hn, h⟩ := Option.bind_eq_some_iff.mp h
    obtain ⟨e', he, h⟩ := Option.bind_eq_some_iff.mp h
    split at h
    · rename_i hok
      cases h
      exact ⟨hok.1 ▸ hkty, hkid, hok.2, hn, he⟩
    · cases h
  · rintro ⟨hkty, hkid, hne, hn, he⟩
    simp [hkty, hkid, hne, hn, he]

/-- An entry that is not usable changes nothing; a usable one is converted and takes the place
of its id. -/
theorem addKey_eq_some {next next' : Keys} {k : Json} (h : addKey jwkToPem next k = some next') :
    (usable? k = none ∧ next' = next) ∨
      ∃ kid n e pem, usable? k = some (kid, n, e) ∧ jwkToPem n e = some pem ∧
        next' = Function.update next kid (some pem) := by
  cases hu : usable? k with
  | some key =>
      obtain ⟨kid, n, e⟩ := key
      obtain ⟨hkty, hkid, hne, hn, he⟩ := usable?_eq_some.mp hu
      have hobj : k.isObject = true := by
        obtain ⟨j, hj, -⟩ := Option.bind_eq_some_iff.mp hkty
        exact Json.isObject_of_member? hj
      obtain ⟨jn, hjn, hn'⟩ := Option.bind_eq_some_iff.mp hn
      obtain ⟨je, hje, he'⟩ := Option.bind_eq_some_iff.mp he
      unfold addKey at h
      simp only [hobj, Bool.not_true, Bool.false_eq_true, if_false, valueOrEmpty_of_string hkty,
        valueOrEmpty_of_string hkid, hne, hjn, hje, hn', he', Option.bind_eq_bind, Option.bind_some,
        ne_eq, not_true_eq_false] at h
      obtain ⟨pem, hpem, h⟩ := Option.bind_eq_some_iff.mp h
      cases h
      exact .inr ⟨kid, n, e, pem, rfl, hpem, rfl⟩
  | none =>
      left
      refine ⟨rfl, ?_⟩
      -- On the way to the conversion the entry has shown itself usable.
      unfold addKey at h
      split at h
      · cases h
        rfl
      obtain ⟨kty, hkty, h⟩ := Option.bind_eq_some_iff.mp h
      split at h
      · cases h
        rfl
      rename_i hrsa
      obtain ⟨kid, hkid, h⟩ := Option.bind_eq_some_iff.mp h
      split at h
      · cases h
        rfl
      rename_i hne
      split at h
      · rename_i jn je hjn hje
        split at h
        · rename_i n e hn he
          rw [not_not] at hrsa
          have hkty' := string_of_valueOrEmpty (hrsa ▸ hkty) (by decide)
          have hfound := usable?_eq_some.mpr ⟨hkty', string_of_valueOrEmpty hkid hne, hne,
            Option.bind_eq_some_iff.mpr ⟨jn, hjn, hn⟩, Option.bind_eq_some_iff.mpr ⟨je, hje, he⟩⟩
          rw [hu] at hfound
          cases hfound
        · cases h
          rfl
      · cases h
        rfl

/-- What a key map makes of an id, in terms of the usable keys of the entries. -/
theorem foldlM_addKey {ks : List Json} {next next' : Keys} (kid : String)
    (h : ks.foldlM (addKey jwkToPem) next = some next') :
    match (ks.filterMap usable?).reverse.find? fun key => key.1 == kid with
    | some (_, n, e) => ∃ pem, jwkToPem n e = some pem ∧ next' kid = some pem
    | none => next' kid = next kid := by
  induction ks generalizing next with
  | nil =>
      cases h
      rfl
  | cons k ks ih =>
      obtain ⟨mid, hmid, h⟩ := Option.bind_eq_some_iff.mp h
      have hrest := ih h
      rcases addKey_eq_some hmid with ⟨hu, rfl⟩ | ⟨kid', n, e, pem, hu, hpem, rfl⟩
      · rw [List.filterMap_cons_none hu]
        exact hrest
      · rw [List.filterMap_cons_some hu, List.reverse_cons, List.find?_append]
        -- A later entry with the id wins; otherwise this one counts if it has it.
        cases hfind : (ks.filterMap usable?).reverse.find? fun key => key.1 == kid with
        | some key =>
            rw [hfind] at hrest
            exact hrest
        | none =>
            rw [hfind] at hrest
            simp only at hrest
            by_cases hkid : kid' = kid
            · subst hkid
              rw [Function.update_self] at hrest
              simpa using ⟨pem, hpem, hrest⟩
            · rw [Function.update_of_ne (Ne.symm hkid)] at hrest
              simpa [hkid] using hrest

/-- The key a document gives for an id is the conversion of its last usable entry. -/
theorem keysOf_apply {j : Json} {keys : Keys} (h : keysOf jwkToPem j = some keys) (kid pem : String) :
    keys kid = some pem ↔
      ∃ n e, lastUsable? j kid = some (kid, n, e) ∧ jwkToPem n e = some pem := by
  have hkeys := foldlM_addKey kid h
  unfold lastUsable?
  cases hfind : ((entries j).filterMap usable?).reverse.find? fun key => key.1 == kid with
  | none =>
      rw [hfind] at hkeys
      simp only at hkeys
      simp [hkeys]
  | some key =>
      obtain ⟨kid', n, e⟩ := key
      have hid : kid' = kid := by simpa using List.find?_some hfind
      rw [hfind] at hkeys
      obtain ⟨pem', hpem', hkid⟩ := hkeys
      subst hid
      rw [hkid]
      constructor
      · intro he
        cases he
        exact ⟨n, e, rfl, hpem'⟩
      · rintro ⟨n', e', he, hpem⟩
        cases he
        rw [← hpem', hpem]

/-- The empty id is never served. -/
theorem lastUsable?_ne_empty {j : Json} {kid n e : String}
    (h : lastUsable? j kid = some (kid, n, e)) : kid ≠ "" := by
  have hmem := List.mem_of_find?_eq_some h
  obtain ⟨k, -, hk⟩ := List.mem_filterMap.mp (List.mem_reverse.mp hmem)
  exact (usable?_eq_some.mp hk).2.2.1

/-- The keys are those of the document that was fetched last. -/
def JwksCache.Faithful (jwkToPem : String → String → Option String) (cache : JwksCache) : Prop :=
  match cache.document with
  | some j => keysOf jwkToPem j = some cache.keys
  | none => cache.keys = fun _ => none

theorem JwksCache.faithful_fresh : JwksCache.fresh.Faithful jwkToPem := rfl

/-- A lookup answers from fresh keys, fails and changes nothing, or answers from the document
it has just fetched. -/
theorem JwksCache.getKey_cases (jwkToPem : String → String → Option String) (ttl : ℕ)
    (cache : JwksCache) (kid : String) (now : ℤ) (fetched : Option Json) (later : ℤ) :
    (∃ pem, cache.keys kid = some pem ∧ now - cache.fetchedAt ≤ ttl ∧
      cache.getKey jwkToPem ttl kid now fetched later = (some pem, cache)) ∨
    cache.getKey jwkToPem ttl kid now fetched later = (none, cache) ∨
    ∃ j keys, fetched = some j ∧ keysOf jwkToPem j = some keys ∧
      cache.getKey jwkToPem ttl kid now fetched later = (keys kid, ⟨keys, later, some j⟩) := by
  have hrefresh : (match JwksCache.refresh jwkToPem fetched later with
        | none => (none, cache)
        | some cache' => (cache'.keys kid, cache')) = (none, cache) ∨
      ∃ j keys, fetched = some j ∧ keysOf jwkToPem j = some keys ∧
        (match JwksCache.refresh jwkToPem fetched later with
        | none => (none, cache)
        | some cache' => (cache'.keys kid, cache')) = (keys kid, ⟨keys, later, some j⟩) := by
    unfold JwksCache.refresh
    cases fetched with
    | none => exact .inl rfl
    | some j =>
        cases hkeys : keysOf jwkToPem j with
        | none => exact .inl (by simp [hkeys])
        | some keys => exact .inr ⟨j, keys, rfl, hkeys, by simp [hkeys]⟩
  unfold JwksCache.getKey
  cases hkid : cache.keys kid with
  | none => exact .inr hrefresh
  | some pem =>
      by_cases hexpired : cache.fetchedAt = 0 ∨ (ttl : ℤ) < now - cache.fetchedAt
      · simp only [hexpired, decide_true]
        exact .inr hrefresh
      · simp only [hexpired, decide_false]
        exact .inl ⟨pem, rfl, by omega, rfl⟩

theorem JwksCache.Faithful.getKey {cache : JwksCache} (h : cache.Faithful jwkToPem) (ttl : ℕ)
    (kid : String) (now : ℤ) (fetched : Option Json) (later : ℤ) :
    (cache.getKey jwkToPem ttl kid now fetched later).2.Faithful jwkToPem := by
  rcases JwksCache.getKey_cases jwkToPem ttl cache kid now fetched later with
    ⟨pem, -, -, he⟩ | he | ⟨j, keys, -, hkeys, he⟩
  · rw [he]
    exact h
  · rw [he]
    exact h
  · rw [he]
    exact hkeys

/-- The key of a lookup is the one its cache's document offers, and the document is not older
than the cache allows. -/
theorem JwksCache.Faithful.getKey_eq_some {cache : JwksCache} (h : cache.Faithful jwkToPem)
    {ttl : ℕ} {kid pem : String} {now : ℤ} {fetched : Option Json} {later : ℤ}
    {cache' : JwksCache} (hle : now ≤ later)
    (hkey : cache.getKey jwkToPem ttl kid now fetched later = (some pem, cache')) :
    ∃ j n e, cache'.document = some j ∧ lastUsable? j kid = some (kid, n, e) ∧
      jwkToPem n e = some pem ∧ now - cache'.fetchedAt ≤ ttl := by
  rcases JwksCache.getKey_cases jwkToPem ttl cache kid now fetched later with
    ⟨pem', hpem, hage, he⟩ | he | ⟨j, keys, -, hkeys, he⟩
  · cases he.symm.trans hkey
    unfold JwksCache.Faithful at h
    cases hdoc : cache.document with
    | none =>
        simp only [hdoc] at h
        rw [h] at hpem
        cases hpem
    | some j =>
        simp only [hdoc] at h
        obtain ⟨n, e, hlast, hconv⟩ := (keysOf_apply h kid pem).mp hpem
        exact ⟨j, n, e, rfl, hlast, hconv, hage⟩
  · cases he.symm.trans hkey
  · have hboth := he.symm.trans hkey
    rw [Prod.mk.injEq] at hboth
    obtain ⟨hpem, rfl⟩ := hboth
    obtain ⟨n, e, hlast, hconv⟩ := (keysOf_apply hkeys kid pem).mp hpem
    exact ⟨j, n, e, rfl, hlast, hconv, by dsimp only; omega⟩

end Refresh

/-! ## A key -/

/-- The modulus of an RSA key of 512 bits. -/
def someModulus : String :=
  "0Emahs-DdLA3xs0kvbW1HjsmpE283xiGp14eNfv07azzh6M1cQfbaTsETRSCvexgIdoucov3_fZUZdbVrsfHEw"

/-- The key with the exponent 65537. -/
def somePem : String :=
  "-----BEGIN PUBLIC KEY-----\n" ++
    "MFwwDQYJKoZIhvcNAQEBBQADSwAwSAJBANBJmobPg3SwN8bNJL21tR47JqRNvN8Y\n" ++
    "hqdeHjX79O2s84ejNXEH22k7BE0Ugr3sYCHaLnKL9/32VGXW1a7HxxMCAwEAAQ==\n" ++
    "-----END PUBLIC KEY-----\n"

/-- The conversion of that key. -/
def convertsSomeKey (n e : String) : Option String :=
  if n = someModulus ∧ e = "AQAB" then some somePem else none

/-- The entry of that key, with the id `k`. -/
def someEntry : Json :=
  .object [("kty", .string "RSA"), ("kid", .string "k"), ("n", .string someModulus),
    ("e", .string "AQAB")]

/-- A document with these entries. -/
def documentOf (entries : List Json) : Json := .object [("keys", .array entries)]

end EvGrpc
