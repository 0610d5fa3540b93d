import EvGrpc.Auth.JwksCache

/-!
# Refreshes that meet something odd

Two questions about `refresh`.  What does one odd entry do to the others?  Most of them are
skipped, but an RSA key that cannot be converted throws, and the whole document is lost
(`bad_key_iff`): the cache is fail-closed.  And what does a refresh that fails leave behind?
Nothing: without the lookups whose refresh failed, a history of lookups is what it was
(`failed_refreshes_invisible`).
-/

namespace EvGrpc

open Lib

section Refreshes
variable {jwkToPem : String → String → Option String}

/-! ## One odd entry -/

/-- The members that `refresh` reads as strings are strings, where they are there. -/
def WellTyped (k : Json) : Prop :=
  ∀ name ∈ ["kty", "kid"], ∀ j, k.member? name = some j → j.string?.isSome = true

/-- The entry is no RSA key, or one that can be converted. -/
def Converts (jwkToPem : String → String → Option String) (k : Json) : Prop :=
  ∀ kid n e, usable? k = some (kid, n, e) → (jwkToPem n e).isSome = true

theorem WellTyped.exists_value {k : Json} (h : WellTyped k) (name : String)
    (hname : name ∈ ["kty", "kid"]) : ∃ s, valueOrEmpty k name = some s := by
  unfold valueOrEmpty
  cases hj : k.member? name with
  | none => exact ⟨"", rfl⟩
  | some j => exact Option.isSome_iff_exists.mp (h name hname j hj)

/-- A well-typed entry that converts, if it is a key, does not throw. -/
theorem exists_addKey {k : Json} (hk : WellTyped k) (h : Converts jwkToPem k) (next : Keys) :
    ∃ next', addKey jwkToPem next k = some next' := by
  obtain ⟨kty, hkty⟩ := hk.exists_value "kty" (by simp)
  obtain ⟨kid, hkid⟩ := hk.exists_value "kid" (by simp)
  unfold addKey
  by_cases hobj : k.isObject = true
  · simp only [hobj, Bool.not_true, Bool.false_eq_true, if_false, hkty, hkid, Option.bind_eq_bind,
      Option.bind_some]
    by_cases hrsa : kty = "RSA"
    · subst hrsa
      by_cases hempty : kid = ""
      · exact ⟨next, by simp [hempty]⟩
      · simp only [ne_eq, not_true_eq_false, if_false, hempty]
        split
        · rename_i jn je hjn hje
          split
          · rename_i n e hn he
            -- The entry is a key, so it converts.
            have hu : usable? k = some (kid, n, e) :=
              usable?_eq_some.mpr ⟨string_of_valueOrEmpty hkty (by decide),
                string_of_valueOrEmpty hkid hempty, hempty, Option.bind_eq_some_iff.mpr ⟨jn, hjn, hn⟩,
                Option.bind_eq_some_iff.mpr ⟨je, hje, he⟩⟩
            obtain ⟨pem, hpem⟩ := Option.isSome_iff_exists.mp (h kid n e hu)
            exact ⟨Function.update next kid (some pem), by simp [hpem]⟩
          · exact ⟨next, rfl⟩
        · exact ⟨next, rfl⟩
    · exact ⟨next, by simp [hrsa]⟩
  · exact ⟨next, by simp [hobj]⟩

/-- An entry that is a key and does not convert throws. -/
theorem addKey_eq_none {k : Json} (h : ¬ Converts jwkToPem k) (next : Keys) :
    addKey jwkToPem next k = none := by
  cases hadd : addKey jwkToPem next k with
  | none => rfl
  | some next' =>
      refine absurd ?_ h
      intro kid n e hu
      rcases addKey_eq_some hadd with ⟨hnone, -⟩ | ⟨kid', n', e', pem, hu', hpem, -⟩
      · rw [hnone] at hu
        cases hu
      · cases hu.symm.trans hu'
        rw [hpem]
        rfl

/-- Whether an entry throws does not depend on the keys before it. -/
theorem addKey_of_addKey {k : Json} {next keys : Keys} (h : addKey jwkToPem next k = some keys)
    (next' : Keys) : ∃ keys', addKey jwkToPem next' k = some keys' := by
  unfold addKey at h ⊢
  by_cases hobj : k.isObject = true
  · simp only [hobj, Bool.not_true, Bool.false_eq_true, if_false, Option.bind_eq_bind] at h ⊢
    obtain ⟨kty, hkty, h⟩ := Option.bind_eq_some_iff.mp h
    rw [hkty, Option.bind_some]
    split at h
    · rename_i hrsa
      exact ⟨next', if_pos hrsa⟩
    · rename_i hrsa
      obtain ⟨kid, hkid, h⟩ := Option.bind_eq_some_iff.mp h
      rw [if_neg hrsa, hkid, Option.bind_some]
      split at h
      · rename_i hempty
        exact ⟨next', if_pos hempty⟩
      · rename_i hempty
        rw [if_neg hempty]
        split at h
        · split at h
          · obtain ⟨pem, hpem, -⟩ := Option.bind_eq_some_iff.mp h
            exact ⟨Function.update next' kid (some pem), by simp [*]⟩
          · exact ⟨next', by simp [*]⟩
        · exact ⟨next', by simp [*]⟩
  · exact ⟨next', by simp [hobj]⟩

theorem foldlM_of_foldlM {ks : List Json} {next keys : Keys}
    (h : ks.foldlM (addKey jwkToPem) next = some keys) (next' : Keys) :
    ∃ keys', ks.foldlM (addKey jwkToPem) next' = some keys' := by
  induction ks generalizing next next' with
  | nil => exact ⟨next', rfl⟩
  | cons k ks ih =>
      obtain ⟨mid, hmid, h⟩ := Option.bind_eq_some_iff.mp h
      obtain ⟨mid', hmid'⟩ := addKey_of_addKey hmid next'
      obtain ⟨keys', hkeys'⟩ := ih h mid'
      exact ⟨keys', Option.bind_eq_some_iff.mpr ⟨mid', hmid', hkeys'⟩⟩

/-- What comes after decides about an id alike, if the keys before agree on it. -/
theorem foldlM_apply_congr {ks : List Json} {next₁ next₂ keys₁ keys₂ : Keys} {kid : String}
    (h₁ : ks.foldlM (addKey jwkToPem) next₁ = some keys₁)
    (h₂ : ks.foldlM (addKey jwkToPem) next₂ = some keys₂) (h : next₁ kid = next₂ kid) :
    keys₁ kid = keys₂ kid := by
  have hkeys₁ := foldlM_addKey kid h₁
  have hkeys₂ := foldlM_addKey kid h₂
  cases hfind : (ks.filterMap usable?).reverse.find? fun key => key.1 == kid with
  | none =>
      simp only [hfind] at hkeys₁ hkeys₂
      rw [hkeys₁, hkeys₂, h]
  | some key =>
      simp only [hfind] at hkeys₁ hkeys₂
      obtain ⟨pem₁, hpem₁, hkeys₁⟩ := hkeys₁
      obtain ⟨pem₂, hpem₂, hkeys₂⟩ := hkeys₂
      rw [hkeys₁, hkeys₂, ← hpem₁, hpem₂]

/-- The entry is a usable RSA key with this id. -/
def Offers (jwkToPem : String → String → Option String) (k : Json) (kid : String) : Prop :=
  ∃ n e pem, usable? k = some (kid, n, e) ∧ jwkToPem n e = some pem

/-- An entry that offers nothing for an id leaves it alone. -/
theorem addKey_apply_of_not_offers {k : Json} {next keys : Keys} {kid : String}
    (h : addKey jwkToPem next k = some keys) (hk : ¬ Offers jwkToPem k kid) :
    keys kid = next kid := by
  rcases addKey_eq_some h with ⟨-, rfl⟩ | ⟨kid', n, e, pem, hu, hpem, rfl⟩
  · rfl
  · have hne : kid ≠ kid' := by
      rintro rfl
      exact hk ⟨n, e, pem, hu, hpem⟩
    rw [Function.update_of_ne hne]

/-- An entry that throws fails the whole document. -/
theorem keysOf_insert_none {j : Json} {pre post : List Json} {x : Json}
    (hj : entries j = pre ++ x :: post) (hx : ∀ next, addKey jwkToPem next x = none) :
    keysOf jwkToPem j = none := by
  unfold keysOf
  rw [hj, List.foldlM_append]
  cases hpre : pre.foldlM (addKey jwkToPem) fun _ => none with
  | none => rfl
  | some mid =>
      change (addKey jwkToPem mid x).bind _ = none
      rw [hx]
      rfl

/-- An entry that does not throw leaves the keys for other ids as they are. -/
theorem keysOf_insert_some {j j' : Json} {pre post : List Json} {x : Json} {keys : Keys}
    {kid : String} (hj : entries j = pre ++ post) (hj' : entries j' = pre ++ x :: post)
    (hkeys : keysOf jwkToPem j = some keys) (hx : ∀ next, ∃ next', addKey jwkToPem next x = some next')
    (hkid : ¬ Offers jwkToPem x kid) :
    ∃ keys', keysOf jwkToPem j' = some keys' ∧ keys' kid = keys kid := by
  unfold keysOf at hkeys ⊢
  rw [hj, List.foldlM_append] at hkeys
  obtain ⟨mid, hmid, hpost⟩ := Option.bind_eq_some_iff.mp hkeys
  obtain ⟨mid', hmid'⟩ := hx mid
  obtain ⟨keys', hkeys'⟩ := foldlM_of_foldlM hpost mid'
  refine ⟨keys', ?_, ?_⟩
  · rw [hj', List.foldlM_append]
    exact Option.bind_eq_some_iff.mpr ⟨mid, hmid, Option.bind_eq_some_iff.mpr ⟨mid', hmid', hkeys'⟩⟩
  · exact foldlM_apply_congr hkeys' hpost (addKey_apply_of_not_offers hmid' hkid)

/-! ## Lookups that fetch -/

/-- The lookup does not find a fresh key and refreshes. -/
def JwksCache.Fetches (ttl : ℕ) (cache : JwksCache) (kid : String) (now : ℤ) : Prop :=
  cache.keys kid = none ∨ cache.fetchedAt = 0 ∨ (ttl : ℤ) < now - cache.fetchedAt

instance (ttl : ℕ) (cache : JwksCache) (kid : String) (now : ℤ) :
    Decidable (cache.Fetches ttl kid now) :=
  inferInstanceAs (Decidable (_ ∨ _ ∨ _))

/-- What a lookup that fetches answers. -/
theorem JwksCache.getKey_of_fetches {ttl : ℕ} {cache : JwksCache} {kid : String} {now : ℤ}
    (h : cache.Fetches ttl kid now) (fetched : Option Json) (later : ℤ) :
    cache.getKey jwkToPem ttl kid now fetched later =
      match JwksCache.refresh jwkToPem fetched later with
      | none => (none, cache)
      | some cache' => (cache'.keys kid, cache') := by
  unfold JwksCache.getKey
  cases hkid : cache.keys kid with
  | none => rfl
  | some pem =>
      have hexpired : cache.fetchedAt = 0 ∨ (ttl : ℤ) < now - cache.fetchedAt := by
        rcases h with h | h
        · rw [hkid] at h
          cases h
        · exact h
      cases JwksCache.refresh jwkToPem fetched later with
      | none => simp [hexpired]
      | some cache' => simp [hexpired]

/-- A refresh on the document succeeds, and every lookup that fetches it answers the id with
this key. -/
def Provides (jwkToPem : String → String → Option String) (j : Json) (kid pem : String) : Prop :=
  ∀ later, ∃ cache', JwksCache.refresh jwkToPem (some j) later = some cache' ∧
    ∀ ttl (cache : JwksCache) now, cache.Fetches ttl kid now →
      cache.getKey jwkToPem ttl kid now (some j) later = (some pem, cache')

theorem provides_iff {j : Json} {kid pem : String} :
    Provides jwkToPem j kid pem ↔ ∃ keys, keysOf jwkToPem j = some keys ∧ keys kid = some pem := by
  constructor
  · intro h
    obtain ⟨cache', hrefresh, hget⟩ := h 0
    have hfirst := hget 0 .fresh 0 (.inl rfl)
    rw [JwksCache.getKey_of_fetches (.inl rfl), hrefresh] at hfirst
    obtain ⟨keys, hkeys, hcache⟩ := Option.bind_eq_some_iff.mp hrefresh
    cases hcache
    exact ⟨keys, hkeys, congrArg Prod.fst hfirst⟩
  · rintro ⟨keys, hkeys, hkid⟩ later
    have hrefresh : JwksCache.refresh jwkToPem (some j) later = some ⟨keys, later, some j⟩ := by
      simp [JwksCache.refresh, hkeys]
    refine ⟨_, hrefresh, ?_⟩
    intro ttl cache now hfetches
    rw [JwksCache.getKey_of_fetches hfetches, hrefresh]
    exact congrArg (·, _) hkid

/-- One odd entry among the keys, anywhere: if its `kty` and `kid` are strings or missing, and
it is no usable key for the id, the document still provides the key for the id, unless the
entry is an RSA key that cannot be converted. -/
theorem bad_key_iff {j j' x : Json} {pre post : List Json} {kid pem : String}
    (hj : entries j = pre ++ post) (hj' : entries j' = pre ++ x :: post)
    (hprovides : Provides jwkToPem j kid pem) (hx : ¬ Offers jwkToPem x kid) (htyped : WellTyped x) :
    Provides jwkToPem j' kid pem ↔ Converts jwkToPem x := by
  obtain ⟨keys, hkeys, hkid⟩ := provides_iff.mp hprovides
  rw [provides_iff]
  constructor
  · rintro ⟨keys', hkeys', -⟩
    by_contra hconverts
    rw [keysOf_insert_none hj' (addKey_eq_none hconverts)] at hkeys'
    cases hkeys'
  · intro hconverts
    obtain ⟨keys', hkeys', hsame⟩ := keysOf_insert_some hj hj' hkeys (exists_addKey htyped hconverts) hx
    exact ⟨keys', hkeys', hsame.trans hkid⟩

/-- The document with the key `k` provides it. -/
theorem provides_someEntry : Provides convertsSomeKey (documentOf [someEntry]) "k" somePem :=
  provides_iff.mpr ⟨_, rfl, by decide +kernel⟩

/-- An RSA key with another id and an empty modulus, which does not convert. -/
def emptyModulus : Json :=
  .object [("kty", .string "RSA"), ("kid", .string "other"), ("n", .string ""), ("e", .string "AQAB")]

/-- With the other key in front of it, the key `k` is no longer provided. -/
theorem unconvertible_key_fails_all :
    Provides convertsSomeKey (documentOf [someEntry]) "k" somePem ∧
    ¬ Offers convertsSomeKey emptyModulus "k" ∧
    ¬ Provides convertsSomeKey (documentOf [emptyModulus, someEntry]) "k" somePem := by
  refine ⟨provides_someEntry, ?_, ?_⟩
  · rintro ⟨n, e, pem, hu, -⟩
    have hid : usable? emptyModulus = some ("other", "", "AQAB") := by rfl
    rw [hid] at hu
    simp at hu
  · rw [provides_iff]
    rintro ⟨keys, hkeys, -⟩
    have hnone : keysOf convertsSomeKey (documentOf [emptyModulus, someEntry]) = none := by rfl
    rw [hnone] at hkeys
    cases hkeys

/-- A key of another kind is skipped. -/
def otherKind : Json := .object [("kty", .string "EC"), ("kid", .string "k")]

/-- With a key of another kind in front of it, the key `k` is provided as before. -/
theorem bad_key_iff_other_kind :
    Provides convertsSomeKey (documentOf [otherKind, someEntry]) "k" somePem := by
  have hnone : usable? otherKind = none := by rfl
  have htyped : WellTyped otherKind := by
    intro name hname j hj
    rcases List.mem_pair.mp hname with rfl | rfl
    · cases hj
      rfl
    · cases hj
      rfl
  have hoffers : ¬ Offers convertsSomeKey otherKind "k" := by
    rintro ⟨n, e, pem, hu, -⟩
    rw [hnone] at hu
    cases hu
  have hentries : entries (documentOf [someEntry]) = [] ++ [someEntry] := rfl
  have hentries' : entries (documentOf [otherKind, someEntry]) = [] ++ otherKind :: [someEntry] :=
    rfl
  refine (bad_key_iff hentries hentries' provides_someEntry hoffers htyped).mpr ?_
  intro kid n e hu
  rw [hnone] at hu
  cases hu

/-! ## Histories of lookups -/

/-- A lookup: the id, the clock at its beginning, what a fetch would give, and the clock after
it. -/
structure Lookup where
  kid : String
  now : ℤ
  fetched : Option Json
  later : ℤ

/-- The lookup fetches, and its refresh throws. -/
def Lookup.Fails (jwkToPem : String → String → Option String) (ttl : ℕ) (cache : JwksCache)
    (l : Lookup) : Prop :=
  cache.Fetches ttl l.kid l.now ∧ JwksCache.refresh jwkToPem l.fetched l.later = none

instance (ttl : ℕ) (cache : JwksCache) (l : Lookup) : Decidable (l.Fails jwkToPem ttl cache) :=
  haveI : Decidable (JwksCache.refresh jwkToPem l.fetched l.later = none) :=
    decidable_of_iff _ Option.isNone_iff_eq_none
  inferInstanceAs (Decidable (_ ∧ _))

/-- The answer to a lookup, and the cache after it. -/
def Lookup.ask (jwkToPem : String → String → Option String) (ttl : ℕ) (cache : JwksCache)
    (l : Lookup) : Option String × JwksCache :=
  cache.getKey jwkToPem ttl l.kid l.now l.fetched l.later

/-- A lookup whose refresh fails answers nothing and changes nothing. -/
theorem Lookup.Fails.ask_eq {ttl : ℕ} {cache : JwksCache} {l : Lookup}
    (h : l.Fails jwkToPem ttl cache) : l.ask jwkToPem ttl cache = (none, cache) := by
  unfold Lookup.ask
  rw [JwksCache.getKey_of_fetches h.1, h.2]

/-- One lookup after the other: each with its answer, and whether its refresh failed. -/
def history (jwkToPem : String → String → Option String) (ttl : ℕ) :
    JwksCache → List Lookup → List (Lookup × Option String × Bool)
  | _, [] => []
  | cache, l :: ls =>
      (l, (l.ask jwkToPem ttl cache).1, decide (l.Fails jwkToPem ttl cache)) ::
        history jwkToPem ttl (l.ask jwkToPem ttl cache).2 ls

/-- The cache after some lookups. -/
def cacheAfter (jwkToPem : String → String → Option String) (ttl : ℕ) (cache : JwksCache)
    (ls : List Lookup) : JwksCache :=
  ls.foldl (fun cache l => (l.ask jwkToPem ttl cache).2) cache

/-- The lookups of a history whose refresh did not fail. -/
def surviving (jwkToPem : String → String → Option String) (ttl : ℕ) (cache : JwksCache)
    (ls : List Lookup) : List Lookup :=
  ((history jwkToPem ttl cache ls).filter fun x => !x.2.2).map Prod.fst

/-- Without the lookups that failed, the others are answered as before. -/
theorem history_surviving (ttl : ℕ) (cache : JwksCache) (ls : List Lookup) :
    history jwkToPem ttl cache (surviving jwkToPem ttl cache ls) =
      (history jwkToPem ttl cache ls).filter fun x => !x.2.2 := by
  induction ls generalizing cache with
  | nil => rfl
  | cons l ls ih =>
      by_cases hfails : l.Fails jwkToPem ttl cache
      · -- The lookup left the cache as it was.
        have hsurviving : surviving jwkToPem ttl cache (l :: ls) = surviving jwkToPem ttl cache ls := by
          simp [surviving, history, hfails, hfails.ask_eq]
        have hfilter : (history jwkToPem ttl cache (l :: ls)).filter (fun x => !x.2.2) =
            (history jwkToPem ttl cache ls).filter fun x => !x.2.2 := by
          simp [history, hfails, hfails.ask_eq]
        rw [hsurviving, hfilter]
        exact ih cache
      · have hsurviving : surviving jwkToPem ttl cache (l :: ls) =
            l :: surviving jwkToPem ttl (l.ask jwkToPem ttl cache).2 ls := by
          simp [surviving, history, hfails]
        rw [hsurviving]
        simp [history, hfails, ih]

/-- A lookup whose refresh fails answers nothing and leaves the keys and the time of the last
fetch alone, wherever it stands in a history; and without such lookups all others are answered
as before. -/
theorem failed_refreshes_invisible (ttl : ℕ) (cache : JwksCache) (ls : List Lookup) :
    (∀ before l after, ls = before ++ l :: after →
      l.Fails jwkToPem ttl (cacheAfter jwkToPem ttl cache before) →
        (l.ask jwkToPem ttl (cacheAfter jwkToPem ttl cache before)).1 = none ∧
        (cacheAfter jwkToPem ttl cache (before ++ [l])).keys =
          (cacheAfter jwkToPem ttl cache before).keys ∧
        (cacheAfter jwkToPem ttl cache (before ++ [l])).fetchedAt =
          (cacheAfter jwkToPem ttl cache before).fetchedAt) ∧
    history jwkToPem ttl cache (surviving jwkToPem ttl cache ls) =
      (history jwkToPem ttl cache ls).filter fun x => !x.2.2 := by
  refine ⟨?_, history_surviving ttl cache ls⟩
  rintro before l after - hfails
  have hask := hfails.ask_eq
  have hafter : cacheAfter jwkToPem ttl cache (before ++ [l]) =
      cacheAfter jwkToPem ttl cache before := by
    unfold cacheAfter at hask ⊢
    rw [List.foldl_append, List.foldl_cons, List.foldl_nil, hask]
  rw [hask, hafter]
  exact ⟨rfl, rfl, rfl⟩

/-- A lookup that fails to fetch, and one that does not. -/
def twoLookups : List Lookup :=
  [⟨"k", 1000, none, 1001⟩, ⟨"k", 1002, some (documentOf [someEntry]), 1003⟩]

/-- The first lookup fails, and without it the second one is answered as before. -/
theorem failed_refreshes_invisible_two :
    (history convertsSomeKey 3600 .fresh twoLookups).map Prod.snd =
      [(none, true), (some somePem, false)] ∧
    (history convertsSomeKey 3600 .fresh (surviving convertsSomeKey 3600 .fresh twoLookups)).map
      Prod.snd = [(some somePem, false)] := by
  have hall : (history convertsSomeKey 3600 .fresh twoLookups).map Prod.snd =
      [(none, true), (some somePem, false)] := by decide +kernel
  refine ⟨hall, ?_⟩
  rw [(failed_refreshes_invisible 3600 .fresh twoLookups).2]
  decide +kernel

end Refreshes

end EvGrpc
