import EvGrpc.Grpc
import EvGrpc.Lib.Digits

/-!
# Page tokens

`util/page_token_parse.cc`: a page token is the decimal offset of the next page.

A token should be an integer and nothing else.  `ParsePageToken` leaves the reading to
`strtol`, which skips white space before the number, and hands it the token as a C string, which
ends at a NUL.  So a token is accepted when an integer is what is left of it;
`token_exact_iff` says that these are the only tokens that should not be.
-/

namespace EvGrpc

open Lib

/-- `INT_MAX` -/
def intMax : ℤ := 2147483647

/-- `ParsePageToken`: the offset it writes, or the status it returns. -/
def parsePageToken (token : String) : Except Status ℤ :=
  if token = "" then .ok 0
  else
    match strtol (cstr token) with
    | none =>
        .error ⟨.INVALID_ARGUMENT, "page_token must be a non-negative integer; got '" ++ token ++ "'"⟩
    | some r =>
        if r.rest ≠ [] then
          .error ⟨.INVALID_ARGUMENT,
            "page_token must be a non-negative integer; got '" ++ token ++ "'"⟩
        else if r.erange ∨ r.value < 0 ∨ intMax < r.value then
          if r.value < 0 then .ok 0
          else .error ⟨.INVALID_ARGUMENT, "page_token value out of range; got '" ++ token ++ "'"⟩
        else .ok r.value

/-- The empty token is the first page. -/
@[simp] theorem parsePageToken_empty : parsePageToken "" = .ok 0 := rfl

/-- `ParsePageToken` undoes the `std::to_string` that made the token. -/
theorem parsePageToken_toText (n : ℕ) (h : (n : ℤ) ≤ intMax) :
    parsePageToken (toText (n : ℤ)) = .ok (n : ℤ) := by
  have hread : strtol (cstr (toText (n : ℤ))) = some ⟨n, false, []⟩ := by
    rw [cstr_toText]
    exact strtol_toText n (by unfold intMax at h; unfold longMax; omega)
  have hrange : ¬ ((n : ℤ) < 0 ∨ intMax < (n : ℤ)) := by omega
  unfold parsePageToken
  rw [if_neg (toText_ofNat_ne_empty n), hread]
  simp only [ne_eq, not_true_eq_false, if_false, Bool.false_eq_true, false_or, hrange]

/-- A token that parses gives an offset that fits an `int` and is not negative. -/
theorem parsePageToken_bounds {token : String} {o : ℤ} (h : parsePageToken token = .ok o) :
    0 ≤ o ∧ o ≤ intMax := by
  unfold parsePageToken at h
  split_ifs at h
  · cases h; decide
  · split at h
    · cases h
    · split_ifs at h
      · cases h; decide
      · cases h; omega

/-! ## Which tokens are accepted -/

/-- What `strtol` reads the number from. -/
def stripped (token : String) : List Char := (cstr token).dropWhile isSpace

/-- A token that is an integer up to `INT_MAX` gives its value, or zero if that is negative;
the empty token gives zero; any other is `INVALID_ARGUMENT`. -/
structure TokenExact (token : String) : Prop where
  empty : token = "" → parsePageToken token = .ok 0
  integer : ∀ v, Signed token.toList v → v ≤ intMax → parsePageToken token = .ok (max 0 v)
  other : token ≠ "" → (∀ v, Signed token.toList v → intMax < v) →
    ∃ message, parsePageToken token = .error ⟨.INVALID_ARGUMENT, message⟩

/-- White space before an integer, or a NUL after it. -/
def Loose (token : String) : Prop :=
  ∃ space number rest v, token.toList = space ++ number ++ rest ∧
    (∀ c ∈ space, isSpace c = true) ∧ Signed number v ∧ v ≤ intMax ∧
    (rest = [] ∨ rest.head? = some '\x00') ∧ (space ≠ [] ∨ rest ≠ [])

section Token
variable {token : String} {v : ℤ}

theorem toList_ne_nil_of_signed (h : Signed (stripped token) v) : token ≠ "" := by
  rintro rfl
  exact h.ne_nil rfl

/-- A number that is left is what counts. -/
theorem parsePageToken_of_signed (h : Signed (stripped token) v) :
    parsePageToken token = if v ≤ intMax then .ok (max 0 v)
      else .error ⟨.INVALID_ARGUMENT, "page_token value out of range; got '" ++ token ++ "'"⟩ := by
  have hread := strtol_of_signed h
  unfold parsePageToken
  rw [if_neg (toList_ne_nil_of_signed h), hread]
  simp only [ne_eq, not_true_eq_false, if_false, decide_eq_true_eq]
  unfold saturate longMin longMax intMax
  by_cases hneg : v < 0
  · have hmax : max 0 v = 0 := by omega
    rw [if_pos (by omega), if_pos (by omega), if_pos (by omega), hmax]
  · by_cases hle : v ≤ 2147483647
    · have hsat : max (-9223372036854775808) (min 9223372036854775807 v) = v := by omega
      have hmax : max 0 v = v := by omega
      rw [hsat, if_neg (by simp; omega), if_pos hle, hmax]
    · rw [if_pos (by omega), if_neg (by omega), if_neg hle]

/-- And if none is, the token is refused. -/
theorem parsePageToken_of_not_signed (hne : token ≠ "") (h : ∀ v, ¬ Signed (stripped token) v) :
    ∃ message, parsePageToken token = .error ⟨.INVALID_ARGUMENT, message⟩ := by
  unfold parsePageToken
  rw [if_neg hne]
  split
  · exact ⟨_, rfl⟩
  · rename_i r hr
    have hrest : r.rest ≠ [] := by
      intro hrest
      obtain ⟨v, hv⟩ := signed_of_strtol hr hrest
      exact h v hv
    rw [if_pos hrest]
    exact ⟨_, rfl⟩

/-- An integer is left as it is. -/
theorem stripped_of_signed (h : Signed token.toList v) : stripped token = token.toList := by
  have hnul : '\x00' ∉ token.toList := h.notMem rfl (by decide) (by decide)
  rw [stripped, cstr_eq_toList_iff.mpr hnul, h.dropWhile_isSpace]

/-- What is left of a loose token is its number, which is less than the token. -/
theorem Loose.stripped (h : Loose token) :
    ∃ v, Signed (stripped token) v ∧ v ≤ intMax ∧ stripped token ≠ token.toList := by
  obtain ⟨space, number, rest, v, htoken, hspace, hnumber, hmax, hrest, hmore⟩ := h
  have hnul : ∀ c ∈ space ++ number, decide (c ≠ '\x00') = true := by
    intro c hc
    have : c ≠ '\x00' := by
      rintro rfl
      rcases List.mem_append.mp hc with hc | hc
      · have := hspace _ hc
        revert this
        decide
      · exact hnumber.notMem rfl (by decide) (by decide) hc
    simpa using this
  have hcstr : cstr token = space ++ number := by
    rw [cstr, htoken, List.takeWhile_append_of_pos hnul]
    rcases hrest with rfl | hrest
    · simp
    · obtain ⟨c, cs, rfl⟩ : ∃ c cs, rest = c :: cs := by
        cases rest with
        | nil => cases hrest
        | cons c cs => exact ⟨c, cs, rfl⟩
      cases hrest
      simp
  have hstripped : EvGrpc.stripped token = number := by
    rw [EvGrpc.stripped, hcstr, List.dropWhile_append_of_pos hspace, hnumber.dropWhile_isSpace]
  rw [hstripped]
  refine ⟨v, hnumber, hmax, ?_⟩
  intro hall
  rw [htoken] at hall
  have hlen := congrArg List.length hall
  simp only [List.length_append] at hlen
  rcases hmore with h | h
  · exact h (List.eq_nil_of_length_eq_zero (by omega))
  · exact h (List.eq_nil_of_length_eq_zero (by omega))

/-- A token of which an integer is left is one, or is loose. -/
theorem loose_of_signed (h : Signed (stripped token) v) (hmax : v ≤ intMax)
    (hne : stripped token ≠ token.toList) : Loose token := by
  refine ⟨(cstr token).takeWhile isSpace, stripped token,
    token.toList.dropWhile (· ≠ '\x00'), v, ?_, ?_, h, hmax, ?_, ?_⟩
  · rw [stripped, List.takeWhile_append_dropWhile, cstr, List.takeWhile_append_dropWhile]
  · intro c hc
    exact List.mem_takeWhile_imp hc
  · cases hrest : token.toList.dropWhile (· ≠ '\x00') with
    | nil => exact .inl rfl
    | cons c cs =>
        have hhead := List.head?_dropWhile_not (· ≠ '\x00') token.toList
        rw [hrest] at hhead
        exact .inr (by simpa using hhead)
  · by_contra hnone
    simp only [not_or, not_not] at hnone
    have hsplit := List.takeWhile_append_dropWhile (p := isSpace) (l := cstr token)
    have hcstr := List.takeWhile_append_dropWhile (p := (· ≠ '\x00')) (l := token.toList)
    rw [hnone.1, List.nil_append] at hsplit
    rw [hnone.2, List.append_nil] at hcstr
    exact hne (hsplit.trans hcstr)

end Token

/-- **Tokens are accepted exactly** when they are not loose. -/
theorem token_exact_iff (token : String) : TokenExact token ↔ ¬ Loose token := by
  constructor
  · intro hexact hloose
    obtain ⟨v, hv, hmax, hne⟩ := hloose.stripped
    have hparse := parsePageToken_of_signed hv
    rw [if_pos hmax] at hparse
    have hother : ∀ w, Signed token.toList w → intMax < w := by
      intro w hw
      exact absurd (stripped_of_signed hw) hne
    obtain ⟨message, hrefused⟩ := hexact.other (toList_ne_nil_of_signed hv) hother
    rw [hrefused] at hparse
    cases hparse
  · intro hloose
    refine ⟨?_, ?_, ?_⟩
    · rintro rfl
      exact parsePageToken_empty
    · intro v hv hmax
      have hself := stripped_of_signed hv
      rw [parsePageToken_of_signed (hself ▸ hv), if_pos hmax]
    · intro hne hother
      by_cases hleft : ∃ v, Signed (stripped token) v
      · obtain ⟨v, hv⟩ := hleft
        have hbig : ¬ v ≤ intMax := by
          intro hmax
          by_cases hself : stripped token = token.toList
          · have := hother v (hself ▸ hv)
            omega
          · exact hloose (loose_of_signed hv hmax hself)
        rw [parsePageToken_of_signed hv, if_neg hbig]
        exact ⟨_, rfl⟩
      · exact parsePageToken_of_not_signed hne fun v hv => hleft ⟨v, hv⟩

/-- A space before the number is skipped, and what follows a NUL is not seen. -/
theorem loose_tokens_accepted :
    parsePageToken " 5" = .ok 5 ∧ ¬ TokenExact " 5" ∧
      parsePageToken "5\x00abc" = .ok 5 ∧ ¬ TokenExact "5\x00abc" := by
  have hrefused : ∀ token : String, token ≠ "" → (∀ v, ¬ Signed token.toList v) →
      parsePageToken token = .ok 5 → ¬ TokenExact token := by
    intro token hne hsigned hparse hexact
    obtain ⟨message, h⟩ := hexact.other hne fun v hv => absurd hv (hsigned v)
    rw [h] at hparse
    cases hparse
  have hspace : parsePageToken " 5" = .ok 5 := by decide
  have hnul : parsePageToken "5\x00abc" = .ok 5 := by decide
  refine ⟨hspace, hrefused _ (by decide) ?_ hspace, hnul, hrefused _ (by decide) ?_ hnul⟩
  · intro v hv
    exact hv.notMem (c := ' ') rfl (by decide) (by decide) (by decide)
  · intro v hv
    exact hv.notMem (c := 'a') rfl (by decide) (by decide) (by decide)

end EvGrpc
