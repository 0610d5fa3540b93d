import EvGrpc.Lib.Decimal

/-!
# Digits

A number that is printed into too small a buffer leaves its leading digits there.  The value
of a list of digits is split by division: `ofDigitChars_take` and `ofDigitChars_drop`.
A number that is read with `strtol` up to the end of a text is one with an optional sign:
`strtol_of_signed` and `signed_of_strtol`.

## Main definitions

* `Digits` — a text of decimal digits only.
* `leading` — the number that the first digits of a number make.
* `Signed` — an optional sign and digits, with their value.
-/

namespace EvGrpc.Lib

/-- A text of decimal digits only. -/
def Digits (cs : List Char) : Prop := ∀ c ∈ cs, c.isDigit = true

namespace Digits
variable {cs : List Char}

theorem take (h : Digits cs) (n : ℕ) : Digits (cs.take n) :=
  fun c hc => h c (List.mem_of_mem_take hc)

theorem drop (h : Digits cs) (n : ℕ) : Digits (cs.drop n) :=
  fun c hc => h c (List.mem_of_mem_drop hc)

theorem toDigits (n : ℕ) : Digits (Nat.toDigits 10 n) :=
  fun _ hc => Nat.isDigit_of_mem_toDigits (by omega) (by omega) hc

theorem padded (w n : ℕ) : Digits (padded w (n : ℤ)) := fun _ hc => isDigit_of_mem_padded hc

end Digits

/-- A digit is less than ten. -/
theorem digit_lt {c : Char} (h : c.isDigit = true) : c.toNat - '0'.toNat < 10 := by
  simp only [Char.isDigit, Bool.and_eq_true, decide_eq_true_eq] at h
  have hle : c.toNat ≤ '9'.toNat := h.2
  have hnine : '9'.toNat = 57 := rfl
  have hzero : '0'.toNat = 48 := rfl
  omega

theorem ofDigitChars_lt {ds : List Char} (h : Digits ds) :
    Nat.ofDigitChars 10 ds 0 < 10 ^ ds.length := by
  induction ds with
  | nil => simp
  | cons c ds ih =>
      have hc := digit_lt (h c (by simp))
      have htail := ih fun x hx => h x (by simp [hx])
      rw [Nat.ofDigitChars_cons, Nat.ofDigitChars_eq_ofDigitChars_zero, List.length_cons,
        Nat.pow_succ]
      have hmul : 10 ^ ds.length * (10 * 0 + (c.toNat - '0'.toNat)) ≤ 10 ^ ds.length * 9 :=
        Nat.mul_le_mul_left _ (by omega)
      omega

section Split
variable {ds : List Char} (h : Digits ds) (k : ℕ)
include h

theorem ofDigitChars_split : Nat.ofDigitChars 10 ds 0 =
    10 ^ (ds.length - k) * Nat.ofDigitChars 10 (ds.take k) 0 +
      Nat.ofDigitChars 10 (ds.drop k) 0 ∧
    Nat.ofDigitChars 10 (ds.drop k) 0 < 10 ^ (ds.length - k) := by
  have hlt := ofDigitChars_lt (h.drop k)
  rw [List.length_drop] at hlt
  refine ⟨?_, hlt⟩
  conv_lhs => rw [← List.take_append_drop k ds]
  rw [Nat.ofDigitChars_append, Nat.ofDigitChars_eq_ofDigitChars_zero, List.length_drop]

/-- The digits up to a place are the quotient by the power of that place. -/
theorem ofDigitChars_take : Nat.ofDigitChars 10 (ds.take k) 0 =
    Nat.ofDigitChars 10 ds 0 / 10 ^ (ds.length - k) := by
  obtain ⟨hsplit, hlt⟩ := ofDigitChars_split h k
  rw [hsplit, Nat.mul_add_div (Nat.pow_pos (by omega)), Nat.div_eq_of_lt hlt, Nat.add_zero]

/-- And those from there on are the remainder. -/
theorem ofDigitChars_drop : Nat.ofDigitChars 10 (ds.drop k) 0 =
    Nat.ofDigitChars 10 ds 0 % 10 ^ (ds.length - k) := by
  obtain ⟨hsplit, hlt⟩ := ofDigitChars_split h k
  rw [hsplit, Nat.mul_add_mod, Nat.mod_eq_of_lt hlt]

end Split

theorem digit_inj {a b : Char} (ha : a.isDigit = true) (hb : b.isDigit = true)
    (h : a.toNat - '0'.toNat = b.toNat - '0'.toNat) : a = b := by
  simp only [Char.isDigit, Bool.and_eq_true, decide_eq_true_eq] at ha hb
  have ha' : '0'.toNat ≤ a.toNat := ha.1
  have hb' : '0'.toNat ≤ b.toNat := hb.1
  exact Char.toNat_inj.mp (by omega)

/-- Digits are determined by their number and their value. -/
theorem Digits.eq_of_value {as bs : List Char} (ha : Digits as) (hb : Digits bs)
    (hlen : as.length = bs.length) (h : Nat.ofDigitChars 10 as 0 = Nat.ofDigitChars 10 bs 0) :
    as = bs := by
  induction as generalizing bs with
  | nil =>
      cases bs with
      | nil => rfl
      | cons b bs => simp at hlen
  | cons a as ih =>
      cases bs with
      | nil => simp at hlen
      | cons b bs =>
          simp only [List.length_cons, Nat.add_right_cancel_iff] at hlen
          have has : Digits as := fun c hc => ha c (by simp [hc])
          have hbs : Digits bs := fun c hc => hb c (by simp [hc])
          have hlt := ofDigitChars_lt has
          have hlt' := ofDigitChars_lt hbs
          rw [Nat.ofDigitChars_cons, Nat.ofDigitChars_cons, Nat.ofDigitChars_eq_ofDigitChars_zero,
            Nat.ofDigitChars_eq_ofDigitChars_zero (l := bs), hlen, Nat.mul_zero, Nat.zero_add,
            Nat.zero_add] at h
          rw [hlen] at hlt
          have hhead : a.toNat - '0'.toNat = b.toNat - '0'.toNat := by
            have hpow : 0 < 10 ^ bs.length := Nat.pow_pos (by omega)
            have hdiv := congrArg (· / 10 ^ bs.length) h
            simpa only [Nat.mul_add_div hpow, Nat.div_eq_of_lt hlt, Nat.div_eq_of_lt hlt',
              Nat.add_zero] using hdiv
          rw [digit_inj (ha a (by simp)) (hb b (by simp)) hhead]
          rw [hhead] at h
          rw [ih has hbs hlen (by omega)]

/-- A field of a fixed width is printed from its value. -/
theorem padded_ofDigitChars {ds : List Char} (h : Digits ds) (hne : ds ≠ []) :
    padded ds.length (Nat.ofDigitChars 10 ds 0 : ℤ) = ds := by
  have hpos : 0 < ds.length := List.length_pos_of_ne_nil hne
  refine (Digits.padded _ _).eq_of_value h ?_ (ofDigitChars_padded _ _)
  exact length_padded hpos (ofDigitChars_lt h)
/-! ## Leading digits -/

/-- The number that the first `k` digits of `n` make. -/
def leading (k n : ℕ) : ℕ := Nat.ofDigitChars 10 ((Nat.toDigits 10 n).take k) 0

section Leading
variable {k n : ℕ}

theorem leading_lt (k n : ℕ) : leading k n < 10 ^ k := by
  have hlt := ofDigitChars_lt ((Digits.toDigits n).take k)
  have hle : ((Nat.toDigits 10 n).take k).length ≤ k := List.length_take_le _ _
  exact lt_of_lt_of_le hlt (Nat.pow_le_pow_right (by omega) hle)

/-- A number without more digits leads itself. -/
theorem leading_eq_self (hk : 0 < k) (h : n < 10 ^ k) : leading k n = n := by
  have hlen := (Nat.length_toDigits_le_iff (b := 10) (by omega) hk).mpr h
  rw [leading, List.take_of_length_le hlen, Nat.ofDigitChars_ten_toDigits]

theorem leading_pos (hk : 0 < k) (h : 0 < n) : 0 < leading k n := by
  by_cases hn : n < 10 ^ k
  · rwa [leading_eq_self hk hn]
  · -- The last digit that is cut off is not the first one.
    have hlong := mt (Nat.length_toDigits_le_iff (b := 10) (n := n) (by omega) hk).mp hn
    have hsplit := ofDigitChars_take (Digits.toDigits n) k
    rw [Nat.ofDigitChars_ten_toDigits] at hsplit
    have hpow : ¬ n < 10 ^ ((Nat.toDigits 10 n).length - 1) := by
      intro hlt
      have := (Nat.length_toDigits_le_iff (b := 10) (n := n)
        (k := (Nat.toDigits 10 n).length - 1) (by omega) (by omega)).mpr hlt
      omega
    have hle : 10 ^ ((Nat.toDigits 10 n).length - k) ≤ 10 ^ ((Nat.toDigits 10 n).length - 1) :=
      Nat.pow_le_pow_right (by omega) (by omega)
    rw [leading, hsplit]
    exact Nat.div_pos (by omega) (Nat.pow_pos (by omega))

/-- A printed number that fills its width has no zeros before it. -/
theorem padded_eq_toDigits {w : ℕ} (h : w ≤ (Nat.toDigits 10 n).length) :
    padded w (n : ℤ) = Nat.toDigits 10 n := by
  rw [padded_ofNat, Nat.sub_eq_zero_of_le h]
  rfl

theorem length_padded_le_iff {w : ℕ} (hw : w ≤ k) (hk : 0 < k) :
    (padded w (n : ℤ)).length ≤ k ↔ n < 10 ^ k := by
  rw [← Nat.length_toDigits_le_iff (b := 10) (n := n) (by omega) hk, padded_ofNat,
    List.length_append, List.length_replicate]
  omega

/-- The first digits of a printed number, when the number is not narrower than its field. -/
theorem ofDigitChars_take_padded {w : ℕ} (h : w ≤ (Nat.toDigits 10 n).length) :
    Nat.ofDigitChars 10 ((padded w (n : ℤ)).take k) 0 = leading k n := by
  rw [padded_eq_toDigits h, leading]

end Leading

/-! ## Signs -/

/-- An optional sign and digits, with their value. -/
inductive Signed : List Char → ℤ → Prop
  | bare {ds : List Char} (hne : ds ≠ []) (h : Digits ds) : Signed ds (Nat.ofDigitChars 10 ds 0)
  | plus {ds : List Char} (hne : ds ≠ []) (h : Digits ds) :
      Signed ('+' :: ds) (Nat.ofDigitChars 10 ds 0)
  | minus {ds : List Char} (hne : ds ≠ []) (h : Digits ds) :
      Signed ('-' :: ds) (-(Nat.ofDigitChars 10 ds 0 : ℤ))

namespace Signed
variable {cs : List Char} {v : ℤ}

theorem ne_nil (h : Signed cs v) : cs ≠ [] := by
  cases h with
  | bare hne _ => exact hne
  | plus _ _ => simp
  | minus _ _ => simp

/-- A character that is no digit and no sign does not occur. -/
theorem notMem (h : Signed cs v) {c : Char} (hc : c.isDigit = false) (hplus : c ≠ '+')
    (hminus : c ≠ '-') : c ∉ cs := by
  have hdigits : ∀ {ds : List Char}, Digits ds → c ∉ ds := by
    intro ds hds hmem
    rw [hds c hmem] at hc
    cases hc
  cases h with
  | bare _ h => exact hdigits h
  | plus _ h => simp [hplus, hdigits h]
  | minus _ h => simp [hminus, hdigits h]

/-- White space does not come first. -/
theorem dropWhile_isSpace (h : Signed cs v) : cs.dropWhile isSpace = cs := by
  cases h with
  | bare hne h =>
      cases cs with
      | nil => exact absurd rfl hne
      | cons c cs => exact List.dropWhile_cons_of_neg (by simp [isSpace_of_isDigit (h c (by simp))])
  | plus _ _ => exact List.dropWhile_cons_of_neg (by decide)
  | minus _ _ => exact List.dropWhile_cons_of_neg (by decide)

end Signed

/-- `strtol` reads a number up to the end of the text, and saturates. -/
theorem strtol_of_signed {s : List Char} {v : ℤ} (h : Signed (s.dropWhile isSpace) v) :
    strtol s = some ⟨saturate v, decide (saturate v ≠ v), []⟩ := by
  have hdigits : ∀ {ds : List Char}, Digits ds →
      ds.takeWhile Char.isDigit = ds ∧ ds.dropWhile Char.isDigit = [] := by
    intro ds hds
    exact ⟨List.takeWhile_eq_self_iff.mpr hds, List.dropWhile_eq_nil_iff.mpr hds⟩
  unfold strtol
  generalize s.dropWhile isSpace = cs at h
  cases h with
  | bare hne h =>
      have hsign : splitSign cs = (false, cs) := by
        cases cs with
        | nil => exact absurd rfl hne
        | cons c cs => exact splitSign_of_isDigit cs (h c (by simp))
      simp [hsign, hdigits h, hne]
  | plus hne h => simp [splitSign, hdigits h, hne]
  | minus hne h => simp [splitSign, hdigits h, hne]

/-- And nothing else. -/
theorem signed_of_strtol {s : List Char} {r : Strtol} (h : strtol s = some r) (hr : r.rest = []) :
    ∃ v, Signed (s.dropWhile isSpace) v := by
  have hread : (splitSign (s.dropWhile isSpace)).2 ≠ [] ∧
      Digits (splitSign (s.dropWhile isSpace)).2 := by
    unfold strtol at h
    generalize splitSign (s.dropWhile isSpace) = x at h
    simp only at h
    by_cases hne : x.2.takeWhile Char.isDigit = []
    · simp [hne] at h
    · rw [if_neg hne] at h
      cases h
      refine ⟨?_, List.dropWhile_eq_nil_iff.mp hr⟩
      intro hnil
      simp [hnil] at hne
  obtain ⟨hne, hdigits⟩ := hread
  generalize s.dropWhile isSpace = cs at hne hdigits
  cases cs with
  | nil => exact absurd rfl hne
  | cons c cs =>
      simp only [splitSign] at hne hdigits
      split_ifs at hne hdigits with hminus hplus
      · subst hminus
        exact ⟨_, .minus hne hdigits⟩
      · subst hplus
        exact ⟨_, .plus hne hdigits⟩
      · exact ⟨_, .bare hne hdigits⟩

end EvGrpc.Lib
