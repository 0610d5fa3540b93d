import Mathlib.Algebra.Group.Nat.Defs
import Mathlib.Data.Int.Order.Basic
import Mathlib.Data.List.Basic
import Mathlib.Data.List.TakeWhile
import Mathlib.Tactic.Common

/-!
# Decimal text

The C library's way of reading and printing integers: `strtol` in base ten, with
its white space, its sign, its end pointer and its saturation, `stoi` on top of
it, and the zero-padded conversions of `printf`.  A C string is a list of
characters without a NUL; `cstr` is the string `c_str()` shows to such a function.

The results say that reading undoes printing: `strtol_digits` for a number
followed by a character that is not a digit, `strtol_toText` for a whole text.
-/

namespace EvGrpc.Lib

/-- `isspace` in the C locale. -/
def isSpace (c : Char) : Bool :=
  c == ' ' || c == '\t' || c == '\n' || c == '\x0b' || c == '\x0c' || c == '\r'

/-- What a C function sees of a string: everything before the first NUL. -/
def cstr (s : String) : List Char := s.toList.takeWhile (· ≠ '\x00')

/-- `LONG_MAX` and `LONG_MIN` of a 64-bit `long`. -/
def longMax : ℤ := 9223372036854775807
def longMin : ℤ := -9223372036854775808

/-- The outcome of a successful `strtol`: the value, whether `errno` is `ERANGE`,
and the text from the end pointer on. -/
structure Strtol where
  value : ℤ
  erange : Bool
  rest : List Char
  deriving DecidableEq, Repr

/-- An optional sign and what follows it. -/
def splitSign : List Char → Bool × List Char
  | [] => (false, [])
  | c :: cs => if c = '-' then (true, cs) else if c = '+' then (false, cs) else (false, c :: cs)

/-- Bring a value into the range of `long`. -/
def saturate (v : ℤ) : ℤ := max longMin (min longMax v)

/-- `strtol(s, &end, 10)`; `none` when there are no digits, so that `end == s`. -/
def strtol (s : List Char) : Option Strtol :=
  let (neg, cs) := splitSign (s.dropWhile isSpace)
  let ds := cs.takeWhile Char.isDigit
  if ds = [] then none
  else
    let v : ℤ := if neg then -(Nat.ofDigitChars 10 ds 0 : ℤ) else Nat.ofDigitChars 10 ds 0
    some ⟨saturate v, decide (saturate v ≠ v), cs.dropWhile Char.isDigit⟩

/-- `std::stoi`; `none` when it throws. -/
def stoi (s : List Char) : Option ℤ :=
  match strtol s with
  | none => none
  | some r => if r.erange ∨ r.value < -2147483648 ∨ 2147483647 < r.value then none else some r.value

theorem isSpace_of_isDigit {c : Char} (h : c.isDigit = true) : isSpace c = false := by
  by_contra hs
  simp only [Bool.not_eq_false] at hs
  have : c = ' ' ∨ c = '\t' ∨ c = '\n' ∨ c = '\x0b' ∨ c = '\x0c' ∨ c = '\r' := by
    simpa [isSpace, or_assoc] using hs
  rcases this with rfl | rfl | rfl | rfl | rfl | rfl <;> revert h <;> decide

theorem splitSign_of_isDigit {c : Char} (cs : List Char) (h : c.isDigit = true) :
    splitSign (c :: cs) = (false, c :: cs) := by
  have hminus : c ≠ '-' := by rintro rfl; revert h; decide
  have hplus : c ≠ '+' := by rintro rfl; revert h; decide
  simp [splitSign, hminus, hplus]

theorem saturate_eq {v : ℤ} (h₁ : longMin ≤ v) (h₂ : v ≤ longMax) : saturate v = v := by
  unfold saturate
  omega

/-- A block of digits is read up to the first character that is not a digit. -/
theorem strtol_digits {ds rest : List Char} (hds : ds ≠ []) (hd : ∀ c ∈ ds, c.isDigit = true)
    (hrest : ∀ c ∈ rest.head?, c.isDigit = false) (hmax : (Nat.ofDigitChars 10 ds 0 : ℤ) ≤ longMax) :
    strtol (ds ++ rest) = some ⟨Nat.ofDigitChars 10 ds 0, false, rest⟩ := by
  obtain ⟨c, ds', rfl⟩ := List.exists_cons_of_ne_nil hds
  have hc := hd c (by simp)
  have htake : (c :: ds' ++ rest).takeWhile Char.isDigit = c :: ds' := by
    rw [List.takeWhile_append_of_pos hd]
    cases rest with
    | nil => simp
    | cons r rs => simp [hrest r (by simp)]
  have hdrop : (c :: ds' ++ rest).dropWhile Char.isDigit = rest := by
    rw [List.dropWhile_append_of_pos hd]
    cases rest with
    | nil => simp
    | cons r rs => simp [hrest r (by simp)]
  have hsat : saturate (Nat.ofDigitChars 10 (c :: ds') 0 : ℤ) = Nat.ofDigitChars 10 (c :: ds') 0 :=
    saturate_eq (by unfold longMin; omega) hmax
  unfold strtol
  rw [List.cons_append, List.dropWhile_cons_of_neg (by simp [isSpace_of_isDigit hc]),
    splitSign_of_isDigit _ hc, ← List.cons_append]
  simp only [htake, hdrop, Bool.false_eq_true, if_false, hsat]
  simp

/-! ## Printing -/

/-- `std::to_string` on an integer. -/
def toText (n : ℤ) : String := toString n

theorem toList_toText_ofNat (n : ℕ) : (toText (n : ℤ)).toList = Nat.toDigits 10 n := by
  change (Nat.repr n).toList = _
  exact Nat.toList_repr

/-- `strtol` undoes `to_string`. -/
theorem strtol_toText (n : ℕ) (h : (n : ℤ) ≤ longMax) :
    strtol (toText (n : ℤ)).toList = some ⟨n, false, []⟩ := by
  rw [toList_toText_ofNat]
  have hdig : strtol (Nat.toDigits 10 n ++ []) = _ := strtol_digits Nat.toDigits_ne_nil
    (fun c hc => Nat.isDigit_of_mem_toDigits (by omega) (by omega) hc) (by simp)
    (by rw [Nat.ofDigitChars_ten_toDigits]; exact h)
  rw [List.append_nil, Nat.ofDigitChars_ten_toDigits] at hdig
  exact hdig

theorem toText_ofNat_ne_empty (n : ℕ) : toText (n : ℤ) ≠ "" := by
  intro h
  have := toList_toText_ofNat n
  rw [h] at this
  exact Nat.toDigits_ne_nil this.symm

/-- A C function sees the whole of a string without NUL, and of no other. -/
theorem cstr_eq_toList_iff {s : String} : cstr s = s.toList ↔ '\x00' ∉ s.toList := by
  unfold cstr
  rw [List.takeWhile_eq_self_iff]
  constructor
  · intro h hnul
    simpa using h _ hnul
  · intro h c hc
    have : c ≠ '\x00' := by
      rintro rfl
      exact h hc
    simpa using this

/-- Such a function reads on after a string without NUL, and stops in any other. -/
theorem cstr_append_of_notMem {s : String} (h : '\x00' ∉ s.toList) (t : String) :
    cstr (s ++ t) = s.toList ++ cstr t := by
  have hs : ∀ c ∈ s.toList, decide (c ≠ '\x00') = true := by
    intro c hc
    have : c ≠ '\x00' := by
      rintro rfl
      exact h hc
    simpa using this
  rw [cstr, String.toList_append, List.takeWhile_append_of_pos hs]
  rfl

theorem cstr_append_of_mem {s : String} (h : '\x00' ∈ s.toList) (t : String) :
    cstr (s ++ t) = cstr s := by
  obtain ⟨a, b, hab⟩ := List.append_of_mem h
  simp [cstr, hab, List.takeWhile_append]

/-- A printed number has no NUL in it. -/
theorem cstr_toText (n : ℕ) : cstr (toText (n : ℤ)) = (toText (n : ℤ)).toList := by
  rw [cstr_eq_toList_iff, toList_toText_ofNat]
  intro hnul
  have hd : ('\x00').isDigit = true := Nat.isDigit_of_mem_toDigits (by omega) (by omega) hnul
  revert hd
  decide

/-- `%0wd`: at least `w` characters, filled with zeros after the sign. -/
def padded (w : ℕ) (n : ℤ) : List Char :=
  let ds := Nat.toDigits 10 n.natAbs
  if 0 ≤ n then List.replicate (w - ds.length) '0' ++ ds
  else '-' :: (List.replicate (w - 1 - ds.length) '0' ++ ds)

theorem padded_ofNat (w n : ℕ) :
    padded w (n : ℤ) = List.replicate (w - (Nat.toDigits 10 n).length) '0' ++ Nat.toDigits 10 n := by
  simp [padded]

theorem isDigit_of_mem_padded {w n : ℕ} {c : Char} (h : c ∈ padded w (n : ℤ)) :
    c.isDigit = true := by
  rw [padded_ofNat] at h
  rcases List.mem_append.mp h with h | h
  · rw [(List.mem_replicate.mp h).2]; decide
  · exact Nat.isDigit_of_mem_toDigits (by omega) (by omega) h

/-- Leading zeros do not change the value. -/
theorem ofDigitChars_padded (w n : ℕ) : Nat.ofDigitChars 10 (padded w (n : ℤ)) 0 = n := by
  rw [padded_ofNat, Nat.ofDigitChars_append, Nat.ofDigitChars_replicate_zero,
    Nat.mul_zero, Nat.ofDigitChars_ten_toDigits]

theorem length_padded {w n : ℕ} (hw : 0 < w) (h : n < 10 ^ w) : (padded w (n : ℤ)).length = w := by
  have := (Nat.length_toDigits_le_iff (b := 10) (n := n) (k := w) (by omega) hw).mpr h
  rw [padded_ofNat, List.length_append, List.length_replicate]
  omega

theorem length_padded_ge (w n : ℕ) : w ≤ (padded w (n : ℤ)).length := by
  rw [padded_ofNat, List.length_append, List.length_replicate]
  omega

theorem lt_length_padded {w n : ℕ} (hw : 0 < w) (h : 10 ^ w ≤ n) :
    w < (padded w (n : ℤ)).length := by
  have := mt (Nat.length_toDigits_le_iff (b := 10) (n := n) (k := w) (by omega) hw).mp
    (by omega)
  rw [padded_ofNat, List.length_append, List.length_replicate]
  omega

end EvGrpc.Lib
