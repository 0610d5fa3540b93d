import EvGrpc.Db.Types
import EvGrpc.Lib.Digits

/-!
# Timestamps as text

`timestampOut` is what a `TIMESTAMPTZ::text` expression gives in a session whose
time zone is UTC, and `parseTimestamp` is `util/timestamp_parse.cc`, which reads it
back.  `getTime` is `std::get_time` on the one format the parser uses: the end of the text
after a field ends the reading too, without a failure.  `timegm` is the C library function of
that name: it does not check that the day exists in the month.

`parseTimestamp_timestampOut` says that reading undoes printing, up to the fraction of
the second, for as long as the year has four digits.
-/

namespace EvGrpc

open Lib

/-! ## Rendering -/

/-- The fraction of a second, without trailing zeros; nothing for a whole second. -/
def fractionText (micros : ℕ) : List Char :=
  if micros = 0 then []
  else '.' :: ((padded 6 micros).reverse.dropWhile (· == '0')).reverse

/-- `TIMESTAMPTZ::text` in UTC. -/
def timestampOut (t : Instant) : String :=
  let d := dateOf t
  let micros := (t % microsPerDay).toNat
  let secs := micros / 1000000
  let clock := padded 2 (secs / 3600 : ℕ) ++ ':' :: padded 2 (secs / 60 % 60 : ℕ) ++
    ':' :: padded 2 (secs % 60 : ℕ) ++ fractionText (micros % 1000000) ++ ['+', '0', '0']
  let year := if 1 ≤ d.year then d.year else 1 - d.year
  String.ofList (padded 4 year ++ '-' :: padded 2 d.month ++ '-' :: padded 2 d.day ++
    ' ' :: clock ++ if 1 ≤ d.year then [] else [' ', 'B', 'C'])

/-! ## Reading -/

/-- The fields of `std::tm` that `%Y-%m-%d %H:%M:%S` fills. -/
structure Tm where
  year : ℕ
  month : ℕ
  day : ℕ
  hour : ℕ
  min : ℕ
  sec : ℕ
  deriving DecidableEq

/-- `timegm`: seconds since the epoch, with overlong months and minutes carried on. -/
def timegm (t : Tm) : ℤ :=
  (daysBeforeYear t.year + ((monthLengths (isLeap t.year)).take (t.month - 1)).sum +
      (t.day - 1 : ℤ) - epochDay) * 86400 + t.hour * 3600 + t.min * 60 + t.sec

/-- Read a field of at most `width` digits and check its range. -/
def getNum (width lo hi : ℕ) (cs : List Char) : Option (ℕ × List Char) :=
  let ds := (cs.take width).takeWhile Char.isDigit
  let v := Nat.ofDigitChars 10 ds 0
  if ds ≠ [] ∧ lo ≤ v ∧ v ≤ hi then some (v, cs.drop ds.length) else none

/-- The conversions `%Y`, `%m`, `%d`, `%H`, `%M` and `%S`. -/
inductive Field
  | year
  | month
  | day
  | hour
  | min
  | sec
  deriving DecidableEq

namespace Field

/-- How many digits are read. -/
def width : Field → ℕ
  | year => 4
  | _ => 2

/-- The least value. -/
def lo : Field → ℕ
  | month => 1
  | day => 1
  | _ => 0

/-- The largest value. -/
def hi : Field → ℕ
  | year => 9999
  | month => 12
  | day => 31
  | hour => 23
  | min => 59
  | sec => 60

/-- `%d` passes over one white-space character. -/
def skip : Field → List Char → List Char
  | day, c :: cs => if isSpace c then cs else c :: cs
  | _, cs => cs

end Field

namespace Tm

/-- `std::tm tm{}`: no day of January 1900. -/
def zero : Tm := ⟨1900, 1, 0, 0, 0, 0⟩

/-- What a conversion stores. -/
def set (t : Tm) (v : ℕ) : Field → Tm
  | .year => { t with year := v }
  | .month => { t with month := v }
  | .day => { t with day := v }
  | .hour => { t with hour := v }
  | .min => { t with min := v }
  | .sec => { t with sec := v }

end Tm

/-- A part of a format string. -/
inductive Directive
  | field (f : Field)
  | lit (c : Char)
  | space

/-- `"%Y-%m-%d %H:%M:%S"` -/
def kFormat : List Directive :=
  [.field .year, .lit '-', .field .month, .lit '-', .field .day, .space, .field .hour, .lit ':',
    .field .min, .lit ':', .field .sec]

/-- The loop of `std::time_get::get`, and the text it leaves unread.  The end of the text is a
failure where a directive is due, but a field that reaches it ends the loop. -/
def get : List Directive → List Char → Tm → Option (Tm × List Char)
  | [], cs, t => some (t, cs)
  | d :: fmt, cs, t =>
      if cs = [] then none
      else
        match d with
        | .field f => do
            let (v, rest) ← getNum f.width f.lo f.hi (f.skip cs)
            if rest = [] then some (t.set v f, rest) else get fmt rest (t.set v f)
        | .lit c => if cs.head? = some c then get fmt cs.tail t else none
        | .space => get fmt (cs.dropWhile isSpace) t

/-- `std::get_time(&tm, "%Y-%m-%d %H:%M:%S")`; the stream skips white space first. -/
def getTime (cs : List Char) : Option (Tm × List Char) :=
  get kFormat (cs.dropWhile isSpace) .zero

/-- Length of the `YYYY-MM-DD HH:MM:SS` prefix. -/
def kDateTimeLen : ℕ := 19

/-- Drop fractional seconds but keep a trailing offset. -/
def dropFraction (body : List Char) : List Char :=
  let head := body.takeWhile (· ≠ '.')
  let tail := body.dropWhile (· ≠ '.')
  head ++ tail.dropWhile fun c => ¬ (c = '+' ∨ c = '-' ∨ c = 'Z')

/-- The value of two decimal digits. -/
def twoDigits (a b : Char) : Option ℕ :=
  if a.isDigit ∧ b.isDigit then some ((a.toNat - '0'.toNat) * 10 + (b.toNat - '0'.toNat)) else none

/-- The seconds east of UTC that a suffix stands for. -/
def offsetSec : List Char → Option ℤ
  | ['Z'] => some 0
  | [s, a, b] => do
      let hh ← twoDigits a b
      if ¬ (s = '+' ∨ s = '-') ∨ 14 < hh then none
      else some ((if s = '-' then -1 else 1) * (hh * 3600))
  | [s, a, b, c, d, e] => do
      let hh ← twoDigits a b
      if ¬ (s = '+' ∨ s = '-') ∨ 14 < hh ∨ c ≠ ':' then none
      else
        let mm ← twoDigits d e
        if 59 < mm then none else some ((if s = '-' then -1 else 1) * (hh * 3600 + mm * 60))
  | _ => none

/-- `ParseTimestamp`; `none` when it returns false and leaves its output alone. -/
def parseTimestamp (s : String) : Option Timestamp := do
  if s = "" then none
  let body := dropFraction s.toList
  let offset ← if kDateTimeLen < body.length then offsetSec (body.drop kDateTimeLen) else some 0
  let (tm, rest) ← getTime (body.take kDateTimeLen)
  if rest ≠ [] then none
  some ⟨Int64.ofInt (timegm tm - offset), 0⟩

/-! ## Offsets -/

/-- A UTC offset as PostgreSQL prints it. -/
inductive Zone
  | utc
  | hours (west : Bool) (hh : Fin 15)
  | hoursMinutes (west : Bool) (hh : Fin 15) (mm : Fin 60)
  deriving DecidableEq

namespace Zone

/-- `Z`, `±HH` or `±HH:MM` -/
def text : Zone → List Char
  | utc => ['Z']
  | hours west hh => (if west then '-' else '+') :: padded 2 (hh : ℕ)
  | hoursMinutes west hh mm =>
      (if west then '-' else '+') :: padded 2 (hh : ℕ) ++ ':' :: padded 2 (mm : ℕ)

/-- The seconds east of UTC. -/
def offset : Zone → ℤ
  | utc => 0
  | hours west hh => (if west then -1 else 1) * ((hh : ℕ) * 3600)
  | hoursMinutes west hh mm => (if west then -1 else 1) * ((hh : ℕ) * 3600 + (mm : ℕ) * 60)

end Zone

/-- The text of an offset, if there is one. -/
def zoneText (zone : Option Zone) : List Char := zone.elim [] Zone.text

/-- No offset means UTC. -/
def zoneOffset (zone : Option Zone) : ℤ := zone.elim 0 Zone.offset

theorem twoDigits_eq_some_iff {a b : Char} {n : ℕ} :
    twoDigits a b = some n ↔ n < 100 ∧ padded 2 (n : ℤ) = [a, b] := by
  have hvalue : Nat.ofDigitChars 10 [a, b] 0 =
      (a.toNat - '0'.toNat) * 10 + (b.toNat - '0'.toNat) := by
    simp only [Nat.ofDigitChars_cons, Nat.ofDigitChars_nil]
    omega
  unfold twoDigits
  constructor
  · intro h
    split_ifs at h with hd
    cases h
    have hdigits : Digits [a, b] := by simpa [Digits] using hd
    rw [← hvalue]
    exact ⟨ofDigitChars_lt hdigits, padded_ofDigitChars hdigits (by simp)⟩
  · rintro ⟨-, h⟩
    have hdigits : Digits [a, b] := h ▸ Digits.padded 2 n
    have hn : n = (a.toNat - '0'.toNat) * 10 + (b.toNat - '0'.toNat) := by
      rw [← hvalue, ← h, ofDigitChars_padded]
    rw [if_pos ⟨hdigits a (by simp), hdigits b (by simp)⟩, hn]

/-- Two digits of a field that has two. -/
theorem exists_padded_two {n : ℕ} (h : n < 100) : ∃ a b, padded 2 (n : ℤ) = [a, b] ∧
    twoDigits a b = some n := by
  have hlen := length_padded (w := 2) (n := n) (by omega) (by omega)
  obtain ⟨a, b, hab⟩ := List.length_eq_two.mp hlen
  exact ⟨a, b, hab, twoDigits_eq_some_iff.mpr ⟨h, hab⟩⟩

/-- A suffix that was printed is read. -/
theorem offsetSec_text (z : Zone) : offsetSec z.text = some z.offset := by
  cases z with
  | utc => rfl
  | hours west hh =>
      have hlt := hh.isLt
      obtain ⟨a, b, hab, hread⟩ := exists_padded_two (n := (hh : ℕ)) (by omega)
      simp only [Zone.text, hab, offsetSec, Option.bind_eq_bind, hread, Option.bind_some]
      cases west
      · simp [Zone.offset, Nat.le_of_lt_succ hlt]
      · simp [Zone.offset, Nat.le_of_lt_succ hlt]
  | hoursMinutes west hh mm =>
      have hlt := hh.isLt
      have hlt' := mm.isLt
      obtain ⟨a, b, hab, hread⟩ := exists_padded_two (n := (hh : ℕ)) (by omega)
      obtain ⟨d, e, hde, hread'⟩ := exists_padded_two (n := (mm : ℕ)) (by omega)
      simp only [Zone.text, hab, hde, offsetSec, List.cons_append, List.nil_append,
        Option.bind_eq_bind, hread, hread', Option.bind_some]
      cases west
      · simp [Zone.offset, Nat.le_of_lt_succ hlt, Nat.le_of_lt_succ hlt']
      · simp [Zone.offset, Nat.le_of_lt_succ hlt, Nat.le_of_lt_succ hlt']

/-- And no other is. -/
theorem exists_zone {cs : List Char} {o : ℤ} (h : offsetSec cs = some o) :
    ∃ z : Zone, cs = z.text ∧ o = z.offset := by
  unfold offsetSec at h
  split at h
  · cases h
    exact ⟨.utc, rfl, rfl⟩
  · rename_i s a b
    obtain ⟨hh, hread, h⟩ := Option.bind_eq_some_iff.mp h
    by_cases hs : ¬ (s = '+' ∨ s = '-') ∨ 14 < hh
    · rw [if_pos hs] at h
      cases h
    · rw [if_neg hs] at h
      cases h
      obtain ⟨hsign, hle⟩ := not_or.mp hs
      refine ⟨.hours (decide (s = '-')) ⟨hh, by omega⟩, ?_, ?_⟩
      · rw [Zone.text, (twoDigits_eq_some_iff.mp hread).2]
        rcases not_not.mp hsign with rfl | rfl <;> rfl
      · rcases not_not.mp hsign with rfl | rfl <;> rfl
  · rename_i s a b c d e
    obtain ⟨hh, hread, h⟩ := Option.bind_eq_some_iff.mp h
    by_cases hs : ¬ (s = '+' ∨ s = '-') ∨ 14 < hh ∨ c ≠ ':'
    · rw [if_pos hs] at h
      cases h
    · rw [if_neg hs] at h
      obtain ⟨mm, hread', h⟩ := Option.bind_eq_some_iff.mp h
      by_cases hmm : 59 < mm
      · rw [if_pos hmm] at h
        cases h
      · rw [if_neg hmm] at h
        cases h
        obtain ⟨hsign, hs⟩ := not_or.mp hs
        obtain ⟨hle, hc⟩ := not_or.mp hs
        refine ⟨.hoursMinutes (decide (s = '-')) ⟨hh, by omega⟩ ⟨mm, by omega⟩, ?_, ?_⟩
        · rw [Zone.text, (twoDigits_eq_some_iff.mp hread).2, (twoDigits_eq_some_iff.mp hread').2,
            not_not.mp hc]
          rcases not_not.mp hsign with rfl | rfl <;> rfl
        · rcases not_not.mp hsign with rfl | rfl <;> rfl
  · cases h

/-- A character that ends the fraction. -/
def startsOffset (c : Char) : Prop := c = '+' ∨ c = '-' ∨ c = 'Z'

instance : DecidablePred startsOffset := fun c => inferInstanceAs (Decidable (c = '+' ∨ c = '-' ∨ c = 'Z'))

theorem startsOffset_text (z : Zone) : ∃ c cs, z.text = c :: cs ∧ startsOffset c := by
  cases z with
  | utc => exact ⟨_, _, rfl, .inr (.inr rfl)⟩
  | hours west hh =>
      refine ⟨_, _, rfl, ?_⟩
      cases west
      · exact .inl rfl
      · exact .inr (.inl rfl)
  | hoursMinutes west hh mm =>
      refine ⟨_, _, rfl, ?_⟩
      cases west
      · exact .inl rfl
      · exact .inr (.inl rfl)

theorem dot_notMem_padded (w n : ℕ) : '.' ∉ padded w (n : ℤ) := by
  intro h
  have := isDigit_of_mem_padded h
  revert this
  decide

theorem dot_notMem_zoneText (zone : Option Zone) : '.' ∉ zoneText zone := by
  cases zone with
  | none => simp [zoneText]
  | some z =>
      cases z with
      | utc => decide
      | hours west hh => cases west <;> simp [zoneText, Zone.text, dot_notMem_padded]
      | hoursMinutes west hh mm => cases west <;> simp [zoneText, Zone.text, dot_notMem_padded]

/-! ## Reading what was printed -/

section Padded
variable {w n : ℕ} (rest : List Char)

theorem padded_ne_nil (hw : 0 < w) : padded w (n : ℤ) ≠ [] := by
  have hlen := length_padded_ge w n
  intro h
  rw [h] at hlen
  simp at hlen
  omega

/-- A zero-padded field is read up to its width. -/
theorem getNum_padded {lo hi : ℕ} (hw : 0 < w) (hn : n < 10 ^ w) :
    getNum w lo hi (padded w (n : ℤ) ++ rest) =
      if lo ≤ n ∧ n ≤ hi then some (n, rest) else none := by
  have htake : (padded w (n : ℤ) ++ rest).take w = padded w (n : ℤ) :=
    List.take_left' (length_padded hw hn)
  have hdigits : (padded w (n : ℤ)).takeWhile Char.isDigit = padded w (n : ℤ) :=
    List.takeWhile_eq_self_iff.mpr fun c hc => isDigit_of_mem_padded hc
  unfold getNum
  simp only [htake, hdigits, ofDigitChars_padded, padded_ne_nil hw, ne_eq, not_false_eq_true,
    true_and, List.drop_left]

/-- A field starts with a digit, not with white space. -/
theorem padded_append_eq_cons (hw : 0 < w) :
    ∃ c cs, padded w (n : ℤ) ++ rest = c :: cs ∧ isSpace c = false := by
  cases hp : padded w (n : ℤ) with
  | nil => exact absurd hp (padded_ne_nil hw)
  | cons c cs =>
      have hc : c.isDigit = true := isDigit_of_mem_padded (w := w) (n := n) (by rw [hp]; simp)
      exact ⟨c, cs ++ rest, rfl, isSpace_of_isDigit hc⟩

theorem dropWhile_padded (hw : 0 < w) :
    (padded w (n : ℤ) ++ rest).dropWhile isSpace = padded w (n : ℤ) ++ rest := by
  obtain ⟨c, cs, hcs, hc⟩ := padded_append_eq_cons (n := n) rest hw
  rw [hcs]
  simp [hc]

end Padded

section Get
variable {fmt : List Directive} {t : Tm}

theorem Field.width_pos (f : Field) : 0 < f.width := by cases f <;> decide

/-- Only `%d` looks at the character, and passes over white space only. -/
theorem Field.skip_cons {f : Field} {c : Char} {cs : List Char} (h : isSpace c = false) :
    f.skip (c :: cs) = c :: cs := by
  cases f <;> simp [skip, h]

theorem get_field {f : Field} {cs : List Char} (h : cs ≠ []) : get (.field f :: fmt) cs t =
    (getNum f.width f.lo f.hi (f.skip cs)).bind fun r =>
      if r.2 = [] then some (t.set r.1 f, r.2) else get fmt r.2 (t.set r.1 f) := by
  rw [get, if_neg h]
  rfl

/-- A field that was printed is read, if its value is one of the field. -/
theorem get_field_padded {f : Field} {w v : ℕ} (hw : f.width = w) (hv : v < 10 ^ w)
    (rest : List Char) : get (.field f :: fmt) (padded w (v : ℤ) ++ rest) t =
      if f.lo ≤ v ∧ v ≤ f.hi then
        if rest = [] then some (t.set v f, []) else get fmt rest (t.set v f)
      else none := by
  subst hw
  obtain ⟨c, cs, hcs, hc⟩ := padded_append_eq_cons (n := v) rest f.width_pos
  have hskip : f.skip (padded f.width (v : ℤ) ++ rest) = padded f.width (v : ℤ) ++ rest := by
    rw [hcs, Field.skip_cons hc]
  rw [get_field (by simp [hcs]), hskip, getNum_padded rest f.width_pos hv]
  by_cases hin : f.lo ≤ v ∧ v ≤ f.hi
  · rw [if_pos hin, if_pos hin, Option.bind_some]
    by_cases hrest : rest = []
    · simp only [hrest, if_true]
    · simp only [hrest, if_false]
  · rw [if_neg hin, if_neg hin, Option.bind_none]

@[simp] theorem get_lit_cons {c : Char} {cs : List Char} :
    get (.lit c :: fmt) (c :: cs) t = get fmt cs t := by
  simp [get]

theorem get_space_padded {w n : ℕ} (hw : 0 < w) (rest : List Char) :
    get (.space :: fmt) (' ' :: (padded w (n : ℤ) ++ rest)) t =
      get fmt (padded w (n : ℤ) ++ rest) t := by
  have hspace : isSpace ' ' = true := rfl
  simp only [get, reduceCtorEq, if_false, List.dropWhile_cons, hspace, if_true,
    dropWhile_padded rest hw]

end Get

/-- The calendar fields of a time, as the format prints them. -/
def Tm.text (t : Tm) : List Char :=
  padded 4 (t.year : ℤ) ++ '-' :: padded 2 (t.month : ℤ) ++ '-' :: padded 2 (t.day : ℤ) ++
    ' ' :: padded 2 (t.hour : ℤ) ++ ':' :: padded 2 (t.min : ℤ) ++ ':' :: padded 2 (t.sec : ℤ)

/-- The fields are such as `get_time` leaves them. -/
structure Tm.Fits (t : Tm) : Prop where
  year : t.year ≤ 9999
  month : 1 ≤ t.month ∧ t.month ≤ 12
  day : t.day ≤ 31
  hour : t.hour ≤ 23
  min : t.min ≤ 59
  sec : t.sec ≤ 60

/-- The fields are in the ranges of the documented grammar. -/
structure Tm.InRange (t : Tm) : Prop where
  year : t.year ≤ 9999
  month : 1 ≤ t.month ∧ t.month ≤ 12
  day : 1 ≤ t.day ∧ t.day ≤ 31
  hour : t.hour ≤ 23
  min : t.min ≤ 59
  sec : t.sec ≤ 59

namespace Tm
variable {t : Tm}

theorem Fits.set {f : Field} {v : ℕ} (h : t.Fits) (hlo : f.lo ≤ v) (hhi : v ≤ f.hi) :
    (t.set v f).Fits := by
  obtain ⟨hyear, hmonth, hday, hhour, hmin, hsec⟩ := h
  cases f with
  | year => exact ⟨hhi, hmonth, hday, hhour, hmin, hsec⟩
  | month => exact ⟨hyear, ⟨hlo, hhi⟩, hday, hhour, hmin, hsec⟩
  | day => exact ⟨hyear, hmonth, hhi, hhour, hmin, hsec⟩
  | hour => exact ⟨hyear, hmonth, hday, hhi, hmin, hsec⟩
  | min => exact ⟨hyear, hmonth, hday, hhour, hhi, hsec⟩
  | sec => exact ⟨hyear, hmonth, hday, hhour, hmin, hhi⟩

theorem InRange.fits (h : t.InRange) : t.Fits :=
  ⟨h.year, h.month, h.day.2, h.hour, h.min, h.sec.trans (by omega)⟩

theorem length_text (h : t.InRange) : t.text.length = kDateTimeLen := by
  have h1 := length_padded (w := 4) (n := t.year) (by omega) (by have := h.year; omega)
  have h2 := length_padded (w := 2) (n := t.month) (by omega) (by have := h.month; omega)
  have h3 := length_padded (w := 2) (n := t.day) (by omega) (by have := h.day; omega)
  have h4 := length_padded (w := 2) (n := t.hour) (by omega) (by have := h.hour; omega)
  have h5 := length_padded (w := 2) (n := t.min) (by omega) (by have := h.min; omega)
  have h6 := length_padded (w := 2) (n := t.sec) (by omega) (by have := h.sec; omega)
  simp only [text, List.length_append, List.length_cons, h1, h2, h3, h4, h5, h6]
  rfl

/-- `get_time` reads the fields back, unless there is no such day, and leaves nothing. -/
theorem getTime_text (h : t.Fits) : getTime t.text = if 1 ≤ t.day then some (t, []) else none := by
  obtain ⟨hyear, hmonth, hday, hhour, hmin, hsec⟩ := h
  have hlast : ∀ u : Tm, get [.field .sec] (padded 2 (t.sec : ℤ)) u = some (u.set t.sec .sec, []) := by
    intro u
    have hfield : get [.field .sec] (padded 2 (t.sec : ℤ) ++ []) u = _ :=
      get_field_padded (w := 2) rfl (by omega) []
    simpa [Field.lo, Field.hi, hsec] using hfield
  simp only [getTime, kFormat, text, List.append_assoc, List.cons_append]
  rw [dropWhile_padded _ (by omega), get_field_padded (w := 4) rfl (by omega)]
  simp only [Field.lo, Field.hi, hyear, Nat.zero_le, and_self, if_true, reduceCtorEq, if_false,
    get_lit_cons]
  rw [get_field_padded (w := 2) rfl (by omega)]
  simp only [Field.lo, Field.hi, hmonth, and_self, if_true, reduceCtorEq, if_false, get_lit_cons]
  rw [get_field_padded (w := 2) rfl (by omega)]
  by_cases hzero : 1 ≤ t.day
  · simp only [Field.lo, Field.hi, hzero, hday, and_self, if_true, reduceCtorEq, if_false]
    rw [get_space_padded (by omega), get_field_padded (w := 2) rfl (by omega)]
    simp only [Field.lo, Field.hi, hhour, Nat.zero_le, and_self, if_true, reduceCtorEq, if_false,
      get_lit_cons]
    rw [get_field_padded (w := 2) rfl (by omega)]
    simp only [Field.lo, Field.hi, hmin, Nat.zero_le, and_self, if_true, reduceCtorEq, if_false,
      get_lit_cons]
    rw [hlast]
    rfl
  · simp only [Field.lo, hzero, false_and, if_false]

theorem dot_notMem_text (t : Tm) : '.' ∉ t.text := by simp [text, dot_notMem_padded]

end Tm

/-- A point and digits, or nothing. -/
def IsFraction (cs : List Char) : Prop := cs = [] ∨ ∃ ds, cs = '.' :: ds ∧ Digits ds

theorem isFraction_fractionText (micros : ℕ) : IsFraction (fractionText micros) := by
  unfold fractionText
  split
  · exact .inl rfl
  · refine .inr ⟨_, rfl, fun c hc => ?_⟩
    have hmem := (List.dropWhile_sublist _).mem (List.mem_reverse.mp hc)
    exact isDigit_of_mem_padded (List.mem_reverse.mp hmem)

theorem isFraction_of_digits {ds : List Char} (h : Digits ds) :
    IsFraction (if ds = [] then [] else '.' :: ds) := by
  by_cases hnone : ds = []
  · rw [if_pos hnone]
    exact .inl rfl
  · rw [if_neg hnone]
    exact .inr ⟨ds, rfl, h⟩

/-- The editing step: everything from the first point on is cut, up to a character that may
start an offset. -/
inductive Cut : List Char → List Char → Prop
  | whole {cs : List Char} (h : '.' ∉ cs) : Cut cs cs
  | dot {head junk tail : List Char} (hhead : '.' ∉ head) (hjunk : ∀ c ∈ junk, ¬ startsOffset c)
      (htail : ∀ c ∈ tail.head?, startsOffset c) : Cut (head ++ '.' :: (junk ++ tail)) (head ++ tail)

theorem dropFraction_of_cut {cs body : List Char} (h : Cut cs body) : dropFraction cs = body := by
  have hkeep : ∀ {cs : List Char}, '.' ∉ cs → ∀ c ∈ cs, decide (c ≠ '.') = true := by
    intro cs hcs c hc
    have : c ≠ '.' := by rintro rfl; exact hcs hc
    simpa using this
  unfold dropFraction
  cases h with
  | whole h =>
      simp only [List.takeWhile_eq_self_iff.mpr (hkeep h), List.dropWhile_eq_nil_iff.mpr (hkeep h),
        List.dropWhile_nil, List.append_nil]
  | @dot head junk tail hhead hjunk htail =>
      have hskip : ∀ c ∈ '.' :: junk, decide (¬ startsOffset c) = true := by
        intro c hc
        rcases List.mem_cons.mp hc with rfl | hc
        · decide
        · simpa using hjunk c hc
      have hrest : ('.' :: (junk ++ tail)).dropWhile (fun c => decide ¬ startsOffset c) = tail := by
        rw [← List.cons_append, List.dropWhile_append_of_pos hskip]
        cases tail with
        | nil => rfl
        | cons c tail => exact List.dropWhile_cons_of_neg (by simpa using htail c (by simp))
      rw [List.takeWhile_append_of_pos (hkeep hhead), List.dropWhile_append_of_pos (hkeep hhead)]
      simp only [ne_eq, not_true_eq_false, decide_false, Bool.false_eq_true, not_false_eq_true,
        List.takeWhile_cons_of_neg, List.dropWhile_cons_of_neg, List.append_nil]
      exact congrArg (head ++ ·) hrest

/-- The fraction is dropped and the offset stays. -/
theorem dropFraction_text {head fraction : List Char} (h : '.' ∉ head) (hf : IsFraction fraction)
    (zone : Option Zone) :
    dropFraction (head ++ fraction ++ zoneText zone) = head ++ zoneText zone := by
  refine dropFraction_of_cut ?_
  rcases hf with rfl | ⟨ds, rfl, hds⟩
  · rw [List.append_nil]
    refine .whole ?_
    simp [h, dot_notMem_zoneText]
  · rw [List.append_assoc, List.cons_append]
    refine .dot h ?_ ?_
    · intro c hc
      have hd := hds c hc
      rintro (rfl | rfl | rfl) <;> revert hd <;> decide
    · intro c hc
      cases zone with
      | none => cases hc
      | some z =>
          obtain ⟨x, cs, htext, hx⟩ := startsOffset_text z
          rw [zoneText, Option.elim_some, htext] at hc
          cases hc
          exact hx

/-- The steps of `ParseTimestamp` on a text that is not empty. -/
theorem parseTimestamp_eq {s : String} (h : s ≠ "") : parseTimestamp s =
    (if kDateTimeLen < (dropFraction s.toList).length then
      offsetSec ((dropFraction s.toList).drop kDateTimeLen) else some 0).bind fun offset =>
      (getTime ((dropFraction s.toList).take kDateTimeLen)).bind fun r =>
        if r.2 ≠ [] then none else some ⟨Int64.ofInt (timegm r.1 - offset), 0⟩ := by
  unfold parseTimestamp
  by_cases hlong : kDateTimeLen < (dropFraction s.toList).length
  · simp only [h, if_false, hlong, if_true]
    rfl
  · simp only [h, if_false, hlong]
    rfl

/-- A text in PostgreSQL's form is read, whatever its fraction and its offset. -/
theorem parseTimestamp_text {t : Tm} {fraction : List Char} (h : t.InRange)
    (hf : IsFraction fraction) (zone : Option Zone) :
    parseTimestamp (String.ofList (t.text ++ fraction ++ zoneText zone)) =
      some ⟨Int64.ofInt (timegm t - zoneOffset zone), 0⟩ := by
  have hlen := Tm.length_text h
  have hne : String.ofList (t.text ++ fraction ++ zoneText zone) ≠ "" := by
    intro hempty
    have hnil := congrArg (fun s => s.toList.length) hempty
    simp only [String.toList_ofList, List.length_append, hlen] at hnil
    simp [kDateTimeLen] at hnil
  rw [parseTimestamp_eq hne, String.toList_ofList, dropFraction_text (Tm.dot_notMem_text t) hf,
    List.take_left' hlen, List.drop_left' hlen, Tm.getTime_text h.fits, if_pos h.day.1]
  cases zone with
  | none =>
      have hshort : ¬ kDateTimeLen < (t.text ++ zoneText none).length := by simp [zoneText, hlen]
      rw [if_neg hshort]
      rfl
  | some z =>
      have hlong : kDateTimeLen < (t.text ++ zoneText (some z)).length := by
        obtain ⟨c, cs, htext, -⟩ := startsOffset_text z
        rw [List.length_append, hlen, zoneText, Option.elim_some, htext, List.length_cons]
        omega
      rw [if_pos hlong, zoneText, Option.elim_some, offsetSec_text]
      rfl

/-- The fields of the second an instant lies in. -/
def Tm.ofInstant (t : Instant) : Tm :=
  let d := dateOf t
  let secs := (t % microsPerDay).toNat / 1000000
  ⟨d.year.toNat, d.month, d.day, secs / 3600, secs / 60 % 60, secs % 60⟩

section Instants
variable {t : Instant}

theorem inRange_ofInstant (h : (dateOf t).year ≤ 9999) : (Tm.ofInstant t).InRange := by
  have hday := (dateOf t).day_le.trans (daysInMonth_le _ _)
  have hmod : (t % microsPerDay).toNat < 86400000000 := by
    have := Int.emod_lt_of_pos t (show 0 < microsPerDay by decide)
    unfold microsPerDay at this ⊢
    omega
  refine ⟨?_, ⟨(dateOf t).month_pos, (dateOf t).month_le⟩, ⟨(dateOf t).day_pos, hday⟩, ?_, ?_, ?_⟩
  all_goals simp only [Tm.ofInstant]; omega

/-- In the years that have four digits, the text is that of the fields. -/
theorem timestampOut_eq (h : 1 ≤ (dateOf t).year) :
    timestampOut t = String.ofList ((Tm.ofInstant t).text ++
      fractionText ((t % microsPerDay).toNat % 1000000) ++
        zoneText (some (.hours false 0))) := by
  have hyear : ((dateOf t).year.toNat : ℤ) = (dateOf t).year := by omega
  have hzone : zoneText (some (.hours false 0)) = ['+', '0', '0'] := by decide
  simp only [timestampOut, if_pos h, hzone, List.append_nil, Tm.text, Tm.ofInstant, hyear,
    List.append_assoc, List.cons_append]

/-- The fields name the second they were taken from. -/
theorem timegm_ofInstant (h : 1 ≤ (dateOf t).year) : timegm (Tm.ofInstant t) = t / 1000000 := by
  have hyear : ((dateOf t).year.toNat : ℤ) = (dateOf t).year := by omega
  have hday := (dateOf t).day_pos
  have hdays : (dateOf t).toDays = t / microsPerDay + epochDay := Date.toDays_ofDays _
  unfold Date.toDays at hdays
  simp only [timegm, Tm.ofInstant, hyear]
  push_cast [hday] at hdays ⊢
  rw [← add_assoc] at hdays
  rw [hdays]
  unfold microsPerDay
  omega

/-- Reading gives the second the instant lies in. -/
theorem parseTimestamp_timestampOut (h₁ : 1 ≤ (dateOf t).year) (h₂ : (dateOf t).year ≤ 9999) :
    parseTimestamp (timestampOut t) = some ⟨Int64.ofInt (t / 1000000), 0⟩ := by
  rw [timestampOut_eq h₁,
    parseTimestamp_text (inRange_ofInstant h₂) (isFraction_fractionText _), timegm_ofInstant h₁]
  simp [zoneOffset, Zone.offset]

end Instants

end EvGrpc
