import EvGrpc.Lib.Digits
import EvGrpc.Services.Vehicle
import Mathlib.Tactic.IntervalCases

/-!
# The ten characters of a purchase date

`DateToString` prints three numbers of any size and sign into a buffer with room for ten
characters, and nothing looks at the numbers before the text is cast to a `DATE`.  A negative
number puts a second hyphen before its digits, which `date_in` skips; a wide one pushes the
end of the text out of the buffer.  `dateIn_dateToString_iff` lists the dates whose text is
accepted all the same.
-/

namespace EvGrpc

open Lib

/-! ## Fields of a text -/

/-- The digits of a field as a number. -/
abbrev fieldValue (ds : List Char) : ℕ := Nat.ofDigitChars 10 ds 0

/-- What runs of hyphens leave of a text. -/
def dateFields (cs : List Char) : List (List Char) := (cs.splitOnP (· == '-')).filter (· ≠ [])

section Fields
variable {ds : List Char} (h : Digits ds)
include h

theorem ne_hyphen_of_digits : ∀ c ∈ ds, (c == '-') = false := by
  intro c hc
  have hd := h c hc
  have : c ≠ '-' := by
    rintro rfl
    revert hd
    decide
  simpa using this

theorem dateFields_digits : dateFields ds = [ds].filter (· ≠ []) := by
  rw [dateFields, List.splitOnP_eq_singleton (ne_hyphen_of_digits h)]

end Fields

theorem dateFields_hyphen (cs : List Char) : dateFields ('-' :: cs) = dateFields cs := by
  simp [dateFields, List.splitOnP_cons_eq_if_modifyHead]

theorem dateFields_hyphens (n : ℕ) (cs : List Char) :
    dateFields (List.replicate n '-' ++ cs) = dateFields cs := by
  induction n with
  | zero => simp
  | succ n ih => rw [List.replicate_succ, List.cons_append, dateFields_hyphen, ih]

/-- A field ends at a hyphen, or at the end of the text. -/
theorem dateFields_append {ds : List Char} (h : Digits ds) (n k : ℕ) (cs : List Char) :
    dateFields (ds ++ (List.replicate (n + 1) '-' ++ cs).take k) =
      [ds].filter (· ≠ []) ++ dateFields (cs.take (k - (n + 1))) := by
  cases k with
  | zero =>
      have hnil : dateFields [] = [] := rfl
      simp [dateFields_digits h, hnil]
  | succ k =>
      have hcut : (List.replicate (n + 1) '-' ++ cs).take (k + 1) =
          '-' :: (List.replicate (min k n) '-' ++ cs.take (k - n)) := by
        simp [List.replicate_succ, List.take_append, List.take_replicate]
      have hsplit : dateFields (ds ++ '-' :: (List.replicate (min k n) '-' ++ cs.take (k - n))) =
          [ds].filter (· ≠ []) ++
            dateFields (List.replicate (min k n) '-' ++ cs.take (k - n)) := by
        rw [dateFields, List.splitOnP_append_cons_of_forall_mem (ne_hyphen_of_digits h) _ (by simp),
          ← List.singleton_append, List.filter_append]
        rfl
      rw [hcut, hsplit, dateFields_hyphens, Nat.add_sub_add_right]

/-- The fields of a text that is cut after `n` characters. -/
theorem dateFields_take {Y M D : List Char} (hY : Digits Y) (hM : Digits M) (hD : Digits D)
    {n : ℕ} (hn : Y.length ≤ n) (a b : ℕ) :
    dateFields ((Y ++ (List.replicate (a + 1) '-' ++
        (M ++ (List.replicate (b + 1) '-' ++ D)))).take n) =
      [Y, M.take (n - Y.length - (a + 1)),
        D.take (n - Y.length - (a + 1) - M.length - (b + 1))].filter (· ≠ []) := by
  rw [List.take_append, List.take_of_length_le hn, dateFields_append hY, List.take_append,
    dateFields_append (hM.take _), dateFields_digits (hD.take _), ← List.filter_append,
    ← List.filter_append]
  rfl

/-- A text ends in two hyphens exactly when as many follow its last digit. -/
theorem hyphens_isSuffix_iff {ds : List Char} (h : Digits ds) (hne : ds ≠ []) (cs : List Char)
    (j : ℕ) : ['-', '-'] <:+ cs ++ (ds ++ List.replicate j '-') ↔ 2 ≤ j := by
  have hlast : ∃ c rest, ds.reverse = c :: rest ∧ '-' ≠ c := by
    cases hrev : ds.reverse with
    | nil => simp [hne] at hrev
    | cons c rest =>
        have hmem : c ∈ ds := List.mem_reverse.mp (by simp [hrev])
        have hc := ne_hyphen_of_digits h c hmem
        exact ⟨c, rest, rfl, by rintro rfl; simp at hc⟩
  obtain ⟨c, rest, hrev, hc⟩ := hlast
  rw [← List.reverse_prefix]
  simp only [List.reverse_append, List.reverse_replicate, hrev, List.reverse_cons,
    List.reverse_nil, List.nil_append, List.cons_append, List.append_assoc]
  match j with
  | 0 => simp [hc]
  | 1 => simp [hc]
  | j + 2 => simp [List.replicate_succ]

/-! ## What `date_in` makes of the fields -/

/-- The three numbers name a date of the `DATE` type. -/
def IsDate (y : ℤ) (m d : ℕ) : Prop :=
  (1 ≤ y ∧ y ≤ maxYear) ∧ (1 ≤ m ∧ m ≤ 12) ∧ 1 ≤ d ∧ d ≤ daysInMonth y m

theorem isSome_dateOfFields {y m d : ℕ} : (dateOfFields y m d).isSome ↔ IsDate y m d := by
  unfold dateOfFields Date.make IsDate
  by_cases hy : 1 ≤ y ∧ (y : ℤ) ≤ maxYear
  · rw [if_pos hy]
    by_cases hd : (1 ≤ m ∧ m ≤ 12) ∧ 1 ≤ d ∧ d ≤ daysInMonth y m
    · rw [dif_pos hd]
      simp only [Option.isSome_some, true_iff]
      exact ⟨by omega, hd⟩
    · rw [dif_neg hd]
      simp only [Option.isSome_none, Bool.false_eq_true, false_iff]
      exact fun h => hd h.2
  · rw [if_neg hy]
    simp only [Option.isSome_none, Bool.false_eq_true, false_iff]
    intro h
    omega

/-- A text of digits and hyphens that starts with a digit. -/
structure DateText (cs : List Char) : Prop where
  head : cs.head?.any Char.isDigit = true
  all : ∀ c ∈ cs, (c.isDigit || c == '-') = true

namespace DateText
variable {cs : List Char}

theorem cstr_ofList (h : DateText cs) : cstr (String.ofList cs) = cs := by
  rw [cstr_eq_toList_iff.mpr, String.toList_ofList]
  rw [String.toList_ofList]
  intro hnul
  have := h.all _ hnul
  revert this
  decide

theorem dateIn_three (h : DateText cs) {y m d : List Char} (hf : dateFields cs = [y, m, d])
    (hy : 3 ≤ y.length) (hend : ¬ ['-', '-'] <:+ cs) : dateIn (String.ofList cs) =
      if m.length = 3 then none else dateOfFields (fieldValue y) (fieldValue m) (fieldValue d) := by
  have hall : cs.all (fun c => c.isDigit || c == '-') = true := List.all_eq_true.mpr h.all
  have hlen : ¬ y.length < 3 := by omega
  unfold dateFields at hf
  simp only [dateIn, h.cstr_ofList, h.head, hall, Bool.not_true, Bool.or_self, Bool.false_eq_true,
    if_false, hend, hf, hlen, false_or]

theorem isSome_dateIn_two (h : DateText cs) {y n : List Char} (hf : dateFields cs = [y, n])
    (hy : 3 ≤ y.length) : (dateIn (String.ofList cs)).isSome ↔
      ¬ ['-', '-'] <:+ cs ∧ n.length = 3 ∧ (1 ≤ fieldValue n ∧ fieldValue n ≤ 366) ∧
        1 ≤ fieldValue y ∧ (fieldValue y : ℤ) ≤ maxYear := by
  have hall : cs.all (fun c => c.isDigit || c == '-') = true := List.all_eq_true.mpr h.all
  unfold dateFields at hf
  simp only [dateIn, h.cstr_ofList, h.head, hall, Bool.not_true, Bool.or_self, Bool.false_eq_true,
    if_false, hf, hy, true_and]
  by_cases hend : ['-', '-'] <:+ cs
  · simp [hend]
  · simp only [hend, if_false, not_false_eq_true, true_and]
    split
    · rename_i hc
      simp [hc]
    · rename_i hc
      simp only [Option.isSome_none, Bool.false_eq_true, false_iff]
      intro hn
      exact hc ⟨hn.1, hn.2.1.1, hn.2.1.2, hn.2.2⟩

theorem dateIn_one (h : DateText cs) {n : List Char} (hf : dateFields cs = [n])
    (hhyphen : '-' ∈ cs) : dateIn (String.ofList cs) = none := by
  have hall : cs.all (fun c => c.isDigit || c == '-') = true := List.all_eq_true.mpr h.all
  unfold dateFields at hf
  simp only [dateIn, h.cstr_ofList, h.head, hall, Bool.not_true, Bool.or_self, Bool.false_eq_true,
    hf, hhyphen, true_or, if_true, ite_self]

/-- Ten digits without a hyphen are read from their end. -/
theorem isSome_dateIn_digits (h : DateText cs) (hdigits : Digits cs) (hlen : cs.length = 10) :
    (dateIn (String.ofList cs)).isSome ↔
      IsDate (fieldValue cs / 10000 : ℕ) (fieldValue cs % 10000 / 100) (fieldValue cs % 100) := by
  have hall : cs.all (fun c => c.isDigit || c == '-') = true := List.all_eq_true.mpr h.all
  have hhyphen : '-' ∉ cs := by
    intro hmem
    simpa using ne_hyphen_of_digits hdigits _ hmem
  have hne : cs ≠ [] := List.ne_nil_of_length_pos (by omega)
  have hend : ¬ ['-', '-'] <:+ cs := fun hsuffix => hhyphen (hsuffix.subset (by simp))
  have hfields : dateFields cs = [cs] := by
    rw [dateFields_digits hdigits]
    simp [hne]
  have hyear := ofDigitChars_take hdigits 6
  have hrest := ofDigitChars_drop hdigits 6
  have hmonth := ofDigitChars_take (hdigits.drop 6) 2
  have hday := ofDigitChars_drop hdigits 8
  rw [hlen] at hyear hrest hday
  rw [List.length_drop, hlen, hrest] at hmonth
  unfold dateFields at hfields
  rw [← isSome_dateOfFields]
  simp only [dateIn, h.cstr_ofList, h.head, hall, Bool.not_true, Bool.or_self, Bool.false_eq_true,
    if_false, hend, hfields, hhyphen, hlen, false_or, Nat.reduceLT, Nat.reduceSub, hyear, hmonth, hday,
    Nat.reducePow]

end DateText

/-! ## What `DateToString` prints -/

/-- The hyphen of a negative number. -/
def signs (n : ℤ) : ℕ := if n < 0 then 1 else 0

/-- The digits that `%02d` prints. -/
def shown (n : ℤ) : List Char := padded (2 - signs n) (n.natAbs : ℤ)

section Shown
variable {n : ℤ} {k : ℕ}

theorem padded_two (n : ℤ) : padded 2 n = List.replicate (signs n) '-' ++ shown n := by
  rw [shown, padded_ofNat]
  unfold signs padded
  by_cases hn : n < 0
  · simp [hn, not_le.mpr hn]
  · simp [hn, not_lt.mp hn]

theorem signs_le (n : ℤ) : signs n ≤ 1 := by
  unfold signs
  split <;> omega

theorem digits_shown (n : ℤ) : Digits (shown n) := Digits.padded _ _

theorem two_le_length_shown (n : ℤ) : 2 ≤ (shown n).length + signs n := by
  have := length_padded_ge (2 - signs n) n.natAbs
  unfold shown
  omega

theorem length_shown_le_iff (hk : 2 ≤ k + signs n) :
    (shown n).length ≤ k ↔ n.natAbs < 10 ^ k := by
  have := signs_le n
  exact length_padded_le_iff (by omega) (by omega)

theorem fieldValue_shown (n : ℤ) : fieldValue (shown n) = n.natAbs := ofDigitChars_padded _ _

/-- The first digits of a field are those of its number, unless it starts with a zero. -/
theorem fieldValue_take_shown (hk : 1 ≤ k) (h : n < 0 ∨ 10 ≤ n ∨ 2 ≤ k) :
    fieldValue ((shown n).take k) = leading k n.natAbs := by
  by_cases hlen : 2 - signs n ≤ (Nat.toDigits 10 n.natAbs).length
  · exact ofDigitChars_take_padded hlen
  · have hone := (Nat.length_toDigits_le_iff (b := 10) (n := n.natAbs) (k := 1) (by omega)
      (by omega)).mp (by omega)
    have hpos := Nat.length_toDigits_pos (b := 10) (n := n.natAbs)
    have hsign : 0 ≤ n := by
      unfold signs at hlen
      by_contra hneg
      rw [if_pos (by omega)] at hlen
      omega
    have hk2 : 2 ≤ k := by omega
    have hlt : n.natAbs < 10 ^ k := by
      have : 10 ^ 1 ≤ 10 ^ k := Nat.pow_le_pow_right (by omega) hk
      omega
    rw [List.take_of_length_le ((length_shown_le_iff (by omega)).mpr hlt), fieldValue_shown,
      leading_eq_self hk hlt]

/-- And a field that does starts with the value zero. -/
theorem fieldValue_take_one (h₀ : 0 ≤ n) (h : n < 10) : fieldValue ((shown n).take 1) = 0 := by
  have hlen : (shown n).length = 2 := by
    have hsign : signs n = 0 := if_neg (by omega)
    have hle := (length_shown_le_iff (n := n) (k := 2) (by omega)).mpr (by omega)
    have := two_le_length_shown n
    omega
  have hsplit := ofDigitChars_take (digits_shown n) 1
  rw [hlen, show Nat.ofDigitChars 10 (shown n) 0 = n.natAbs from fieldValue_shown n] at hsplit
  rw [fieldValue, hsplit]
  omega

end Shown

/-- With room for `k` characters after the hyphens of the month, `date_in` accepts the fields:
month and a part of the day, or a day of the year with no more than one hyphen after it. -/
def Accepted (k : ℕ) (y m d : ℤ) : Prop :=
  ((shown m).length + signs d + 2 ≤ k ∧ (1 ≤ m.natAbs ∧ m.natAbs ≤ 12) ∧
    1 ≤ fieldValue ((shown d).take (k - (shown m).length - (signs d + 1))) ∧
    fieldValue ((shown d).take (k - (shown m).length - (signs d + 1))) ≤
      daysInMonth y m.natAbs) ∨
  (min k (shown m).length = 3 ∧ k ≤ (shown m).length + 1 ∧
    1 ≤ fieldValue ((shown m).take k) ∧ fieldValue ((shown m).take k) ≤ 366)

section Text
variable {g : GDate} (hy : 0 ≤ g.year.toInt) (hw : (padded 4 g.year.toInt).length ≤ 9)

theorem toList_dateToString (g : GDate) : (dateToString g).toList =
    (padded 4 g.year.toInt ++ (List.replicate (signs g.month.toInt + 1) '-' ++
      (shown g.month.toInt ++ (List.replicate (signs g.day.toInt + 1) '-' ++
        shown g.day.toInt)))).take 10 := by
  rw [dateToString, String.toList_ofList, padded_two g.month.toInt, padded_two g.day.toInt]
  simp only [List.replicate_succ, List.append_assoc, List.cons_append]

include hy in
theorem dateText_dateToString : DateText (dateToString g).toList := by
  obtain ⟨y, hy⟩ := Int.eq_ofNat_of_zero_le hy
  rw [toList_dateToString, hy]
  constructor
  · have hlen := length_padded_ge 4 y
    have hdigits := Digits.padded 4 y
    cases hp : padded 4 (y : ℤ) with
    | nil => rw [hp] at hlen; simp at hlen
    | cons c cs =>
        have hc := hdigits c (by rw [hp]; simp)
        simpa using hc
  · intro c hc
    have hmem := List.mem_of_mem_take hc
    simp only [List.mem_append, List.mem_replicate] at hmem
    rcases hmem with h | h | h | h | h
    · simp [Digits.padded 4 y c h]
    · simp [h.2]
    · simp [digits_shown _ c h]
    · simp [h.2]
    · simp [digits_shown _ c h]

include hy hw in
/-- The fields of the ten characters, when the year leaves room for a hyphen. -/
theorem dateFields_dateToString : dateFields (dateToString g).toList =
    [padded 4 g.year.toInt,
      (shown g.month.toInt).take (9 - (padded 4 g.year.toInt).length - signs g.month.toInt),
      (shown g.day.toInt).take (9 - (padded 4 g.year.toInt).length - signs g.month.toInt -
        (shown g.month.toInt).length - (signs g.day.toInt + 1))].filter (· ≠ []) := by
  obtain ⟨y, hyear⟩ := Int.eq_ofNat_of_zero_le hy
  have hroom : ∀ l s : ℕ, 10 - l - (s + 1) = 9 - l - s := by omega
  rw [hyear] at hw ⊢
  rw [toList_dateToString, hyear, dateFields_take (Digits.padded 4 y) (digits_shown _)
    (digits_shown _) (by omega)]
  simp only [hroom]

include hw in
/-- What the month and the day leave in the buffer, when there is room for any of it. -/
theorem toList_dateToString_room {k : ℕ}
    (hk : 9 - (padded 4 g.year.toInt).length - signs g.month.toInt = k) (hk₀ : k ≠ 0) :
    (dateToString g).toList =
      (padded 4 g.year.toInt ++ List.replicate (signs g.month.toInt + 1) '-') ++
        ((shown g.month.toInt).take k ++ (List.replicate (signs g.day.toInt + 1) '-' ++
          shown g.day.toInt).take (k - (shown g.month.toInt).length)) := by
  have hroom : 10 - (padded 4 g.year.toInt).length - (signs g.month.toInt + 1) = k := by omega
  rw [toList_dateToString, List.take_append, List.take_of_length_le (by omega), List.take_append,
    List.length_replicate, List.take_of_length_le (by simp only [List.length_replicate]; omega),
    hroom, List.take_append, List.append_assoc]

include hy in
theorem four_le_length_year : 4 ≤ (padded 4 g.year.toInt).length := by
  obtain ⟨y, hyear⟩ := Int.eq_ofNat_of_zero_le hy
  rw [hyear]
  exact length_padded_ge 4 y

include hy in
theorem fieldValue_year : (fieldValue (padded 4 g.year.toInt) : ℤ) = g.year.toInt := by
  obtain ⟨y, hyear⟩ := Int.eq_ofNat_of_zero_le hy
  rw [hyear, fieldValue, ofDigitChars_padded]

theorem take_shown_ne_nil {n : ℤ} {k : ℕ} (hk : k ≠ 0) : (shown n).take k ≠ [] := by
  have hlen := two_le_length_shown n
  have hsigns := signs_le n
  intro h
  have := congrArg List.length h
  simp only [List.length_take, List.length_nil] at this
  omega

section Room
variable {k : ℕ} (hk : 9 - (padded 4 g.year.toInt).length - signs g.month.toInt = k)

include hy hw hk in
/-- Nothing of the month is left. -/
theorem dateIn_year_only (hk₀ : k = 0) : dateIn (dateToString g) = none := by
  have hlong := four_le_length_year hy
  have hne : padded 4 g.year.toInt ≠ [] := List.ne_nil_of_length_pos (by omega)
  have hfields := dateFields_dateToString hy hw
  have hhyphen : '-' ∈ (dateToString g).toList := by
    rw [toList_dateToString, List.take_append, List.take_of_length_le (by omega)]
    obtain ⟨j, hj⟩ : ∃ j, 10 - (padded 4 g.year.toInt).length = j + 1 :=
      ⟨9 - (padded 4 g.year.toInt).length, by omega⟩
    simp [hj, List.replicate_succ]
  rw [hk, hk₀] at hfields
  simp only [List.take_zero, Nat.zero_sub, List.filter_cons, hne, ne_eq, not_false_eq_true,
    decide_true, if_true, not_true_eq_false, decide_false, Bool.false_eq_true, if_false,
    List.filter_nil] at hfields
  rw [← String.ofList_toList (s := dateToString g)]
  exact (dateText_dateToString hy).dateIn_one hfields hhyphen

include hy hw hk in
/-- Something of the month is left, and nothing of the day. -/
theorem isSome_dateIn_month_only (hk₀ : k ≠ 0)
    (hcut : k ≤ (shown g.month.toInt).length + signs g.day.toInt + 1) :
    (dateIn (dateToString g)).isSome ↔ k ≤ (shown g.month.toInt).length + 1 ∧
      min k (shown g.month.toInt).length = 3 ∧
      (1 ≤ fieldValue ((shown g.month.toInt).take k) ∧
        fieldValue ((shown g.month.toInt).take k) ≤ 366) ∧
      1 ≤ g.year.toInt ∧ g.year.toInt ≤ maxYear := by
  have hlong := four_le_length_year hy
  have hne : padded 4 g.year.toInt ≠ [] := List.ne_nil_of_length_pos (by omega)
  have hvalue := fieldValue_year hy
  have hfields := dateFields_dateToString hy hw
  have hday : k - (shown g.month.toInt).length - (signs g.day.toInt + 1) = 0 := by omega
  have hsign := signs_le g.day.toInt
  -- what follows the month is hyphens
  have hhyphens : (List.replicate (signs g.day.toInt + 1) '-' ++ shown g.day.toInt).take
      (k - (shown g.month.toInt).length) =
        List.replicate (k - (shown g.month.toInt).length) '-' := by
    rw [List.take_append, List.length_replicate, hday, List.take_zero, List.append_nil,
      List.take_replicate, min_eq_left (by omega)]
  have hend : ¬ ['-', '-'] <:+ (dateToString g).toList ↔
      k ≤ (shown g.month.toInt).length + 1 := by
    rw [toList_dateToString_room hw hk hk₀, hhyphens,
      hyphens_isSuffix_iff ((digits_shown _).take k) (take_shown_ne_nil hk₀)]
    omega
  rw [hk, hday] at hfields
  simp only [List.take_zero, List.filter_cons, hne, take_shown_ne_nil hk₀, ne_eq,
    not_false_eq_true, decide_true, if_true, not_true_eq_false, decide_false, Bool.false_eq_true,
    if_false, List.filter_nil] at hfields
  rw [← String.ofList_toList (s := dateToString g),
    (dateText_dateToString hy).isSome_dateIn_two hfields (by omega), List.length_take, hvalue,
    hend]
  have hpos : 1 ≤ fieldValue (padded 4 g.year.toInt) ↔ 1 ≤ g.year.toInt := by omega
  rw [hpos]

include hw hk in
/-- Something of the day is left, and it ends the text. -/
theorem not_hyphens_of_day (hcut : (shown g.month.toInt).length + signs g.day.toInt + 1 < k) :
    ¬ ['-', '-'] <:+ (dateToString g).toList := by
  have hday : (List.replicate (signs g.day.toInt + 1) '-' ++ shown g.day.toInt).take
      (k - (shown g.month.toInt).length) = List.replicate (signs g.day.toInt + 1) '-' ++
        (shown g.day.toInt).take
          (k - (shown g.month.toInt).length - (signs g.day.toInt + 1)) := by
    rw [List.take_append, List.length_replicate,
      List.take_of_length_le (by simp only [List.length_replicate]; omega)]
  have hday_ne := take_shown_ne_nil (n := g.day.toInt)
    (show k - (shown g.month.toInt).length - (signs g.day.toInt + 1) ≠ 0 by omega)
  have hlast := hyphens_isSuffix_iff ((digits_shown g.day.toInt).take _) hday_ne
    ((padded 4 g.year.toInt ++ List.replicate (signs g.month.toInt + 1) '-') ++
      ((shown g.month.toInt).take k ++ List.replicate (signs g.day.toInt + 1) '-')) 0
  rw [toList_dateToString_room hw hk (by omega), hday]
  simpa only [List.replicate_zero, List.append_nil, List.append_assoc, nonpos_iff_eq_zero,
    OfNat.ofNat_ne_zero, iff_false] using hlast

include hy hw hk in
/-- All of the month is left, and something of the day. -/
theorem isSome_dateIn_month_day
    (hcut : (shown g.month.toInt).length + signs g.day.toInt + 1 < k) :
    (dateIn (dateToString g)).isSome ↔ (shown g.month.toInt).length ≠ 3 ∧
      IsDate g.year.toInt g.month.toInt.natAbs
        (fieldValue ((shown g.day.toInt).take
          (k - (shown g.month.toInt).length - (signs g.day.toInt + 1)))) := by
  have hlong := four_le_length_year hy
  have hne : padded 4 g.year.toInt ≠ [] := List.ne_nil_of_length_pos (by omega)
  have hvalue := fieldValue_year hy
  have hfields := dateFields_dateToString hy hw
  have hmonth : (shown g.month.toInt).take k = shown g.month.toInt :=
    List.take_of_length_le (by omega)
  have hmonth_ne : shown g.month.toInt ≠ [] := by
    rw [← hmonth]
    exact take_shown_ne_nil (by omega)
  have hday_ne := take_shown_ne_nil (n := g.day.toInt)
    (show k - (shown g.month.toInt).length - (signs g.day.toInt + 1) ≠ 0 by omega)
  have hend := not_hyphens_of_day hw hk hcut
  rw [hk, hmonth] at hfields
  simp only [List.filter_cons, hne, hmonth_ne, hday_ne, ne_eq, not_false_eq_true, decide_true,
    if_true, List.filter_nil] at hfields
  rw [← String.ofList_toList (s := dateToString g),
    (dateText_dateToString hy).dateIn_three hfields (by omega) hend, fieldValue_shown]
  by_cases hthree : (shown g.month.toInt).length = 3
  · simp [hthree]
  · rw [if_neg hthree, isSome_dateOfFields, hvalue]
    simp [hthree]

end Room

include hy hw in
theorem isSome_dateIn_narrow : (dateIn (dateToString g)).isSome ↔
    (1 ≤ g.year.toInt ∧ g.year.toInt ≤ maxYear) ∧
      Accepted (9 - (padded 4 g.year.toInt).length - signs g.month.toInt) g.year.toInt
        g.month.toInt g.day.toInt := by
  have hmonth := two_le_length_shown g.month.toInt
  generalize hk : 9 - (padded 4 g.year.toInt).length - signs g.month.toInt = k
  unfold Accepted
  by_cases hk₀ : k = 0
  · rw [dateIn_year_only hy hw hk hk₀]
    simp only [Option.isSome_none, Bool.false_eq_true, false_iff]
    rintro ⟨-, h | h⟩
    · omega
    · omega
  · by_cases hcut : k ≤ (shown g.month.toInt).length + signs g.day.toInt + 1
    · rw [isSome_dateIn_month_only hy hw hk hk₀ hcut]
      constructor
      · rintro ⟨hend, hlen, hvalue, hyear⟩
        exact ⟨hyear, .inr ⟨hlen, hend, hvalue⟩⟩
      · rintro ⟨hyear, h | ⟨hlen, hend, hvalue⟩⟩
        · omega
        · exact ⟨hend, hlen, hvalue, hyear⟩
    · rw [isSome_dateIn_month_day hy hw hk (by omega)]
      -- a month of three digits is no month
      have hwide := length_shown_le_iff (n := g.month.toInt) (k := 2) (by omega)
      constructor
      · rintro ⟨-, hyear, hin, hday⟩
        exact ⟨hyear, .inl ⟨by omega, hin, hday⟩⟩
      · rintro ⟨hyear, ⟨-, hin, hday⟩ | h⟩
        · exact ⟨by omega, hyear, hin, hday⟩
        · omega

end Text

/-! ## The accepted numbers -/

theorem le_daysInMonth (y : ℤ) {m : ℕ} (h : 1 ≤ m ∧ m ≤ 12) : 28 ≤ daysInMonth y m := by
  obtain ⟨h₁, h₂⟩ := h
  unfold daysInMonth
  cases isLeap y <;> interval_cases m <;> decide

section Room
variable {y m d : ℤ}

/-- A single digit is a day of every month, unless it is zero. -/
theorem day_of_one_digit (hm : 1 ≤ m.natAbs ∧ m.natAbs ≤ 12) :
    (1 ≤ fieldValue ((shown d).take 1) ∧
      fieldValue ((shown d).take 1) ≤ daysInMonth y m.natAbs) ↔ d < 0 ∨ 10 ≤ d := by
  have hdays := le_daysInMonth y hm
  by_cases h : d < 0 ∨ 10 ≤ d
  · have hlt := leading_lt 1 d.natAbs
    have hpos := leading_pos (k := 1) (n := d.natAbs) (by omega) (by omega)
    rw [fieldValue_take_shown (by omega) (by omega)]
    simp only [h, iff_true]
    omega
  · rw [fieldValue_take_one (by omega) (by omega)]
    omega

theorem length_shown_cases (m : ℤ) :
    ((shown m).length = 1 ∧ -9 ≤ m ∧ m ≤ -1) ∨
    ((shown m).length = 2 ∧ (0 ≤ m ∧ m ≤ 99 ∨ -99 ≤ m ∧ m ≤ -10)) ∨
    ((shown m).length = 3 ∧ (100 ≤ m.natAbs ∧ m.natAbs ≤ 999)) ∨
    (4 ≤ (shown m).length ∧ 1000 ≤ m.natAbs) := by
  have h₁ := two_le_length_shown m
  have h₂ := length_shown_le_iff (n := m) (k := 2) (by omega)
  have h₃ := length_shown_le_iff (n := m) (k := 3) (by omega)
  by_cases hm : m < 0
  · have hsign : signs m = 1 := if_pos hm
    have h₄ := length_shown_le_iff (n := m) (k := 1) (by omega)
    omega
  · have hsign : signs m = 0 := if_neg hm
    omega

/-- Two digits, or a sign and a digit. -/
theorem day_of_two_characters (hm : 1 ≤ m.natAbs ∧ m.natAbs ≤ 12) :
    (1 ≤ fieldValue ((shown d).take (2 - signs d)) ∧
      fieldValue ((shown d).take (2 - signs d)) ≤ daysInMonth y m.natAbs) ↔
    d < 0 ∨ (0 < d ∧ leading 2 d.natAbs ≤ daysInMonth y m.natAbs) := by
  by_cases hd : d < 0
  · have hsign : signs d = 1 := if_pos hd
    rw [hsign, day_of_one_digit hm]
    omega
  · have hsign : signs d = 0 := if_neg hd
    rw [hsign, Nat.sub_zero, fieldValue_take_shown (by omega) (by omega)]
    by_cases hzero : d = 0
    · have hself : leading 2 d.natAbs = 0 := by rw [hzero]; rfl
      omega
    · have hpos := leading_pos (k := 2) (n := d.natAbs) (by omega) (by omega)
      omega

variable {k : ℕ}

/-- A month of one or two digits is not read as a day of the year. -/
theorem accepted_narrow (h : (shown m).length ≤ 2) : Accepted k y m d ↔
    (shown m).length + signs d + 2 ≤ k ∧ (1 ≤ m.natAbs ∧ m.natAbs ≤ 12) ∧
    1 ≤ fieldValue ((shown d).take (k - (shown m).length - (signs d + 1))) ∧
    fieldValue ((shown d).take (k - (shown m).length - (signs d + 1))) ≤
      daysInMonth y m.natAbs := by
  unfold Accepted
  constructor
  · rintro (h' | h')
    · exact h'
    · omega
  · exact .inl

/-- A wider one is read as nothing else. -/
theorem accepted_wide (h : 3 ≤ (shown m).length) (hk : 1 ≤ k) : Accepted k y m d ↔
    min k (shown m).length = 3 ∧ k ≤ (shown m).length + 1 ∧
      leading k m.natAbs ≤ 366 := by
  have hm := length_shown_cases m
  have hpos := leading_pos (k := k) (n := m.natAbs) (by omega) (by omega)
  have hvalue := fieldValue_take_shown (n := m) hk (by omega)
  unfold Accepted
  rw [hvalue]
  omega

/-- With two characters left, nothing is accepted. -/
theorem not_accepted (hk : k ≤ 2) : ¬ Accepted k y m d := by
  have hm := length_shown_cases m
  rintro (h | h) <;> omega

/-- With three, a digit of each, or three leading digits of the month. -/
theorem accepted_three : Accepted 3 y m d ↔
    (-9 ≤ m ∧ m ≤ -1 ∧ 10 ≤ d) ∨ (100 ≤ m.natAbs ∧ leading 3 m.natAbs ≤ 366) := by
  have hsign := signs_le d
  have hneg : signs d = 0 ↔ 0 ≤ d := by unfold signs; split <;> omega
  rcases length_shown_cases m with ⟨hlen, hm⟩ | ⟨hlen, hm⟩ | ⟨hlen, hm⟩ | ⟨hlen, hm⟩
  · rw [accepted_narrow (by omega), hlen]
    by_cases hd : 0 ≤ d
    · rw [hneg.mpr hd, day_of_one_digit (by omega)]
      omega
    · omega
  · rw [accepted_narrow (by omega), hlen]
    omega
  · rw [accepted_wide (by omega) (by omega)]
    omega
  · rw [accepted_wide (by omega) (by omega)]
    omega

/-- With four, a month of one or two digits and the rest for the day, or a day of the year. -/
theorem accepted_four : Accepted 4 y m d ↔
    (-9 ≤ m ∧ m ≤ -1 ∧ (d < 0 ∨ (0 < d ∧ leading 2 d.natAbs ≤ daysInMonth y m.natAbs))) ∨
    ((1 ≤ m ∧ m ≤ 12 ∨ -12 ≤ m ∧ m ≤ -10) ∧ 10 ≤ d) ∨ (100 ≤ m.natAbs ∧ m.natAbs ≤ 366) := by
  have hsign := signs_le d
  have hneg : signs d = 0 ↔ 0 ≤ d := by unfold signs; split <;> omega
  rcases length_shown_cases m with ⟨hlen, hm⟩ | ⟨hlen, hm⟩ | ⟨hlen, hm⟩ | ⟨hlen, hm⟩
  · have hroom : 4 - 1 - (signs d + 1) = 2 - signs d := by omega
    rw [accepted_narrow (by omega), hlen, hroom, day_of_two_characters (by omega)]
    omega
  · rw [accepted_narrow (by omega), hlen]
    by_cases hin : 1 ≤ m.natAbs ∧ m.natAbs ≤ 12
    · by_cases hd : 0 ≤ d
      · rw [hneg.mpr hd, day_of_one_digit hin]
        omega
      · omega
    · omega
  · have hself := leading_eq_self (k := 4) (n := m.natAbs) (by omega) (by omega)
    rw [accepted_wide (by omega) (by omega), hself]
    omega
  · rw [accepted_wide (by omega) (by omega)]
    omega

/-- With five, which only a month without a sign leaves, no day of the year: the hyphens of the
day would end the text. -/
theorem accepted_five (hm₀ : 0 ≤ m) : Accepted 5 y m d ↔
    1 ≤ m ∧ m ≤ 12 ∧ (d < 0 ∨ (0 < d ∧ leading 2 d.natAbs ≤ daysInMonth y m.natAbs)) := by
  have hsign := signs_le d
  have hneg : signs d = 0 ↔ 0 ≤ d := by unfold signs; split <;> omega
  rcases length_shown_cases m with ⟨hlen, hm⟩ | ⟨hlen, hm⟩ | ⟨hlen, hm⟩ | ⟨hlen, hm⟩
  · omega
  · have hroom : 5 - 2 - (signs d + 1) = 2 - signs d := by omega
    rw [accepted_narrow (by omega), hlen, hroom]
    by_cases hin : 1 ≤ m.natAbs ∧ m.natAbs ≤ 12
    · rw [day_of_two_characters hin]
      omega
    · omega
  · rw [accepted_wide (by omega) (by omega)]
    omega
  · rw [accepted_wide (by omega) (by omega)]
    omega

end Room

/-- The date is a real one, of a year with at most four digits. -/
def IsPlain (y m d : ℤ) : Prop :=
  (1 ≤ y ∧ y ≤ 9999) ∧ (1 ≤ m ∧ m ≤ 12) ∧ 1 ≤ d ∧ d ≤ daysInMonth y m.natAbs

/-- The numbers whose ten characters name a date, although another one than the numbers do, or
one of a year with too many digits. -/
inductive Misread (y m d : ℤ) : Prop
  -- The year has four digits: the rest of a long day is cut off, ...
  | longDay (hy : 1 ≤ y ∧ y ≤ 9999) (hm : 1 ≤ m ∧ m ≤ 12) (hd : 100 ≤ d)
      (h : leading 2 d.natAbs ≤ daysInMonth y m.natAbs)
  -- ... a sign is taken for a hyphen, ...
  | negativeDay (hy : 1 ≤ y ∧ y ≤ 9999) (hm : 1 ≤ m ∧ m ≤ 12) (hd : d < 0)
  | negativeMonth (hy : 1 ≤ y ∧ y ≤ 9999) (hm : -9 ≤ m ∧ m ≤ -1) (hd : 0 < d)
      (h : leading 2 d.natAbs ≤ daysInMonth y m.natAbs)
  | negativeLongMonth (hy : 1 ≤ y ∧ y ≤ 9999) (hm : -12 ≤ m ∧ m ≤ -10) (hd : 10 ≤ d)
  | negativeBoth (hy : 1 ≤ y ∧ y ≤ 9999) (hm : -9 ≤ m ∧ m ≤ -1) (hd : d < 0)
  -- ... or a month of a sign and three digits for the day of the year.
  | negativeDayOfYear (hy : 1 ≤ y ∧ y ≤ 9999) (hm : -366 ≤ m ∧ m ≤ -100)
  -- It has five: one digit of the day is left, or none.
  | longYear (hy : 10000 ≤ y ∧ y ≤ 99999) (hm : 1 ≤ m ∧ m ≤ 12 ∨ -9 ≤ m ∧ m ≤ -1) (hd : 10 ≤ d)
  | longYearDayOfYear (hy : 10000 ≤ y ∧ y ≤ 99999) (hm : 100 ≤ m ∧ m ≤ 366)
  | longYearNegativeDayOfYear (hy : 10000 ≤ y ∧ y ≤ 99999) (hm : m ≤ -100)
      (h : leading 3 m.natAbs ≤ 366)
  -- It has six: three digits of the month are left.
  | longerYearDayOfYear (hy : 100000 ≤ y ∧ y ≤ 999999) (hm : 100 ≤ m)
      (h : leading 3 m.natAbs ≤ 366)
  -- It has ten, and is read from its end.
  | digitsOnly (hy : 1000000000 ≤ y)
      (h : IsDate (y / 10000) (y / 100 % 100).toNat (y % 100).toNat)

section Table
variable {g : GDate}

theorem signs_of_nonneg {n : ℤ} (h : 0 ≤ n) : signs n = 0 := if_neg (by omega)

theorem signs_of_neg {n : ℤ} (h : n < 0) : signs n = 1 := if_pos h

theorem length_year {y : ℤ} {w : ℕ} (hw : 4 ≤ w) (h₁ : 0 ≤ y) (h₂ : y < 10 ^ w)
    (h₃ : w = 4 ∨ 10 ^ (w - 1) ≤ y) : (padded 4 y).length = w := by
  obtain ⟨n, rfl⟩ := Int.eq_ofNat_of_zero_le h₁
  have hle := (length_padded_le_iff (n := n) (w := 4) (k := w) hw (by omega)).mpr
    (by exact_mod_cast h₂)
  have hge := length_padded_ge 4 n
  rcases h₃ with h₃ | h₃
  · omega
  · by_cases hfour : w = 4
    · omega
    · have hlt := mt (length_padded_le_iff (n := n) (w := 4) (k := w - 1) (by omega) (by omega)).mp
        (not_lt.mpr (by exact_mod_cast h₃))
      omega

/-- Four digits. -/
theorem accepted_year_four (h : 1 ≤ g.year.toInt ∧ g.year.toInt ≤ 9999) :
    (dateIn (dateToString g)).isSome ↔
      IsPlain g.year.toInt g.month.toInt g.day.toInt ∨
        Misread g.year.toInt g.month.toInt g.day.toInt := by
  have hlen := length_year (y := g.year.toInt) (w := 4) le_rfl (by omega) (by omega) (.inl rfl)
  rw [isSome_dateIn_narrow (by omega) (by omega), hlen]
  generalize g.year.toInt = y at h
  generalize g.month.toInt = m
  generalize g.day.toInt = d
  have hmax : y ≤ maxYear := by unfold maxYear; omega
  by_cases hm : 0 ≤ m
  · rw [signs_of_nonneg hm, accepted_five hm]
    constructor
    · rintro ⟨-, h₁, h₂, hd | ⟨hd, hle⟩⟩
      · exact .inr (.negativeDay h ⟨h₁, h₂⟩ hd)
      · by_cases hlong : 100 ≤ d
        · exact .inr (.longDay h ⟨h₁, h₂⟩ hlong hle)
        · rw [leading_eq_self (by omega) (by omega)] at hle
          exact .inl ⟨h, ⟨h₁, h₂⟩, by omega, by omega⟩
    · rintro (⟨-, hm, hd⟩ | hmis)
      · have hle := daysInMonth_le y m.natAbs
        refine ⟨⟨h.1, hmax⟩, hm.1, hm.2, .inr ⟨by omega, ?_⟩⟩
        rw [leading_eq_self (by omega) (by omega)]
        omega
      · refine ⟨⟨h.1, hmax⟩, ?_⟩
        cases hmis with
        | longDay _ hm hd hle => exact ⟨hm.1, hm.2, .inr ⟨by omega, hle⟩⟩
        | negativeDay _ hm hd => exact ⟨hm.1, hm.2, .inl hd⟩
        | _ => omega
  · rw [signs_of_neg (by omega), accepted_four]
    constructor
    · rintro ⟨-, ⟨h₁, h₂, hd | ⟨hd, hle⟩⟩ | ⟨hm', hd⟩ | hm'⟩
      · exact .inr (.negativeBoth h ⟨h₁, h₂⟩ hd)
      · exact .inr (.negativeMonth h ⟨h₁, h₂⟩ hd hle)
      · exact .inr (.negativeLongMonth h (by omega) hd)
      · exact .inr (.negativeDayOfYear h (by omega))
    · rintro (⟨-, hm, -⟩ | hmis)
      · omega
      · refine ⟨⟨h.1, hmax⟩, ?_⟩
        cases hmis with
        | negativeMonth _ hm hd hle => exact .inl ⟨hm.1, hm.2, .inr ⟨hd, hle⟩⟩
        | negativeBoth _ hm hd => exact .inl ⟨hm.1, hm.2, .inl hd⟩
        | _ => omega

/-- Five digits. -/
theorem accepted_year_five (h : 10000 ≤ g.year.toInt ∧ g.year.toInt ≤ 99999) :
    (dateIn (dateToString g)).isSome ↔ Misread g.year.toInt g.month.toInt g.day.toInt := by
  have hlen := length_year (y := g.year.toInt) (w := 5) (by omega) (by omega) (by omega)
    (.inr (by omega))
  rw [isSome_dateIn_narrow (by omega) (by omega), hlen]
  generalize g.year.toInt = y at h
  generalize g.month.toInt = m
  generalize g.day.toInt = d
  have hyear : 1 ≤ y ∧ y ≤ maxYear := by unfold maxYear; omega
  by_cases hm : 0 ≤ m
  · rw [signs_of_nonneg hm, accepted_four]
    constructor
    · rintro ⟨-, h' | ⟨hm', hd⟩ | hm'⟩
      · omega
      · exact .longYear h (.inl (by omega)) hd
      · exact .longYearDayOfYear h (by omega)
    · intro hmis
      refine ⟨hyear, ?_⟩
      cases hmis <;> omega
  · rw [signs_of_neg (by omega), accepted_three]
    constructor
    · rintro ⟨-, ⟨h₁, h₂, hd⟩ | ⟨hm', hle⟩⟩
      · exact .longYear h (.inr ⟨h₁, h₂⟩) hd
      · exact .longYearNegativeDayOfYear h (by omega) hle
    · intro hmis
      refine ⟨hyear, ?_⟩
      cases hmis <;> omega

/-- Six digits. -/
theorem accepted_year_six (h : 100000 ≤ g.year.toInt ∧ g.year.toInt ≤ 999999) :
    (dateIn (dateToString g)).isSome ↔ Misread g.year.toInt g.month.toInt g.day.toInt := by
  have hlen := length_year (y := g.year.toInt) (w := 6) (by omega) (by omega) (by omega)
    (.inr (by omega))
  rw [isSome_dateIn_narrow (by omega) (by omega), hlen]
  generalize g.year.toInt = y at h
  generalize g.month.toInt = m
  generalize g.day.toInt = d
  have hyear : 1 ≤ y ∧ y ≤ maxYear := by unfold maxYear; omega
  by_cases hm : 0 ≤ m
  · rw [signs_of_nonneg hm, accepted_three]
    constructor
    · rintro ⟨-, h' | ⟨hm', hle⟩⟩
      · omega
      · exact .longerYearDayOfYear h (by omega) hle
    · intro hmis
      refine ⟨hyear, ?_⟩
      cases hmis <;> omega
  · rw [signs_of_neg (by omega)]
    constructor
    · rintro ⟨-, h'⟩
      exact absurd h' (not_accepted (by omega))
    · intro hmis
      cases hmis <;> omega

/-- Seven to nine. -/
theorem accepted_year_seven (h : 1000000 ≤ g.year.toInt ∧ g.year.toInt ≤ 999999999) :
    (dateIn (dateToString g)).isSome ↔ Misread g.year.toInt g.month.toInt g.day.toInt := by
  obtain ⟨y, hy⟩ := Int.eq_ofNat_of_zero_le (show 0 ≤ g.year.toInt by omega)
  have hlow := mt (length_padded_le_iff (n := y) (w := 4) (k := 6) (by omega) (by omega)).mp
    (by omega)
  have hhigh := (length_padded_le_iff (n := y) (w := 4) (k := 9) (by omega) (by omega)).mpr
    (by omega)
  rw [isSome_dateIn_narrow (by omega) (by rw [hy]; exact hhigh)]
  constructor
  · rintro ⟨-, h'⟩
    exact absurd h' (not_accepted (by rw [hy]; omega))
  · intro hmis
    cases hmis <;> omega

/-- Ten: the text is the year, and the year is read as a date. -/
theorem accepted_year_ten (h : 1000000000 ≤ g.year.toInt) :
    (dateIn (dateToString g)).isSome ↔ Misread g.year.toInt g.month.toInt g.day.toInt := by
  obtain ⟨y, hy⟩ := Int.eq_ofNat_of_zero_le (show 0 ≤ g.year.toInt by omega)
  have hmax : g.year.toInt ≤ 2147483647 := by have := g.year.toInt_lt; omega
  have hlen : (padded 4 (y : ℤ)).length = 10 :=
    length_year (by omega) (by omega) (by omega) (.inr (by omega))
  have htext : (dateToString g).toList = padded 4 (y : ℤ) := by
    rw [toList_dateToString, hy, List.take_append, hlen, List.take_of_length_le hlen.le]
    simp
  have hd : DateText (padded 4 (y : ℤ)) := htext ▸ dateText_dateToString (by omega)
  have hread := hd.isSome_dateIn_digits (Digits.padded 4 y) hlen
  rw [← htext, String.ofList_toList, htext, fieldValue, ofDigitChars_padded] at hread
  have e₁ : (y : ℤ) / 10000 = (y / 10000 : ℕ) := by omega
  have e₂ : ((y : ℤ) / 100 % 100).toNat = y % 10000 / 100 := by omega
  have e₃ : ((y : ℤ) % 100).toNat = y % 100 := by omega
  rw [hread]
  constructor
  · intro h'
    refine .digitsOnly h ?_
    rwa [hy, e₁, e₂, e₃]
  · intro hmis
    cases hmis with
    | digitsOnly _ h' => rwa [hy, e₁, e₂, e₃] at h'
    | _ => omega

/-- No year, or a negative one. -/
theorem accepted_year_zero (h : g.year.toInt ≤ 0) :
    (dateIn (dateToString g)).isSome ↔ Misread g.year.toInt g.month.toInt g.day.toInt := by
  have hnone : dateIn (dateToString g) = none := by
    by_cases hzero : g.year.toInt = 0
    · have hlen := length_year (y := g.year.toInt) (w := 4) le_rfl (by omega) (by omega) (.inl rfl)
      have hiff := isSome_dateIn_narrow (g := g) (by omega) (by omega)
      rw [← Option.not_isSome_iff_eq_none, hiff]
      omega
    · have hhead : (cstr (dateToString g)).head? = some '-' := by
        have hneg : ¬ 0 ≤ g.year.toInt := by omega
        simp [cstr, toList_dateToString, padded, hneg]
      simp [dateIn, hhead]
  rw [hnone]
  constructor
  · intro h'
    cases h'
  · intro hmis
    cases hmis <;> omega

/-- **The accepted dates**: the ten characters of a date are cast to some `DATE` exactly when
the date is plain or misread. -/
theorem dateIn_dateToString_iff (g : GDate) : (dateIn (dateToString g)).isSome ↔
    IsPlain g.year.toInt g.month.toInt g.day.toInt ∨
      Misread g.year.toInt g.month.toInt g.day.toInt := by
  by_cases hfour : 1 ≤ g.year.toInt ∧ g.year.toInt ≤ 9999
  · exact accepted_year_four hfour
  · have hplain : ¬ IsPlain g.year.toInt g.month.toInt g.day.toInt := fun h => hfour h.1
    simp only [hplain, false_or]
    by_cases h₀ : g.year.toInt ≤ 0
    · exact accepted_year_zero h₀
    by_cases h₅ : g.year.toInt ≤ 99999
    · exact accepted_year_five (by omega)
    by_cases h₆ : g.year.toInt ≤ 999999
    · exact accepted_year_six (by omega)
    by_cases h₉ : g.year.toInt ≤ 999999999
    · exact accepted_year_seven (by omega)
    · exact accepted_year_ten (by omega)

/-- A plain date is cast to itself. -/
theorem dateIn_of_isPlain (h : IsPlain g.year.toInt g.month.toInt g.day.toInt) :
    ∃ x, dateIn (dateToString g) = some x ∧ x.year = g.year.toInt ∧
      (x.month : ℤ) = g.month.toInt ∧ (x.day : ℤ) = g.day.toInt := by
  obtain ⟨hy, hm, hd₁, hd₂⟩ := h
  have hdays := daysInMonth_le g.year.toInt g.month.toInt.natAbs
  have hlen := length_year (y := g.year.toInt) (w := 4) le_rfl (by omega) (by omega) (.inl rfl)
  have hfields := dateFields_dateToString (g := g) (by omega) (by omega)
  have htext := dateText_dateToString (g := g) (by omega)
  have hmonth : (shown g.month.toInt).length = 2 := by
    have := length_shown_cases g.month.toInt
    omega
  have hday : (shown g.day.toInt).length = 2 := by
    have := length_shown_cases g.day.toInt
    omega
  have hne : ∀ ds : List Char, 2 ≤ ds.length → decide (ds ≠ []) = true := by
    intro ds hds
    cases ds with
    | nil => simp at hds
    | cons _ _ => simp
  rw [hlen, signs_of_nonneg (by omega), signs_of_nonneg (by omega), hmonth,
    List.take_of_length_le (by omega), List.take_of_length_le (by omega), List.filter_cons,
    List.filter_cons, List.filter_cons, hne _ (by omega), hne _ (by omega), hne _ (by omega)]
    at hfields
  have hend := not_hyphens_of_day (g := g) (k := 5) (by omega)
    (by rw [hlen, signs_of_nonneg (by omega)]) (by rw [hmonth, signs_of_nonneg (by omega)]; omega)
  have hself : dateToString g = String.ofList (dateToString g).toList := String.ofList_toList.symm
  have hvalue : fieldValue (padded 4 g.year.toInt) = g.year.toInt.natAbs := by
    obtain ⟨y, hyear⟩ := Int.eq_ofNat_of_zero_le (show 0 ≤ g.year.toInt by omega)
    rw [hyear, fieldValue, ofDigitChars_padded]
    rfl
  have hyear : (g.year.toInt.natAbs : ℤ) = g.year.toInt := by omega
  rw [hself, htext.dateIn_three hfields (by omega) hend, if_neg (by omega), hvalue, fieldValue_shown,
    fieldValue_shown, dateOfFields, if_pos ⟨by omega, by unfold maxYear; omega⟩, hyear]
  refine ⟨⟨g.year.toInt, g.month.toInt.natAbs, g.day.toInt.natAbs, by omega, by omega, by omega,
    by omega⟩, Date.make_eq_some_iff.mpr ⟨rfl, rfl, rfl⟩, rfl, ?_, ?_⟩
  · simp only
    omega
  · simp only
    omega

/-- A misread date is not a plain one. -/
theorem Misread.not_isPlain {y m d : ℤ} (h : Misread y m d) : ¬ IsPlain y m d := by
  rintro ⟨hy, hm, hd⟩
  have hdays := daysInMonth_le y m.natAbs
  cases h <;> omega

end Table

end EvGrpc
