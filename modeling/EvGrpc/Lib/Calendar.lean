import Mathlib.Algebra.BigOperators.Group.List.Basic
import Mathlib.Data.Int.Order.Basic
import Mathlib.Order.Monotone.Basic
import Mathlib.Tactic.Ring

/-!
# The proleptic Gregorian calendar

Dates and day numbers, in both directions, for all years.  Day `0` is the first
of January of year `1`; the year before year `1` is year `0`.

The two directions are `Date.toDays`, a sum of year and month lengths, and
`Date.ofDays`, which strips the 400-, 100-, 4- and 1-year cycles and then walks
the months.  `ofDays_toDays` and `toDays_ofDays` say that they are inverse, so a
date and its day number are the same information.

## Main definitions

* `Date` — a calendar date; an impossible date cannot be built.
* `Date.toDays`, `Date.ofDays` — the day number of a date and its inverse.
* `Date.make` — build a date from three numbers, if they name one.
-/

namespace EvGrpc.Lib

/-! ## Months -/

/-- The Gregorian leap-year rule. -/
def isLeap (y : ℤ) : Bool := decide (y % 4 = 0 ∧ y % 100 ≠ 0 ∨ y % 400 = 0)

/-- The lengths of the twelve months. -/
def monthLengths (leap : Bool) : List ℕ :=
  [31, if leap then 29 else 28, 31, 30, 31, 30, 31, 31, 30, 31, 30, 31]

/-- The number of days in month `m` of year `y`; zero when there is no such month. -/
def daysInMonth (y : ℤ) (m : ℕ) : ℕ := (monthLengths (isLeap y)).getD (m - 1) 0

theorem daysInMonth_le (y : ℤ) (m : ℕ) : daysInMonth y m ≤ 31 := by
  have h : ∀ l : List ℕ, (∀ x ∈ l, x ≤ 31) → l.getD (m - 1) 0 ≤ 31 := by
    intro l hl
    rw [List.getD_eq_getElem?_getD]
    cases hx : l[m - 1]? with
    | none => simp
    | some x => exact hl x (List.mem_of_getElem? hx)
  refine h _ ?_
  cases isLeap y <;> decide

/-- Find the position of day `d` in a sequence of blocks of the given lengths:
which block, and how far into it. -/
def splitDay : List ℕ → ℕ → ℕ × ℕ
  | [], d => (0, d)
  | l :: ls, d => if d < l then (0, d) else
      let r := splitDay ls (d - l)
      (r.1 + 1, r.2)

/-- A day inside the blocks is found in an existing block, at the offset that
makes up the difference. -/
theorem splitDay_spec (ls : List ℕ) {d : ℕ} (h : d < ls.sum) :
    (splitDay ls d).1 < ls.length ∧ (splitDay ls d).2 < ls.getD (splitDay ls d).1 0 ∧
      (ls.take (splitDay ls d).1).sum + (splitDay ls d).2 = d := by
  induction ls generalizing d with
  | nil => simp at h
  | cons l ls ih =>
      by_cases hd : d < l
      · simp [splitDay, hd]
      · have hsum : d - l < ls.sum := by simp only [List.sum_cons] at h; omega
        obtain ⟨h₁, h₂, h₃⟩ := ih hsum
        simp only [splitDay, hd, if_false, List.length_cons, List.getD_cons_succ,
          List.take_succ_cons, List.sum_cons]
        exact ⟨by omega, h₂, by omega⟩

/-- The day at offset `d` of block `m` is found there. -/
theorem splitDay_sum_take (ls : List ℕ) {m d : ℕ} (hm : m < ls.length) (hd : d < ls.getD m 0) :
    splitDay ls ((ls.take m).sum + d) = (m, d) := by
  induction ls generalizing m with
  | nil => simp at hm
  | cons l ls ih =>
      cases m with
      | zero => simp_all [splitDay]
      | succ m =>
          simp only [List.length_cons, Nat.add_lt_add_iff_right] at hm
          simp only [List.getD_cons_succ] at hd
          have hge : ¬ (l + (ls.take m).sum + d < l) := by omega
          have hsub : l + (ls.take m).sum + d - l = (ls.take m).sum + d := by omega
          simp only [List.take_succ_cons, List.sum_cons, splitDay, hge, if_false, hsub,
            ih hm hd]

/-! ## Years -/

/-- The number of days before the first of January of year `y`. -/
def daysBeforeYear (y : ℤ) : ℤ :=
  365 * (y - 1) + (y - 1) / 4 - (y - 1) / 100 + (y - 1) / 400

/-- The number of days of year `y`. -/
def yearLength (y : ℤ) : ℕ := if isLeap y then 366 else 365

theorem sum_monthLengths (y : ℤ) : (monthLengths (isLeap y)).sum = yearLength y := by
  unfold yearLength
  cases isLeap y <;> rfl

theorem daysBeforeYear_succ (y : ℤ) : daysBeforeYear (y + 1) = daysBeforeYear y + yearLength y := by
  unfold daysBeforeYear yearLength isLeap
  by_cases h : y % 4 = 0 ∧ y % 100 ≠ 0 ∨ y % 400 = 0 <;> simp only [h, decide_true, decide_false,
    if_true, Bool.false_eq_true, if_false] <;> push_cast <;> omega

theorem daysBeforeYear_lt_succ (y : ℤ) : daysBeforeYear y < daysBeforeYear (y + 1) := by
  rw [daysBeforeYear_succ]
  unfold yearLength
  split <;> omega

theorem daysBeforeYear_lt_iff {y z : ℤ} : daysBeforeYear y < daysBeforeYear z ↔ y < z :=
  (strictMono_int_of_lt_succ daysBeforeYear_lt_succ).lt_iff_lt

theorem daysBeforeYear_le_iff {y z : ℤ} : daysBeforeYear y ≤ daysBeforeYear z ↔ y ≤ z :=
  (strictMono_int_of_lt_succ daysBeforeYear_lt_succ).le_iff_le

/-- The year a day number falls into, and the day of that year. -/
def yearOfDays (n : ℤ) : ℤ × ℕ :=
  let r := n % 146097
  let n100 := min (r / 36524) 3
  let r₁ := r - 36524 * n100
  let r₂ := r₁ % 1461
  let n1 := min (r₂ / 365) 3
  (400 * (n / 146097) + 100 * n100 + 4 * (r₁ / 1461) + n1 + 1, (r₂ - 365 * n1).toNat)

/-- The day number of New Year in terms of the cycles before it. -/
theorem daysBeforeYear_cycles {a b c e : ℤ} (hb : 0 ≤ b ∧ b ≤ 3) (hc : 0 ≤ c ∧ c ≤ 24)
    (he : 0 ≤ e ∧ e ≤ 3) : daysBeforeYear (400 * a + 100 * b + 4 * c + e + 1) =
      146097 * a + 36524 * b + 1461 * c + 365 * e := by
  unfold daysBeforeYear
  have h₄ : (400 * a + 100 * b + 4 * c + e + 1 - 1) / 4 = 100 * a + 25 * b + c := by omega
  have h₁₀₀ : (400 * a + 100 * b + 4 * c + e + 1 - 1) / 100 = 4 * a + b := by omega
  have h₄₀₀ : (400 * a + 100 * b + 4 * c + e + 1 - 1) / 400 = a := by omega
  rw [h₄, h₁₀₀, h₄₀₀]
  ring

/-- The last year of a four-year cycle is a leap year, except when the cycle ends
a century that does not end a 400-year cycle. -/
theorem isLeap_cycles {a b c : ℤ} (hc : 0 ≤ c ∧ c ≤ 24)
    (h : c = 24 → b = 3) : isLeap (400 * a + 100 * b + 4 * c + 3 + 1) = true := by
  unfold isLeap
  have h₄ : (400 * a + 100 * b + 4 * c + 3 + 1) % 4 = 0 := by omega
  by_cases hlast : c = 24
  · have h₄₀₀ : (400 * a + 100 * b + 4 * c + 3 + 1) % 400 = 0 := by
      have := h hlast
      omega
    simp [h₄₀₀]
  · have h₁₀₀ : (400 * a + 100 * b + 4 * c + 3 + 1) % 100 ≠ 0 := by omega
    simp [h₄, h₁₀₀]

/-- Stripping the cycles leaves a day that is inside the year. -/
theorem yearOfDays_spec (n : ℤ) :
    daysBeforeYear (yearOfDays n).1 + (yearOfDays n).2 = n ∧
      (yearOfDays n).2 < yearLength (yearOfDays n).1 := by
  -- The cycle counts are named first: with their bounds every division is linear.
  obtain ⟨a, ha⟩ : ∃ a, a = n / 146097 := ⟨_, rfl⟩
  obtain ⟨r, hr⟩ : ∃ r, r = n % 146097 := ⟨_, rfl⟩
  obtain ⟨b, hb⟩ : ∃ b, b = min (r / 36524) 3 := ⟨_, rfl⟩
  obtain ⟨r₁, hr₁⟩ : ∃ r₁, r₁ = r - 36524 * b := ⟨_, rfl⟩
  obtain ⟨c, hc⟩ : ∃ c, c = r₁ / 1461 := ⟨_, rfl⟩
  obtain ⟨r₂, hr₂⟩ : ∃ r₂, r₂ = r₁ % 1461 := ⟨_, rfl⟩
  obtain ⟨e, he⟩ : ∃ e, e = min (r₂ / 365) 3 := ⟨_, rfl⟩
  have hn : n = 146097 * a + r := by omega
  have hbounds : 0 ≤ b ∧ b ≤ 3 ∧ 0 ≤ r₁ ∧ r₁ ≤ 36524 := by omega
  have hcb : 0 ≤ c ∧ c ≤ 24 ∧ r₁ = 1461 * c + r₂ ∧ 0 ≤ r₂ ∧ r₂ < 1461 := by omega
  have heb : 0 ≤ e ∧ e ≤ 3 ∧ 0 ≤ r₂ - 365 * e ∧ r₂ - 365 * e ≤ 365 := by omega
  have hy : yearOfDays n = (400 * a + 100 * b + 4 * c + e + 1, (r₂ - 365 * e).toNat) := by
    simp only [yearOfDays, ha, hr, hb, hr₁, hc, hr₂, he]
  rw [hy, daysBeforeYear_cycles ⟨hbounds.1, hbounds.2.1⟩ ⟨hcb.1, hcb.2.1⟩ ⟨heb.1, heb.2.1⟩]
  refine ⟨by omega, ?_⟩
  -- Only the last year of a four-year cycle has a day 365.
  by_cases hlast : r₂ - 365 * e = 365
  · have he₃ : e = 3 := by omega
    have hcentury : c = 24 → b = 3 := by omega
    have hleap := isLeap_cycles (a := a) ⟨hcb.1, hcb.2.1⟩ hcentury
    subst he₃
    simp only [yearLength, hleap, if_true]
    omega
  · simp only [yearLength]
    split <;> omega

/-- The year of a day is determined by the day lying between two New Years. -/
theorem yearOfDays_unique {y n : ℤ} (h₁ : daysBeforeYear y ≤ n) (h₂ : n < daysBeforeYear (y + 1)) :
    (yearOfDays n).1 = y := by
  obtain ⟨e, hlt⟩ := yearOfDays_spec n
  have hlow : daysBeforeYear (yearOfDays n).1 ≤ n := by omega
  have hhigh : n < daysBeforeYear ((yearOfDays n).1 + 1) := by
    rw [daysBeforeYear_succ]; omega
  have h₃ := daysBeforeYear_lt_iff.mp (lt_of_le_of_lt h₁ hhigh)
  have h₄ := daysBeforeYear_lt_iff.mp (lt_of_le_of_lt hlow h₂)
  omega

/-! ## Dates -/

/-- A calendar date. -/
@[ext] structure Date where
  year : ℤ
  month : ℕ
  day : ℕ
  month_pos : 1 ≤ month
  month_le : month ≤ 12
  day_pos : 1 ≤ day
  day_le : day ≤ daysInMonth year month
  deriving DecidableEq

namespace Date

/-- The date three numbers name, if they name one. -/
def make (y : ℤ) (m d : ℕ) : Option Date :=
  if h : (1 ≤ m ∧ m ≤ 12) ∧ 1 ≤ d ∧ d ≤ daysInMonth y m then
    some ⟨y, m, d, h.1.1, h.1.2, h.2.1, h.2.2⟩
  else none

theorem make_eq_some_iff {y : ℤ} {m d : ℕ} {x : Date} :
    make y m d = some x ↔ x.year = y ∧ x.month = m ∧ x.day = d := by
  constructor
  · intro h
    unfold make at h
    split at h
    · cases h; exact ⟨rfl, rfl, rfl⟩
    · cases h
  · rintro ⟨rfl, rfl, rfl⟩
    unfold make
    rw [dif_pos ⟨⟨x.month_pos, x.month_le⟩, x.day_pos, x.day_le⟩]

/-- The day number of a date. -/
def toDays (x : Date) : ℤ :=
  daysBeforeYear x.year +
    (((monthLengths (isLeap x.year)).take (x.month - 1)).sum + (x.day - 1) : ℕ)

private theorem splitDay_bounds (n : ℤ) :
    (splitDay (monthLengths (isLeap (yearOfDays n).1)) (yearOfDays n).2).1 < 12 ∧
      (splitDay (monthLengths (isLeap (yearOfDays n).1)) (yearOfDays n).2).2 <
        daysInMonth (yearOfDays n).1
          ((splitDay (monthLengths (isLeap (yearOfDays n).1)) (yearOfDays n).2).1 + 1) ∧
      ((monthLengths (isLeap (yearOfDays n).1)).take
          (splitDay (monthLengths (isLeap (yearOfDays n).1)) (yearOfDays n).2).1).sum +
        (splitDay (monthLengths (isLeap (yearOfDays n).1)) (yearOfDays n).2).2 =
          (yearOfDays n).2 := by
  have h := splitDay_spec (monthLengths (isLeap (yearOfDays n).1))
    (by rw [sum_monthLengths]; exact (yearOfDays_spec n).2)
  simp only [daysInMonth, Nat.add_sub_cancel]
  exact h

/-- The date with a given day number. -/
def ofDays (n : ℤ) : Date where
  year := (yearOfDays n).1
  month := (splitDay (monthLengths (isLeap (yearOfDays n).1)) (yearOfDays n).2).1 + 1
  day := (splitDay (monthLengths (isLeap (yearOfDays n).1)) (yearOfDays n).2).2 + 1
  month_pos := by omega
  month_le := (splitDay_bounds n).1
  day_pos := by omega
  day_le := (splitDay_bounds n).2.1

@[simp] theorem toDays_ofDays (n : ℤ) : (ofDays n).toDays = n := by
  simp only [toDays, ofDays, Nat.add_sub_cancel, (splitDay_bounds n).2.2]
  exact (yearOfDays_spec n).1

private theorem month_sub_one_lt (x : Date) :
    x.month - 1 < (monthLengths (isLeap x.year)).length := by
  have hpos := x.month_pos
  have hle := x.month_le
  change x.month - 1 < 12
  omega

private theorem dayOfYear_lt (x : Date) :
    ((monthLengths (isLeap x.year)).take (x.month - 1)).sum + (x.day - 1) < yearLength x.year := by
  have hm : x.month - 1 < (monthLengths (isLeap x.year)).length := x.month_sub_one_lt
  have hd := x.day_le
  have hd' := x.day_pos
  rw [daysInMonth, List.getD_eq_getElem?_getD, List.getElem?_eq_getElem hm,
    Option.getD_some] at hd
  have htake := List.sum_take_add_sum_drop (monthLengths (isLeap x.year)) (x.month - 1)
  rw [List.drop_eq_getElem_cons hm, List.sum_cons, sum_monthLengths] at htake
  omega

@[simp] theorem ofDays_toDays (x : Date) : ofDays x.toDays = x := by
  have hlt := dayOfYear_lt x
  have hyear : (yearOfDays x.toDays).1 = x.year := by
    refine yearOfDays_unique (by unfold toDays; omega) ?_
    rw [daysBeforeYear_succ]
    unfold toDays
    omega
  have hday : (yearOfDays x.toDays).2 =
      ((monthLengths (isLeap x.year)).take (x.month - 1)).sum + (x.day - 1) := by
    have h := (yearOfDays_spec x.toDays).1
    rw [hyear] at h
    unfold toDays at h ⊢
    omega
  have hm : x.month - 1 < (monthLengths (isLeap x.year)).length := x.month_sub_one_lt
  have hd : x.day - 1 < (monthLengths (isLeap x.year)).getD (x.month - 1) 0 := by
    have := x.day_pos; have := x.day_le; simp only [daysInMonth] at this; omega
  have hsplit := splitDay_sum_take _ hm hd
  have h₁ := x.month_pos
  have h₂ := x.day_pos
  ext
  · exact hyear
  · simp only [ofDays, hyear, hday, hsplit]; omega
  · simp only [ofDays, hyear, hday, hsplit]; omega

theorem toDays_injective : Function.Injective toDays :=
  Function.LeftInverse.injective ofDays_toDays

end Date

end EvGrpc.Lib
