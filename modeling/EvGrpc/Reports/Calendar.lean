import EvGrpc.Reports.Charging

/-!
# What the charging reports accept

A charging report is to answer OK for every period of the calendar from 1900 on, with zeros
when no charging matches, and to refuse every other one.  The checks decide the calendar
exactly, for all years: the table of `LastDayOfMonth` and the leap-year rule give the length of
the month.  What lies behind the checks is narrower in two places.  `make_date` knows no year
after `maxYear`, so that the daily report refuses the days of these years while its siblings
answer for their months; and a count is cast to `INT`.
-/

namespace EvGrpc

open Lib

/-! ## Periods that exist -/

/-- A day of the Gregorian calendar, from 1900 on. -/
def IsDay (y m d : Int32) : Prop :=
  1900 ≤ y.toInt ∧ (1 ≤ m.toInt ∧ m.toInt ≤ 12) ∧
    (1 ≤ d.toInt ∧ d.toInt ≤ daysInMonth y.toInt m.toInt.toNat)

/-- A month of the calendar, from 1900 on. -/
def IsMonth (y m : Int32) : Prop := 1900 ≤ y.toInt ∧ (1 ≤ m.toInt ∧ m.toInt ≤ 12)

/-- A year, from 1900 on. -/
def IsYear (y : Int32) : Prop := 1900 ≤ y.toInt

instance (y m d : Int32) : Decidable (IsDay y m d) := inferInstanceAs (Decidable (_ ∧ _))
instance (y m : Int32) : Decidable (IsMonth y m) := inferInstanceAs (Decidable (_ ∧ _))
instance (y : Int32) : Decidable (IsYear y) := inferInstanceAs (Decidable (_ ≤ _))

/-- The instants of a day. -/
def calendarDay (y m d : Int32) (t : Instant) : Bool :=
  monthPeriod y m t && decide (((dateOf t).day : ℤ) = d.toInt)

/-- The charging rows that start in a period and match a vehicle. -/
def matching (period : Instant → Bool) (vehicleId : String) (db : Database) : List ChargingRow :=
  db.charging.filter (chosen period vehicleId)

/-- The report answers for the calendar: OK where the period exists, with zeros when no row
matches, and `INVALID_ARGUMENT` elsewhere. -/
def AnswersCalendar (db : Database) (p : Prog Op (Reply ChargingReport)) (Exists : Prop)
    (rows : List ChargingRow) : Prop :=
  Replies db p fun r =>
    (Exists → ∃ report, r = (.OK, some report) ∧
      (rows = [] → report.totalCost = .fin 0 ∧ report.totalKwh = .fin 0 ∧ report.count = 0)) ∧
    (¬ Exists → r.1.code = .INVALID_ARGUMENT)

/-! ## The checks -/

/-- The check passes exactly where the period exists. -/
def ChecksPeriod (st : Status) (Exists : Prop) : Prop :=
  (Exists ∧ st = .OK) ∨ (¬ Exists ∧ st.code = .INVALID_ARGUMENT)

/-- A check that refuses an earlier field. -/
theorem ChecksPeriod.refuse {c : Prop} [Decidable c] {st : Status} {message : String}
    {P Q : Prop} (hP : P ↔ ¬ c ∧ Q) (h : ¬ c → ChecksPeriod st Q) :
    ChecksPeriod (if c then invalidArgument message else st) P := by
  by_cases hc : c
  · rw [if_pos hc]
    exact .inr ⟨fun hp => (hP.mp hp).1 hc, rfl⟩
  · rw [if_neg hc]
    rcases h hc with ⟨hq, hst⟩ | ⟨hq, hst⟩
    · exact .inl ⟨hP.mpr ⟨hc, hq⟩, hst⟩
    · exact .inr ⟨fun hp => hq (hP.mp hp).2, hst⟩

/-- The last field is checked. -/
theorem ChecksPeriod.last {c : Prop} [Decidable c] {message : String} {P : Prop} (hP : P ↔ ¬ c) :
    ChecksPeriod (if c then invalidArgument message else .OK) P :=
  .refuse (by simpa using hP) fun _ => .inl ⟨trivial, rfl⟩

theorem validateYear_decides (y : Int32) : ChecksPeriod (validateYear y) (IsYear y) := by
  apply ChecksPeriod.last
  unfold IsYear
  omega

theorem validateMonthly_decides (req : GetMonthlyChargingReportRequest) :
    ChecksPeriod (validateMonthly req) (IsMonth req.year req.month) := by
  apply ChecksPeriod.refuse (Q := 1 ≤ req.month.toInt ∧ req.month.toInt ≤ 12)
  · unfold IsMonth
    omega
  intro _
  apply ChecksPeriod.last
  omega

theorem validateDaily_decides (req : GetDailyChargingReportRequest) :
    ChecksPeriod (validateDaily req) (IsDay req.year req.month req.day) := by
  apply ChecksPeriod.refuse (Q := (1 ≤ req.month.toInt ∧ req.month.toInt ≤ 12) ∧
    (1 ≤ req.day.toInt ∧ req.day.toInt ≤ daysInMonth req.year.toInt req.month.toInt.toNat))
  · unfold IsDay
    omega
  intro _
  apply ChecksPeriod.refuse (Q := 1 ≤ req.day.toInt ∧
    req.day.toInt ≤ daysInMonth req.year.toInt req.month.toInt.toNat)
  · omega
  intro hmonth
  apply ChecksPeriod.last
  -- Past the check of the month, the table gives the length of the month.
  obtain ⟨n, hn⟩ : ∃ n : ℕ, req.month.toInt = n := ⟨req.month.toInt.toNat, by omega⟩
  have hlast := lastDayOfMonth_eq req.year.toInt n (by omega) (by omega)
  simp only [hn, Int.toNat_natCast, hlast]
  omega

/-! ## Behind the checks -/

section Behind
variable {db : Database} {md : Metadata} {kMethod : String}

/-- A period that does not exist is refused. -/
theorem answersCalendar_refused {st : Status} {body : Prog Op (Reply ChargingReport)}
    {Exists : Prop} (hdecides : ChecksPeriod st Exists) (hE : ¬ Exists) (rows : List ChargingRow) :
    AnswersCalendar db (authenticated md kMethod (validated st body)) Exists rows := by
  have hst : st.code = .INVALID_ARGUMENT := by
    rcases hdecides with ⟨h, -⟩ | ⟨-, hst⟩
    · exact absurd h hE
    · exact hst
  have hno : ¬ st.ok = true := by
    simp [Status.ok, hst]
  constructor
  · exact ⟨_, serves_validated.mpr (by rw [if_neg hno]; exact ⟨rfl, rfl⟩)⟩
  · intro r db' hr
    rw [serves_validated, if_neg hno] at hr
    obtain ⟨rfl, rfl⟩ := hr
    exact ⟨rfl, fun h => absurd h hE, fun _ => hst⟩

/-- A report of totals answers OK exactly when its count fits. -/
theorem answersCalendar_iff_count {p : Prog Op (Reply ChargingReport)} {Exists : Prop}
    {rows : List ChargingRow} {vehicleId : String} {y m d : Int32} (hE : Exists)
    (h : ReportsTotals db p (chargingReportOf y m d vehicleId)
      ⟨(rows.map ChargingRow.cost).sum, (rows.map ChargingRow.kwhCharged).sum, rows.length⟩) :
    AnswersCalendar db p Exists rows ↔ rows.length ≤ 2147483647 := by
  constructor
  · intro hanswers
    by_contra hfits
    obtain ⟨report, hreport, -⟩ := (hanswers.2 _ db ((h _ db).mpr ⟨rfl, rfl⟩)).2.1 hE
    have herror : toInt4 (rows.length : ℤ) = .error integerOutOfRange := if_neg (by omega)
    rw [ChargingTotals.row, herror] at hreport
    cases hreport
  · intro hfits
    have hcount : toInt4 (rows.length : ℤ) = .ok (rows.length : ℤ) :=
      toInt4_eq_ok ⟨by omega, by omega⟩
    refine ⟨⟨_, (h _ db).mpr ⟨rfl, rfl⟩⟩, ?_⟩
    intro r db' hr
    obtain ⟨rfl, rfl⟩ := (h r db').mp hr
    rw [ChargingTotals.row, hcount]
    refine ⟨rfl, fun _ => ⟨_, rfl, ?_⟩, fun hno => absurd hE hno⟩
    rintro rfl
    exact ⟨rfl, rfl, rfl⟩

/-- The daily report has no day after the last year of `make_date`. -/
theorem not_answersCalendar_daily {req : GetDailyChargingReportRequest}
    (hE : IsDay req.year req.month req.day) (hy : maxYear < req.year.toInt)
    (rows : List ChargingRow) :
    ¬ AnswersCalendar db (getDailyChargingReport md req) (IsDay req.year req.month req.day) rows := by
  intro h
  have hst : (validateDaily req).ok = true := by
    rcases validateDaily_decides req with ⟨-, hok⟩ | ⟨hno, -⟩
    · rw [hok]
      rfl
    · exact absurd hE hno
  have hdate : makeDate req.year req.month req.day =
      .error (dataException "date field value out of range") := by
    rw [makeDate, if_neg (by omega)]
  obtain ⟨⟨r, hr⟩, hall⟩ := h
  obtain ⟨report, rfl, -⟩ := (hall r db hr).2.1 hE
  rw [getDailyChargingReport, serves_validated, if_pos hst, chargingReport, serves_readAll] at hr
  obtain ⟨-, v, -, hreply⟩ := hr
  rw [dailyCharging, hdate] at hreply
  cases hreply

/-- A number of a request that is not negative. -/
theorem ofNat_toNat_toInt {n : Int32} (h : 0 ≤ n.toInt) : Int32.ofNat n.toInt.toNat = n := by
  rw [← Int32.toInt_inj, Int32.toInt_ofNat_of_lt]
  · omega
  · have := n.toInt_lt
    omega

/-- Up to that year it is a report of totals. -/
theorem daily_totals {y m d : Int32} {vehicleId : String} (hE : IsDay y m d)
    (hy : y.toInt ≤ maxYear) :
    ReportsTotals db (getDailyChargingReport md ⟨y, m, d, vehicleId⟩)
      (chargingReportOf y m d vehicleId) (chargingTotals (calendarDay y m d) vehicleId db) := by
  obtain ⟨hyear, hm, hd⟩ := hE
  have hm' : 1 ≤ m.toInt.toNat ∧ m.toInt.toNat ≤ 12 := by omega
  have hd' : 1 ≤ d.toInt.toNat ∧ d.toInt.toNat ≤ daysInMonth y.toInt m.toInt.toNat := by omega
  have hlast := lastDayOfMonth_eq y.toInt m.toInt.toNat hm'.1 hm'.2
  have hperiod : dayPeriod y (Int32.ofNat m.toInt.toNat) (Int32.ofNat d.toInt.toNat) =
      calendarDay y m d := by
    funext t
    rw [dayPeriod_eq ⟨by omega, hy⟩ hm' hd', ofNat_toNat_toInt (by omega), calendarDay]
    congr 1
    rw [decide_eq_decide]
    omega
  have htotals : ReportsTotals db (getDailyChargingReport md
      ⟨y, Int32.ofNat m.toInt.toNat, Int32.ofNat d.toInt.toNat, vehicleId⟩) _ _ :=
    daily_reportsTotals ⟨hyear, hy⟩ hm' ⟨hd'.1, hlast ▸ hd'.2⟩
  rw [hperiod, ofNat_toNat_toInt (by omega), ofNat_toNat_toInt (by omega)] at htotals
  exact htotals

end Behind

/-! ## The three reports -/

/-- **The charging reports accept the calendar** as far as `make_date` and the count reach.  The
monthly and the annual report answer for every period of the calendar, the daily one only up to
the last year of `make_date`; and all of them only for as many rows as an `INT` can count. -/
theorem charging_reports_calendar_iff (db : Database) (md : Metadata) (y m d : Int32)
    (vehicleId : String) :
    (AnswersCalendar db (getDailyChargingReport md ⟨y, m, d, vehicleId⟩) (IsDay y m d)
        (matching (calendarDay y m d) vehicleId db) ↔
      (IsDay y m d → y.toInt ≤ maxYear ∧
        (matching (calendarDay y m d) vehicleId db).length ≤ 2147483647)) ∧
    (AnswersCalendar db (getMonthlyChargingReport md ⟨y, m, vehicleId⟩) (IsMonth y m)
        (matching (monthPeriod y m) vehicleId db) ↔
      (IsMonth y m → (matching (monthPeriod y m) vehicleId db).length ≤ 2147483647)) ∧
    (AnswersCalendar db (getAnnualChargingReport md ⟨y, vehicleId⟩) (IsYear y)
        (matching (inYear y) vehicleId db) ↔
      (IsYear y → (matching (inYear y) vehicleId db).length ≤ 2147483647)) := by
  refine ⟨?_, ?_, ?_⟩
  · by_cases hE : IsDay y m d
    · rw [forall_prop_of_true hE]
      by_cases hy : y.toInt ≤ maxYear
      · rw [and_iff_right hy]
        exact answersCalendar_iff_count hE (daily_totals hE hy)
      · refine iff_of_false (not_answersCalendar_daily hE (not_le.mp hy) _) ?_
        intro h
        exact hy h.1
    · refine iff_of_true ?_ fun h => absurd h hE
      exact answersCalendar_refused (validateDaily_decides ⟨y, m, d, vehicleId⟩) hE _
  · by_cases hE : IsMonth y m
    · rw [forall_prop_of_true hE]
      exact answersCalendar_iff_count hE (monthly_reportsTotals hE.1 hE.2)
    · refine iff_of_true ?_ fun h => absurd h hE
      exact answersCalendar_refused (validateMonthly_decides ⟨y, m, vehicleId⟩) hE _
  · by_cases hE : IsYear y
    · rw [forall_prop_of_true hE]
      exact answersCalendar_iff_count hE (annual_reportsTotals hE)
    · refine iff_of_true ?_ fun h => absurd h hE
      exact answersCalendar_refused (validateYear_decides y) hE _

/-- The first day that `make_date` does not know is a day of the calendar: the daily report
refuses it, and the annual report of its year is OK. -/
theorem first_day_refused :
    IsDay 5874898 1 1 ∧
      (∃ r db', Serves .empty (getDailyChargingReport [] ⟨5874898, 1, 1, ""⟩) r db' ∧
        r.1.code = .INVALID_ARGUMENT) ∧
      (∃ r db', Serves .empty (getAnnualChargingReport [] ⟨5874898, ""⟩) r db' ∧ r.1 = .OK) ∧
      ¬ AnswersCalendar .empty (getDailyChargingReport [] ⟨5874898, 1, 1, ""⟩) (IsDay 5874898 1 1)
        (matching (calendarDay 5874898 1 1) "" .empty) := by
  have hday : IsDay 5874898 1 1 := by decide
  refine ⟨hday, ?_, ?_, ?_⟩
  · exact Serves.exists_run 1 (List.replicate 12 {}) (clean_replicate 12) (by decide +kernel)
  · exact Serves.exists_run 1 (List.replicate 12 {}) (clean_replicate 12) (by decide +kernel)
  · exact not_answersCalendar_daily hday (by decide) _

end EvGrpc
