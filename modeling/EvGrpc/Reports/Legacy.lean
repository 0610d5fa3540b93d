import EvGrpc.Reports.Period

/-!
# Two generations of period reports

`GetMonthlyReport` and `GetAnnualReport` look for a charging by the text of the vehicle, then
sum up by its id, and refuse a period without a charging.  `GetMonthlyChargingReport` and
`GetAnnualChargingReport` ask once, by text, and count.  A text that matches a charging is
the id of its vehicle as PostgreSQL prints it, so the second statement of the old reports
can read it, and both generations sum up the same rows.

Two things come in between.  A string that starts with a NUL arrives as the empty text,
which the gate takes for no filter and the second statement for a malformed id; and the
count of the new reports has to fit an `INT`.  `period_reports_agree_iff` says that there
is nothing else.
-/

namespace EvGrpc

open Lib

/-- The reply of the old report and the reply of the new one say the same. -/
structure SayTheSame (r : Reply PeriodReport) (r' : Reply ChargingReport) : Prop where
  ok : r.1.ok = true ↔ ∃ resp', r' = (.OK, some resp') ∧ 0 < resp'.count
  totals : ∀ resp resp', r = (.OK, some resp) → r' = (.OK, some resp') →
    resp.totalCost = resp'.totalCost ∧ resp.totalKwh = resp'.totalKwh
  refused : r = (noAggregateRow, none) ↔ ∃ resp', r' = (.OK, some resp') ∧ resp'.count = 0

/-- Both reports answer on these rows, and whatever they answer says the same. -/
def ReportsAgree (db : Database) (p : Prog Op (Reply PeriodReport))
    (p' : Prog Op (Reply ChargingReport)) : Prop :=
  (∃ r r', Serves db p r db ∧ Serves db p' r' db) ∧
    ∀ r d r' d', Serves db p r d → Serves db p' r' d' → SayTheSame r r'

/-- The chargings of a period can be reported in both ways, or in neither: there are none, or
the vehicle is read as it is compared just when the count fits. -/
def Comparable (period : Instant → Bool) (vehicleId : String) (db : Database) : Prop :=
  db.charging.countP (chosen period vehicleId) = 0 ∨
    (startsWithNul vehicleId = false ↔
      db.charging.countP (chosen period vehicleId) ≤ 2147483647)

/-! ## One period -/

section Period
variable {db : Database} {period : Instant → Bool} {vehicleId : String}

/-- A report that has one reply each way agrees when these say the same. -/
theorem reportsAgree_iff {p : Prog Op (Reply PeriodReport)} {p' : Prog Op (Reply ChargingReport)}
    {x : Reply PeriodReport} {x' : Reply ChargingReport}
    (h : ∀ r d, Serves db p r d ↔ d = db ∧ r = x)
    (h' : ∀ r d, Serves db p' r d ↔ d = db ∧ r = x') : ReportsAgree db p p' ↔ SayTheSame x x' := by
  constructor
  · intro hagree
    exact hagree.2 x db x' db ((h x db).mpr ⟨rfl, rfl⟩) ((h' x' db).mpr ⟨rfl, rfl⟩)
  · intro hsame
    refine ⟨⟨x, x', (h x db).mpr ⟨rfl, rfl⟩, (h' x' db).mpr ⟨rfl, rfl⟩⟩, ?_⟩
    intro r d r' d' hr hr'
    rw [((h r d).mp hr).2, ((h' r' d').mp hr').2]
    exact hsame

/-- Two replies that are not OK say the same, unless the first found no charging. -/
theorem sayTheSame_of_not_ok {r : Reply PeriodReport} {r' : Reply ChargingReport}
    (h : r.1.ok = false) (hrow : r ≠ (noAggregateRow, none)) (h' : r'.1.ok = false) :
    SayTheSame r r' := by
  have hnot : ∀ resp', r' ≠ (.OK, some resp') := by
    rintro resp' rfl
    cases h'
  refine ⟨?_, ?_, ?_⟩
  · simp [h, hnot]
  · intro resp resp' _ hr'
    exact absurd hr' (hnot resp')
  · simp [hrow, hnot]

/-- The number of chargings is what the new report counts. -/
theorem count_chargingTotals :
    (chargingTotals period vehicleId db).count = db.charging.countP (chosen period vehicleId) :=
  List.countP_eq_length_filter.symm

theorem any_chosen_iff : db.charging.any (chosen period vehicleId) = true ↔
    db.charging.countP (chosen period vehicleId) ≠ 0 := by
  rw [← Nat.pos_iff_ne_zero, List.countP_pos_iff, List.any_eq_true]

/-- The reply of the new report when the count fits. -/
theorem chargingReply_ok {y m d : Int32}
    (hmax : db.charging.countP (chosen period vehicleId) ≤ 2147483647) :
    answer (chargingReportOf y m d vehicleId <$> (chargingTotals period vehicleId db).row) =
      (.OK, some (chargingReportOf y m d vehicleId ((chargingTotals period vehicleId db).cost,
        (chargingTotals period vehicleId db).kwh,
        (db.charging.countP (chosen period vehicleId) : ℕ)))) := by
  have hfits : FitsInt4 ((chargingTotals period vehicleId db).count : ℤ) := by
    rw [count_chargingTotals]
    unfold FitsInt4
    omega
  rw [ChargingTotals.row, toInt4_eq_ok hfits, count_chargingTotals]
  rfl

/-- The reply of the new report when it does not. -/
theorem chargingReply_error {y m d : Int32}
    (hmax : ¬ db.charging.countP (chosen period vehicleId) ≤ 2147483647) :
    answer (chargingReportOf y m d vehicleId <$> (chargingTotals period vehicleId db).row) =
      (toGrpcStatus integerOutOfRange, none) := by
  rw [ChargingTotals.row, toInt4, if_neg (by rw [count_chargingTotals]; omega)]
  rfl

/-- The two replies for a period say the same exactly when its chargings are comparable. -/
theorem sayTheSame_iff {y m : Int32} : SayTheSame (periodReply y m period vehicleId db)
    (answer (chargingReportOf y m 0 vehicleId <$> (chargingTotals period vehicleId db).row)) ↔
      Comparable period vehicleId db := by
  unfold Comparable
  by_cases hany : db.charging.any (chosen period vehicleId) = true
  · have hpos := any_chosen_iff.mp hany
    by_cases hmax : db.charging.countP (chosen period vehicleId) ≤ 2147483647
    · rw [chargingReply_ok hmax]
      cases hnul : startsWithNul vehicleId with
      | false =>
          -- Both report the rows.
          have hreply : (.OK, some (periodReportOf y m vehicleId (totalsIn period vehicleId db))) =
              periodReply y m period vehicleId db := periodReply_ok_iff.mpr ⟨hnul, hany, rfl⟩
          simp only [hmax, iff_true, or_true]
          rw [← hreply]
          refine ⟨?_, ?_, ?_⟩
          · simp [chargingReportOf, Nat.pos_iff_ne_zero, hpos]
          · rintro _ _ ⟨⟩ ⟨⟩
            exact ⟨rfl, rfl⟩
          · simp [chargingReportOf, noAggregateRow, Status.OK, hpos]
      | true =>
          -- The old report cannot read the vehicle.
          simp only [hpos, hmax, Bool.true_eq_false, false_or, false_iff, not_true_eq_false, iff_false]
          intro h
          have hok := h.ok.mpr ⟨_, rfl, by simp [chargingReportOf, Nat.pos_iff_ne_zero, hpos]⟩
          simp [periodReply, hany, hnul] at hok
    · rw [chargingReply_error hmax]
      cases hnul : startsWithNul vehicleId with
      | false =>
          -- The new report cannot count the rows.
          simp only [hpos, hmax, false_or, iff_false, not_true_eq_false]
          intro h
          obtain ⟨resp', hr', -⟩ := h.ok.mp (by simp [periodReply, hany, hnul])
          cases hr'
      | true =>
          simp only [hmax, Bool.true_eq_false, or_true, iff_true]
          refine sayTheSame_of_not_ok ?_ ?_ (ok_toGrpcStatus _)
          · simp [periodReply, hany, hnul]
          · simp [periodReply, hany, hnul, emptyUuid, dataException, toGrpcStatus, noAggregateRow]
  · have hzero : db.charging.countP (chosen period vehicleId) = 0 := by
      by_contra h
      exact hany (any_chosen_iff.mpr h)
    simp only [hzero, true_or, iff_true]
    rw [chargingReply_ok (by omega), periodReply, if_neg hany]
    refine ⟨?_, ?_, ?_⟩
    · simp [chargingReportOf, hzero, noAggregateRow]
    · rintro _ _ ⟨⟩
    · simp [chargingReportOf, hzero]

end Period

/-! ## Both reports -/

section Reports
variable {db : Database} {md md' : Metadata} {y m : Int32} {vehicleId : String}

@[simp] theorem ok_invalidArgument (message : String) : (invalidArgument message).ok = false := rfl

/-- The checks of the two monthly reports, made in one or one after the other. -/
theorem validateMonth_ok_iff : (validateMonth ⟨y, m, vehicleId⟩).ok = true ↔
    1900 ≤ y.toInt ∧ 1 ≤ m.toInt ∧ m.toInt ≤ 12 := by
  simp only [validateMonth]
  split_ifs with h
  · simp only [ok_invalidArgument, Bool.false_eq_true, false_iff]
    omega
  · simp only [Status.ok_OK, true_iff]
    omega

theorem validateMonthly_ok_iff : (validateMonthly ⟨y, m, vehicleId⟩).ok = true ↔
    1900 ≤ y.toInt ∧ 1 ≤ m.toInt ∧ m.toInt ≤ 12 := by
  simp only [validateMonthly]
  split_ifs with hy hm
  · simp only [ok_invalidArgument, Bool.false_eq_true, false_iff]
    omega
  · simp only [ok_invalidArgument, Bool.false_eq_true, false_iff]
    omega
  · simp only [Status.ok_OK, true_iff]
    omega

/-- Two reports with these checks reject the same requests: each answers with the status of its
check and asks nothing. -/
def RejectTogether (db : Database) (st st' : Status) (p : Prog Op (Reply PeriodReport))
    (p' : Prog Op (Reply ChargingReport)) : Prop :=
  st.ok = st'.ok ∧ (st.ok = false → (∀ r d, Serves db p r d ↔ d = db ∧ r = (st, none)) ∧
    ∀ r d, Serves db p' r d ↔ d = db ∧ r = (st', none))

section Rejected
variable {kMethod kMethod' : String} {st st' : Status} {body : Prog Op (Reply PeriodReport)}
  {body' : Prog Op (Reply ChargingReport)}

theorem rejectTogether (h : st.ok = st'.ok) : RejectTogether db st st'
    (authenticated md kMethod (validated st body))
    (authenticated md' kMethod' (validated st' body')) := by
  refine ⟨h, fun hst => ⟨fun r d => ?_, fun r d => ?_⟩⟩
  · simp [serves_validated, hst, and_comm]
  · simp [serves_validated, ← h, hst, and_comm]

/-- Rejected requests get replies that say the same. -/
theorem reportsAgree_of_rejected {p : Prog Op (Reply PeriodReport)}
    {p' : Prog Op (Reply ChargingReport)} (h : RejectTogether db st st' p p')
    (hst : st.ok = false) (hrow : st ≠ noAggregateRow) : ReportsAgree db p p' := by
  obtain ⟨hserves, hserves'⟩ := h.2 hst
  rw [reportsAgree_iff hserves hserves']
  exact sayTheSame_of_not_ok hst (by simp [hrow]) (h.1.symm.trans hst)

end Rejected

theorem monthly_reject : RejectTogether db (validateMonth ⟨y, m, vehicleId⟩)
    (validateMonthly ⟨y, m, vehicleId⟩) (getMonthlyReport md ⟨y, m, vehicleId⟩)
    (getMonthlyChargingReport md' ⟨y, m, vehicleId⟩) := by
  refine rejectTogether ?_
  rw [Bool.eq_iff_iff, validateMonth_ok_iff, validateMonthly_ok_iff]

theorem annual_reject : RejectTogether db (validateYear y) (validateYear y)
    (getAnnualReport md ⟨y, vehicleId⟩) (getAnnualChargingReport md' ⟨y, vehicleId⟩) :=
  rejectTogether rfl

theorem monthly_reports_agree_iff (hfit : ∀ k ∈ db.consumption, FitsInt4 k.km) :
    ReportsAgree db (getMonthlyReport md ⟨y, m, vehicleId⟩)
        (getMonthlyChargingReport md' ⟨y, m, vehicleId⟩) ↔
      (validateMonth ⟨y, m, vehicleId⟩).ok = false ∨ Comparable (monthPeriod y m) vehicleId db := by
  cases hvalid : (validateMonth ⟨y, m, vehicleId⟩).ok with
  | false =>
      simp only [true_or, iff_true]
      refine reportsAgree_of_rejected monthly_reject hvalid ?_
      unfold validateMonth
      split <;> decide
  | true =>
      obtain ⟨hy, hm⟩ := validateMonth_ok_iff.mp hvalid
      have hold : ∀ r d, Serves db (getMonthlyReport md ⟨y, m, vehicleId⟩) r d ↔
          d = db ∧ r = periodReply y m (monthPeriod y m) vehicleId db := by
        intro r d
        unfold getMonthlyReport
        rw [serves_validated, if_pos hvalid]
        exact serves_periodReport hfit
      rw [reportsAgree_iff hold (monthly_reportsTotals hy hm), sayTheSame_iff]
      simp

theorem annual_reports_agree_iff (hfit : ∀ k ∈ db.consumption, FitsInt4 k.km) :
    ReportsAgree db (getAnnualReport md ⟨y, vehicleId⟩)
        (getAnnualChargingReport md' ⟨y, vehicleId⟩) ↔
      (validateYear y).ok = false ∨ Comparable (inYear y) vehicleId db := by
  cases hvalid : (validateYear y).ok with
  | false =>
      simp only [true_or, iff_true]
      refine reportsAgree_of_rejected annual_reject hvalid ?_
      unfold validateYear
      split <;> decide
  | true =>
      have hy : 1900 ≤ y.toInt := by
        by_contra hlt
        rw [validateYear, if_pos (by omega)] at hvalid
        cases hvalid
      rw [reportsAgree_iff (fun r d => serves_getAnnualReport hfit hy) (annual_reportsTotals hy),
        sayTheSame_iff]
      simp

end Reports

/-- **The two generations agree.**  They reject the same periods, and on all other requests
they say the same exactly when the chargings of the period are comparable. -/
theorem period_reports_agree_iff (db : Database) (hfit : ∀ k ∈ db.consumption, FitsInt4 k.km)
    (md md' : Metadata) (y m : Int32) (vehicleId : String) :
    (RejectTogether db (validateMonth ⟨y, m, vehicleId⟩) (validateMonthly ⟨y, m, vehicleId⟩)
        (getMonthlyReport md ⟨y, m, vehicleId⟩) (getMonthlyChargingReport md' ⟨y, m, vehicleId⟩) ∧
      (ReportsAgree db (getMonthlyReport md ⟨y, m, vehicleId⟩)
          (getMonthlyChargingReport md' ⟨y, m, vehicleId⟩) ↔
        (validateMonth ⟨y, m, vehicleId⟩).ok = false ∨
          Comparable (monthPeriod y m) vehicleId db)) ∧
    (RejectTogether db (validateYear y) (validateYear y)
        (getAnnualReport md ⟨y, vehicleId⟩) (getAnnualChargingReport md' ⟨y, vehicleId⟩) ∧
      (ReportsAgree db (getAnnualReport md ⟨y, vehicleId⟩)
          (getAnnualChargingReport md' ⟨y, vehicleId⟩) ↔
        (validateYear y).ok = false ∨ Comparable (inYear y) vehicleId db)) :=
  ⟨⟨monthly_reject, monthly_reports_agree_iff hfit⟩, annual_reject, annual_reports_agree_iff hfit⟩

/-- A vehicle id of a single NUL: the new report of November 2023 counts the charging, the old
one fails to read the id. -/
theorem nul_reports_differ :
    (∀ k ∈ chargedOnce.consumption, FitsInt4 k.km) ∧
      (∃ r db', Serves chargedOnce (getMonthlyReport [] ⟨2023, 11, "\x00"⟩) r db' ∧
        r = (toGrpcStatus emptyUuid, none)) ∧
      (∃ r db', Serves chargedOnce (getMonthlyChargingReport [] ⟨2023, 11, "\x00"⟩) r db' ∧
        r.1 = .OK ∧ r.2.map ChargingReport.count = some 1) ∧
      ¬ ReportsAgree chargedOnce (getMonthlyReport [] ⟨2023, 11, "\x00"⟩)
        (getMonthlyChargingReport [] ⟨2023, 11, "\x00"⟩) := by
  have hfit : ∀ k ∈ chargedOnce.consumption, FitsInt4 k.km := by decide +kernel
  refine ⟨hfit, ?_, ?_, ?_⟩
  · exact Serves.exists_run 1 (List.replicate 12 {}) (clean_replicate 12) (by decide +kernel)
  · exact Serves.exists_run 1 (List.replicate 12 {}) (clean_replicate 12) (by decide +kernel)
  · rw [monthly_reports_agree_iff hfit]
    have hcount : chargedOnce.charging.countP (chosen (monthPeriod 2023 11) "\x00") = 1 := by
      decide +kernel
    simp only [Comparable, hcount, validateMonth]
    decide

/-- Two vehicles in November 2023, and one of them in the whole year. -/
theorem period_reports_agree_iff_november :
    (fleet.charging.countP (chosen (monthPeriod 2023 11) "") = 2 ∧
      ReportsAgree fleet (getMonthlyReport [] ⟨2023, 11, ""⟩)
        (getMonthlyChargingReport [] ⟨2023, 11, ""⟩)) ∧
      fleet.charging.countP (chosen (inYear 2023) (uuidOut (someUuid 0))) = 2 ∧
      ReportsAgree fleet (getAnnualReport [] ⟨2023, uuidOut (someUuid 0)⟩)
        (getAnnualChargingReport [] ⟨2023, uuidOut (someUuid 0)⟩) := by
  have hfit : ∀ k ∈ fleet.consumption, FitsInt4 k.km := by decide +kernel
  have hmonth : fleet.charging.countP (chosen (monthPeriod 2023 11) "") = 2 := by decide +kernel
  have hyear : fleet.charging.countP (chosen (inYear 2023) (uuidOut (someUuid 0))) = 2 := by
    decide +kernel
  refine ⟨⟨hmonth, ?_⟩, hyear, ?_⟩
  · refine (period_reports_agree_iff fleet hfit [] [] 2023 11 "").1.2.mpr (.inr ?_)
    simp only [Comparable, hmonth]
    decide
  · refine (period_reports_agree_iff fleet hfit [] [] 2023 11 (uuidOut (someUuid 0))).2.2.mpr
      (.inr ?_)
    simp only [Comparable, hyear]
    decide

end EvGrpc
