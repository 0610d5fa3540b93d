import EvGrpc.Invariant.Charging
import EvGrpc.Services.Answers
import Mathlib.Algebra.BigOperators.Group.Multiset.Basic

/-!
# The calendar of the charging reports

The annual report asks for a year, the monthly one for a year and a month, and the
daily one compares the date itself with `make_date`.  A date is its year, month and day,
a month of a date is one of twelve and a day one of those `LastDayOfMonth` counts, so
the rows of a year are cut into those of its months and these into those of their days.
The rows of all vehicles are cut by the vehicle they refer to, which exists and has a
text of its own.

The sums are taken in any commutative monoid: with `ChargingTotals` they are the totals
of the reports, and with multisets of rows they say that no row is lost or counted
twice.
-/

namespace EvGrpc

open Lib

/-! ## Totals -/

namespace ChargingTotals

instance : Zero ChargingTotals := ⟨⟨0, 0, 0⟩⟩
instance : Add ChargingTotals := ⟨fun a b => ⟨a.cost + b.cost, a.kwh + b.kwh, a.count + b.count⟩⟩

instance : AddCommMonoid ChargingTotals where
  add_assoc _ _ _ := ChargingTotals.ext (add_assoc _ _ _) (add_assoc _ _ _) (add_assoc _ _ _)
  zero_add _ := ChargingTotals.ext (zero_add _) (zero_add _) (zero_add _)
  add_zero _ := ChargingTotals.ext (add_zero _) (add_zero _) (add_zero _)
  add_comm _ _ := ChargingTotals.ext (add_comm _ _) (add_comm _ _) (add_comm _ _)
  nsmul := nsmulRec

end ChargingTotals

/-- What one row adds to the totals. -/
def ChargingRow.share (c : ChargingRow) : ChargingTotals := ⟨c.cost, c.kwhCharged, 1⟩

/-- The rows a charging report is about. -/
def chosen (period : Instant → Bool) (vehicleId : String) (c : ChargingRow) : Bool :=
  period c.startTime && matchesVehicle vehicleId c.vehicleId

theorem sum_share (rows : List ChargingRow) :
    (rows.map ChargingRow.share).sum =
      ⟨(rows.map ChargingRow.cost).sum, (rows.map ChargingRow.kwhCharged).sum, rows.length⟩ := by
  induction rows with
  | nil => rfl
  | cons c rows ih =>
      rw [List.map_cons, List.sum_cons, ih]
      exact ChargingTotals.ext rfl rfl (Nat.add_comm _ _)

/-- The totals of a report are the sum of its rows' shares. -/
theorem chargingTotals_eq (period : Instant → Bool) (vehicleId : String) (db : Database) :
    chargingTotals period vehicleId db =
      sumWhere (chosen period vehicleId) ChargingRow.share db.charging :=
  (sum_share _).symm

/-- The totals do not depend on the order of the rows. -/
theorem chargingTotals_sameRows {period : Instant → Bool} {vehicleId : String} {db v : Database}
    (h : db.SameRows v) : chargingTotals period vehicleId v = chargingTotals period vehicleId db := by
  rw [chargingTotals_eq, chargingTotals_eq]
  exact sumWhere_perm h.2.2.2.2.symm

/-! ## Cutting a year -/

/-- A month number as the request carries it. -/
theorem toInt_ofNat {n : ℕ} (h : n ≤ 31) : (Int32.ofNat n).toInt = n := by
  rw [Int32.toInt_ofNat_of_lt]
  omega

/-- The day a daily report is about. -/
def dayPeriod (y m d : Int32) (t : Instant) : Bool :=
  match makeDate y m d with
  | .ok x => onDay x t
  | .error _ => false

section Cut
variable {M : Type} [AddCommMonoid M] {y : Int32} {vehicleId : String}

/-- The months of a year cover it, in any table whose rows have an instant. -/
theorem sum_months {α : Type} (time : α → Instant) (p : α → Bool) (f : α → M) (rows : List α) :
    ((List.range' 1 12).map fun m =>
        sumWhere (fun a => monthPeriod y (Int32.ofNat m) (time a) && p a) f rows).sum =
      sumWhere (fun a => inYear y (time a) && p a) f rows := by
  have hcover : ∀ a ∈ rows, (inYear y (time a) && p a) = true →
      (dateOf (time a)).month ∈ List.range' 1 12 := by
    intro a _ _
    have h₁ := (dateOf (time a)).month_pos
    have h₂ := (dateOf (time a)).month_le
    rw [List.mem_range'_1]
    omega
  rw [← sum_filter_cover f List.nodup_range' hcover]
  refine congrArg List.sum (List.map_congr_left fun m hm => sumWhere_congr f fun a _ => ?_)
  rw [List.mem_range'_1] at hm
  have hmonth : inMonth (Int32.ofNat m) (time a) = decide ((dateOf (time a)).month = m) := by
    unfold inMonth
    rw [toInt_ofNat (by omega)]
    simp
  simp only [monthPeriod, hmonth]
  rw [Bool.and_assoc, Bool.and_assoc, Bool.and_comm (decide _)]

/-- The date `make_date` gives for a day that exists. -/
theorem makeDate_ok {m d : ℕ} (hy : 1 ≤ y.toInt ∧ y.toInt ≤ maxYear) (hm : 1 ≤ m ∧ m ≤ 12)
    (hd : 1 ≤ d ∧ d ≤ daysInMonth y.toInt m) :
    ∃ x, makeDate y (Int32.ofNat m) (Int32.ofNat d) = .ok x ∧ x.year = y.toInt ∧ x.month = m ∧
      x.day = d := by
  have h31 : daysInMonth y.toInt m ≤ 31 := daysInMonth_le y.toInt m
  refine ⟨⟨y.toInt, m, d, hm.1, hm.2, hd.1, hd.2⟩, ?_, rfl, rfl, rfl⟩
  unfold makeDate
  rw [if_pos hy, toInt_ofNat (by omega), toInt_ofNat (by omega), Int.toNat_natCast,
    Int.toNat_natCast, (Date.make_eq_some_iff (x := ⟨y.toInt, m, d, hm.1, hm.2, hd.1, hd.2⟩)).mpr
      ⟨rfl, rfl, rfl⟩]

/-- A day is a day of its month. -/
theorem dayPeriod_eq {m d : ℕ} (hy : 1 ≤ y.toInt ∧ y.toInt ≤ maxYear) (hm : 1 ≤ m ∧ m ≤ 12)
    (hd : 1 ≤ d ∧ d ≤ daysInMonth y.toInt m) (t : Instant) :
    dayPeriod y (Int32.ofNat m) (Int32.ofNat d) t =
      (monthPeriod y (Int32.ofNat m) t && decide ((dateOf t).day = d)) := by
  obtain ⟨x, hx, h₁, h₂, h₃⟩ := makeDate_ok hy hm hd
  have hmonth : (Int32.ofNat m).toInt = m := toInt_ofNat (by omega)
  simp only [dayPeriod, hx, onDay, monthPeriod, inYear, inMonth, hmonth, ← Bool.decide_and,
    Date.ext_iff, h₁, h₂, h₃, Nat.cast_inj, and_assoc]

/-- The days of a month cover it. -/
theorem sum_days (hy : 1 ≤ y.toInt ∧ y.toInt ≤ maxYear) {m : ℕ} (hm : 1 ≤ m ∧ m ≤ 12)
    (f : ChargingRow → M) (rows : List ChargingRow) :
    ((List.range' 1 (lastDayOfMonth y.toInt m)).map fun d =>
        sumWhere (chosen (dayPeriod y (Int32.ofNat m) (Int32.ofNat d)) vehicleId) f rows).sum =
      sumWhere (chosen (monthPeriod y (Int32.ofNat m)) vehicleId) f rows := by
  rw [lastDayOfMonth_eq y.toInt m hm.1 hm.2]
  have hcover : ∀ c ∈ rows, chosen (monthPeriod y (Int32.ofNat m)) vehicleId c = true →
      (dateOf c.startTime).day ∈ List.range' 1 (daysInMonth y.toInt m) := by
    intro c _ hc
    have h₁ := (dateOf c.startTime).day_pos
    have h₂ := (dateOf c.startTime).day_le
    simp only [chosen, monthPeriod, inYear, inMonth, Bool.and_eq_true, decide_eq_true_eq,
      toInt_ofNat (show m ≤ 31 by omega), Nat.cast_inj] at hc
    rw [hc.1.1, hc.1.2] at h₂
    rw [List.mem_range'_1]
    omega
  rw [← sum_filter_cover f List.nodup_range' hcover]
  refine congrArg List.sum (List.map_congr_left fun d hd => sumWhere_congr f fun c _ => ?_)
  rw [List.mem_range'_1] at hd
  simp only [chosen, dayPeriod_eq hy hm (show 1 ≤ d ∧ d ≤ daysInMonth y.toInt m by omega)]
  rw [Bool.and_assoc, Bool.and_assoc, Bool.and_comm (decide _)]

/-- The text of a vehicle's id selects the rows that refer to it. -/
theorem matchesVehicle_uuidOut (u v : Uuid) : matchesVehicle (uuidOut u) v = decide (v = u) := by
  simp [matchesVehicle, hasVehicleText, uuidOut_ne_empty, uuidOut_injective.eq_iff]

@[simp] theorem matchesVehicle_empty (v : Uuid) : matchesVehicle "" v = true := by
  simp [matchesVehicle]

/-- The vehicles cover the rows of all of them. -/
theorem sum_vehicles (period : Instant → Bool) (f : ChargingRow → M) (db : Database) :
    (db.vehicle.map fun u => sumWhere (chosen period (uuidOut u.id)) f db.charging).sum =
      sumWhere (chosen period "") f db.charging := by
  have hcover : ∀ c ∈ db.charging, chosen period "" c = true →
      c.vehicleId ∈ db.vehicle.map VehicleRow.id := fun c hc _ => db.charging_vehicle c hc
  rw [← sum_filter_cover f db.vehicle_pk hcover, List.map_map]
  refine congrArg List.sum (List.map_congr_left fun u _ => sumWhere_congr f fun c _ => ?_)
  simp [chosen, matchesVehicle_uuidOut]

end Cut

/-! ## The three reports -/

/-- The handler has one reply on these rows: the report made from the totals, unless the
count does not fit. -/
def ReportsTotals (db : Database) (p : Prog Op (Reply ChargingReport))
    (f : Numeric × Numeric × ℤ → ChargingReport) (x : ChargingTotals) : Prop :=
  ∀ r db', Serves db p r db' ↔ db' = db ∧ r = answer (f <$> x.row)

/-- The rows a charging report is about, with the number of times it meets each. -/
def selected (period : Instant → Bool) (vehicleId : String) (db : Database) :
    Multiset ChargingRow :=
  (db.charging.filter (chosen period vehicleId) : List ChargingRow)

theorem selected_eq (period : Instant → Bool) (vehicleId : String) (db : Database) :
    selected period vehicleId db =
      sumWhere (chosen period vehicleId) (fun c => ({c} : Multiset ChargingRow)) db.charging := by
  unfold selected sumWhere
  induction db.charging.filter (chosen period vehicleId) with
  | nil => rfl
  | cons c rows ih => rw [List.map_cons, List.sum_cons, ← ih, Multiset.singleton_add]; rfl

section Handlers
variable {db : Database} {md : Metadata} {y : Int32} {vehicleId : String}

theorem reportsTotals_of_readAll {kMethod : String} {st : Status} (hst : st.ok = true)
    {q : Database → Except Exn (Numeric × Numeric × ℤ)}
    {f : Numeric × Numeric × ℤ → ChargingReport} {x : ChargingTotals}
    (hq : ∀ v, db.SameRows v → q v = x.row) :
    ReportsTotals db (authenticated md kMethod (validated st (catching
      (readAll q fun row => .ok (f row))))) f x := by
  intro r db'
  rw [serves_validated, if_pos hst, serves_readAll]
  have hmap : ∀ z : Except Exn (Numeric × Numeric × ℤ),
      (z >>= fun row => .ok (f row)) = f <$> z := by
    intro z
    cases z <;> rfl
  constructor
  · rintro ⟨rfl, v, hv, rfl⟩
    rw [hq v hv, hmap]
    exact ⟨rfl, rfl⟩
  · rintro ⟨rfl, rfl⟩
    exact ⟨rfl, db', .refl db', by rw [hq db' (.refl db'), hmap]⟩

theorem annual_reportsTotals (hy : 1900 ≤ y.toInt) :
    ReportsTotals db (getAnnualChargingReport md ⟨y, vehicleId⟩) (chargingReportOf y 0 0 vehicleId)
      (chargingTotals (inYear y) vehicleId db) := by
  refine reportsTotals_of_readAll ?_ fun v hv => ?_
  · simp [validateYear, show ¬ y.toInt < 1900 by omega]
  · exact congrArg ChargingTotals.row (chargingTotals_sameRows hv)

theorem monthly_reportsTotals (hy : 1900 ≤ y.toInt) {m : Int32}
    (hm : 1 ≤ m.toInt ∧ m.toInt ≤ 12) :
    ReportsTotals db (getMonthlyChargingReport md ⟨y, m, vehicleId⟩)
      (chargingReportOf y m 0 vehicleId) (chargingTotals (monthPeriod y m) vehicleId db) := by
  refine reportsTotals_of_readAll ?_ fun v hv => ?_
  · simp [validateMonthly, show ¬ y.toInt < 1900 by omega,
      show ¬ (m.toInt < 1 ∨ 12 < m.toInt) by omega]
  · exact congrArg ChargingTotals.row (chargingTotals_sameRows hv)

theorem daily_reportsTotals (hy : 1900 ≤ y.toInt ∧ y.toInt ≤ maxYear) {m d : ℕ}
    (hm : 1 ≤ m ∧ m ≤ 12) (hd : 1 ≤ d ∧ d ≤ lastDayOfMonth y.toInt m) :
    ReportsTotals db (getDailyChargingReport md ⟨y, Int32.ofNat m, Int32.ofNat d, vehicleId⟩)
      (chargingReportOf y (Int32.ofNat m) (Int32.ofNat d) vehicleId)
      (chargingTotals (dayPeriod y (Int32.ofNat m) (Int32.ofNat d)) vehicleId db) := by
  have hd' := hd.2
  rw [lastDayOfMonth_eq y.toInt m hm.1 hm.2] at hd'
  have h31 : daysInMonth y.toInt m ≤ 31 := daysInMonth_le y.toInt m
  obtain ⟨x, hx, -⟩ := makeDate_ok (y := y) ⟨by omega, hy.2⟩ hm ⟨hd.1, hd'⟩
  have hperiod : dayPeriod y (Int32.ofNat m) (Int32.ofNat d) = onDay x := by
    funext t
    simp only [dayPeriod, hx]
  rw [hperiod]
  refine reportsTotals_of_readAll ?_ fun v hv => ?_
  · have hmi : (Int32.ofNat m).toInt = m := toInt_ofNat (by omega)
    have hdi : (Int32.ofNat d).toInt = d := toInt_ofNat (by omega)
    simp only [validateDaily, hmi, hdi]
    rw [if_neg (by omega), if_neg (by omega), if_neg (by omega)]
    rfl
  · simp only [dailyCharging, hx]
    exact congrArg ChargingTotals.row (chargingTotals_sameRows hv)

end Handlers

/-- What a charging report asks for: a period and a vehicle. -/
abbrev Question := (Instant → Bool) × String

/-- Some reports make up another one: their totals add up to its totals, and the rows
they are about are its rows, each once. -/
structure MakesUp (db : Database) (parts : List Question) (whole : Question) : Prop where
  totals : (parts.map fun q => chargingTotals q.1 q.2 db).sum = chargingTotals whole.1 whole.2 db
  rows : (parts.map fun q => selected q.1 q.2 db).sum = selected whole.1 whole.2 db

/-- It is enough to know that sums add up. -/
theorem makesUp_of_sum {db : Database} {parts : List Question} {whole : Question}
    (h : ∀ {M : Type} [AddCommMonoid M] (f : ChargingRow → M),
      (parts.map fun q => sumWhere (chosen q.1 q.2) f db.charging).sum =
        sumWhere (chosen whole.1 whole.2) f db.charging) : MakesUp db parts whole := by
  refine ⟨?_, ?_⟩
  · simp only [chargingTotals_eq]
    exact h _
  · simp only [selected_eq]
    exact h _

/-- The charging reports partition the rows: a year into its months, a month into its
days, and the rows of all vehicles into those of each vehicle. -/
theorem charging_reports_partition (db : Database) (y : Int32) (h₁ : 1900 ≤ y.toInt)
    (h₂ : y.toInt ≤ maxYear) :
    (∀ md v, ReportsTotals db (getAnnualChargingReport md ⟨y, v⟩) (chargingReportOf y 0 0 v)
      (chargingTotals (inYear y) v db)) ∧
    (∀ md v (m : ℕ), 1 ≤ m ∧ m ≤ 12 →
      ReportsTotals db (getMonthlyChargingReport md ⟨y, Int32.ofNat m, v⟩)
        (chargingReportOf y (Int32.ofNat m) 0 v)
        (chargingTotals (monthPeriod y (Int32.ofNat m)) v db)) ∧
    (∀ md v (m d : ℕ), 1 ≤ m ∧ m ≤ 12 → 1 ≤ d ∧ d ≤ lastDayOfMonth y.toInt m →
      ReportsTotals db (getDailyChargingReport md ⟨y, Int32.ofNat m, Int32.ofNat d, v⟩)
        (chargingReportOf y (Int32.ofNat m) (Int32.ofNat d) v)
        (chargingTotals (dayPeriod y (Int32.ofNat m) (Int32.ofNat d)) v db)) ∧
    (∀ v, MakesUp db ((List.range' 1 12).map fun m => (monthPeriod y (Int32.ofNat m), v))
      (inYear y, v)) ∧
    (∀ v (m : ℕ), 1 ≤ m ∧ m ≤ 12 →
      MakesUp db ((List.range' 1 (lastDayOfMonth y.toInt m)).map fun d =>
        (dayPeriod y (Int32.ofNat m) (Int32.ofNat d), v)) (monthPeriod y (Int32.ofNat m), v)) ∧
    (∀ period, MakesUp db (db.vehicle.map fun u => (period, uuidOut u.id)) (period, "")) := by
  have hy : 1 ≤ y.toInt ∧ y.toInt ≤ maxYear := ⟨by omega, h₂⟩
  refine ⟨?_, ?_, ?_, ?_, ?_, ?_⟩
  · intro md v
    exact annual_reportsTotals h₁
  · intro md v m hm
    refine monthly_reportsTotals h₁ ?_
    rw [toInt_ofNat (by omega)]
    omega
  · intro md v m d hm hd
    exact daily_reportsTotals ⟨h₁, h₂⟩ hm hd
  · intro v
    refine makesUp_of_sum fun f => ?_
    rw [List.map_map]
    exact sum_months ChargingRow.startTime (fun c => matchesVehicle v c.vehicleId) f db.charging
  · intro v m hm
    refine makesUp_of_sum fun f => ?_
    rw [List.map_map]
    exact sum_days hy hm f db.charging
  · intro period
    refine makesUp_of_sum fun f => ?_
    rw [List.map_map]
    exact sum_vehicles period f db

/-- Two chargings of November 2023 and one of December, of two vehicles out of three. -/
theorem charging_reports_partition_2023 :
    (chargingTotals (inYear 2023) "" fleet = ⟨.num 26, .num 38, 3⟩ ∧
      chargingTotals (monthPeriod 2023 11) "" fleet = ⟨.num 19, .num 30, 2⟩ ∧
      chargingTotals (inYear 2023) (uuidOut (someUuid 0)) fleet = ⟨.num 17, .num 18, 2⟩) ∧
      (∀ md v, ReportsTotals fleet (getAnnualChargingReport md ⟨2023, v⟩)
        (chargingReportOf 2023 0 0 v) (chargingTotals (inYear 2023) v fleet)) ∧
      (∀ v, MakesUp fleet ((List.range' 1 12).map fun m => (monthPeriod 2023 (Int32.ofNat m), v))
        (inYear 2023, v)) ∧
      MakesUp fleet (fleet.vehicle.map fun u => (inYear 2023, uuidOut u.id)) (inYear 2023, "") := by
  obtain ⟨hannual, -, -, hmonths, -, hvehicles⟩ :=
    charging_reports_partition fleet 2023 (by decide) (by decide)
  exact ⟨by decide +kernel, hannual, hmonths, hvehicles _⟩

end EvGrpc
