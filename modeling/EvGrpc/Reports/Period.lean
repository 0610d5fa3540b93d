import EvGrpc.Invariant.Consumption
import EvGrpc.Reports.Charging

/-!
# The period reports

`GetMonthlyReport` and `GetAnnualReport` look for a charging in their period before they
report, and refuse when there is none.  Costs and energies come from the charging table,
so a month that is refused has none of them, and the months add up to the year.
Distances come from the other table: a month with trips and no charging is refused, and
its kilometres are in the annual report alone.
-/

namespace EvGrpc

open Lib

/-- The trips a period report is about. -/
def driven (period : Instant → Bool) (vehicleId : String) (k : ConsumptionRow) : Bool :=
  period k.start && matchesVehicle vehicleId k.vehicleId

/-- The totals of a period, as sums. -/
def totalsIn (period : Instant → Bool) (vehicleId : String) (db : Database) : Totals where
  cost := sumWhere (chosen period vehicleId) ChargingRow.cost db.charging
  kwh := sumWhere (chosen period vehicleId) ChargingRow.kwhCharged db.charging
  km := sumWhere (driven period vehicleId) ConsumptionRow.km db.consumption

/-- The empty text is not a `UUID`. -/
def emptyUuid : Exn := dataException "invalid input syntax for type uuid: \"\""

/-- The reply of a period report.  A string that arrives as the empty text opens the gate as
if there were no filter, and the second statement cannot read it as an id. -/
def periodReply (year month : Int32) (period : Instant → Bool) (vehicleId : String)
    (db : Database) : Reply PeriodReport :=
  if db.charging.any (chosen period vehicleId) = true then
    if startsWithNul vehicleId = true then (toGrpcStatus emptyUuid, none)
    else (.OK, some (periodReportOf year month vehicleId (totalsIn period vehicleId db)))
  else (noAggregateRow, none)

/-! ## One report -/

section One
variable {db v : Database} {period : Instant → Bool} {vehicleId : String}

/-- A text that matches some vehicle is read as that vehicle, or as none at all. -/
theorem vehicleOf_eq {u : Uuid} (hnul : startsWithNul vehicleId = false)
    (h : matchesVehicle vehicleId u = true) :
    ∃ o, vehicleOf vehicleId = .ok o ∧ ∀ w, hasVehicle o w = matchesVehicle vehicleId w := by
  by_cases hempty : vehicleId = ""
  · subst hempty
    refine ⟨none, rfl, ?_⟩
    intro w
    rw [matchesVehicle_empty]
    rfl
  · have htext : uuidOut u = received vehicleId := by
      simpa [matchesVehicle, received_eq_empty_iff, hempty, hnul, hasVehicleText] using h
    have hread : uuidIn vehicleId = some u := by
      rw [← uuidIn_received, ← htext, uuidIn_uuidOut]
    refine ⟨some u, ?_, ?_⟩
    · simp [vehicleOf, hempty, Param.asUuid, hread]
    · intro w
      simp [matchesVehicle, hasVehicleText, ← htext, uuidOut_ne_empty, uuidOut_injective.eq_iff,
        hasVehicle]

/-- A text that arrives empty is not read as a vehicle. -/
theorem vehicleOf_error (hnul : startsWithNul vehicleId = true) :
    vehicleOf vehicleId = .error emptyUuid := by
  have hne : vehicleId ≠ "" := by
    rintro rfl
    cases hnul
  have hreceived : received vehicleId = "" := received_eq_empty_iff.mpr (.inr hnul)
  have hread : uuidIn vehicleId = none := by
    rw [← uuidIn_received, hreceived]
    rfl
  simp [vehicleOf, hne, Param.asUuid, hread, hreceived, emptyUuid]

/-- Behind the gate the statement gives the sums. -/
theorem periodTotals_eq (hfit : ∀ k ∈ db.consumption, FitsInt4 k.km) (hv : db.SameRows v)
    (hnul : startsWithNul vehicleId = false)
    (hany : db.charging.any (chosen period vehicleId) = true) :
    periodTotals period vehicleId v = .ok (totalsIn period vehicleId db) := by
  obtain ⟨c, -, hc⟩ := List.any_eq_true.mp hany
  simp only [chosen, Bool.and_eq_true] at hc
  obtain ⟨o, ho, hmatch⟩ := vehicleOf_eq hnul hc.2
  unfold periodTotals
  rw [ho]
  change totals _ _ = _
  simp only [hmatch]
  rw [totals_eq_ok fun k hk => hfit k (hv.2.2.2.1.mem_iff.mpr (List.mem_filter.mp hk).1)]
  have hcharging := hv.2.2.2.2
  have hconsumption := hv.2.2.2.1
  refine congrArg Except.ok ?_
  rw [totalsIn, sumWhere_perm hcharging, sumWhere_perm hcharging, sumWhere_perm hconsumption]
  rfl

/-- The gate does not depend on the order of the rows. -/
theorem periodExists_eq (hv : db.SameRows v) :
    periodExists period vehicleId v = .ok (db.charging.any (chosen period vehicleId)) := by
  refine congrArg Except.ok ?_
  rw [Bool.eq_iff_iff, List.any_eq_true, List.any_eq_true]
  simp only [hv.2.2.2.2.mem_iff]
  rfl

/-- A period report has one reply. -/
theorem serves_periodReport {md : Metadata} {kMethod : String} {year month : Int32}
    (hfit : ∀ k ∈ db.consumption, FitsInt4 k.km) {r : Reply PeriodReport} {db' : Database} :
    Serves db (authenticated md kMethod (catching (periodReport year month period vehicleId)))
      r db' ↔ db' = db ∧ r = periodReply year month period vehicleId db := by
  have hgate : ∀ w w', db.SameRows w → db.SameRows w' →
      gated (periodExists period vehicleId w)
        (periodReportOf year month vehicleId <$> periodTotals period vehicleId w') =
      periodReply year month period vehicleId db := by
    intro w w' hw hw'
    rw [periodExists_eq hw]
    unfold periodReply
    by_cases hany : db.charging.any (chosen period vehicleId) = true
    · rw [if_pos hany, hany]
      cases hnul : startsWithNul vehicleId with
      | false =>
          rw [periodTotals_eq hfit hw' hnul hany]
          rfl
      | true =>
          unfold periodTotals
          rw [vehicleOf_error hnul]
          rfl
    · rw [if_neg hany, Bool.eq_false_of_not_eq_true hany]
      rfl
  unfold periodReport
  rw [serves_gated]
  constructor
  · rintro ⟨rfl, w, w', hw, hw', rfl⟩
    exact ⟨rfl, hgate w w' hw hw'⟩
  · rintro ⟨rfl, rfl⟩
    exact ⟨rfl, db', db', .refl db', .refl db', (hgate db' db' (.refl db') (.refl db')).symm⟩

end One

/-! ## Twelve months and a year -/

theorem serves_getMonthlyReport {db db' : Database} {md : Metadata} {y : Int32} {m : ℕ}
    {vehicleId : String} {r : Reply PeriodReport} (hfit : ∀ k ∈ db.consumption, FitsInt4 k.km)
    (hy : 1900 ≤ y.toInt) (hm : m ∈ List.range' 1 12) :
    Serves db (getMonthlyReport md ⟨y, Int32.ofNat m, vehicleId⟩) r db' ↔
      db' = db ∧
        r = periodReply y (Int32.ofNat m) (monthPeriod y (Int32.ofNat m)) vehicleId db := by
  rw [List.mem_range'_1] at hm
  have hvalid : (validateMonth ⟨y, Int32.ofNat m, vehicleId⟩).ok = true := by
    simp only [validateMonth, toInt_ofNat (show m ≤ 31 by omega)]
    rw [if_neg (by omega)]
    rfl
  unfold getMonthlyReport
  rw [serves_validated, if_pos hvalid]
  exact serves_periodReport hfit

theorem serves_getAnnualReport {db db' : Database} {md : Metadata} {y : Int32}
    {vehicleId : String} {r : Reply PeriodReport} (hfit : ∀ k ∈ db.consumption, FitsInt4 k.km)
    (hy : 1900 ≤ y.toInt) :
    Serves db (getAnnualReport md ⟨y, vehicleId⟩) r db' ↔
      db' = db ∧ r = periodReply y 0 (inYear y) vehicleId db := by
  have hvalid : (validateYear y).ok = true := by
    unfold validateYear
    rw [if_neg (by omega)]
    rfl
  unfold getAnnualReport
  rw [serves_validated, if_pos hvalid]
  exact serves_periodReport hfit

/-- The months for which `GetMonthlyReport` answers OK, and the totals it reports for them. -/
structure OkMonths (db : Database) (md : Metadata) (y : Int32) (vehicleId : String)
    (months : List ℕ) (x : ℕ → Totals) : Prop where
  sublist : months.Sublist (List.range' 1 12)
  mem_iff : ∀ m ∈ List.range' 1 12, m ∈ months ↔
    ∃ resp, Serves db (getMonthlyReport md ⟨y, Int32.ofNat m, vehicleId⟩) (.OK, resp) db
  reports : ∀ m ∈ months, Serves db (getMonthlyReport md ⟨y, Int32.ofNat m, vehicleId⟩)
    (.OK, some (periodReportOf y (Int32.ofNat m) vehicleId (x m))) db

/-- A report shows its totals. -/
theorem periodReportOf_injective (year month : Int32) (vehicleId : String) :
    Function.Injective (periodReportOf year month vehicleId) := by
  rintro ⟨c, k, d⟩ ⟨c', k', d'⟩ h
  simp only [periodReportOf, PeriodReport.mk.injEq, true_and, and_true] at h
  obtain ⟨hc, hk, hd⟩ := h
  have hd' : d = d' := by
    have : (d : ℚ) = d' := by simpa [kmToDouble] using hd
    exact_mod_cast this
  rw [Numeric.toDouble_injective hc, Numeric.toDouble_injective hk, hd']

/-- The reply is OK exactly when a charging was found, of a vehicle that can be read. -/
theorem periodReply_ok_iff {year month : Int32} {period : Instant → Bool} {vehicleId : String}
    {db : Database} {resp : Option PeriodReport} :
    (.OK, resp) = periodReply year month period vehicleId db ↔
      startsWithNul vehicleId = false ∧ db.charging.any (chosen period vehicleId) = true ∧
        resp = some (periodReportOf year month vehicleId (totalsIn period vehicleId db)) := by
  unfold periodReply
  by_cases hany : db.charging.any (chosen period vehicleId) = true
  · rw [if_pos hany]
    cases hnul : startsWithNul vehicleId with
    | false => simp [hany]
    | true => simp [emptyUuid, dataException, toGrpcStatus, Status.OK]
  · rw [if_neg hany]
    simp [hany, noAggregateRow, Status.OK]

section Months
variable {db : Database} {md : Metadata} {y : Int32} {vehicleId : String} {months : List ℕ}
  {x : ℕ → Totals}

/-- A month has a charging. -/
def charged (y : Int32) (vehicleId : String) (db : Database) (m : ℕ) : Bool :=
  db.charging.any (chosen (monthPeriod y (Int32.ofNat m)) vehicleId)

/-- The months that are reported are those with a charging. -/
theorem OkMonths.perm (hfit : ∀ k ∈ db.consumption, FitsInt4 k.km) (hy : 1900 ≤ y.toInt)
    (hnul : startsWithNul vehicleId = false) (h : OkMonths db md y vehicleId months x) :
    months.Perm ((List.range' 1 12).filter (charged y vehicleId db)) := by
  have hnodup : (List.range' 1 12).Nodup := List.nodup_range'
  rw [List.perm_ext_iff_of_nodup (h.sublist.nodup hnodup) (hnodup.filter _)]
  intro m
  rw [List.mem_filter]
  constructor
  · intro hm
    have hmem := h.sublist.subset hm
    obtain ⟨resp, hresp⟩ := (h.mem_iff m hmem).mp hm
    have hreply := ((serves_getMonthlyReport hfit hy hmem).mp hresp).2
    exact ⟨hmem, (periodReply_ok_iff.mp hreply).2.1⟩
  · rintro ⟨hmem, hany⟩
    rw [h.mem_iff m hmem]
    exact ⟨_, (serves_getMonthlyReport hfit hy hmem).mpr
      ⟨rfl, periodReply_ok_iff.mpr ⟨hnul, hany, rfl⟩⟩⟩

/-- The totals reported for them are the sums. -/
theorem OkMonths.totals_eq (hfit : ∀ k ∈ db.consumption, FitsInt4 k.km) (hy : 1900 ≤ y.toInt)
    (h : OkMonths db md y vehicleId months x) {m : ℕ} (hm : m ∈ months) :
    x m = totalsIn (monthPeriod y (Int32.ofNat m)) vehicleId db := by
  have hmem := h.sublist.subset hm
  have hreply := ((serves_getMonthlyReport hfit hy hmem).mp (h.reports m hm)).2
  have hsome := (periodReply_ok_iff.mp hreply).2.2
  exact periodReportOf_injective _ _ _ (Option.some.inj hsome)

/-- There are such months. -/
theorem okMonths_charged (hfit : ∀ k ∈ db.consumption, FitsInt4 k.km) (hy : 1900 ≤ y.toInt)
    (hnul : startsWithNul vehicleId = false) :
    OkMonths db md y vehicleId ((List.range' 1 12).filter (charged y vehicleId db))
      fun m => totalsIn (monthPeriod y (Int32.ofNat m)) vehicleId db where
  sublist := List.filter_sublist
  mem_iff := by
    intro m hm
    simp only [serves_getMonthlyReport hfit hy hm, periodReply_ok_iff, hnul, true_and,
      List.mem_filter, hm]
    constructor
    · intro hany
      exact ⟨_, hany, rfl⟩
    · rintro ⟨resp, hany, -⟩
      exact hany
  reports := by
    intro m hm
    obtain ⟨hmem, hany⟩ := List.mem_filter.mp hm
    exact (serves_getMonthlyReport hfit hy hmem).mpr
      ⟨rfl, periodReply_ok_iff.mpr ⟨hnul, hany, rfl⟩⟩

/-- A sum over some months and a sum over the others make up the sum over all. -/
theorem sum_filter_add_sum_filter_not {M : Type} [AddCommMonoid M] (p : ℕ → Bool) (f : ℕ → M)
    (l : List ℕ) :
    ((l.filter p).map f).sum + ((l.filter fun m => !p m).map f).sum = (l.map f).sum :=
  ((List.filter_append_perm p l).map f).sum_eq ▸ by rw [List.map_append, List.sum_append]

/-- A month without a charging adds nothing to a sum over the charging rows. -/
theorem sumWhere_not_charged {M : Type} [AddCommMonoid M] (f : ChargingRow → M) {m : ℕ}
    (h : charged y vehicleId db m = false) :
    sumWhere (chosen (monthPeriod y (Int32.ofNat m)) vehicleId) f db.charging = 0 := by
  have hnil : db.charging.filter (chosen (monthPeriod y (Int32.ofNat m)) vehicleId) = [] := by
    rw [List.filter_eq_nil_iff]
    intro c hc hchosen
    have hany : charged y vehicleId db m = true := List.any_eq_true.mpr ⟨c, hc, hchosen⟩
    rw [h] at hany
    cases hany
  unfold sumWhere
  rw [hnil]
  rfl

/-- Over the charging rows, the reported months make up the year. -/
theorem OkMonths.sum_charging {M : Type} [AddCommMonoid M] (f : ChargingRow → M)
    (hfit : ∀ k ∈ db.consumption, FitsInt4 k.km) (hy : 1900 ≤ y.toInt)
    (hnul : startsWithNul vehicleId = false) (h : OkMonths db md y vehicleId months x) :
    (months.map fun m =>
      sumWhere (chosen (monthPeriod y (Int32.ofNat m)) vehicleId) f db.charging).sum =
    sumWhere (chosen (inYear y) vehicleId) f db.charging := by
  have hyear := sum_months (y := y) ChargingRow.startTime
    (fun c => matchesVehicle vehicleId c.vehicleId) f db.charging
  have hrest : (((List.range' 1 12).filter fun m => !charged y vehicleId db m).map fun m =>
      sumWhere (chosen (monthPeriod y (Int32.ofNat m)) vehicleId) f db.charging).sum = 0 := by
    refine List.sum_eq_zero ?_
    intro z hz
    obtain ⟨m, hm, rfl⟩ := List.mem_map.mp hz
    have hnot := (List.mem_filter.mp hm).2
    exact sumWhere_not_charged f (by simpa using hnot)
  have hsplit := sum_filter_add_sum_filter_not (charged y vehicleId db)
    (fun m => sumWhere (chosen (monthPeriod y (Int32.ofNat m)) vehicleId) f db.charging)
    (List.range' 1 12)
  rw [hrest, add_zero] at hsplit
  rw [((h.perm hfit hy hnul).map _).sum_eq, hsplit]
  exact hyear

end Months

/-- The annual report and the monthly ones: costs and energies of the reported months
add up to the year; their kilometres do so together with those driven in the months
that are refused because nothing was charged in them. -/
theorem annual_report_eq_months (db : Database) (hfit : ∀ k ∈ db.consumption, FitsInt4 k.km)
    (md : Metadata) (y : Int32) (hy : 1900 ≤ y.toInt) (vehicleId : String) (resp : PeriodReport)
    (db' : Database) (h : Serves db (getAnnualReport md ⟨y, vehicleId⟩) (.OK, some resp) db') :
    ∃ annual, resp = periodReportOf y 0 vehicleId annual ∧
      (∃ months x, OkMonths db md y vehicleId months x) ∧
      ∀ months x, OkMonths db md y vehicleId months x →
        annual.cost = (months.map fun m => (x m).cost).sum ∧
        annual.kwh = (months.map fun m => (x m).kwh).sum ∧
        annual.km = (months.map fun m => (x m).km).sum +
          (((List.range' 1 12).filter fun m => !charged y vehicleId db m).map fun m =>
            sumWhere (driven (monthPeriod y (Int32.ofNat m)) vehicleId) ConsumptionRow.km
              db.consumption).sum := by
  have hreply := ((serves_getAnnualReport hfit hy).mp h).2
  obtain ⟨hnul, -, hsome⟩ := periodReply_ok_iff.mp hreply
  refine ⟨totalsIn (inYear y) vehicleId db, Option.some.inj hsome,
    ⟨_, _, okMonths_charged hfit hy hnul⟩, ?_⟩
  intro months x hx
  refine ⟨?_, ?_, ?_⟩
  · rw [List.map_congr_left fun m hm => congrArg Totals.cost (hx.totals_eq hfit hy hm)]
    exact (hx.sum_charging _ hfit hy hnul).symm
  · rw [List.map_congr_left fun m hm => congrArg Totals.kwh (hx.totals_eq hfit hy hm)]
    exact (hx.sum_charging _ hfit hy hnul).symm
  · rw [List.map_congr_left fun m hm => congrArg Totals.km (hx.totals_eq hfit hy hm),
      ((hx.perm hfit hy hnul).map _).sum_eq]
    have hyear := sum_months (y := y) ConsumptionRow.start
      (fun k => matchesVehicle vehicleId k.vehicleId) ConsumptionRow.km db.consumption
    refine hyear.symm.trans ?_
    exact (sum_filter_add_sum_filter_not ..).symm

/-! ## A month on the road -/

/-- The trip of `someTrip`, a month after the charging. -/
def laterTrip : CreateConsumptionRequest :=
  { someTrip 10000 10100 with
    start := ⟨1702600000, 0⟩
    «end» := ⟨1702603600, 0⟩
    weatherId := uuidOut (someUuid 3) }

/-- A vehicle is charged in November 2023 and driven in December. -/
def chargeThenDrive : List ServerAction :=
  createCharged 10 ++
    firstSteps 3 (.createWeather ⟨"sunny"⟩) (someUuid 3) 10 ++
    firstSteps 4 (.createConsumption laterTrip) (someUuid 4) 12

/-- The kilometres of December are in the annual report and in no monthly one. -/
theorem months_miss_driving :
    ∃ (db : Database) (annual : Totals), (∀ k ∈ db.consumption, FitsInt4 k.km) ∧
      Serves db (getAnnualReport [] ⟨2023, ""⟩) (.OK, some (periodReportOf 2023 0 "" annual)) db ∧
      ∃ months x, OkMonths db [] 2023 "" months x ∧
        annual.km ≠ (months.map fun m => (x m).km).sum := by
  have hrun : ∃ s, Server.Reached (fun _ _ => True) (Server.start .empty 4 []) s ∧
      (∀ k ∈ s.world.db.consumption, FitsInt4 k.km) ∧
      s.world.db.charging.any (chosen (inYear 2023) "") = true ∧
      (totalsIn (inYear 2023) "" s.world.db).km ≠
        (((List.range' 1 12).filter (charged 2023 "" s.world.db)).map fun m =>
          (totalsIn (monthPeriod 2023 (Int32.ofNat m)) "" s.world.db).km).sum :=
    exists_reach chargeThenDrive (by decide +kernel)
  obtain ⟨s, -, hfit, hany, hkm⟩ := hrun
  have hy : 1900 ≤ (2023 : Int32).toInt := by decide
  refine ⟨s.world.db, totalsIn (inYear 2023) "" s.world.db, hfit, ?_, _, _,
    okMonths_charged hfit hy rfl, hkm⟩
  exact (serves_getAnnualReport hfit hy).mpr ⟨rfl, periodReply_ok_iff.mpr ⟨rfl, hany, rfl⟩⟩

/-- With those kilometres added the two agree. -/
theorem annual_report_eq_months_2023 :
    ∃ (db : Database) (resp : PeriodReport), (∀ k ∈ db.consumption, FitsInt4 k.km) ∧
      Serves db (getAnnualReport [] ⟨2023, ""⟩) (.OK, some resp) db ∧
      ∃ annual, resp = periodReportOf 2023 0 "" annual ∧ ∃ months x,
        OkMonths db [] 2023 "" months x ∧ annual.cost = (months.map fun m => (x m).cost).sum := by
  have hrun : ∃ s, Server.Reached (fun _ _ => True) (Server.start .empty 4 []) s ∧
      (∀ k ∈ s.world.db.consumption, FitsInt4 k.km) ∧
      s.world.db.charging.any (chosen (inYear 2023) "") = true :=
    exists_reach chargeThenDrive (by decide +kernel)
  obtain ⟨s, -, hfit, hany⟩ := hrun
  have hy : 1900 ≤ (2023 : Int32).toInt := by decide
  have hserves : Serves s.world.db (getAnnualReport [] ⟨2023, ""⟩)
      (.OK, some (periodReportOf 2023 0 "" (totalsIn (inYear 2023) "" s.world.db))) s.world.db :=
    (serves_getAnnualReport hfit hy).mpr ⟨rfl, periodReply_ok_iff.mpr ⟨rfl, hany, rfl⟩⟩
  obtain ⟨annual, hresp, ⟨months, x, hx⟩, hall⟩ :=
    annual_report_eq_months s.world.db hfit [] 2023 hy "" _ _ hserves
  exact ⟨s.world.db, _, hfit, hserves, annual, hresp, months, x, hx, (hall months x hx).1⟩

end EvGrpc
