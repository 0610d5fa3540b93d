import EvGrpc.Discipline
import EvGrpc.Services.Answers

/-!
# What the reports subtract

Two differences of `INT` columns occur in the reports, and `ValidateConsumption` looks at
none of the four columns: a trip from one end of the odometer's type to the other is
accepted, and then no report that meets it answers.

`CreateConsumptionRequest.fits` is the missing check.  When every trip that is written
passes it, every stored trip has both differences (`ConsumptionRow.Fits`), and no report
ends with an integer out of range (`reports_do_not_overflow`).
-/

namespace EvGrpc

open Lib

/-- Both differences of a stored trip are in range. -/
structure ConsumptionRow.Fits (r : ConsumptionRow) : Prop where
  mileage : FitsInt4 r.km
  rangeDrop : FitsInt4 (r.beginRange.toInt - r.endRange.toInt)

/-- Both differences of a requested trip are in range. -/
def CreateConsumptionRequest.fits (r : CreateConsumptionRequest) : Bool :=
  decide (FitsInt4 (r.endMileageKm.toInt - r.beginMileageKm.toInt) ∧
    FitsInt4 (r.beginRangeKm.toInt - r.endRangeKm.toInt))

/-! ## One row -/

/-- The columns keep integers as they are, so a stored trip fits exactly when the
requested one does. -/
theorem fits_iff {id : String} {req : CreateConsumptionRequest} {r : ConsumptionRow}
    (h : consumptionRow (consumptionColumn id req) = .ok r) : r.Fits ↔ req.fits = true := by
  have hc := consumptionRow_ok h
  have h1 : req.beginMileageKm = r.beginMileage := by
    simpa [consumptionColumn, Param.asInt] using hc.beginMileage
  have h2 : req.endMileageKm = r.endMileage := by
    simpa [consumptionColumn, Param.asInt] using hc.endMileage
  have h3 : req.beginRangeKm = r.beginRange := by
    simpa [consumptionColumn, Param.asInt] using hc.beginRange
  have h4 : req.endRangeKm = r.endRange := by
    simpa [consumptionColumn, Param.asInt] using hc.endRange
  simp only [CreateConsumptionRequest.fits, decide_eq_true_eq, h1, h2, h3, h4]
  constructor
  · intro hf
    exact ⟨hf.mileage, hf.rangeDrop⟩
  · rintro ⟨hm, hr⟩
    exact ⟨hm, hr⟩

/-! ## Whole runs -/

/-- The trip a request writes. -/
def Request.consumption? : Request → Option CreateConsumptionRequest
  | .createConsumption r => some r
  | .updateConsumption r => some r.toCreateConsumptionRequest
  | _ => none

/-- A request that writes no trip, is refused by validation, or writes one that fits. -/
def KeepsConsumptions (req : Request) : Prop :=
  ∀ r ∈ req.consumption?, (validateConsumption r).ok = true → r.fits = true

instance : DecidablePred KeepsConsumptions := fun req =>
  inferInstanceAs (Decidable (∀ r ∈ req.consumption?, _))

/-- A permitted statement that carries a trip carries the columns of the request, which
was validated. -/
theorem Permitted.consumptionValues {req : Request} {ids : List Uuid} {ρ : Type} {w : Write ρ}
    {v : ConsumptionCol → Param} (h : Permitted req ids w) (hv : w.consumptionValues = some v) :
    ∃ id r, req.consumption? = some r ∧ v = consumptionColumn id r ∧
      (validateConsumption r).ok = true := by
  cases h with
  | createConsumption hu hok =>
      cases hv
      exact ⟨_, _, rfl, funext (placeholder_consumptionParams _ _), hok⟩
  | updateConsumption hok =>
      cases hv
      exact ⟨_, _, rfl, funext (placeholder_updateConsumptionParams _), hok⟩
  | _ => cases hv

/-- When every trip that is written fits, every stored trip does, in every state of
every run. -/
theorem consumptions_fit {n : ℕ} {issued : List Uuid} {s : Server}
    (h : Server.Reached (Asks KeepsConsumptions) (Server.start .empty n issued) s) :
    ∀ r ∈ s.world.db.consumption, r.Fits := by
  refine h.db_invariant (I := fun db => ∀ r ∈ db.consumption, r.Fits) rfl
    (by simp [Server.start, World.start, Database.empty]) ?_
  intro req ids ρ w db db' hgood hperm hI heff r hr
  rcases heff.mem_consumption hr with hr | ⟨v, hv, hrow⟩
  · exact hI r hr
  · obtain ⟨id, c, hreq, rfl, hok⟩ := hperm.consumptionValues hv
    exact (fits_iff hrow).mpr (hgood c hreq hok)

/-! ## Statements -/

/-- The status of a report that met an integer out of range. -/
def overflowStatus : Status := toGrpcStatus integerOutOfRange

/-- The computation does not throw what is reported as an integer out of range. -/
def NoOverflow {α : Type} (x : Except Exn α) : Prop :=
  ∀ e, x = .error e → toGrpcStatus e ≠ overflowStatus

section NoOverflow
variable {α β : Type}

theorem noOverflow_ok (a : α) : NoOverflow (.ok a : Except Exn α) := by
  intro e h
  cases h

theorem noOverflow_error {e : Exn} (h : toGrpcStatus e ≠ overflowStatus) :
    NoOverflow (.error e : Except Exn α) := by
  intro e' he
  cases he
  exact h

theorem NoOverflow.bind {x : Except Exn α} {f : α → Except Exn β} (hx : NoOverflow x)
    (hf : ∀ a, NoOverflow (f a)) : NoOverflow (x >>= f) := by
  cases x with
  | error e => exact noOverflow_error (hx e rfl)
  | ok a => exact hf a

theorem NoOverflow.map {x : Except Exn α} {f : α → β} (hx : NoOverflow x) :
    NoOverflow (f <$> x) := by
  cases x with
  | error e => exact noOverflow_error (hx e rfl)
  | ok a => exact noOverflow_ok _

theorem noOverflow_mapM {f : α → Except Exn β} {l : List α} (h : ∀ a ∈ l, NoOverflow (f a)) :
    NoOverflow (l.mapM f) := by
  induction l with
  | nil => exact noOverflow_ok _
  | cons a l ih =>
      rw [List.mapM_cons]
      refine (h a (by simp)).bind fun b => ?_
      exact (ih fun x hx => h x (by simp [hx])).bind fun bs => noOverflow_ok _

theorem noOverflow_sumM {f : α → Except Exn ℤ} {l : List α} (h : ∀ a ∈ l, NoOverflow (f a)) :
    NoOverflow (sumM f l) :=
  (noOverflow_mapM h).bind fun _ => noOverflow_ok _

theorem noOverflow_toInt4 {n : ℤ} (h : FitsInt4 n) : NoOverflow (toInt4 n) := by
  rw [toInt4_eq_ok h]
  exact noOverflow_ok n

end NoOverflow

/-- Every difference and every count of the reports is in range. -/
structure ReportsFit (db : Database) : Prop where
  consumption : ∀ r ∈ db.consumption, r.Fits
  charging : db.charging.length ≤ 2147483647

/-- This does not depend on the order of the rows. -/
theorem ReportsFit.sameRows {db v : Database} (h : ReportsFit db) (hv : db.SameRows v) :
    ReportsFit v := by
  obtain ⟨-, -, -, hconsumption, hcharging⟩ := hv
  refine ⟨?_, ?_⟩
  · intro r hr
    exact h.consumption r (hconsumption.mem_iff.mpr hr)
  · rw [← hcharging.length_eq]
    exact h.charging

section Statements
variable {db : Database}

theorem noOverflow_asInstant (t : Option Timestamp) : NoOverflow (maybeTimestamp t).asInstant := by
  cases t with
  | none => exact noOverflow_ok _
  | some t =>
      simp only [maybeTimestamp, Param.asInstant]
      split
      · exact noOverflow_ok _
      · exact noOverflow_error (by decide)

theorem noOverflow_window (req : WindowRequest) : NoOverflow req.window :=
  (noOverflow_asInstant _).bind fun _ => (noOverflow_asInstant _).bind fun _ => noOverflow_ok _

theorem noOverflow_vehicleOf (vehicleId : String) : NoOverflow (vehicleOf vehicleId) := by
  unfold vehicleOf
  split
  · exact noOverflow_ok _
  · simp only [Param.asUuid]
    split
    · exact noOverflow_ok _
    · refine noOverflow_error ?_
      intro h
      -- The two messages differ in their third character.
      have hmsg := congrArg (fun s : Status => s.message.toList.take 3) h
      simp [toGrpcStatus, dataException, overflowStatus, integerOutOfRange] at hmsg

theorem noOverflow_makeDate (y m d : Int32) : NoOverflow (makeDate y m d) := by
  unfold makeDate
  split
  · exact noOverflow_ok _
  · exact noOverflow_error (by decide)

theorem noOverflow_mileage {r : ConsumptionRow} (h : r.Fits) : NoOverflow r.mileage :=
  noOverflow_toInt4 h.mileage

theorem noOverflow_rangeDrop {r : ConsumptionRow} (h : r.Fits) : NoOverflow r.rangeDrop :=
  noOverflow_toInt4 h.rangeDrop

theorem noOverflow_totals {charging : List ChargingRow} {consumption : List ConsumptionRow}
    (h : ∀ r ∈ consumption, r.Fits) : NoOverflow (totals charging consumption) :=
  (noOverflow_sumM fun r hr => noOverflow_mileage (h r hr)).bind fun _ => noOverflow_ok _

theorem noOverflow_costSummary (h : ReportsFit db) (req : WindowRequest) :
    NoOverflow (costSummary req db) := by
  refine (noOverflow_window req).bind fun w => noOverflow_totals ?_
  intro r hr
  exact h.consumption r (List.mem_filter.mp hr).1

theorem noOverflow_periodTotals (h : ReportsFit db) (period : Instant → Bool)
    (vehicleId : String) : NoOverflow (periodTotals period vehicleId db) := by
  refine (noOverflow_vehicleOf vehicleId).bind fun v => noOverflow_totals ?_
  intro r hr
  exact h.consumption r (List.mem_filter.mp hr).1

theorem noOverflow_chargingTotals (h : ReportsFit db) (period : Instant → Bool)
    (vehicleId : String) : NoOverflow (chargingTotals period vehicleId db).row := by
  refine NoOverflow.bind (noOverflow_toInt4 ?_) fun _ => noOverflow_ok _
  have hle : (chargingTotals period vehicleId db).count ≤ db.charging.length :=
    List.length_filter_le _ _
  have := h.charging
  unfold FitsInt4
  omega

theorem noOverflow_sumByVehicle {f : ConsumptionRow → Except Exn ℤ} {rows : List ConsumptionRow}
    (h : ∀ r ∈ rows, NoOverflow (f r)) : NoOverflow (sumByVehicle f rows) := by
  refine noOverflow_mapM fun g hg => NoOverflow.bind ?_ fun _ => noOverflow_ok _
  refine noOverflow_sumM fun r hr => h r ?_
  rw [(mem_groupBy hg).1] at hr
  exact (List.mem_filter.mp hr).1

theorem fits_consumptionsIn (h : ReportsFit db) {vehicleId : String} {lo hi : Option Instant}
    {r : ConsumptionRow} (hr : r ∈ consumptionsIn vehicleId lo hi db) : r.Fits :=
  h.consumption r (List.mem_filter.mp hr).1

theorem noOverflow_efficiencyKm (h : ReportsFit db) (req : WindowRequest) :
    NoOverflow (efficiencyKm req db) :=
  (noOverflow_window req).bind fun _ => noOverflow_sumByVehicle fun _ hr =>
    noOverflow_mileage (fits_consumptionsIn h hr)

theorem noOverflow_rangeAccuracy (h : ReportsFit db) (req : WindowRequest) :
    NoOverflow (rangeAccuracy req db) := by
  refine (noOverflow_window req).bind fun w => ?_
  refine (noOverflow_sumByVehicle fun r hr =>
    noOverflow_rangeDrop (fits_consumptionsIn h hr)).bind fun d => ?_
  exact (noOverflow_sumByVehicle fun r hr =>
    noOverflow_mileage (fits_consumptionsIn h hr)).bind fun m => noOverflow_ok _

theorem noOverflow_temperatureBuckets (h : ReportsFit db) (req : WindowRequest) :
    NoOverflow (temperatureBuckets req db) := by
  refine (noOverflow_window req).bind fun w => NoOverflow.bind ?_ fun trips => noOverflow_ok _
  refine (noOverflow_mapM fun r hr => ?_).bind fun trips => noOverflow_ok _
  exact (noOverflow_mileage (fits_consumptionsIn h hr)).bind fun _ => noOverflow_ok _

theorem noOverflow_temperatureBucketOf (row : String × ℕ × ℤ × Numeric) :
    NoOverflow (temperatureBucketOf row) := by
  refine NoOverflow.bind ?_ fun _ => noOverflow_ok _
  unfold asInt32
  split
  · exact noOverflow_ok _
  · exact noOverflow_error (by decide)

end Statements

/-! ## Reports -/

section Reports
variable {db db' : Database} {md : Metadata} {ρ : Type} {r : Reply ρ}

theorem answer_ne_overflow {x : Except Exn ρ} (h : NoOverflow x) :
    (answer x).1 ≠ overflowStatus := by
  cases x with
  | error e => exact h e rfl
  | ok a => exact (by decide : Status.OK ≠ overflowStatus)

theorem gated_ne_overflow {e : Except Exn Bool} {x : Except Exn ρ} (he : NoOverflow e)
    (hx : NoOverflow x) : (gated e x).1 ≠ overflowStatus := by
  cases e with
  | error y => exact he y rfl
  | ok b =>
      cases b with
      | false => exact (by decide : noAggregateRow ≠ overflowStatus)
      | true => exact answer_ne_overflow hx

/-- A report with one statement. -/
theorem readAll_ne_overflow {kMethod : String} {α : Type} {q : Database → Except Exn α}
    {f : α → Except Exn ρ} (hfit : ReportsFit db)
    (h : Serves db (authenticated md kMethod (catching (readAll q f))) r db')
    (hq : ∀ v, ReportsFit v → NoOverflow (q v)) (hf : ∀ a, NoOverflow (f a)) :
    r.1 ≠ overflowStatus := by
  obtain ⟨-, v, hv, rfl⟩ := serves_readAll.mp h
  exact answer_ne_overflow ((hq v (hfit.sameRows hv)).bind hf)

/-- A report behind the gate. -/
theorem gatedReport_ne_overflow {kMethod : String} {α : Type} {e : Database → Except Exn Bool}
    {q : Database → Except Exn α} {f : α → ρ} (hfit : ReportsFit db)
    (h : Serves db (authenticated md kMethod (catching (gatedReport e q f))) r db')
    (he : ∀ v, NoOverflow (e v)) (hq : ∀ v, ReportsFit v → NoOverflow (q v)) :
    r.1 ≠ overflowStatus := by
  obtain ⟨-, v, v', -, hv', rfl⟩ := serves_gated.mp h
  exact gated_ne_overflow (he v) (hq v' (hfit.sameRows hv')).map

/-- A report whose arguments are checked first. -/
theorem validated_ne_overflow {kMethod : String} {st : Status} {body : Prog Op (Reply ρ)}
    (h : Serves db (authenticated md kMethod (validated st body)) r db')
    (hst : st ≠ overflowStatus)
    (hbody : Serves db (authenticated md kMethod body) r db' → r.1 ≠ overflowStatus) :
    r.1 ≠ overflowStatus := by
  rw [serves_validated] at h
  by_cases hok : st.ok = true
  · rw [if_pos hok] at h
    exact hbody h
  · rw [if_neg hok] at h
    rw [h.1]
    exact hst

theorem respond_ne_overflow {f : ρ → Response} {p : Prog Op (Reply ρ)} {reply : Reply Response}
    (h : Serves db (respond f p) reply db')
    (hp : ∀ x, Serves db p x db' → x.1 ≠ overflowStatus) : reply.1 ≠ overflowStatus := by
  obtain ⟨x, hx, rfl⟩ := serves_respond.mp h
  exact hp x hx

end Reports

/-- The RPCs of `DisplayService`. -/
def Request.display : Request → Bool
  | .getVehicleCostSummary _ | .getMonthlyReport _ | .getAnnualReport _ | .getCostByChargerType _
  | .getCostBySourceCategory _ | .getConsumptionEfficiency _ | .getRangeAccuracy _
  | .getTemperatureConsumptionCorrelation _ | .getDailyChargingReport _
  | .getMonthlyChargingReport _ | .getAnnualChargingReport _ => true
  | _ => false

/-- On rows that fit, no report ends with an integer out of range. -/
theorem display_ne_overflow {db db' : Database} (hfit : ReportsFit db) {md : Metadata}
    {req : Request} (hreq : req.display = true) {reply : Reply Response}
    (h : Serves db (handle ⟨md, req⟩) reply db') : reply.1 ≠ overflowStatus := by
  cases req with
  | getVehicleCostSummary r =>
      refine respond_ne_overflow h fun x hx => ?_
      refine validated_ne_overflow hx (by split <;> decide) fun hx => ?_
      refine gatedReport_ne_overflow hfit hx (fun v => ?_) fun v hv => noOverflow_costSummary hv r
      exact (noOverflow_window r).bind fun _ => noOverflow_ok _
  | getMonthlyReport r =>
      refine respond_ne_overflow h fun x hx => ?_
      refine validated_ne_overflow hx (by unfold validateMonth; split <;> decide) fun hx => ?_
      exact gatedReport_ne_overflow hfit hx (fun v => noOverflow_ok _)
        fun v hv => noOverflow_periodTotals hv _ _
  | getAnnualReport r =>
      refine respond_ne_overflow h fun x hx => ?_
      refine validated_ne_overflow hx (by unfold validateYear; split <;> decide) fun hx => ?_
      exact gatedReport_ne_overflow hfit hx (fun v => noOverflow_ok _)
        fun v hv => noOverflow_periodTotals hv _ _
  | getCostByChargerType r =>
      refine respond_ne_overflow h fun x hx => ?_
      refine readAll_ne_overflow hfit hx (fun v _ => ?_) fun a => noOverflow_ok _
      exact (noOverflow_window r).bind fun _ => noOverflow_ok _
  | getCostBySourceCategory r =>
      refine respond_ne_overflow h fun x hx => ?_
      refine readAll_ne_overflow hfit hx (fun v _ => ?_) fun a => noOverflow_ok _
      exact (noOverflow_window r).bind fun _ => noOverflow_ok _
  | getConsumptionEfficiency r =>
      refine respond_ne_overflow h fun x hx => ?_
      obtain ⟨-, v, v', hv, -, rfl⟩ := serves_getConsumptionEfficiency.mp hx
      refine answer_ne_overflow ((noOverflow_efficiencyKm (hfit.sameRows hv) r).bind fun _ => ?_)
      exact NoOverflow.map ((noOverflow_window r).bind fun _ => noOverflow_ok _)
  | getRangeAccuracy r =>
      refine respond_ne_overflow h fun x hx => ?_
      exact readAll_ne_overflow hfit hx (fun v hv => noOverflow_rangeAccuracy hv r)
        fun a => noOverflow_ok _
  | getTemperatureConsumptionCorrelation r =>
      refine respond_ne_overflow h fun x hx => ?_
      exact readAll_ne_overflow hfit hx (fun v hv => noOverflow_temperatureBuckets hv r)
        fun a => noOverflow_mapM fun row _ => noOverflow_temperatureBucketOf row
  | getDailyChargingReport r =>
      refine respond_ne_overflow h fun x hx => ?_
      refine validated_ne_overflow hx (by unfold validateDaily; split_ifs <;> decide) fun hx => ?_
      refine readAll_ne_overflow hfit hx (fun v hv => ?_) fun a => noOverflow_ok _
      exact (noOverflow_makeDate _ _ _).bind fun d => noOverflow_chargingTotals hv _ _
  | getMonthlyChargingReport r =>
      refine respond_ne_overflow h fun x hx => ?_
      refine validated_ne_overflow hx (by unfold validateMonthly; split_ifs <;> decide) fun hx => ?_
      exact readAll_ne_overflow hfit hx (fun v hv => noOverflow_chargingTotals hv _ _)
        fun a => noOverflow_ok _
  | getAnnualChargingReport r =>
      refine respond_ne_overflow h fun x hx => ?_
      refine validated_ne_overflow hx (by unfold validateYear; split <;> decide) fun hx => ?_
      exact readAll_ne_overflow hfit hx (fun v hv => noOverflow_chargingTotals hv _ _)
        fun a => noOverflow_ok _
  | _ => cases hreq

/-- When every trip that is written fits, both differences of every stored trip are in
range in every state of every run, and no report ends with an integer out of range
there, unless there are more chargings than an `INT` can count. -/
theorem reports_do_not_overflow {n : ℕ} {issued : List Uuid} {s : Server}
    (h : Server.Reached (Asks KeepsConsumptions) (Server.start .empty n issued) s) :
    (∀ r ∈ s.world.db.consumption, r.Fits) ∧
      (s.world.db.charging.length ≤ 2147483647 → ∀ md req reply db', req.display = true →
        Serves s.world.db (handle ⟨md, req⟩) reply db' → reply.1 ≠ overflowStatus) := by
  have hfit := consumptions_fit h
  refine ⟨hfit, ?_⟩
  intro hcount md req reply db' hreq hserves
  exact display_ne_overflow ⟨hfit, hcount⟩ hreq hserves

/-! ## Two runs -/

/-- A trip of the vehicle and the weather with the first two ids, from one odometer
reading to another. -/
def someTrip (beginMileageKm endMileageKm : Int32) : CreateConsumptionRequest where
  vehicleId := uuidOut (someUuid 0)
  start := ⟨1700000000, 0⟩
  «end» := ⟨1700003600, 0⟩
  beginPercent := 80
  endPercent := 20
  beginMileageKm := beginMileageKm
  endMileageKm := endMileageKm
  beginRangeKm := 400
  endRangeKm := 300
  highestTemperatureC := 20
  lowestTemperatureC := 10
  weatherId := uuidOut (someUuid 1)
  remark := ""

/-- A vehicle, a weather and a trip are created one after the other. -/
def createDriven (beginMileageKm endMileageKm : Int32) : List ServerAction :=
  firstSteps 0 (.createVehicle (someVehicle "A")) (someUuid 0) 17 ++
    firstSteps 1 (.createWeather ⟨"sunny"⟩) (someUuid 1) 10 ++
    firstSteps 2 (.createConsumption (someTrip beginMileageKm endMileageKm)) (someUuid 2) 12

/-- The request for the efficiency of all vehicles at all times. -/
def anyWindow : WindowRequest := ⟨"", none, none⟩

/-- A report whose first statement throws answers with that. -/
theorem serves_efficiency_error {db : Database} {md : Metadata} {req : WindowRequest} {e : Exn}
    (h : efficiencyKm req db = .error e) :
    Serves db (handle ⟨md, .getConsumptionEfficiency req⟩) (toGrpcStatus e, none) db := by
  refine serves_respond.mpr ⟨(toGrpcStatus e, none), ?_, rfl⟩
  refine serves_getConsumptionEfficiency.mpr ⟨rfl, db, db, .refl db, .refl db, ?_⟩
  rw [h]
  rfl

/-- A trip between the two ends of `int32` is accepted; then it does not fit, and the
efficiency report fails. -/
theorem overflow_reached :
    ∃ s, Server.Reached (fun _ _ => True) (Server.start .empty 4 []) s ∧
      (∃ r ∈ s.world.db.consumption, ¬ r.Fits) ∧ s.world.db.charging.length ≤ 2147483647 ∧
      ∃ md req reply db', req.display = true ∧ Serves s.world.db (handle ⟨md, req⟩) reply db' ∧
        reply.1 = overflowStatus := by
  have hrun : ∃ s, Server.Reached (fun _ _ => True) (Server.start .empty 4 []) s ∧
      ((∃ r ∈ s.world.db.consumption, ¬ FitsInt4 r.km) ∧
        s.world.db.charging.length ≤ 2147483647) ∧
      efficiencyKm anyWindow s.world.db = .error integerOutOfRange :=
    exists_reach (createDriven (-2147483648) 2147483647) (by decide +kernel)
  obtain ⟨s, hreach, ⟨⟨r, hr, hfit⟩, hcount⟩, hkm⟩ := hrun
  refine ⟨s, hreach, ⟨r, hr, fun h => hfit h.mileage⟩, hcount, ?_⟩
  exact ⟨[], .getConsumptionEfficiency anyWindow, _, _, rfl, serves_efficiency_error hkm, rfl⟩

/-- A hundred kilometres are no problem. -/
theorem reports_do_not_overflow_hundred :
    ∃ s, Server.Reached (Asks KeepsConsumptions) (Server.start .empty 4 []) s ∧
      s.world.db.consumption ≠ [] ∧ (∀ r ∈ s.world.db.consumption, r.Fits) ∧
      ∀ md req reply db', req.display = true → Serves s.world.db (handle ⟨md, req⟩) reply db' →
        reply.1 ≠ overflowStatus := by
  have hrun : ∃ s, Server.Reached (Asks KeepsConsumptions) (Server.start .empty 4 []) s ∧
      s.world.db.consumption ≠ [] ∧ s.world.db.charging.length ≤ 2147483647 :=
    exists_reach (createDriven 10000 10100) (by decide +kernel)
  obtain ⟨s, hreach, hne, hcount⟩ := hrun
  obtain ⟨hfit, hserves⟩ := reports_do_not_overflow hreach
  exact ⟨s, hreach, hne, hfit, hserves hcount⟩

end EvGrpc
